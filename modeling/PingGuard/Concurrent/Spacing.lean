import PingGuard.Concurrent.Rows

/-!
# Spacing of claims

Sweeps overlap, with clocks in any relation, and updates change the intervals in between. While the
broker works and no update enables or disables keep-alive, two claims of one schedule of a monitor
are still apart by the interval that the earlier one read, and no claim is dispatched twice.

The invariant is `Spaced`: the stored time of a schedule is not before the end of any interval that
a claim has read. A claim needs that time to have come. Every dispatch is paid for by a claim
(`DispatchesClaimed`), so that distinct claims give distinct dispatches.
-/

set_option autoImplicit false
set_option relaxedAutoImplicit false

namespace PingGuard.Concurrent

open Library.SerialTable Library.Transition Models ProbeTask Schemas Sweep

variable {settings : Settings} {system next : System} {action : Action}

/-! ### Undisturbed runs -/

/-- The broker takes every item, and an update leaves `keep_alive_enabled` out. -/
def IsUndisturbed (_ : System) (action : Action) : Prop :=
  (∀ processId, action ≠ .enqueue processId false) ∧
    ∀ monitorId payload, action = .loadUpdate monitorId payload →
      payload.keepAliveEnabled = .omitted

/-- What undisturbed runs keep: no sweep recovers, no update changes `keep_alive_enabled`, and all
intervals are those that the API admits. -/
structure Undisturbed (settings : Settings) (system : System) : Prop where
  timed : Timed system
  accepted : PayloadsAccepted settings system
  working : ∀ processId run items, system.processes.get processId = some (.sweep run) →
    run.stage ≠ .recovering items
  omitted : ∀ processId monitorId payload loaded,
    system.processes.get processId = some (.update monitorId payload loaded) →
      payload.keepAliveEnabled = .omitted
  intervals : ∀ monitorId monitor, system.monitor monitorId = some monitor →
    Api.IntervalsMeet (15 ≤ ·) monitor

/-- The intervals that the API admits are at least 15. -/
theorem le_of_isInterval (interval : ℤ) (hinterval : isInterval interval = true) :
    15 ≤ interval := by
  unfold isInterval at hinterval
  simp only [Bool.and_eq_true, decide_eq_true_eq] at hinterval
  exact hinterval.1

/-- Undisturbed runs keep this. -/
theorem Undisturbed.step (hkept : Undisturbed settings system)
    (haction : IsUndisturbed system action) (htransition : Transition settings system action next) :
    Undisturbed settings next := by
  refine ⟨hkept.timed.step htransition ?_, hkept.accepted.step htransition, ?_, ?_, ?_⟩
  · intro processId run items monitorId interval monitor _ hbefore hstage
    exact absurd hstage (hkept.working processId run items hbefore)
  · intro processId run items hget hstage
    rcases process_of_transition htransition hget with hsame | hentered | ⟨_, heq, hfailed⟩ |
      ⟨_, -, heq⟩ | ⟨_, _, heq, -⟩
    · exact hkept.working processId run items hsame hstage
    · rw [Entered, hstage] at hentered
      exact hentered
    · obtain rfl := Process.sweep.inj heq
      exact haction.1 processId (hfailed items hstage)
    · exact Process.noConfusion heq
    · exact Process.noConfusion heq
  · intro processId monitorId payload loaded hget
    rcases update_of_transition htransition hget with hsame | ⟨hload, -, -⟩
    · exact hkept.omitted processId monitorId payload loaded hsame
    · exact haction.2 monitorId payload hload
  · intro monitorId monitor hget
    obtain ⟨writers, hrow, -⟩ :=
      rowStep_of_transition hkept.timed.locks hkept.timed.items htransition hget
    cases hrow with
    | kept monitor hstored => exact hkept.intervals monitorId monitor hstored
    | claimed processId run interval before hbefore hstored hdue hclaim =>
      exact Api.intervalsMeet_setNext _ _ (hkept.intervals monitorId before hstored)
    | recovered processId run items interval before hbefore hstage hitem hstored =>
      exact Api.intervalsMeet_setNext _ _ (hkept.intervals monitorId before hstored)
    | created processId row hbefore hreserved =>
      exact Api.intervalsMeet_newMonitor le_of_isInterval
        (hkept.accepted.inserts processId monitorId row hbefore) row.now
    | updated processId payload loaded stored monitor now hbefore hstored hcommit =>
      exact Api.intervalsMeet_commitUpdate le_of_isInterval
        (hkept.accepted.updates processId monitorId payload loaded hbefore)
        (hkept.intervals monitorId stored hstored) hcommit
    | probed processId run after rewrite result stored hbefore hcommit hmonitorId hstored
        hresults =>
      obtain ⟨status, lastCheckedAt, heq⟩ := hcommit.rewrite_eq stored
      rw [heq]
      exact hkept.intervals monitorId stored hstored

/-! ### What is recorded -/

/-- Writes are recorded for rows that are stored after the step. -/
theorem writes_of_transition (hlocks : LocksHold system)
    (htransition : Transition settings system action next) :
    ∃ added, next.writes = added ++ system.writes ∧
      ∀ write ∈ added, (next.monitor write.monitorId).isSome = true := by
  cases htransition with
  | claimed processId run batch hbefore hstage =>
    refine ⟨_, rfl, fun write hwrite ↦ ?_⟩
    obtain ⟨item, hitem, rfl⟩ := List.mem_map.mp hwrite
    obtain ⟨hnodup, -, hread⟩ := hlocks.of_mem_batchItems hbefore hstage
    obtain ⟨monitor, hstored, -⟩ := hread item.1 item.2 hitem
    refine (congrArg Option.isSome (get_writeClaims_of_mem hnodup hitem)).trans ?_
    rw [Option.isSome_map, ← System.monitor, hstored]
    rfl
  | recovered processId run items hbefore hstage hunlocked =>
    refine ⟨_, rfl, fun write hwrite ↦ ?_⟩
    obtain ⟨item, hitem, rfl⟩ := List.mem_map.mp hwrite
    refine (congrArg Option.isSome (get_recover run.schedule run.now _ _ item.1)).trans ?_
    rw [Option.isSome_map]
    exact (List.mem_filter.mp hitem).2
  | created processId monitorId row hbefore hreserved =>
    refine ⟨_, rfl, fun write hwrite ↦ ?_⟩
    have hkey : write.monitorId = monitorId := by
      rcases List.mem_pair.mp hwrite with rfl | rfl <;> rfl
    refine (congrArg Option.isSome (Table.get_store hreserved _ _)).trans ?_
    rw [if_pos hkey]
    rfl
  | updated processId monitorId payload loaded stored monitor now hbefore hstored hunlocked
      hcommit =>
    refine ⟨_, rfl, fun write hwrite ↦ ?_⟩
    have hkey := monitorId_of_mem_updateWrites hwrite
    refine (congrArg Option.isSome (Table.get_modify _ _ _ _)).trans ?_
    rw [if_pos hkey, Option.isSome_map, hkey, ← System.monitor, hstored]
    rfl
  | _ => exact ⟨[], rfl, fun _ hwrite ↦ absurd hwrite List.not_mem_nil⟩

/-- No write is recorded for an id that a new monitor may still get. -/
def WritesSpent (system : System) : Prop :=
  ∀ write ∈ system.writes, system.database.monitors.IsSpent write.monitorId

/-- Every step keeps this. -/
theorem WritesSpent.step (hspent : WritesSpent system) (hlocks : LocksHold system)
    (htransition : Transition settings system action next) : WritesSpent next := by
  obtain ⟨added, hadded, hpresent⟩ := writes_of_transition hlocks htransition
  intro write hwrite
  rw [hadded] at hwrite
  rcases List.mem_append.mp hwrite with hnew | hold
  · obtain ⟨monitor, hstored⟩ := Option.isSome_iff_exists.mp (hpresent write hnew)
    exact Table.isSpent_of_get _ hstored
  · exact isSpent_of_transition htransition (hspent write hold)

/-! ### Spacing -/

/-- The time of a claim with the interval that it read. -/
def Writer.toClaim : Writer → Option (ℤ × ℤ)
  | claim _ now interval => some (now, interval)
  | recovery _ _ | request _ => none

/-- The claims of a schedule of a monitor, newest first. -/
def claimsOf (schedule : Schedule) (monitorId : ℕ) (writes : List ScheduleWrite) : List (ℤ × ℤ) :=
  (writesOf schedule monitorId writes).filterMap Writer.toClaim

/-- The interval that a claim read is over at a time. -/
def IsOver (time : ℤ) (claim : ℤ × ℤ) : Prop :=
  claim.1 < time ∧ claim.1 + seconds claim.2 ≤ time

/-- An interval that is over stays over. -/
theorem IsOver.trans_le {time later : ℤ} {claim : ℤ × ℤ} (hover : IsOver time claim)
    (hle : time ≤ later) : IsOver later claim :=
  ⟨lt_of_lt_of_le hover.1 hle, hover.2.trans hle⟩

/-- Any two claims of a schedule of a monitor: when the later is made, the interval that the earlier
read is over. -/
def ClaimsSpaced (system : System) : Prop :=
  ∀ schedule monitorId, (claimsOf schedule monitorId system.writes).Pairwise
    fun later earlier ↦ IsOver later.1 earlier

/-- The invariant of the spacing: the stored time of a schedule comes after every interval that a
claim has read. -/
structure Spaced (system : System) : Prop where
  spent : WritesSpent system
  spaced : ClaimsSpaced system
  ahead : ∀ schedule monitorId monitor, system.monitor monitorId = some monitor →
    ∀ claim ∈ claimsOf schedule monitorId system.writes,
      ∃ due, schedule.next monitor = some due ∧ IsOver due claim

/-- A monitor without writes has no claims. -/
theorem claimsOf_eq_nil (schedule : Schedule) {monitorId : ℕ} {writes : List ScheduleWrite}
    (hnone : ∀ write ∈ writes, write.monitorId ≠ monitorId) :
    claimsOf schedule monitorId writes = [] := by
  unfold claimsOf writesOf
  rw [List.filter_eq_nil_iff.mpr]
  · rfl
  · intro write hwrite
    simp [hnone write hwrite]

/-- An update that leaves `keep_alive_enabled` out writes no schedule column. -/
theorem updateWrites_of_omitted {payload : MonitorUpdate} {now : ℤ}
    {loaded stored monitor : Monitor} (hloaded : Api.KeepAliveTimed loaded)
    (hpayload : payload.keepAliveEnabled = .omitted)
    (hcommit : Api.commitUpdate payload now loaded stored = .ok monitor) (monitorId : ℕ)
    (schedule : Schedule) :
    updateWrites monitorId payload now loaded = [] ∧
      schedule.next monitor = schedule.next stored := by
  obtain ⟨draft, hdraft, hisDraft, hflushed⟩ := Api.commitUpdate_eq_ok hcommit
  have hsame := Api.nextKeepAliveAt_draft_of_omitted hloaded hpayload hisDraft
  refine ⟨?_, ?_⟩
  · unfold updateWrites
    rw [hdraft]
    exact if_pos hsame
  · cases schedule with
    | health => exact hflushed.nextCheckAt
    | keepAlive => rw [Schedule.next, hflushed.nextKeepAliveAt, hsame, flushColumn_unchanged]

/-- A stored row after a step: its claims are spaced, and its times come after their intervals. -/
theorem Spaced.row (hspaced : Spaced system) (hkept : Undisturbed settings system)
    (htransition : Transition settings system action next) {monitorId : ℕ} {monitor : Monitor}
    (hget : next.monitor monitorId = some monitor) (schedule : Schedule) :
    (claimsOf schedule monitorId next.writes).Pairwise
        (fun later earlier ↦ IsOver later.1 earlier) ∧
      ∀ claim ∈ claimsOf schedule monitorId next.writes,
        ∃ due, schedule.next monitor = some due ∧ IsOver due claim := by
  obtain ⟨writers, hrow, hwrites⟩ :=
    rowStep_of_transition hkept.timed.locks hkept.timed.items htransition hget
  have hclaims : claimsOf schedule monitorId next.writes =
      (writers schedule).filterMap Writer.toClaim ++
        claimsOf schedule monitorId system.writes := by
    rw [claimsOf, hwrites schedule, List.filterMap_append]
    rfl
  rw [hclaims]
  -- a row whose time is as it was, and that nothing claims
  have hold : ∀ stored, system.monitor monitorId = some stored →
      schedule.next monitor = schedule.next stored →
        (claimsOf schedule monitorId system.writes).Pairwise
            (fun later earlier ↦ IsOver later.1 earlier) ∧
          ∀ claim ∈ claimsOf schedule monitorId system.writes,
            ∃ due, schedule.next monitor = some due ∧ IsOver due claim := by
    intro stored hstored hnext
    rw [hnext]
    exact ⟨hspaced.spaced schedule monitorId, hspaced.ahead schedule monitorId stored hstored⟩
  cases hrow with
  | kept monitor hstored => exact hold monitor hstored rfl
  | claimed processId run interval before hbefore hstored hdue hclaim =>
    by_cases heq : schedule = run.schedule
    · subst heq
      obtain ⟨-, due, hnext, hle⟩ := (Schedule.isDue_iff _ _ _).mp hdue
      have hover : ∀ claim ∈ claimsOf run.schedule monitorId system.writes,
          IsOver run.now claim := by
        intro claim hmem
        obtain ⟨stored, hstoredNext, hover⟩ := hspaced.ahead _ _ before hstored claim hmem
        obtain rfl := Option.some.inj (hnext.symm.trans hstoredNext)
        exact hover.trans_le hle
      have hinterval : 15 ≤ interval :=
        Api.intervalsMeet_claimInterval (hkept.intervals monitorId before hstored) hclaim
      have hpos : 0 < seconds interval := seconds_pos (by omega)
      rw [onSchedule, if_pos rfl, Schedule.next_setNext]
      refine ⟨List.pairwise_cons.mpr ⟨hover, hspaced.spaced _ monitorId⟩, fun claim hmem ↦ ?_⟩
      refine ⟨_, rfl, ?_⟩
      rcases List.mem_cons.mp hmem with rfl | hmem
      · exact ⟨lt_add_of_pos_right _ hpos, le_refl _⟩
      · exact (hover claim hmem).trans_le (le_add_of_nonneg_right hpos.le)
    · rw [onSchedule, if_neg heq]
      exact hold before hstored (Schedule.next_setNext_of_ne heq _ before)
  | recovered processId run items interval before hbefore hstage hitem hstored =>
    exact absurd hstage (hkept.working processId run items hbefore)
  | created processId row hbefore hreserved =>
    have hnone : claimsOf schedule monitorId system.writes = [] := by
      refine claimsOf_eq_nil schedule fun write hwrite heq ↦ ?_
      exact Table.not_isSpent_of_mem_reserved hreserved (heq ▸ hspaced.spent write hwrite)
    rw [hnone]
    exact ⟨List.Pairwise.nil, fun _ hmem ↦ absurd hmem List.not_mem_nil⟩
  | updated processId payload loaded stored monitor now hbefore hstored hcommit =>
    obtain ⟨hnone, hnext⟩ := updateWrites_of_omitted
      (hkept.timed.loads processId monitorId payload loaded hbefore)
      (hkept.omitted processId monitorId payload loaded hbefore) hcommit monitorId schedule
    rw [hnone]
    exact hold stored hstored hnext
  | probed processId run after rewrite result stored hbefore hcommit hmonitorId hstored hresults =>
    obtain ⟨status, lastCheckedAt, heq⟩ := hcommit.rewrite_eq stored
    refine hold stored hstored ?_
    rw [heq]
    cases schedule <;> rfl

/-- The claims stay spaced after every step. -/
theorem Spaced.step (hspaced : Spaced system) (hkept : Undisturbed settings system)
    (htransition : Transition settings system action next) : Spaced next := by
  obtain ⟨added, hadded, hpresent⟩ := writes_of_transition hkept.timed.locks htransition
  refine ⟨hspaced.spent.step hkept.timed.locks htransition, ?_, ?_⟩
  · intro schedule monitorId
    cases hget : next.monitor monitorId with
    | some monitor => exact (hspaced.row hkept htransition hget schedule).1
    | none =>
      have hnone : claimsOf schedule monitorId added = [] := by
        refine claimsOf_eq_nil schedule fun write hwrite heq ↦ ?_
        have hsome := hpresent write hwrite
        rw [heq, hget] at hsome
        nomatch hsome
      have hclaims : claimsOf schedule monitorId next.writes =
          claimsOf schedule monitorId added ++ claimsOf schedule monitorId system.writes := by
        rw [hadded, claimsOf, writesOf_append, List.filterMap_append]
        rfl
      rw [hclaims, hnone]
      exact hspaced.spaced schedule monitorId
  · intro schedule monitorId monitor hget
    exact (hspaced.row hkept htransition hget schedule).2

/-! ### Dispatches -/

/-- What a claim is made for: a schedule of a monitor at the time of the claim. -/
def ScheduleWrite.toDispatch (write : ScheduleWrite) : Option (Schedule × ℕ × ℤ) :=
  write.writer.toClaim.map fun claim ↦ (write.schedule, write.monitorId, claim.1)

/-- What the broker was handed, and what sweeps have claimed to hand to it. -/
def System.outstanding (system : System) : List (Schedule × ℕ × ℤ) :=
  system.dispatches ++ system.processes.rows.flatMap fun row ↦ row.2.pending

/-- Every dispatch, made or to come, has a claim of its own. -/
def DispatchesClaimed (system : System) : Prop :=
  ∀ dispatch, system.outstanding.count dispatch ≤
    (system.writes.filterMap ScheduleWrite.toDispatch).count dispatch

/-- A process that enters a state without a commit has nothing for the broker. -/
theorem pending_of_entered {process : Process}
    (hentered : Entered settings system action process) : process.pending = [] := by
  cases process with
  | sweep run =>
    unfold Process.pending
    dsimp only
    cases hstage : run.stage with
    | dispatching items =>
      rw [Entered, hstage] at hentered
      exact hentered.elim
    | _ => rfl
  | _ => rfl

/-- What is outstanding after a process went on: what it held goes, and what it holds then and has
handed over is added. -/
theorem count_outstanding_of_modify {processId : ℕ} {before after : Process}
    {handed : List (Schedule × ℕ × ℤ)}
    (hbefore : system.processes.get processId = some before)
    (hprocesses : next.processes = system.processes.modify processId fun _ ↦ after)
    (hdispatches : next.dispatches = handed ++ system.dispatches) (dispatch : Schedule × ℕ × ℤ) :
    next.outstanding.count dispatch + before.pending.count dispatch =
      handed.count dispatch + after.pending.count dispatch +
        system.outstanding.count dispatch := by
  obtain ⟨others, hold, hnew⟩ :=
    system.processes.exists_perm_flatMap_modify hbefore after Process.pending
  have holdCount := hold.count_eq dispatch
  have hnewCount := hnew.count_eq dispatch
  rw [System.outstanding, System.outstanding, hprocesses, hdispatches]
  simp only [List.count_append] at holdCount hnewCount ⊢
  omega

/-- Every dispatch still has its claim after a step in which a process went on, if what it holds
then and has handed over is what it held and has claimed. -/
theorem DispatchesClaimed.of_modify (hclaimed : DispatchesClaimed system)
    (handed : List (Schedule × ℕ × ℤ)) (added : List ScheduleWrite) {processId : ℕ}
    {before after : Process} (hbefore : system.processes.get processId = some before)
    (hprocesses : next.processes = system.processes.modify processId fun _ ↦ after)
    (hdispatches : next.dispatches = handed ++ system.dispatches)
    (hwrites : next.writes = added ++ system.writes)
    (hpending : ∀ dispatch, handed.count dispatch + after.pending.count dispatch ≤
      (added.filterMap ScheduleWrite.toDispatch).count dispatch + before.pending.count dispatch) :
    DispatchesClaimed next := by
  intro dispatch
  have hcount := count_outstanding_of_modify hbefore hprocesses hdispatches dispatch
  have hstep := hpending dispatch
  have hle := hclaimed dispatch
  rw [hwrites, List.filterMap_append, List.count_append]
  omega

/-- The same where the process holds nothing for the broker afterwards, and hands over nothing. -/
theorem DispatchesClaimed.of_ended (hclaimed : DispatchesClaimed system)
    (added : List ScheduleWrite) {processId : ℕ} {before after : Process}
    (hbefore : system.processes.get processId = some before)
    (hprocesses : next.processes = system.processes.modify processId fun _ ↦ after)
    (hdispatches : next.dispatches = system.dispatches)
    (hwrites : next.writes = added ++ system.writes) (hnone : after.pending = []) :
    DispatchesClaimed next := by
  refine hclaimed.of_modify [] added hbefore hprocesses hdispatches hwrites fun dispatch ↦ ?_
  rw [hnone]
  exact Nat.zero_le _

/-- Every dispatch has its claim after every step. -/
theorem DispatchesClaimed.step (hclaimed : DispatchesClaimed system)
    (htransition : Transition settings system action next) : DispatchesClaimed next := by
  -- the items of a claim or of a dispatch, as what they are for
  have hpending : ∀ (run : SweepRun) items, (Process.sweep
      { run with stage := .dispatching items }).pending =
        items.map fun item ↦ (run.schedule, item.1, run.now) := fun _ _ ↦ rfl
  have hbeforePending : ∀ (run : SweepRun) items, run.stage = .dispatching items →
      (Process.sweep run).pending = items.map fun item ↦ (run.schedule, item.1, run.now) := by
    intro run items hstage
    unfold Process.pending
    dsimp only
    rw [hstage]
  cases htransition with
  | started process hentered =>
    intro dispatch
    have hinsert : (system.start process).outstanding =
        system.outstanding ++ process.pending := by
      unfold System.outstanding System.start Table.insert
      dsimp only
      rw [List.flatMap_append, List.flatMap_singleton, List.append_assoc]
    rw [hinsert, pending_of_entered hentered, List.append_nil]
    exact hclaimed dispatch
  | resumed processId before process hbefore hentered =>
    exact hclaimed.of_ended [] hbefore rfl rfl rfl (pending_of_entered hentered)
  | handed processId run item rest hbefore hstage =>
    refine hclaimed.of_modify [_] [] hbefore rfl rfl rfl fun dispatch ↦ ?_
    rw [hpending, hbeforePending run _ hstage, List.map_cons, List.count_cons, List.count_cons]
    simp only [List.filterMap_nil, List.count_nil]
    omega
  | refused processId run item rest hbefore hstage =>
    exact hclaimed.of_ended [] hbefore rfl rfl rfl rfl
  | claimed processId run batch hbefore hstage =>
    refine hclaimed.of_modify [] _ hbefore rfl rfl rfl fun dispatch ↦ ?_
    rw [hpending, List.filterMap_map]
    refine le_of_eq_of_le ?_ (Nat.le_add_right _ _)
    rw [List.count_nil, Nat.zero_add]
    congr 1
    exact (congrFun List.filterMap_eq_map _).symm
  | recovered processId run items hbefore hstage hunlocked =>
    exact hclaimed.of_ended _ hbefore rfl rfl rfl
      (pending_of_entered (entered_endPhase settings system (.recoverItems processId true) run))
  | inserted processId row skipped hbefore =>
    exact hclaimed.of_ended [] hbefore rfl rfl rfl rfl
  | created processId monitorId row hbefore hreserved =>
    exact hclaimed.of_ended _ hbefore rfl rfl rfl rfl
  | updated processId monitorId payload loaded stored monitor now hbefore hstored hunlocked
      hcommit =>
    exact hclaimed.of_ended _ hbefore rfl rfl rfl rfl
  | deleted processId monitorId hbefore hunlocked =>
    exact hclaimed.of_ended [] hbefore rfl rfl rfl rfl
  | probed processId run after rewrite result stored hbefore hcommit hstored hunlocked =>
    have hnone : after.pending = [] := by cases hcommit <;> rfl
    exact hclaimed.of_ended [] hbefore rfl rfl rfl hnone

/-- What is claimed: a write of a claim. -/
theorem mem_claimsOf_iff {schedule : Schedule} {monitorId : ℕ} {writes : List ScheduleWrite}
    {claim : ℤ × ℤ} : claim ∈ claimsOf schedule monitorId writes ↔
      ∃ write ∈ writes, write.schedule = schedule ∧ write.monitorId = monitorId ∧
        write.writer.toClaim = some claim := by
  simp only [claimsOf, writesOf, List.mem_filterMap, List.mem_map, List.mem_filter,
    decide_eq_true_eq]
  constructor
  · rintro ⟨_, ⟨write, ⟨hmem, hschedule, hmonitorId⟩, rfl⟩, hclaim⟩
    exact ⟨write, hmem, hschedule, hmonitorId, hclaim⟩
  · rintro ⟨write, hmem, hschedule, hmonitorId, hclaim⟩
    exact ⟨write.writer, ⟨write, ⟨hmem, hschedule, hmonitorId⟩, rfl⟩, hclaim⟩

/-- Claims that are spaced are made for different things. -/
theorem nodup_toDispatch {writes : List ScheduleWrite}
    (hspaced : ∀ schedule monitorId, (claimsOf schedule monitorId writes).Pairwise
      fun later earlier ↦ IsOver later.1 earlier) :
    (writes.filterMap ScheduleWrite.toDispatch).Nodup := by
  induction writes with
  | nil => exact List.nodup_nil
  | cons write rest ih =>
    have happend : ∀ schedule monitorId, claimsOf schedule monitorId (write :: rest) =
        claimsOf schedule monitorId [write] ++ claimsOf schedule monitorId rest := by
      intro schedule monitorId
      rw [claimsOf, ← List.singleton_append, writesOf_append, List.filterMap_append]
      rfl
    have hrest := ih fun schedule monitorId ↦ by
      have hpairwise := hspaced schedule monitorId
      rw [happend, List.pairwise_append] at hpairwise
      exact hpairwise.2.1
    cases hdispatch : write.toDispatch with
    | none =>
      rw [List.filterMap_cons_none hdispatch]
      exact hrest
    | some dispatch =>
      rw [List.filterMap_cons_some hdispatch, List.nodup_cons]
      refine ⟨fun hmem ↦ ?_, hrest⟩
      obtain ⟨other, hother, hsame⟩ := List.mem_filterMap.mp hmem
      obtain ⟨claim, hclaim, rfl⟩ := Option.map_eq_some_iff.mp hdispatch
      obtain ⟨earlier, hearlier, heq⟩ := Option.map_eq_some_iff.mp hsame
      obtain ⟨hschedule, hmonitorId, htime⟩ : other.schedule = write.schedule ∧
          other.monitorId = write.monitorId ∧ earlier.1 = claim.1 := by simpa using heq
      have hpairwise := hspaced write.schedule write.monitorId
      rw [happend, List.pairwise_append] at hpairwise
      have hover := hpairwise.2.2 claim
        (mem_claimsOf_iff.mpr ⟨write, List.mem_singleton_self write, rfl, rfl, hclaim⟩) earlier
        (mem_claimsOf_iff.mpr ⟨other, hother, hschedule, hmonitorId, hearlier⟩)
      exact absurd htime (ne_of_lt hover.1)

/-- No claim is handed to the broker twice, and nothing else is. -/
def DispatchedOnce (system : System) : Prop :=
  system.dispatches.Nodup ∧ ∀ schedule monitorId now,
    (schedule, monitorId, now) ∈ system.dispatches →
      ∃ interval, (now, interval) ∈ claimsOf schedule monitorId system.writes

/-- Where every dispatch has a claim, and claims are spaced, no claim is dispatched twice. -/
theorem dispatchedOnce_of_claimsSpaced (hclaimed : DispatchesClaimed system)
    (hspaced : ClaimsSpaced system) : DispatchedOnce system := by
  have hle : ∀ dispatch, system.dispatches.count dispatch ≤
      (system.writes.filterMap ScheduleWrite.toDispatch).count dispatch := by
    intro dispatch
    have hcount := hclaimed dispatch
    rw [System.outstanding, List.count_append] at hcount
    omega
  refine ⟨?_, ?_⟩
  · rw [List.nodup_iff_count_le_one]
    intro dispatch
    exact (hle dispatch).trans (List.nodup_iff_count_le_one.mp (nodup_toDispatch hspaced) dispatch)
  · intro schedule monitorId now hmem
    have hpos := lt_of_lt_of_le (List.count_pos_iff.mpr hmem) (hle _)
    obtain ⟨write, hwrite, hdispatch⟩ := List.mem_filterMap.mp (List.count_pos_iff.mp hpos)
    obtain ⟨⟨time, interval⟩, hclaim, heq⟩ := Option.map_eq_some_iff.mp hdispatch
    obtain ⟨rfl, rfl, rfl⟩ : write.schedule = schedule ∧ write.monitorId = monitorId ∧
        time = now := by simpa using heq
    exact ⟨interval, mem_claimsOf_iff.mpr ⟨write, hwrite, rfl, rfl, hclaim⟩⟩

/-! ### Every run -/

/-- In every run whose broker works and whose updates leave `keep_alive_enabled` out, two claims of
one schedule of a monitor are apart by the interval that the earlier read, and no claim is
dispatched twice.
Assumes: at the start nothing runs, the monitors with a keep-alive time are the enabled ones, and
the intervals are at least 15. -/
theorem claimsSpaced_of_reaches {database : Database}
    (hrows : ∀ monitorId monitor, database.monitors.get monitorId = some monitor →
      Api.KeepAliveTimed monitor ∧ Api.IntervalsMeet (15 ≤ ·) monitor)
    (hreaches : Reaches (step settings) IsUndisturbed (System.idle database) system) :
    ClaimsSpaced system ∧ DispatchedOnce system := by
  have hinv : Undisturbed settings system ∧ Spaced system ∧ DispatchesClaimed system := by
    refine hreaches.invariant (motive := fun state ↦
      Undisturbed settings state ∧ Spaced state ∧ DispatchesClaimed state) ⟨?_, ?_, ?_⟩ ?_
    · exact ⟨Timed.idle fun monitorId monitor hget ↦ (hrows monitorId monitor hget).1,
        PayloadsAccepted.idle settings database, fun _ _ _ hget ↦ (nomatch hget),
        fun _ _ _ _ hget ↦ (nomatch hget),
        fun monitorId monitor hget ↦ (hrows monitorId monitor hget).2⟩
    · exact ⟨fun _ hwrite ↦ absurd hwrite List.not_mem_nil, fun _ _ ↦ List.Pairwise.nil,
        fun _ _ _ _ _ hclaim ↦ absurd hclaim List.not_mem_nil⟩
    · exact fun _ ↦ Nat.le_refl _
    · rintro state label after ⟨hkept, hspaced, hclaimed⟩ hallowed hstep
      have htransition := transition_of_step hstep
      exact ⟨hkept.step hallowed htransition, hspaced.step hkept htransition,
        hclaimed.step htransition⟩
  exact ⟨hinv.2.1.spaced, dispatchedOnce_of_claimsSpaced hinv.2.2 hinv.2.1.spaced⟩

/-- Two sweeps a minute apart, and an update that changes the interval between the claims. -/
def overlappingRun : List Action :=
  [.startSweep 0 1 1, .startSweep (seconds 60) 1 1, .select 1 [1], .commitClaim 1,
    .loadUpdate 1 ⟨.omitted, .value 15, .omitted, .omitted, .omitted, .omitted⟩,
    .commitUpdate 3 1, .select 2 [1], .commitClaim 2, .enqueue 2 true, .enqueue 1 true]

/-- The claims of that run. -/
theorem claimsSpaced_overlappingRun :
    ∃ system, run (step .default) (System.idle .oneMonitor) overlappingRun = some system ∧
      claimsOf .health 1 system.writes = [(seconds 60, 15), (0, 60)] ∧
      ClaimsSpaced system ∧ DispatchedOnce system := by
  have hrows : ∀ monitorId monitor, Database.oneMonitor.monitors.get monitorId = some monitor →
      Api.KeepAliveTimed monitor ∧ Api.IntervalsMeet (15 ≤ ·) monitor := by
    intro monitorId monitor hget
    rw [Database.of_get_oneMonitor hget]
    refine ⟨rfl, by decide, ?_⟩
    rintro _ ⟨⟩
    decide
  have hallowed : ∀ label ∈ overlappingRun, ∀ state, IsUndisturbed state label := by
    intro label hlabel state
    simp only [overlappingRun, List.mem_cons, List.not_mem_nil, or_false] at hlabel
    rcases hlabel with rfl | rfl | rfl | rfl | rfl | rfl | rfl | rfl | rfl | rfl <;>
      exact ⟨nofun, by rintro _ _ ⟨⟩ <;> rfl⟩
  have hclaims : (run (step .default) (System.idle .oneMonitor) overlappingRun).map
      (fun system ↦ claimsOf .health 1 system.writes) = some [(seconds 60, 15), (0, 60)] := rfl
  obtain ⟨system, hrun, hclaimsOf⟩ := Option.map_eq_some_iff.mp hclaims
  exact ⟨system, hrun, hclaimsOf,
    claimsSpaced_of_reaches hrows (reaches_of_run .start hallowed hrun)⟩

end PingGuard.Concurrent
