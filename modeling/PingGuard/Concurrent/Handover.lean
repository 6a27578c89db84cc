import PingGuard.Concurrent.Progress
import PingGuard.Concurrent.Spacing

/-!
# No claim is lost

A claim moves the time of a monitor on before the broker has the check. Until the sweep hands it
over, only the sweep knows of it. The balance: what was claimed was handed to the broker, was reset
by a recovery, or is still held by a sweep. One half of it, `ClaimedFirst`, holds in every run, so
that nothing is handed over or reset twice. `ClaimsAccounted` is for the monitors that are stored,
in runs where no recovery fails and no sweep is abandoned with claims in hand. Once every process
has finished, the broker has every claim that was not reset.
-/

set_option autoImplicit false
set_option relaxedAutoImplicit false

namespace PingGuard.Concurrent

open Library.SerialTable Library.Transition Models ProbeTask Schemas Sweep

variable {settings : Settings} {system next : System} {action : Action}

/-! ### The balance -/

/-- What a process has claimed, and neither handed to the broker nor reset. -/
def Process.held : Process → List (Schedule × ℕ × ℤ)
  | .sweep run => run.items.map fun item ↦ (run.schedule, item.1, run.now)
  | _ => []

/-- What the processes hold. -/
def System.held (system : System) : List (Schedule × ℕ × ℤ) :=
  system.processes.rows.flatMap fun row ↦ row.2.held

/-- What a recovery has reset. -/
def ScheduleWrite.toReset (write : ScheduleWrite) : Option (Schedule × ℕ × ℤ) :=
  match write.writer with
  | .recovery _ now => some (write.schedule, write.monitorId, now)
  | .claim .. | .request _ => none

/-- How often something was claimed. -/
def claimCount (writes : List ScheduleWrite) (claim : Schedule × ℕ × ℤ) : ℕ :=
  (writes.filterMap ScheduleWrite.toDispatch).count claim

/-- How often something was reset. -/
def resetCount (writes : List ScheduleWrite) (claim : Schedule × ℕ × ℤ) : ℕ :=
  (writes.filterMap ScheduleWrite.toReset).count claim

/-- How often something was handed over, is held or was reset. -/
def System.settledCount (system : System) (claim : Schedule × ℕ × ℤ) : ℕ :=
  system.dispatches.count claim + system.held.count claim + resetCount system.writes claim

/-- No recovery fails, and no sweep is abandoned that holds claims. -/
def KeepsClaims (system : System) (action : Action) : Prop :=
  (∀ processId, action ≠ .recoverItems processId false) ∧
    ∀ processId process, action = .abandon processId →
      system.processes.get processId = some process → process.held = []

/-- Nothing is handed over or reset that was not claimed. -/
def ClaimedFirst (system : System) : Prop :=
  ∀ claim, system.settledCount claim ≤ claimCount system.writes claim

/-- Every claim of a stored monitor was handed over, was reset or is held. -/
def ClaimsAccounted (system : System) : Prop :=
  ∀ claim, (system.monitor claim.2.1).isSome = true →
    claimCount system.writes claim ≤ system.settledCount claim

/-! ### Advances -/

/-- A process that enters a state without a commit holds nothing. -/
theorem held_of_entered {process : Process}
    (hentered : Entered settings system action process) : process.held = [] := by
  cases process with
  | sweep run => rw [Process.held, items_of_entered hentered, List.map_nil]
  | _ => rfl

/-- After a phase a sweep holds nothing. -/
theorem held_endPhase (run : SweepRun) : run.endPhase.held = [] := by
  unfold SweepRun.endPhase
  split <;> rfl

/-- Nothing recorded is no claim. -/
theorem claimCount_nil (claim : Schedule × ℕ × ℤ) : claimCount [] claim = 0 := rfl

/-- Nothing recorded is no reset. -/
theorem resetCount_nil (claim : Schedule × ℕ × ℤ) : resetCount [] claim = 0 := rfl

/-- What requests record is no claim and no reset. -/
theorem claimCount_requests {writes : List ScheduleWrite}
    (hrequests : ∀ write ∈ writes, ∃ value, write.writer = .request value)
    (claim : Schedule × ℕ × ℤ) : claimCount writes claim = 0 ∧ resetCount writes claim = 0 := by
  have hclaims : writes.filterMap ScheduleWrite.toDispatch = [] := by
    rw [List.filterMap_eq_nil_iff]
    intro write hwrite
    obtain ⟨value, hvalue⟩ := hrequests write hwrite
    rw [ScheduleWrite.toDispatch, hvalue]
    rfl
  have hresets : writes.filterMap ScheduleWrite.toReset = [] := by
    rw [List.filterMap_eq_nil_iff]
    intro write hwrite
    obtain ⟨value, hvalue⟩ := hrequests write hwrite
    rw [ScheduleWrite.toReset, hvalue]
  rw [claimCount, hclaims, resetCount, hresets]
  exact ⟨rfl, rfl⟩

/-- What is claimed with the items of a batch. -/
theorem claimCount_items (schedule : Schedule) (processId : ℕ) (now : ℤ) (items : List (ℕ × ℤ))
    (claim : Schedule × ℕ × ℤ) :
    claimCount (items.map fun item ↦ ⟨schedule, item.1, .claim processId now item.2⟩) claim =
        (items.map fun item ↦ (schedule, item.1, now)).count claim ∧
      resetCount (items.map fun item ↦ ⟨schedule, item.1, .claim processId now item.2⟩) claim =
        0 := by
  rw [claimCount, resetCount, List.filterMap_map, List.filterMap_map]
  have hresets : items.filterMap (ScheduleWrite.toReset ∘ fun item ↦
      ⟨schedule, item.1, .claim processId now item.2⟩) = [] :=
    List.filterMap_eq_nil_iff.mpr fun _ _ ↦ rfl
  rw [hresets]
  refine ⟨?_, rfl⟩
  congr 1
  exact congrFun List.filterMap_eq_map _

/-- What is reset with some items. -/
theorem resetCount_items (schedule : Schedule) (processId : ℕ) (now : ℤ) (items : List (ℕ × ℤ))
    (claim : Schedule × ℕ × ℤ) :
    resetCount (items.map fun item ↦ ⟨schedule, item.1, .recovery processId now⟩) claim =
        (items.map fun item ↦ (schedule, item.1, now)).count claim ∧
      claimCount (items.map fun item ↦ ⟨schedule, item.1, .recovery processId now⟩) claim = 0 := by
  rw [claimCount, resetCount, List.filterMap_map, List.filterMap_map]
  have hclaims : items.filterMap (ScheduleWrite.toDispatch ∘ fun item ↦
      ⟨schedule, item.1, .recovery processId now⟩) = [] :=
    List.filterMap_eq_nil_iff.mpr fun _ _ ↦ rfl
  rw [hclaims]
  refine ⟨?_, rfl⟩
  congr 1
  exact congrFun List.filterMap_eq_map _

/-- A recovery resets no more than the sweep held, and all of it where the monitor is stored. -/
theorem count_filter_items (system : System) (schedule : Schedule) (now : ℤ)
    (items : List (ℕ × ℤ)) (claim : Schedule × ℕ × ℤ) :
    ((items.filter fun item ↦ (system.monitor item.1).isSome).map fun item ↦
        (schedule, item.1, now)).count claim ≤
      (items.map fun item ↦ (schedule, item.1, now)).count claim ∧
      ((system.monitor claim.2.1).isSome = true →
        ((items.filter fun item ↦ (system.monitor item.1).isSome).map fun item ↦
            (schedule, item.1, now)).count claim =
          (items.map fun item ↦ (schedule, item.1, now)).count claim) := by
  refine ⟨(List.filter_sublist.map _).count_le _, fun hpresent ↦ ?_⟩
  induction items with
  | nil => rfl
  | cons item rest ih =>
    rw [List.filter_cons]
    split_ifs with hkept
    · rw [List.map_cons, List.map_cons, List.count_cons, List.count_cons, ih]
    · have hne : ¬ ((schedule, item.1, now) == claim) = true := by
        intro heq
        rw [← beq_iff_eq.mp heq] at hpresent
        exact hkept hpresent
      rw [List.map_cons, List.count_cons, ih, if_neg hne, Nat.add_zero]

/-- The balance of an advance: what a process hands over, holds then and resets it held before or
has claimed. Nothing of that is lost where the monitor is stored, unless a recovery fails. -/
structure Balanced (system : System) (action : Action) (before after : Process)
    (handed : List (Schedule × ℕ × ℤ)) (added : List ScheduleWrite)
    (claim : Schedule × ℕ × ℤ) : Prop where
  le : handed.count claim + after.held.count claim + resetCount added claim ≤
    claimCount added claim + before.held.count claim
  ge : (∀ processId, action ≠ .recoverItems processId false) →
    (system.monitor claim.2.1).isSome = true →
      claimCount added claim + before.held.count claim ≤
        handed.count claim + after.held.count claim + resetCount added claim

section Advances

variable {processId : ℕ} {before after : Process} {handed : List (Schedule × ℕ × ℤ)}
  {added : List ScheduleWrite} {claim : Schedule × ℕ × ℤ}

theorem Balanced.of_eq
    (heq : handed.count claim + after.held.count claim + resetCount added claim =
      claimCount added claim + before.held.count claim) :
    Balanced system action before after handed added claim := ⟨heq.le, fun _ _ ↦ heq.ge⟩

/-- An advance that moves nothing, and records at most what requests write. -/
theorem Balanced.quiet (hbefore : before.held = []) (hafter : after.held = [])
    (hrequests : ∀ write ∈ added, ∃ value, write.writer = .request value) :
    Balanced system action before after [] added claim := by
  obtain ⟨hclaims, hresets⟩ := claimCount_requests hrequests claim
  refine .of_eq ?_
  rw [hbefore, hafter, hclaims, hresets]
  rfl

/-- Before a sweep has claimed a batch it holds nothing. -/
theorem held_eq_nil {run : SweepRun}
    (hstage : run.stage = .ready ∨ ∃ batch, run.stage = .selected batch) :
    (Process.sweep run).held = [] := by
  unfold Process.held SweepRun.items
  rcases hstage with hstage | ⟨batch, hstage⟩
  · dsimp only
    rw [hstage, List.map_nil]
  · dsimp only
    rw [hstage, List.map_nil]

/-- What a sweep holds that is dispatching or recovering. -/
theorem held_of_stage {run : SweepRun} {items : List (ℕ × ℤ)}
    (hstage : run.stage = .dispatching items ∨ run.stage = .recovering items) :
    (Process.sweep run).held = items.map fun item ↦ (run.schedule, item.1, run.now) := by
  unfold Process.held SweepRun.items
  rcases hstage with hstage | hstage
  · dsimp only
    rw [hstage]
  · dsimp only
    rw [hstage]

/-- An update records what a request writes. -/
theorem request_of_mem_updateWrites {monitorId : ℕ} {payload : MonitorUpdate} {now : ℤ}
    {loaded : Monitor} {write : ScheduleWrite}
    (hwrite : write ∈ updateWrites monitorId payload now loaded) :
    ∃ value, write.writer = .request value := by
  unfold updateWrites at hwrite
  split at hwrite
  · nomatch hwrite
  · split_ifs at hwrite
    · nomatch hwrite
    · rw [List.mem_singleton.mp hwrite]
      exact ⟨_, rfl⟩

/-- Every advance is balanced. -/
theorem Advance.balanced (hadvance : Advance system processId action before after handed added)
    (claim : Schedule × ℕ × ℤ) : Balanced system action before after handed added claim := by
  cases hadvance with
  | phaseEnded run hstage =>
    exact .quiet (held_eq_nil (.inl hstage)) (held_endPhase run) (List.forall_mem_nil _)
  | selected run monitorIds hstage hleft hlength =>
    exact .quiet (held_eq_nil (.inl hstage)) (held_eq_nil (.inr ⟨_, rfl⟩)) (List.forall_mem_nil _)
  | claimed run batch hstage =>
    obtain ⟨hclaims, hresets⟩ := claimCount_items run.schedule processId run.now
      (batchItems run.schedule batch) claim
    refine .of_eq ?_
    rw [hclaims, hresets, held_eq_nil (.inr ⟨batch, hstage⟩), held_of_stage (.inl rfl)]
    simp only [List.count_nil, Nat.zero_add, Nat.add_zero]
  | handed run item rest hstage =>
    refine .of_eq ?_
    rw [held_of_stage (.inl hstage), held_of_stage (.inl rfl), claimCount_nil, resetCount_nil]
    simp only [List.map_cons, List.count_cons, List.count_nil]
    omega
  | refused run item rest hstage =>
    refine .of_eq ?_
    rw [held_of_stage (.inl hstage), held_of_stage (.inr rfl), claimCount_nil, resetCount_nil]
    simp only [List.count_nil, Nat.zero_add, Nat.add_zero]
  | batchEnded run hstage =>
    exact .quiet (held_of_stage (.inl hstage)) (held_eq_nil (.inl rfl)) (List.forall_mem_nil _)
  | recovered run items hstage =>
    obtain ⟨hresets, hclaims⟩ := resetCount_items run.schedule processId run.now
      (items.filter fun item ↦ (system.monitor item.1).isSome) claim
    obtain ⟨hle, heq⟩ := count_filter_items system run.schedule run.now items claim
    refine ⟨?_, fun _ hpresent ↦ ?_⟩
    · rw [hresets, hclaims, held_endPhase, held_of_stage (.inr hstage)]
      simpa only [List.count_nil, Nat.zero_add] using hle
    · rw [hresets, hclaims, held_endPhase, held_of_stage (.inr hstage), heq hpresent]
      simp only [List.count_nil, Nat.zero_add, Nat.le_refl]
  | notRecovered run items hstage =>
    refine ⟨?_, fun hnot ↦ absurd rfl (hnot processId)⟩
    rw [held_endPhase]
    exact Nat.zero_le _
  | created monitorId row hreserved =>
    refine .quiet rfl rfl fun write hwrite ↦ ?_
    rcases List.mem_pair.mp hwrite with rfl | rfl <;> exact ⟨_, rfl⟩
  | updated monitorId payload loaded now =>
    exact .quiet rfl rfl fun write hwrite ↦ request_of_mem_updateWrites hwrite
  | _ => exact .quiet rfl rfl (List.forall_mem_nil _)

end Advances

/-! ### Every step -/

/-- Claims and resets are counted write by write. -/
theorem claimCount_append (added writes : List ScheduleWrite) (claim : Schedule × ℕ × ℤ) :
    claimCount (added ++ writes) claim = claimCount added claim + claimCount writes claim ∧
      resetCount (added ++ writes) claim = resetCount added claim + resetCount writes claim := by
  unfold claimCount resetCount
  simp only [List.filterMap_append, List.count_append, and_self]

/-- What is held after a process went on. -/
theorem count_held_of_modify {processId : ℕ} {before after : Process}
    (hbefore : system.processes.get processId = some before)
    (hprocesses : next.processes = system.processes.modify processId fun _ ↦ after)
    (claim : Schedule × ℕ × ℤ) :
    next.held.count claim + before.held.count claim =
      after.held.count claim + system.held.count claim := by
  obtain ⟨others, hold, hnew⟩ :=
    system.processes.exists_perm_flatMap_modify hbefore after Process.held
  have holdCount := hold.count_eq claim
  have hnewCount := hnew.count_eq claim
  rw [System.held, System.held, hprocesses]
  rw [List.count_append] at holdCount hnewCount
  omega

/-- What changes for a claim in a step: nothing is handed over or reset that was not claimed, and
nothing is lost where the monitor is stored. -/
theorem settledCount_of_step (hstep : step settings system action = some next)
    (claim : Schedule × ℕ × ℤ) :
    next.settledCount claim + claimCount system.writes claim ≤
        claimCount next.writes claim + system.settledCount claim ∧
      (KeepsClaims system action → (system.monitor claim.2.1).isSome = true →
        claimCount next.writes claim + system.settledCount claim ≤
          next.settledCount claim + claimCount system.writes claim) := by
  cases hgoesOn : action.goesOn with
  | true =>
    obtain ⟨processId, before, after, handed, added, hbefore, hadvance, hprocesses, hdispatches,
      hwrites⟩ := advances_of_step hgoesOn hstep
    have hheld := count_held_of_modify hbefore hprocesses claim
    obtain ⟨hclaims, hresets⟩ := claimCount_append added system.writes claim
    have hbalanced := hadvance.balanced claim
    unfold System.settledCount
    rw [hdispatches, hwrites, hclaims, hresets, List.count_append]
    refine ⟨?_, fun hkeeps hpresent ↦ ?_⟩
    · have hle := hbalanced.le
      omega
    · have hge := hbalanced.ge hkeeps.1 hpresent
      omega
  | false =>
    rcases start_of_step hgoesOn hstep with
      ⟨process, hentered, rfl⟩ | ⟨processId, before, rfl, hbefore, rfl⟩
    · have hheld : (system.start process).held = system.held := by
        unfold System.held System.start Table.insert
        dsimp only
        rw [List.flatMap_append, List.flatMap_singleton, held_of_entered hentered, List.append_nil]
      unfold System.settledCount
      rw [hheld]
      exact ⟨(Nat.add_comm _ _).le, fun _ _ ↦ (Nat.add_comm _ _).le⟩
    · have hheld : (system.resume processId .done).held.count claim + before.held.count claim =
          Process.done.held.count claim + system.held.count claim :=
        count_held_of_modify hbefore rfl claim
      have hdone : Process.done.held.count claim = 0 := rfl
      unfold System.settledCount
      change system.dispatches.count claim + (system.resume processId .done).held.count claim +
            resetCount system.writes claim + claimCount system.writes claim ≤
          claimCount system.writes claim + _ ∧
        (_ → _ → claimCount system.writes claim + _ ≤
          system.dispatches.count claim + (system.resume processId .done).held.count claim +
            resetCount system.writes claim + claimCount system.writes claim)
      refine ⟨by omega, fun hkeeps _ ↦ ?_⟩
      rw [hkeeps.2 processId before rfl hbefore, List.count_nil] at hheld
      omega

/-- A monitor that has just been created has no claims. -/
theorem claimCount_of_absent (hlocks : LocksHold system) (hitems : ItemsDistinct system)
    (hspent : WritesSpent system) (hstep : step settings system action = some next)
    {claim : Schedule × ℕ × ℤ}
    (hpresent : (next.monitor claim.2.1).isSome = true)
    (habsent : system.monitor claim.2.1 = none) : claimCount next.writes claim = 0 := by
  obtain ⟨monitor, hget⟩ := Option.isSome_iff_exists.mp hpresent
  obtain ⟨writers, hrow, -⟩ :=
    rowStep_of_transition hlocks hitems (transition_of_step hstep) hget
  have hnone : ∀ stored, system.monitor claim.2.1 ≠ some stored := by
    rw [habsent]
    exact fun stored ↦ (Option.some_ne_none stored).symm
  cases hrow with
  | kept monitor hstored => exact absurd hstored (hnone _)
  | claimed processId run interval before hbefore hstored hdue hclaim =>
    exact absurd hstored (hnone _)
  | recovered processId run items interval before hbefore hstage hitem hstored =>
    exact absurd hstored (hnone _)
  | updated processId payload loaded stored monitor now hbefore hstored hcommit =>
    exact absurd hstored (hnone _)
  | probed processId run after rewrite result stored hbefore hcommit hmonitorId hstored hresults =>
    exact absurd hstored (hnone _)
  | created processId row hbefore hreserved =>
    obtain ⟨actingId, before, after, handed, added, hacting, hadvance, -, -, hwrites⟩ :=
      advances_of_step rfl hstep
    have hrequests : ∀ write ∈ added, ∃ value, write.writer = .request value := by
      cases hadvance with
      | created monitorId row hreserved =>
        intro write hwrite
        rcases List.mem_pair.mp hwrite with rfl | rfl <;> exact ⟨_, rfl⟩
      | notCreated | probeEnded => exact List.forall_mem_nil _
    have hold : claimCount system.writes claim = 0 := by
      rw [claimCount, List.count_eq_zero]
      intro hmem
      obtain ⟨write, hwrite, hdispatch⟩ := List.mem_filterMap.mp hmem
      obtain ⟨_, -, rfl⟩ := Option.map_eq_some_iff.mp hdispatch
      exact Table.not_isSpent_of_mem_reserved hreserved (hspent write hwrite)
    rw [hwrites, (claimCount_append _ _ _).1, (claimCount_requests hrequests claim).1, hold]

/-! ### Every run -/

/-- In every run in which no recovery fails and no sweep is abandoned with claims in hand, a claim
of a monitor that is still stored was handed to the broker, was reset by a recovery, or is held by a
sweep, as often as it was made. Once every process has finished, none is held. -/
theorem noClaimLost_of_reaches {database : Database}
    (hreaches : Reaches (step settings) KeepsClaims (System.idle database) system)
    {schedule : Schedule} {monitorId : ℕ} (hpresent : (system.monitor monitorId).isSome = true)
    (now : ℤ) :
    claimCount system.writes (schedule, monitorId, now) =
        system.dispatches.count (schedule, monitorId, now) +
          system.held.count (schedule, monitorId, now) +
            resetCount system.writes (schedule, monitorId, now) ∧
      (system.Finished → system.held = []) := by
  have hinv : (LocksHold system ∧ ItemsDistinct system) ∧
      WritesSpent system ∧ ClaimedFirst system ∧ ClaimsAccounted system := by
    refine hreaches.invariant (motive := fun state ↦ (LocksHold state ∧ ItemsDistinct state) ∧
      WritesSpent state ∧ ClaimedFirst state ∧ ClaimsAccounted state)
      ⟨⟨LocksHold.idle database, fun _ _ hget ↦ ?_⟩, ?_⟩ ?_
    · nomatch hget
    · exact ⟨List.forall_mem_nil _, fun _ ↦ Nat.le_refl _, fun _ _ ↦ Nat.zero_le _⟩
    · rintro state label after ⟨⟨hlocks, hitems⟩, hspent, hfirst, haccounted⟩ hallowed hstep
      have htransition := transition_of_step hstep
      refine ⟨⟨hlocks.step htransition, hitems.step hlocks htransition⟩,
        hspent.step hlocks htransition, ?_, ?_⟩
      · intro claim
        have hle := (settledCount_of_step hstep claim).1
        have hbefore := hfirst claim
        omega
      · intro claim hafter
        cases hget : state.monitor claim.2.1 with
        | none =>
          rw [claimCount_of_absent hlocks hitems hspent hstep hafter hget]
          exact Nat.zero_le _
        | some monitor =>
          have hbefore : (state.monitor claim.2.1).isSome = true := by
            rw [hget]
            rfl
          have hge := (settledCount_of_step hstep claim).2 hallowed hbefore
          have hold := haccounted claim hbefore
          omega
  obtain ⟨-, -, hfirst, haccounted⟩ := hinv
  refine ⟨Nat.le_antisymm (haccounted _ hpresent) (hfirst _), fun hfinished ↦ ?_⟩
  rw [System.held, List.flatMap_eq_nil_iff]
  rintro ⟨processId, process⟩ hrow
  have hdone := hfinished processId process ((Table.mem_rows_iff _ _ _).mp hrow)
  cases process with
  | sweep run => exact absurd hdone Bool.false_ne_true
  | _ => rfl

/-- A sweep claims a monitor and the broker fails. The next sweep finds the monitor due again. -/
def recoveredRun : List Action :=
  [.startSweep 0 1 1, .select 1 [1], .commitClaim 1, .enqueue 1 false, .recoverItems 1 true,
    .startSweep 1 1 1, .select 2 [1], .commitClaim 2, .enqueue 2 true]

/-- The first claim of that run was reset, and the second was handed over. -/
theorem noClaimLost_recoveredRun :
    ∃ system, run (step .default) (System.idle .oneMonitor) recoveredRun = some system ∧
      (claimCount system.writes (.health, 1, 0) = 1 ∧
        claimCount system.writes (.health, 1, 1) = 1) ∧
      claimCount system.writes (.health, 1, 0) =
        system.dispatches.count (.health, 1, 0) + system.held.count (.health, 1, 0) +
          resetCount system.writes (.health, 1, 0) := by
  have hallowed : ∀ label ∈ recoveredRun, ∀ state, KeepsClaims state label := by
    intro label hlabel state
    simp only [recoveredRun, List.mem_cons, List.not_mem_nil, or_false] at hlabel
    rcases hlabel with rfl | rfl | rfl | rfl | rfl | rfl | rfl | rfl | rfl <;> simp [KeepsClaims]
  have hcounts : (run (step .default) (System.idle .oneMonitor) recoveredRun).map (fun system ↦
      ((system.monitor 1).isSome, claimCount system.writes (.health, 1, 0),
        claimCount system.writes (.health, 1, 1))) = some (true, 1, 1) := rfl
  obtain ⟨system, hrun, hsystem⟩ := Option.map_eq_some_iff.mp hcounts
  obtain ⟨hpresent, hfirst, hsecond⟩ : (system.monitor 1).isSome = true ∧
      claimCount system.writes (.health, 1, 0) = 1 ∧
        claimCount system.writes (.health, 1, 1) = 1 := by
    simpa only [Prod.mk.injEq] using hsystem
  have hreaches := reaches_of_run .start hallowed hrun
  exact ⟨system, hrun, ⟨hfirst, hsecond⟩, (noClaimLost_of_reaches hreaches hpresent 0).1⟩

end PingGuard.Concurrent
