import PingGuard.Frequency

/-!
# No monitor waits for ever

A monitor that is due by `next_check_at` may have to wait: a sweep dispatches no more monitors than
its batches hold, those due first before the others. Nothing overtakes it, though. Requests, probe
tasks and sweeps give no row a time that is earlier than their own, so the rows due no later than it
(`waiting`) only become fewer, and a sweep that does not dispatch it takes as many of them as it has
room for. So it is dispatched within as many sweeps as it takes to dispatch them
(`dispatched_of_sweeps`).
-/

set_option autoImplicit false
set_option relaxedAutoImplicit false

namespace PingGuard.Lifecycle

open Api Library.PyText Library.SerialTable Library.Transition Models ProbeTask Schemas Status Sweep

variable {tables : UnicodeTables} {maxMonitors : ℕ} {database : Database} {operation : Operation}
  {monitorId : ℕ} {time : ℤ}

/-! ### Waiting -/

/-- A row has a `next_check_at` that is no later than a time. -/
def isWaiting (time : ℤ) (monitor : Monitor) : Bool := monitor.nextCheckAt.any (· ≤ time)

/-- How many rows do. -/
def waiting (time : ℤ) (database : Database) : ℕ :=
  database.monitors.rows.countP fun row ↦ isWaiting time row.2

/-- The row of a monitor that is to be checked since a time. -/
def Waits (monitorId : ℕ) (time : ℤ) (database : Database) : Prop :=
  ∃ monitor, database.monitors.get monitorId = some monitor ∧ monitor.nextCheckAt = some time ∧
    monitor.mode.isMonitoring = true

/-- An operation after a time that leaves a monitor in its place. Monitors are created and swept
later than the time, and sweeps have a broker that works. The monitor is not deleted, and it is not
told to stop its checks. -/
def Operation.IsFair (monitorId : ℕ) (time : ℤ) : Operation → Prop
  | createMonitor _ now _ => time < now
  | updateMonitor otherId payload _ => otherId = monitorId → payload.mode ≠ .value .keepAlive
  | deleteMonitor otherId => otherId ≠ monitorId
  | sweepDueMonitors now _ _ healthEnv _ =>
    time < now ∧ ∀ count, healthEnv.broker count = true
  | probeTask .. => True

/-- The monitors that the health phase of an operation dispatches. -/
def Operation.dispatches (database : Database) : Operation → List ℕ
  | sweepDueMonitors now batchSize maxBatches healthEnv _ =>
    (healthPhase now batchSize maxBatches healthEnv database.monitors).dispatched.map Prod.fst
  | _ => []

/-- The monitors that the health phase of an operation has room for. -/
def Operation.room : Operation → ℕ
  | sweepDueMonitors _ batchSize maxBatches _ _ => batchSize * maxBatches
  | _ => 0

/-- A row whose time is later does not wait. -/
theorem not_isWaiting {monitor : Monitor} {later : ℤ} (hnext : monitor.nextCheckAt = some later)
    (hlt : time < later) : isWaiting time monitor = false := by
  unfold isWaiting
  rw [hnext]
  exact decide_eq_false (not_le.mpr hlt)

/-- Rows with the same time wait alike. -/
theorem isWaiting_congr {first second : Monitor} (hnext : first.nextCheckAt = second.nextCheckAt)
    (time : ℤ) : isWaiting time first = isWaiting time second := by
  unfold isWaiting
  rw [hnext]

/-! ### Sweeps -/

/-- With a broker that works, a phase leaves what it does not dispatch. -/
theorem get_sweepPhase_of_notMem {schedule : Schedule} {now : ℤ} {batchSize : ℕ} {env : PhaseEnv}
    (hworks : ∀ count, env.broker count = true) (batchesLeft enqueued : ℕ)
    {monitors : Table Monitor}
    (hnot : monitorId ∉ (sweepPhase schedule now batchSize env batchesLeft enqueued
      monitors).dispatched.map Prod.fst) :
    (sweepPhase schedule now batchSize env batchesLeft enqueued monitors).monitors.get monitorId =
      monitors.get monitorId := by
  induction batchesLeft generalizing enqueued monitors with
  | zero => rfl
  | succ batchesLeft ih =>
    unfold sweepPhase at hnot ⊢
    dsimp only at hnot ⊢
    by_cases hempty : selectBatch schedule now batchSize (env.rank batchesLeft) monitors = []
    · rw [if_pos hempty]
    · rw [if_neg hempty, dispatch_of_works hworks] at hnot ⊢
      dsimp only at hnot ⊢
      rw [List.map_append, List.mem_append, not_or] at hnot
      exact (ih _ hnot.2).trans (get_claimBatch_of_notMem hnot.1)

/-- The claims of a sweep have positive intervals. -/
theorem RowsWellFormed.intervals_pos (hrows : RowsWellFormed database) (monitorId : ℕ)
    (monitor : Monitor) (hget : database.monitors.get monitorId = some monitor) :
    0 < monitor.checkIntervalSeconds := by
  have hbounds : isInterval monitor.checkIntervalSeconds = true :=
    (hrows monitorId monitor hget).intervals.1
  unfold isInterval at hbounds
  rw [Bool.and_eq_true, decide_eq_true_eq] at hbounds
  omega

section Sweeps

variable {now : ℤ} {batchSize maxBatches : ℕ} {healthEnv keepAliveEnv : PhaseEnv}

/-- A row that waits after a sweep waited before it. -/
theorem isWaiting_of_sweep (hrows : RowsWellFormed database) (hlater : time < now) {later : Monitor}
    (hget : (Sweep.sweepDueMonitors now batchSize maxBatches healthEnv keepAliveEnv
      database.monitors).monitors.get monitorId = some later)
    (hwaiting : isWaiting time later = true) :
    ∃ earlier, database.monitors.get monitorId = some earlier ∧ isWaiting time earlier = true := by
  obtain ⟨middle, hmiddle, hkeepAlive⟩ :=
    exists_before_of_movedTable (sweepPhase_moved .keepAlive now batchSize keepAliveEnv _ _ _) hget
  obtain ⟨before, hbefore, hhealth⟩ :=
    exists_before_of_movedTable (sweepPhase_moved .health now batchSize healthEnv _ _ _) hmiddle
  have hnext : Schedule.health.next later = Schedule.health.next middle :=
    hkeepAlive.rescheduled.next_eq nofun
  rw [isWaiting_congr hnext] at hwaiting
  rcases hhealth with rfl | ⟨interval, hclaim, rfl | rfl⟩
  · exact ⟨_, hbefore, hwaiting⟩
  · -- a row that is reset is due at the time of the sweep
    rw [not_isWaiting (Schedule.next_setNext .health _ before) hlater] at hwaiting
    nomatch hwaiting
  · have hpos := seconds_pos (hrows.intervals_pos monitorId before hbefore)
    obtain rfl := Option.some.inj hclaim
    rw [not_isWaiting (Schedule.next_setNext .health _ before) (by omega)] at hwaiting
    nomatch hwaiting

/-- A sweep that does not dispatch a monitor that waits dispatches as many others as it has room
for, and these waited and do not wait any more. -/
theorem waiting_of_sweep (hrows : RowsWellFormed database) (hlater : time < now)
    (hworks : ∀ count, healthEnv.broker count = true) (hwaits : Waits monitorId time database)
    (hnot : monitorId ∉ (healthPhase now batchSize maxBatches healthEnv
      database.monitors).dispatched.map Prod.fst) :
    waiting time { database with
        monitors := (Sweep.sweepDueMonitors now batchSize maxBatches healthEnv keepAliveEnv
          database.monitors).monitors } + batchSize * maxBatches ≤ waiting time database := by
  obtain ⟨monitor, hget, hnext, hmode⟩ := hwaits
  have hdue : Schedule.health.isDue now monitor = true :=
    (Schedule.isDue_iff _ _ _).mpr ⟨hmode, time, hnext, hlater.le⟩
  have hpos : IntervalsPositive .health now database.monitors :=
    intervalsPositive_health hrows.intervals_pos
  have heffect : PhaseEffect .health now database.monitors
      (healthPhase now batchSize maxBatches healthEnv database.monitors).monitors
      (healthPhase now batchSize maxBatches healthEnv database.monitors).dispatched :=
    (sweepPhase_effect (Or.inr hworks) maxBatches 0 hpos).1
  have horder : PhaseOrder .health now database.monitors
      (healthPhase now batchSize maxBatches healthEnv database.monitors).dispatched :=
    sweepPhase_earliest hworks maxBatches 0 hpos
  -- the monitor is due and left, so there was no room for it
  have hlength : batchSize * maxBatches ≤ ((healthPhase now batchSize maxBatches healthEnv
      database.monitors).dispatched.map Prod.fst).length := by
    have hfull := le_length_dispatched hworks maxBatches 0 _ hpos
      (canBeCut_health now batchSize maxBatches database.monitors)
    have hfewer : ((healthPhase now batchSize maxBatches healthEnv
        database.monitors).dispatched.map Prod.fst).length <
          claimable .health now database.monitors := by
      rw [claimable_health, ← List.length_map Prod.fst]
      have hnodup : (monitorId :: (healthPhase now batchSize maxBatches healthEnv
          database.monitors).dispatched.map Prod.fst).Nodup :=
        List.nodup_cons.mpr ⟨hnot, heffect.nodup⟩
      refine (List.subperm_of_subset hnodup ?_).length_le
      intro key hkey
      rcases List.mem_cons.mp hkey with rfl | hkey
      · exact List.mem_map.mpr ⟨_, (mem_dueRows_iff _ _ _ _ _).mpr ⟨hget, hdue⟩, rfl⟩
      · obtain ⟨⟨_, interval⟩, hitem, rfl⟩ := List.mem_map.mp hkey
        obtain ⟨other, hother, hotherDue, -, -⟩ := heffect.advanced _ interval hitem
        exact List.mem_map.mpr ⟨_, (mem_dueRows_iff _ _ _ _ _).mpr ⟨hother, hotherDue⟩, rfl⟩
    rw [List.length_map] at hfewer ⊢
    exact (min_le_iff.mp hfull).resolve_left (not_le.mpr hfewer)
  refine (Nat.add_le_add_left hlength _).trans (Table.countP_add_length_le ?_ heffect.nodup ?_)
  · exact fun key row hrow hwaiting ↦ isWaiting_of_sweep hrows hlater hrow hwaiting
  · intro key hkey
    obtain ⟨⟨_, interval⟩, hitem, rfl⟩ := List.mem_map.mp hkey
    obtain ⟨dispatched, hdispatched, hdispatchedDue, hclaim, hclaimed⟩ :=
      heffect.advanced _ interval hitem
    obtain ⟨-, due, hdispatchedNext, -⟩ := (Schedule.isDue_iff _ _ _).mp hdispatchedDue
    refine ⟨⟨dispatched, hdispatched, ?_⟩, fun row hrow ↦ ?_⟩
    · have hle : due ≤ time := horder.passed _ hkey monitorId monitor hget hdue
        (Option.some_ne_none _) hnot dispatched monitor due time hdispatched hget hdispatchedNext
        hnext
      have hsame : dispatched.nextCheckAt = some due := hdispatchedNext
      unfold isWaiting
      rw [hsame]
      exact decide_eq_true hle
    · obtain ⟨middle, hmiddle, hkeepAlive⟩ := exists_before_of_movedTable
        (sweepPhase_moved .keepAlive now batchSize keepAliveEnv _ _ _) hrow
      obtain rfl := Option.some.inj (hclaimed.symm.trans hmiddle)
      have hkept : Schedule.health.next row =
          Schedule.health.next (Schedule.health.setNext (some (now + seconds interval))
            dispatched) := hkeepAlive.rescheduled.next_eq nofun
      rw [Schedule.next_setNext] at hkept
      obtain rfl := Option.some.inj hclaim
      have hinterval := seconds_pos (hrows.intervals_pos _ dispatched hdispatched)
      exact not_isWaiting hkept (by omega)

end Sweeps

/-! ### Operations -/

/-- A row that waits after a fair operation waited before it. -/
theorem isWaiting_of_run (hrows : RowsWellFormed database) {otherId : ℕ}
    (hfair : operation.IsFair otherId time) {later : Monitor}
    (hget : (operation.run tables maxMonitors database).database.monitors.get monitorId =
      some later) (hwaiting : isWaiting time later = true) :
    ∃ earlier, database.monitors.get monitorId = some earlier ∧ isWaiting time earlier = true := by
  cases operation with
  | createMonitor payload now skipped =>
    rcases get_ofRequest hget with hsame | ⟨after, hcreate, hafter⟩
    · exact ⟨later, hsame, hwaiting⟩
    rcases get_createMonitor hcreate hafter with ⟨-, -, rfl⟩ | hsame
    · rw [not_isWaiting rfl hfair] at hwaiting
      nomatch hwaiting
    · exact ⟨later, hsame, hwaiting⟩
  | updateMonitor updatedId payload now =>
    rcases get_ofRequest hget with hsame | ⟨after, hupdate, hafter⟩
    · exact ⟨later, hsame, hwaiting⟩
    rcases get_updateMonitor hupdate hafter with ⟨-, loaded, hloaded, hcommit⟩ | hsame
    · obtain ⟨draft, -, -, hflushed⟩ := commitUpdate_eq_ok hcommit
      exact ⟨loaded, hloaded, (isWaiting_congr hflushed.nextCheckAt time).symm.trans hwaiting⟩
    · exact ⟨later, hsame, hwaiting⟩
  | deleteMonitor deletedId =>
    rcases get_ofRequest hget with hsame | ⟨after, hdelete, hafter⟩
    · exact ⟨later, hsame, hwaiting⟩
    · exact ⟨later, get_deleteMonitor hdelete hafter, hwaiting⟩
  | sweepDueMonitors now batchSize maxBatches healthEnv keepAliveEnv =>
    exact isWaiting_of_sweep hrows hfair.1 hget hwaiting
  | probeTask task checkedId execution =>
    obtain ⟨earlier, hearlier, _, _, rfl⟩ :=
      checksRows_runProbeTask task checkedId execution database monitorId later hget
    exact ⟨earlier, hearlier, hwaiting⟩

/-- The modes that an update writes are passed, or set by the reset logic. -/
theorem mode_of_resetOnDisable {loaded : Monitor} {payload : MonitorUpdate} {mode : MonitorMode}
    (hmode : (resetOnDisable loaded payload).mode = .value mode) :
    payload.mode = .value mode ∨ mode = .monitor := by
  unfold resetOnDisable at hmode
  split_ifs at hmode with hdisables hreset
  · dsimp only at hmode
    cases hpayload : payload.mode with
    | omitted =>
      rw [hpayload] at hmode
      exact Or.inr (Field.value.inj hmode).symm
    | null =>
      rw [hpayload] at hmode
      nomatch hmode
    | value other =>
      rw [hpayload] at hmode
      exact Or.inl hmode
  · exact Or.inl hmode
  · exact Or.inl hmode

/-- A committed update that does not stop the checks leaves a monitor to be checked at its time. -/
theorem kept_of_commitUpdate {payload : MonitorUpdate} {now : ℤ} {loaded monitor : Monitor}
    (hcommit : commitUpdate payload now loaded loaded = .ok monitor)
    (hpayload : payload.mode ≠ .value .keepAlive) (hmode : loaded.mode.isMonitoring = true) :
    monitor.nextCheckAt = loaded.nextCheckAt ∧ monitor.mode.isMonitoring = true := by
  obtain ⟨draft, -, hdraft, hflushed⟩ := commitUpdate_eq_ok hcommit
  refine ⟨hflushed.nextCheckAt, ?_⟩
  rw [hflushed.mode, flushColumn_self]
  rcases Field.getD_eq_some hdraft.mode.symm with hvalue | ⟨-, hsame⟩
  · rcases mode_of_resetOnDisable hvalue with hpassed | hmonitor
    · cases hdraftMode : draft.mode with
      | keepAlive => exact absurd (hdraftMode ▸ hpassed) hpayload
      | monitor => rfl
      | monitorAndKeepAlive => rfl
    · rw [hmonitor]
      rfl
  · rw [← Option.some.inj hsame]
    exact hmode

/-- A probe task leaves every monitor in the table. -/
theorem isSome_get_runProbeTask (task : Task) (checkedId : ℕ) (execution : Execution)
    (hpresent : (database.monitors.get monitorId).isSome = true) :
    ((runProbeTask task checkedId execution database).2.monitors.get monitorId).isSome = true := by
  have hmodify : ∀ (monitors : Table Monitor) (key : ℕ) (rewrite : Monitor → Monitor),
      (monitors.get monitorId).isSome = true →
        ((monitors.modify key rewrite).get monitorId).isSome = true := by
    intro monitors key rewrite hsome
    rw [Table.get_modify]
    split_ifs
    · rw [Option.isSome_map]
      exact hsome
    · exact hsome
  have hsession : ((runSession task checkedId execution database).2.monitors.get
      monitorId).isSome = true := by
    rcases runSession_cases task checkedId execution database with ⟨_, _, hdone⟩ | ⟨-, hsame⟩
    · rw [hdone.runSession_eq]
      exact hmodify _ _ _ hpresent
    · rw [hsame]
      exact hpresent
  have hrecover : ∀ {before after : Database},
      recoverTimeLimit task checkedId execution before = some after →
        (before.monitors.get monitorId).isSome = true →
          (after.monitors.get monitorId).isSome = true := by
    intro before after hrecovered hsome
    unfold recoverTimeLimit at hrecovered
    split at hrecovered
    · nomatch hrecovered
    · split_ifs at hrecovered
      obtain ⟨-, rfl⟩ := commitResult_eq_some_iff.mp hrecovered
      exact hmodify _ _ _ hsome
  unfold runProbeTask
  split
  · exact hsession
  · split
    · exact hpresent
    · rename_i after hrecovered
      exact hrecover hrecovered hpresent
  · dsimp only
    split
    · exact hsession
    · rename_i after hrecovered
      exact hrecover hrecovered hsession

/-- A monitor that waits still waits after a fair operation that does not dispatch it. -/
theorem Waits.run (hwaits : Waits monitorId time database)
    (hfair : operation.IsFair monitorId time)
    (hnot : monitorId ∉ operation.dispatches database) :
    Waits monitorId time (operation.run tables maxMonitors database).database := by
  obtain ⟨monitor, hget, hnext, hmode⟩ := hwaits
  cases operation with
  | createMonitor payload now skipped =>
    change Waits monitorId time (ofRequest database _).database
    cases hcreate : Api.createMonitor tables maxMonitors database payload now skipped with
    | error failure => exact ⟨monitor, hget, hnext, hmode⟩
    | ok after =>
      unfold Api.createMonitor at hcreate
      split_ifs at hcreate
      obtain rfl := Except.ok.inj hcreate
      refine ⟨monitor, (Table.get_insert _ _ _).trans ?_, hnext, hmode⟩
      rw [if_neg (Nat.ne_of_lt ((database.monitors.skip skipped).lt_nextKey_of_get hget))]
      exact hget
  | updateMonitor updatedId payload now =>
    change Waits monitorId time (ofRequest database _).database
    cases hupdate : Api.updateMonitor database updatedId payload now with
    | error failure => exact ⟨monitor, hget, hnext, hmode⟩
    | ok after =>
      unfold Api.updateMonitor at hupdate
      split_ifs at hupdate
      split at hupdate
      · nomatch hupdate
      · rename_i loaded hloaded
        split at hupdate
        · nomatch hupdate
        · rename_i updated hcommit
          obtain rfl := Except.ok.inj hupdate
          by_cases hkey : monitorId = updatedId
          · subst hkey
            obtain rfl := Option.some.inj (hget.symm.trans hloaded)
            obtain ⟨hkept, hmonitoring⟩ := kept_of_commitUpdate hcommit (hfair rfl) hmode
            refine ⟨updated, (Table.get_modify _ _ _ _).trans ?_, hkept.trans hnext, hmonitoring⟩
            rw [if_pos rfl, hget]
            rfl
          · refine ⟨monitor, (Table.get_modify _ _ _ _).trans ?_, hnext, hmode⟩
            rw [if_neg hkey]
            exact hget
  | deleteMonitor deletedId =>
    change Waits monitorId time (ofRequest database _).database
    cases hdelete : Api.deleteMonitor database deletedId with
    | error failure => exact ⟨monitor, hget, hnext, hmode⟩
    | ok after =>
      unfold Api.deleteMonitor at hdelete
      split at hdelete
      · nomatch hdelete
      · obtain rfl := Except.ok.inj hdelete
        refine ⟨monitor, (Table.get_erase _ _ _).trans ?_, hnext, hmode⟩
        rw [if_neg (Ne.symm hfair)]
        exact hget
  | sweepDueMonitors now batchSize maxBatches healthEnv keepAliveEnv =>
    have hhealth : (healthPhase now batchSize maxBatches healthEnv database.monitors).monitors.get
        monitorId = some monitor :=
      (get_sweepPhase_of_notMem hfair.2 maxBatches 0 hnot).trans hget
    have hkeepAlive := sweepPhase_rescheduled .keepAlive now batchSize keepAliveEnv maxBatches 0
      (healthPhase now batchSize maxBatches healthEnv database.monitors).monitors
    obtain ⟨later, hlater, hrow⟩ := hkeepAlive.exists_after hhealth
    have hsame : Schedule.health.next later = Schedule.health.next monitor := hrow.next_eq nofun
    have hselected : Schedule.health.isSelected later = Schedule.health.isSelected monitor :=
      (hrow.claimInterval_eq .health).1
    exact ⟨later, hlater, hsame.trans hnext, hselected.trans hmode⟩
  | probeTask task checkedId execution =>
    have hpresent : ((runProbeTask task checkedId execution database).2.monitors.get
        monitorId).isSome = true := isSome_get_runProbeTask _ _ _ (by rw [hget]; rfl)
    obtain ⟨later, hlater⟩ := Option.isSome_iff_exists.mp hpresent
    obtain ⟨earlier, hearlier, _, _, rfl⟩ :=
      checksRows_runProbeTask task checkedId execution database monitorId later hlater
    obtain rfl := Option.some.inj (hget.symm.trans hearlier)
    exact ⟨_, hlater, hnext, hmode⟩

/-- A fair operation that does not dispatch a monitor that waits leaves no more rows that wait, and
a sweep leaves fewer by what it has room for. -/
theorem waiting_of_run (hrows : RowsWellFormed database) (hwaits : Waits monitorId time database)
    (hfair : operation.IsFair monitorId time)
    (hnot : monitorId ∉ operation.dispatches database) :
    waiting time (operation.run tables maxMonitors database).database + operation.room ≤
      waiting time database := by
  cases operation with
  | sweepDueMonitors now batchSize maxBatches healthEnv keepAliveEnv =>
    exact waiting_of_sweep hrows hfair.1 hfair.2 hwaits hnot
  | _ =>
    exact Table.countP_add_length_le (fun key row hget hwaiting ↦
      isWaiting_of_run hrows hfair hget hwaiting) List.nodup_nil
        (fun key hkey ↦ absurd hkey List.not_mem_nil)

/-! ### Runs -/

/-- A monitor that waits is dispatched by one of the sweeps, if together they have room for all the
rows that are due no later than it, whatever requests and probe tasks come between them.
Assumes: the operations come later than the time of the monitor, the broker works for the sweeps,
and nobody deletes the monitor or stops its checks. -/
theorem dispatched_of_sweeps {operations : List Operation}
    (hreaches : Reaches (serve tables maxMonitors) (fun _ _ ↦ True) Database.empty database)
    (hwaits : Waits monitorId time database)
    (hfair : ∀ operation ∈ operations, operation.IsFair monitorId time)
    (henough : waiting time database ≤ (operations.map Operation.room).sum) :
    ∃ before operation after middle, operations = before ++ operation :: after ∧
      run (serve tables maxMonitors) database before = some middle ∧
        monitorId ∈ operation.dispatches middle := by
  have hrows : RowsWellFormed database :=
    EveryRow.of_reaches (isRowInvariant_isWellFormed tables) hreaches
  induction operations generalizing database with
  | nil =>
    -- the monitor itself waits, so some sweep is needed
    obtain ⟨monitor, hget, hnext, -⟩ := hwaits
    have hpositive : 0 < waiting time database := by
      refine List.countP_pos_iff.mpr ⟨_, (Table.mem_rows_iff _ _ _).mpr hget, ?_⟩
      unfold isWaiting
      rw [hnext]
      exact decide_eq_true le_rfl
    exact absurd henough (not_le.mpr hpositive)
  | cons operation rest ih =>
    by_cases hdispatched : monitorId ∈ operation.dispatches database
    · exact ⟨[], operation, rest, database, rfl, rfl, hdispatched⟩
    · have hfirst := hfair operation List.mem_cons_self
      have hfewer : waiting time (operation.run tables maxMonitors database).database +
          operation.room ≤ waiting time database :=
        waiting_of_run hrows hwaits hfirst hdispatched
      have hnext : serve tables maxMonitors database operation =
          some (operation.run tables maxMonitors database).database := rfl
      have hrest : waiting time (operation.run tables maxMonitors database).database ≤
          (rest.map Operation.room).sum := by
        rw [List.map_cons, List.sum_cons] at henough
        omega
      obtain ⟨before, later, after, middle, rfl, hrun, hmem⟩ := ih
        (hreaches.step trivial hnext) (hwaits.run hfirst hdispatched)
        (fun other hother ↦ hfair other (List.mem_cons_of_mem _ hother)) hrest
        (hrows.run tables maxMonitors operation)
      refine ⟨operation :: before, later, after, middle, rfl, ?_, hmem⟩
      rw [run, hnext]
      exact hrun

/-- Three monitors are created at one time. -/
def threeCreated : List Operation := List.replicate 3 (.createMonitor sampleCreate 0 0)

/-- A sweep with room for so many batches of one monitor. -/
def sweepBatches (now : ℤ) (maxBatches : ℕ) : Operation :=
  .sweepDueMonitors now 1 maxBatches brokerWorks brokerWorks

/-- The third monitor is renamed between two such sweeps, which together have room for three. -/
def sweptTwice : List Operation :=
  [sweepBatches 5 2, .updateMonitor 3 ⟨.value "new".toList, .omitted, .omitted, .omitted, .omitted,
    .omitted⟩ 6, sweepBatches 7 1]

/-- The first sweep has no room for the third monitor, and the next one dispatches it. -/
theorem dispatched_of_sweeps_sweptTwice : ∃ database,
    run (serve UnicodeTables.caseless 100) Database.empty threeCreated = some database ∧
      3 ∉ (sweepBatches 5 2).dispatches database ∧
      ∃ before operation after middle, sweptTwice = before ++ operation :: after ∧
        run (serve UnicodeTables.caseless 100) database before = some middle ∧
          3 ∈ operation.dispatches middle := by
  have hcreated : (run (serve UnicodeTables.caseless 100) Database.empty threeCreated).map
      (fun database ↦ ((sweepBatches 5 2).dispatches database,
        (database.monitors.get 3).map fun monitor ↦
          (monitor.nextCheckAt, monitor.mode.isMonitoring), waiting 0 database)) =
      some ([1, 2], some (some 0, true), 3) := by decide +kernel
  obtain ⟨database, hrun, hdatabase⟩ := Option.map_eq_some_iff.mp hcreated
  obtain ⟨hfirst, hthird, hwaiting⟩ : (sweepBatches 5 2).dispatches database = [1, 2] ∧
      (database.monitors.get 3).map (fun monitor ↦
        (monitor.nextCheckAt, monitor.mode.isMonitoring)) = some (some 0, true) ∧
      waiting 0 database = 3 := by
    simpa only [Prod.mk.injEq] using hdatabase
  obtain ⟨monitor, hget, hmonitor⟩ := Option.map_eq_some_iff.mp hthird
  have hfair : ∀ operation ∈ sweptTwice, operation.IsFair 3 0 := by
    intro operation hmem
    simp only [sweptTwice, List.mem_cons, List.not_mem_nil, or_false] at hmem
    rcases hmem with rfl | rfl | rfl
    · exact ⟨by decide, fun _ ↦ rfl⟩
    · exact fun _ heq ↦ nomatch heq
    · exact ⟨by decide, fun _ ↦ rfl⟩
  refine ⟨database, hrun, by rw [hfirst]; decide, ?_⟩
  exact dispatched_of_sweeps (reaches_of_run .start (fun _ _ _ ↦ trivial) hrun)
    ⟨monitor, hget, (Prod.mk.inj hmonitor).1, (Prod.mk.inj hmonitor).2⟩ hfair
    (by rw [hwaiting]; decide)

end PingGuard.Lifecycle
