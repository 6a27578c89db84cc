import PingGuard.Library.Transition
import PingGuard.ProbeTask
import PingGuard.SweepOutcome
import PingGuard.Update

/-!
# The life of a monitor

The operations of the service one after the other: requests, complete sweeps and complete probe
tasks, from an empty database. Every stored monitor stays `Schedulable`: what its mode asks for is
due at some time, with an interval that the API admits.

The invariant `IsWellFormed` is a little stronger. Every row has a `next_check_at`, also one without
health checks, since no operation clears it.
-/

set_option autoImplicit false
set_option relaxedAutoImplicit false

namespace PingGuard.Lifecycle

open Api Library.PyText Library.SerialTable Library.Transition Models Net ProbeTask Schemas Status
open Sweep

/-! ### Operations -/

/-- The operations on the two tables. -/
inductive Operation
  | createMonitor (payload : MonitorCreate) (now : ℤ) (skipped : ℕ)
  | updateMonitor (monitorId : ℕ) (payload : MonitorUpdate) (now : ℤ)
  | deleteMonitor (monitorId : ℕ)
  | sweepDueMonitors (now : ℤ) (batchSize maxBatches : ℕ) (healthEnv keepAliveEnv : PhaseEnv)
  | probeTask (task : Task) (monitorId : ℕ) (execution : Execution)

/-- The end of an operation: whether it failed, and the database after it. -/
structure OperationEnd where
  failed : Bool
  database : Database

/-- The end of a request. A request that fails has committed nothing. -/
def ofRequest (database : Database) : Except RequestFailure Database → OperationEnd
  | .error _ => ⟨true, database⟩
  | .ok after => ⟨false, after⟩

/-- Whether a probe task failed: it ended with an exception or with a retry. -/
def taskFailed : TaskEnd → Bool
  | .raised | .retried _ | .raisedAfterCommit => true
  | _ => false

/-- An operation on a database. -/
def Operation.run (tables : UnicodeTables) (maxMonitors : ℕ) (operation : Operation)
    (database : Database) : OperationEnd :=
  match operation with
  | createMonitor payload now skipped =>
    ofRequest database (Api.createMonitor tables maxMonitors database payload now skipped)
  | updateMonitor monitorId payload now =>
    ofRequest database (Api.updateMonitor database monitorId payload now)
  | deleteMonitor monitorId => ofRequest database (Api.deleteMonitor database monitorId)
  | sweepDueMonitors now batchSize maxBatches healthEnv keepAliveEnv =>
    ⟨false, { database with
      monitors := (Sweep.sweepDueMonitors now batchSize maxBatches healthEnv keepAliveEnv
        database.monitors).monitors }⟩
  | probeTask task monitorId execution =>
    ⟨taskFailed (runProbeTask task monitorId execution database).1,
      (runProbeTask task monitorId execution database).2⟩

/-- An operation as a step. -/
def serve (tables : UnicodeTables) (maxMonitors : ℕ) (database : Database)
    (operation : Operation) : Option Database :=
  some (operation.run tables maxMonitors database).database

/-! ### Rows -/

/-- A monitor that can be scheduled as its mode asks for. -/
structure Schedulable (monitor : Monitor) : Prop where
  rules : RulesAccept monitor
  monitoring : monitor.mode.isMonitoring = true → monitor.nextCheckAt ≠ none
  keepAlive : monitor.mode.isKeepAlive = true → monitor.keepAliveEnabled = true ∧
    (∃ interval, monitor.keepAliveIntervalSeconds = some interval ∧
      15 ≤ interval ∧ interval ≤ 86400) ∧ monitor.nextKeepAliveAt ≠ none
  disabled : monitor.keepAliveEnabled = false → monitor.keepAliveIntervalSeconds = none ∧
    monitor.keepAlivePath = none ∧ monitor.nextKeepAliveAt = none

/-- What every operation keeps of a row. -/
structure IsWellFormed (monitor : Monitor) : Prop where
  rules : RulesAccept monitor
  timed : KeepAliveTimed monitor
  intervals : IntervalsMeet (isInterval · = true) monitor
  checked : monitor.nextCheckAt.isSome = true

/-- A well-formed row is schedulable. -/
theorem IsWellFormed.schedulable {monitor : Monitor} (hwell : IsWellFormed monitor) :
    Schedulable monitor := by
  have htimed := hwell.timed
  unfold KeepAliveTimed at htimed
  refine ⟨hwell.rules, fun _ ↦ Option.isSome_iff_ne_none.mp hwell.checked, fun hmode ↦ ?_,
    fun hdisabled ↦ ?_⟩
  · have henabled : monitor.keepAliveEnabled = true := by
      by_contra hdisabled
      rw [Bool.not_eq_true] at hdisabled
      have hmonitor := ((rulesAccept_disabled_iff hdisabled).mp hwell.rules).1
      rw [hmonitor] at hmode
      exact Bool.false_ne_true hmode
    obtain ⟨interval, hinterval⟩ := Option.ne_none_iff_exists'.mp
      ((rulesAccept_enabled_iff henabled).mp hwell.rules).2
    have hbounds := hwell.intervals.2 interval hinterval
    unfold isInterval at hbounds
    simp only [Bool.and_eq_true, decide_eq_true_eq] at hbounds
    exact ⟨henabled, ⟨interval, hinterval, hbounds⟩,
      Option.isSome_iff_ne_none.mp (htimed.trans henabled)⟩
  · obtain ⟨-, hinterval, hpath⟩ := (rulesAccept_disabled_iff hdisabled).mp hwell.rules
    rw [hdisabled, Option.isSome_eq_false_iff, Option.isNone_iff_eq_none] at htimed
    exact ⟨hinterval, hpath, htimed⟩

/-- A new row is well formed. -/
theorem IsWellFormed.newMonitor {tables : UnicodeTables} {payload : MonitorCreate}
    (haccepted : payload.isAccepted tables = true) (now : ℤ) :
    IsWellFormed (newMonitor payload now) where
  rules := rulesAccept_newMonitor haccepted now
  timed := keepAliveTimed_newMonitor payload now
  intervals := intervalsMeet_newMonitor (fun _ hinterval ↦ hinterval) haccepted now
  checked := rfl

/-- An update of a well-formed row that is committed leaves a well-formed row. -/
theorem IsWellFormed.commitUpdate {payload : MonitorUpdate} {now : ℤ} {loaded monitor : Monitor}
    (hwell : IsWellFormed loaded) (haccepted : payload.isAccepted = true)
    (hcommit : commitUpdate payload now loaded loaded = .ok monitor) : IsWellFormed monitor where
  rules := (rulesAccept_commitUpdate_iff hwell.rules hwell.rules hcommit).mpr
    (commitIsSafe_self payload loaded)
  timed := keepAliveTimed_commitUpdate hwell.timed hwell.timed hcommit
  intervals :=
    intervalsMeet_commitUpdate (fun _ hinterval ↦ hinterval) haccepted hwell.intervals hcommit
  checked := by
    obtain ⟨draft, -, -, hflushed⟩ := commitUpdate_eq_ok hcommit
    rw [hflushed.nextCheckAt]
    exact hwell.checked

/-- A phase of a sweep leaves well-formed rows. -/
theorem IsWellFormed.rescheduled {schedule : Schedule} {before after : Monitor}
    (hwell : IsWellFormed before) (hchange : schedule.Rescheduled before after) :
    IsWellFormed after := by
  rcases hchange with rfl | ⟨value, rfl, hclaim⟩
  · exact hwell
  -- only a row that can be claimed changes, and it has a time
  have hsome : (schedule.next before).isSome = true := by
    cases schedule with
    | health => exact hwell.checked
    | keepAlive =>
      obtain ⟨interval, hinterval⟩ := Option.ne_none_iff_exists'.mp hclaim
      have henabled := ((Schedule.claimInterval_keepAlive_iff _ _).mp hinterval).1
      exact Eq.trans hwell.timed henabled
  refine ⟨rulesAccept_setNext _ _ hwell.rules, keepAliveTimed_setNext hwell.timed hsome value,
    intervalsMeet_setNext _ _ hwell.intervals, ?_⟩
  cases schedule with
  | health => rfl
  | keepAlive => exact hwell.checked

/-- A check leaves a well-formed row. -/
theorem IsWellFormed.isChecked {before after : Monitor} (hwell : IsWellFormed before)
    (hchecked : IsChecked before after) : IsWellFormed after := by
  obtain ⟨status, lastCheckedAt, rfl⟩ := hchecked
  exact ⟨hwell.rules, hwell.timed, hwell.intervals, hwell.checked⟩

/-! ### Every operation -/

/-- Every stored row is well formed. -/
def RowsWellFormed (database : Database) : Prop :=
  ∀ monitorId monitor, database.monitors.get monitorId = some monitor → IsWellFormed monitor

/-- A row after a creation is the new one or was there before. -/
theorem get_createMonitor {tables : UnicodeTables} {maxMonitors : ℕ} {database after : Database}
    {payload : MonitorCreate} {now : ℤ} {skipped monitorId : ℕ} {monitor : Monitor}
    (hcreate : Api.createMonitor tables maxMonitors database payload now skipped = .ok after)
    (hget : after.monitors.get monitorId = some monitor) :
    payload.isAccepted tables = true ∧ (newMonitor payload now).fitsColumns = true ∧
        monitor = newMonitor payload now ∨
      database.monitors.get monitorId = some monitor := by
  unfold Api.createMonitor at hcreate
  split_ifs at hcreate with haccepted hfull hfits
  obtain rfl := Except.ok.inj hcreate
  rw [Table.get_insert] at hget
  split_ifs at hget with hkey
  · exact Or.inl ⟨haccepted, hfits, (Option.some.inj hget).symm⟩
  · exact Or.inr hget

/-- A row after an update is the committed one or was there before. -/
theorem get_updateMonitor {database after : Database} {monitorId otherId : ℕ}
    {payload : MonitorUpdate} {now : ℤ} {monitor : Monitor}
    (hupdate : Api.updateMonitor database otherId payload now = .ok after)
    (hget : after.monitors.get monitorId = some monitor) :
    (payload.isAccepted = true ∧ ∃ loaded, database.monitors.get monitorId = some loaded ∧
      commitUpdate payload now loaded loaded = .ok monitor) ∨
      database.monitors.get monitorId = some monitor := by
  unfold Api.updateMonitor at hupdate
  split_ifs at hupdate with haccepted
  split at hupdate
  · nomatch hupdate
  · rename_i loaded hloaded
    split at hupdate
    · nomatch hupdate
    · rename_i updated hcommit
      obtain rfl := Except.ok.inj hupdate
      rw [Table.get_modify] at hget
      split_ifs at hget with hkey
      · subst hkey
        obtain ⟨_, -, rfl⟩ := Option.map_eq_some_iff.mp hget
        exact Or.inl ⟨haccepted, loaded, hloaded, hcommit⟩
      · exact Or.inr hget

/-- A row after a deletion was there before. -/
theorem get_deleteMonitor {database after : Database} {monitorId otherId : ℕ} {monitor : Monitor}
    (hdelete : Api.deleteMonitor database otherId = .ok after)
    (hget : after.monitors.get monitorId = some monitor) :
    database.monitors.get monitorId = some monitor := by
  unfold Api.deleteMonitor at hdelete
  split at hdelete
  · nomatch hdelete
  · obtain rfl := Except.ok.inj hdelete
    have herased := (Table.get_erase _ _ _).symm.trans hget
    split_ifs at herased
    exact herased

/-- A property of a row that every operation keeps: a new row that fits its columns has it, and a
row that has it has it after a committed update, a phase of a sweep or a check. -/
structure IsRowInvariant (tables : UnicodeTables) (motive : Monitor → Prop) : Prop where
  created : ∀ (payload : MonitorCreate) (now : ℤ), payload.isAccepted tables = true →
    (newMonitor payload now).fitsColumns = true → motive (newMonitor payload now)
  updated : ∀ {payload : MonitorUpdate} {now : ℤ} {loaded monitor : Monitor}, motive loaded →
    payload.isAccepted = true → commitUpdate payload now loaded loaded = .ok monitor →
    motive monitor
  rescheduled : ∀ {schedule : Schedule} {before after : Monitor}, motive before →
    schedule.Rescheduled before after → motive after
  checked : ∀ {before after : Monitor}, motive before → IsChecked before after → motive after

/-- Every stored row has a property. -/
def EveryRow (motive : Monitor → Prop) (database : Database) : Prop :=
  ∀ monitorId monitor, database.monitors.get monitorId = some monitor → motive monitor

namespace EveryRow

variable {tables : UnicodeTables} {motive : Monitor → Prop} {database : Database}

/-- A creation keeps it. -/
theorem createMonitor (hrows : EveryRow motive database) (hkept : IsRowInvariant tables motive)
    {maxMonitors : ℕ} {after : Database} {payload : MonitorCreate} {now : ℤ} {skipped : ℕ}
    (hcreate : Api.createMonitor tables maxMonitors database payload now skipped = .ok after) :
    EveryRow motive after := by
  intro monitorId monitor hget
  rcases get_createMonitor hcreate hget with ⟨haccepted, hfits, rfl⟩ | hsame
  · exact hkept.created payload now haccepted hfits
  · exact hrows monitorId monitor hsame

/-- An update keeps it. -/
theorem updateMonitor (hrows : EveryRow motive database) (hkept : IsRowInvariant tables motive)
    {after : Database} {monitorId : ℕ} {payload : MonitorUpdate} {now : ℤ}
    (hupdate : Api.updateMonitor database monitorId payload now = .ok after) :
    EveryRow motive after := by
  intro otherId monitor hget
  rcases get_updateMonitor hupdate hget with ⟨haccepted, loaded, hloaded, hcommit⟩ | hsame
  · exact hkept.updated (hrows otherId loaded hloaded) haccepted hcommit
  · exact hrows otherId monitor hsame

/-- A deletion keeps it. -/
theorem deleteMonitor (hrows : EveryRow motive database) {after : Database} {monitorId : ℕ}
    (hdelete : Api.deleteMonitor database monitorId = .ok after) : EveryRow motive after :=
  fun otherId monitor hget ↦ hrows otherId monitor (get_deleteMonitor hdelete hget)

/-- A phase of a sweep keeps it. -/
theorem rescheduled (hrows : EveryRow motive database) (hkept : IsRowInvariant tables motive)
    {schedule : Schedule} {monitors : Table Monitor}
    (hchange : RescheduledTable schedule database.monitors monitors) :
    EveryRow motive { database with monitors := monitors } := by
  intro monitorId monitor hget
  obtain ⟨before, hbefore, hrow⟩ := hchange.exists_before hget
  exact hkept.rescheduled (hrows monitorId before hbefore) hrow

/-- A sweep keeps it, whatever fails. -/
theorem sweepDueMonitors (hrows : EveryRow motive database) (hkept : IsRowInvariant tables motive)
    (now : ℤ) (batchSize maxBatches : ℕ) (healthEnv keepAliveEnv : PhaseEnv) :
    EveryRow motive { database with
      monitors := (Sweep.sweepDueMonitors now batchSize maxBatches healthEnv keepAliveEnv
        database.monitors).monitors } := by
  have hhealth : EveryRow motive { database with
      monitors := (healthPhase now batchSize maxBatches healthEnv database.monitors).monitors } :=
    hrows.rescheduled hkept (sweepPhase_rescheduled _ _ _ _ _ _ _)
  exact hhealth.rescheduled hkept (sweepPhase_rescheduled _ _ _ _ _ _ _)

/-- A probe task keeps it. -/
theorem runProbeTask (hrows : EveryRow motive database) (hkept : IsRowInvariant tables motive)
    (task : Task) (monitorId : ℕ) (execution : Execution) :
    EveryRow motive (runProbeTask task monitorId execution database).2 := by
  intro otherId later hget
  obtain ⟨earlier, hearlier, hchecked⟩ :=
    checksRows_runProbeTask task monitorId execution database otherId later hget
  exact hkept.checked (hrows otherId earlier hearlier) hchecked

/-- Every operation keeps it. -/
theorem run (hrows : EveryRow motive database) (hkept : IsRowInvariant tables motive)
    (maxMonitors : ℕ) (operation : Operation) :
    EveryRow motive (operation.run tables maxMonitors database).database := by
  -- a request that fails has its database back
  have hrequest : ∀ response : Except RequestFailure Database,
      (∀ after, response = .ok after → EveryRow motive after) →
        EveryRow motive (ofRequest database response).database := by
    intro response hafter
    cases response with
    | error failure => exact hrows
    | ok after => exact hafter after rfl
  cases operation with
  | createMonitor payload now skipped =>
    exact hrequest _ fun after hcreate ↦ hrows.createMonitor hkept hcreate
  | updateMonitor monitorId payload now =>
    exact hrequest _ fun after hupdate ↦ hrows.updateMonitor hkept hupdate
  | deleteMonitor monitorId => exact hrequest _ fun after hdelete ↦ hrows.deleteMonitor hdelete
  | sweepDueMonitors now batchSize maxBatches healthEnv keepAliveEnv =>
    exact hrows.sweepDueMonitors hkept now batchSize maxBatches healthEnv keepAliveEnv
  | probeTask task monitorId execution => exact hrows.runProbeTask hkept task monitorId execution

/-- What every operation keeps holds of every row after any operations. -/
theorem of_reaches (hkept : IsRowInvariant tables motive) {maxMonitors : ℕ}
    (hreaches : Reaches (serve tables maxMonitors) (fun _ _ ↦ True) Database.empty database) :
    EveryRow motive database := by
  refine hreaches.invariant (motive := EveryRow motive) ?_ ?_
  · exact fun _ _ hget ↦ nomatch hget
  · intro state operation after hrows _ hstep
    obtain rfl := Option.some.inj hstep
    exact hrows.run hkept maxMonitors operation

end EveryRow

/-- Operations leave well-formed rows. -/
theorem isRowInvariant_isWellFormed (tables : UnicodeTables) :
    IsRowInvariant tables IsWellFormed where
  created := fun _ now haccepted _ ↦ IsWellFormed.newMonitor haccepted now
  updated := fun hwell haccepted hcommit ↦ hwell.commitUpdate haccepted hcommit
  rescheduled := fun hwell hchange ↦ hwell.rescheduled hchange
  checked := fun hwell hchecked ↦ hwell.isChecked hchecked

/-- A probe task that fails changes nothing, or keeps the commit of the session that the soft time
limit struck after. -/
theorem runProbeTask_of_taskFailed (task : Task) (monitorId : ℕ) (execution : Execution)
    (database : Database)
    (hfailed : taskFailed (runProbeTask task monitorId execution database).1 = true) :
    (runProbeTask task monitorId execution database).2 = database ∨
      execution.timeLimit = some .afterCommit ∧
        (runProbeTask task monitorId execution database).2 =
          (runSession task monitorId execution database).2 := by
  unfold ProbeTask.runProbeTask at hfailed ⊢
  split at hfailed
  · refine Or.inl (runSession_of_not_completed fun dto hend ↦ ?_)
    rw [hend] at hfailed
    nomatch hfailed
  · split at hfailed
    · exact Or.inl rfl
    · nomatch hfailed
  · rename_i hlimit
    dsimp only at hfailed ⊢
    split at hfailed
    · exact Or.inr ⟨hlimit, rfl⟩
    · nomatch hfailed

/-- What an operation that fails leaves: the database as it was, or the first commit of a probe task
that the soft time limit struck after. -/
def FailureLeaves (database : Database) (operation : Operation) (after : Database) : Prop :=
  after = database ∨
    ∃ task monitorId execution, operation = .probeTask task monitorId execution ∧
      execution.timeLimit = some .afterCommit ∧
      after = (runSession task monitorId execution database).2

/-- What an operation leaves when it fails. -/
theorem run_of_failed {database : Database} {tables : UnicodeTables} {maxMonitors : ℕ}
    {operation : Operation}
    (hfailed : (operation.run tables maxMonitors database).failed = true) :
    FailureLeaves database operation (operation.run tables maxMonitors database).database := by
  have hrequest : ∀ response : Except RequestFailure Database,
      (ofRequest database response).failed = true →
        (ofRequest database response).database = database := by
    intro response hfailed
    cases response with
    | error failure => rfl
    | ok after => exact Bool.noConfusion hfailed
  cases operation with
  | createMonitor payload now skipped => exact Or.inl (hrequest _ hfailed)
  | updateMonitor monitorId payload now => exact Or.inl (hrequest _ hfailed)
  | deleteMonitor monitorId => exact Or.inl (hrequest _ hfailed)
  | sweepDueMonitors now batchSize maxBatches healthEnv keepAliveEnv =>
    exact Bool.noConfusion hfailed
  | probeTask task monitorId execution =>
    rcases runProbeTask_of_taskFailed task monitorId execution database hfailed with
      hsame | ⟨hlimit, hkept⟩
    · exact Or.inl hsame
    · exact Or.inr ⟨task, monitorId, execution, rfl, hlimit, hkept⟩

/-- Every operation leaves well-formed rows. -/
theorem RowsWellFormed.run {database : Database} (hrows : RowsWellFormed database)
    (tables : UnicodeTables) (maxMonitors : ℕ) (operation : Operation) :
    RowsWellFormed (operation.run tables maxMonitors database).database :=
  EveryRow.run hrows (isRowInvariant_isWellFormed tables) maxMonitors operation

/-- Every monitor stored after any operations is schedulable. An operation that fails leaves the
database as it was, up to the first commit of a probe task. -/
theorem schedulable_of_reaches {tables : UnicodeTables} {maxMonitors : ℕ} {database : Database}
    (hreaches : Reaches (serve tables maxMonitors) (fun _ _ ↦ True) Database.empty database) :
    (∀ monitorId monitor, database.monitors.get monitorId = some monitor → Schedulable monitor) ∧
      ∀ operation : Operation, (operation.run tables maxMonitors database).failed = true →
        FailureLeaves database operation
          (operation.run tables maxMonitors database).database := by
  have hrows := EveryRow.of_reaches (isRowInvariant_isWellFormed tables) hreaches
  exact ⟨fun monitorId monitor hget ↦ (hrows monitorId monitor hget).schedulable,
    fun _ ↦ run_of_failed⟩

/-- A payload for a monitor with keep-alive requests. -/
def sampleCreate : MonitorCreate where
  name := "site".toList
  url := ⟨"https://example.com/".toList, "https".toList, none, none, some "example.com".toList⟩
  checkIntervalSeconds := 60
  mode := .monitorAndKeepAlive
  keepAliveEnabled := true
  keepAliveIntervalSeconds := some 60
  keepAlivePath := none

/-- A monitor is created, swept while the broker is down, checked, and told to stop its keep-alive
requests. -/
def sampleOperations : List Operation :=
  [.createMonitor sampleCreate 0 0,
    .sweepDueMonitors 5 1 1 ⟨fun _ _ ↦ 0, fun _ ↦ false, true⟩ ⟨fun _ _ ↦ 0, fun _ ↦ false, false⟩,
    .probeTask .executePing 1
      ⟨6, 0, fun _ ↦ some ⟨.up, some 200, none, none, [], none⟩, true, none, 6, true⟩,
    .updateMonitor 1 ⟨.omitted, .omitted, .omitted, .value false, .omitted, .omitted⟩ 7]

/-- The monitor is schedulable after these operations. -/
theorem schedulable_sampleOperations : ∃ database,
    run (serve UnicodeTables.caseless 100) Database.empty sampleOperations = some database ∧
      (database.monitors.get 1).map Monitor.nextCheckAt = some (some 5) ∧
      ∀ monitorId monitor, database.monitors.get monitorId = some monitor →
        Schedulable monitor := by
  have hnext : (run (serve UnicodeTables.caseless 100) Database.empty sampleOperations).map
      (fun database ↦ (database.monitors.get 1).map Monitor.nextCheckAt) =
        some (some (some 5)) := by rfl
  obtain ⟨database, hrun, hget⟩ := Option.map_eq_some_iff.mp hnext
  have hreaches : Reaches (serve UnicodeTables.caseless 100) (fun _ _ ↦ True) Database.empty
      database := reaches_of_run .start (fun _ _ _ ↦ trivial) hrun
  exact ⟨database, hrun, hget, (schedulable_of_reaches hreaches).1⟩

/-- The soft time limit strikes after the commit of a health check, and the recovery fails. -/
def lateFailure : Operation :=
  .probeTask .executePing 1
    ⟨6, 0, fun _ ↦ some ⟨.up, some 200, none, none, [], none⟩, true, some .afterCommit, 7, false⟩

/-- The database after one creation. -/
def createdDatabase : Database :=
  ((Operation.createMonitor sampleCreate 0 0).run UnicodeTables.caseless 100
    Database.empty).database

/-- What a task that fails after its first commit leaves: a changed row and a stored result. -/
theorem failed_task_keeps_first_commit :
    Reaches (serve UnicodeTables.caseless 100) (fun _ _ ↦ True) Database.empty createdDatabase ∧
      (lateFailure.run UnicodeTables.caseless 100 createdDatabase).failed = true ∧
      (createdDatabase.monitors.get 1).map (fun monitor ↦ (monitor.status, monitor.lastCheckedAt)) =
        some (.pending, none) ∧
      ((lateFailure.run UnicodeTables.caseless 100 createdDatabase).database.monitors.get 1).map
          (fun monitor ↦ (monitor.status, monitor.lastCheckedAt)) = some (.up, some 6) ∧
      createdDatabase.pingResults.rows.length = 0 ∧
      (lateFailure.run UnicodeTables.caseless 100 createdDatabase).database.pingResults.rows.length
        = 1 := by
  have hcreate : serve UnicodeTables.caseless 100 Database.empty (.createMonitor sampleCreate 0 0) =
      some createdDatabase := rfl
  exact ⟨.step .start trivial hcreate, by rfl, by rfl, by rfl, by rfl, by rfl⟩

end PingGuard.Lifecycle
