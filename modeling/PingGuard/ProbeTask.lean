import PingGuard.Models
import PingGuard.Net.Bridges

/-!
# Probe tasks

`_run_probe_task` of `app/tasks.py`, which `execute_ping` and `execute_keep_alive` share. A run
loads the monitor, probes without holding the row, and commits what it found: the result row and,
for a health check, the status and the time of the check. A transient error rolls this back and
schedules a retry. Where the soft time limit strikes, a second session records that instead.

`flushStatus` and `commitResult` are the writes of one session. `runProbeTask` puts a run together
with nothing else running.
-/

set_option autoImplicit false
set_option relaxedAutoImplicit false

namespace PingGuard.ProbeTask

open Library.SerialTable Models Net Status

/-! ### The two tasks -/

/-- The tasks that run a probe. -/
inductive Task
  | executePing
  | executeKeepAlive
  deriving DecidableEq

namespace Task

/-- `check_type`. -/
def checkType : Task → CheckType
  | executePing => .monitor
  | executeKeepAlive => .keepAlive

/-- `update_monitor_status`. -/
def updatesMonitorStatus : Task → Bool
  | executePing => true
  | executeKeepAlive => false

/-- `gatekeeper`: whether a loaded monitor is probed. -/
def admits : Task → Monitor → Bool
  | executePing, _ => true
  | executeKeepAlive, monitor => monitor.keepAliveEnabled

end Task

/-- `probe` of a task: the bridge that it calls for a loaded monitor. -/
def probeOf (env : ProbeEnv) (http : HttpSettings) (task : Task) (monitor : Monitor) :
    Net.ProbeRun :=
  match task with
  | .executePing => robustPing env http false monitor.url
  | .executeKeepAlive => robustKeepAlive env http false monitor.url monitor.keepAlivePath

/-- The probe of a task reports no soft time limit of it. -/
theorem probeOf_ne_taskSoftTimeLimit {env : ProbeEnv} {http : HttpSettings} {task : Task}
    {monitor : Monitor} {dto : PingResultDTO}
    (hprobe : (probeOf env http task monitor).result = .ok dto) :
    dto.errorDetail ≠ some .taskSoftTimeLimit := by
  cases task with
  | executePing => exact performHttpProbe_ne_taskSoftTimeLimit hprobe
  | executeKeepAlive => exact performHttpProbe_ne_taskSoftTimeLimit hprobe

/-- `TRANSIENT_ERRORS`. -/
def transientErrors : List ErrorDetail :=
  [.connectTimeout, .readTimeout, .writeTimeout, .poolTimeout, .totalTimeout, .connectError]

/-- `max_retries` of both tasks. -/
def maxRetries : ℕ := 3

/-- Whether a retry is scheduled after a probe. -/
def isRetried (retries : ℕ) (dto : PingResultDTO) : Bool :=
  dto.errorDetail.any (· ∈ transientErrors) && retries < maxRetries

/-! ### The writes of a session -/

/-- The row after the flush of a status and a time of check. -/
def flushStatus (outcome : PingOutcome) (now : ℤ) (loaded stored : Monitor) : Monitor :=
  { stored with
    status := flushColumn loaded.status (outcomeToStatus outcome) stored.status
    lastCheckedAt := flushColumn loaded.lastCheckedAt (some now) stored.lastCheckedAt }

/-- The row after the flush of a probe: only a health check writes the monitor. -/
def flushProbe (task : Task) (outcome : PingOutcome) (now : ℤ) (loaded stored : Monitor) :
    Monitor :=
  if task.updatesMonitorStatus then flushStatus outcome now loaded stored else stored

/-- A health check writes the monitor. -/
theorem flushProbe_executePing (outcome : PingOutcome) (now : ℤ) (loaded : Monitor) :
    flushProbe .executePing outcome now loaded = flushStatus outcome now loaded :=
  funext fun _ ↦ if_pos rfl

/-- A keep-alive request leaves the monitor as it is. -/
theorem flushProbe_executeKeepAlive (outcome : PingOutcome) (now : ℤ) (loaded stored : Monitor) :
    flushProbe .executeKeepAlive outcome now loaded stored = stored := if_neg nofun

/-- `save_ping_result` of a probe. -/
def probeResult (task : Task) (monitorId : ℕ) (dto : PingResultDTO) (now : ℤ) : PingResult where
  monitorId := monitorId
  checkType := task.checkType
  statusCode := dto.statusCode
  latencyMs := dto.latencyMs
  error := dto.errorDetail
  checkedAt := now
  outcome := dto.outcome

/-- `save_ping_result` of a run that the soft time limit stopped. -/
def timeLimitResult (task : Task) (monitorId : ℕ) (now : ℤ) : PingResult where
  monitorId := monitorId
  checkType := task.checkType
  statusCode := none
  latencyMs := none
  error := some .taskSoftTimeLimit
  checkedAt := now
  outcome := .down

/-- The commit of a changed row and a result. It fails when the monitor is gone: the result refers
to it. -/
def commitResult (rewrite : Monitor → Monitor) (result : PingResult) (database : Database) :
    Option Database :=
  match database.monitors.get result.monitorId with
  | none => none
  | some _ => some
    { monitors := database.monitors.modify result.monitorId rewrite
      pingResults := database.pingResults.insert result }

/-! ### A run -/

/-- Where the soft time limit strikes: before the commit of the first session takes effect, or
after. -/
inductive TimeLimit
  | beforeCommit
  | afterCommit

/-- What a run meets: the clock, the retries before it, the probe (nothing is an exception that
escapes it), whether the commits succeed, and the soft time limit. -/
structure Execution where
  now : ℤ
  retries : ℕ
  probe : Monitor → Option PingResultDTO
  commits : Bool
  timeLimit : Option TimeLimit
  recoveryNow : ℤ
  recoveryCommits : Bool

/-- How a run ends: with one of its results, with a retry, or with an exception, which may also come
after a commit. -/
inductive TaskEnd
  | notFound
  | skipped
  | missingUrl
  | completed (dto : PingResultDTO)
  | timedOut
  | retried (countdown : ℕ)
  | raised
  | raisedAfterCommit
  deriving DecidableEq

/-- The first session of a run. -/
def runSession (task : Task) (monitorId : ℕ) (execution : Execution) (database : Database) :
    TaskEnd × Database :=
  match database.monitors.get monitorId with
  | none => (.notFound, database)
  | some loaded =>
    if ¬ task.admits loaded then (.skipped, database)
    else if loaded.url = [] then (.missingUrl, database)
    else
      match execution.probe loaded with
      | none => (.raised, database)
      | some dto =>
        if isRetried execution.retries dto then (.retried (2 ^ execution.retries), database)
        else if ¬ execution.commits then (.raised, database)
        else
          match commitResult (flushProbe task dto.outcome execution.now loaded)
            (probeResult task monitorId dto execution.now) database with
          | none => (.raised, database)
          | some after => (.completed dto, after)

/-- The session after the soft time limit. It sets the status for both tasks. -/
def recoverTimeLimit (task : Task) (monitorId : ℕ) (execution : Execution) (database : Database) :
    Option Database :=
  match database.monitors.get monitorId with
  | none => none
  | some loaded =>
    if execution.recoveryCommits then
      commitResult (flushStatus .down execution.recoveryNow loaded)
        (timeLimitResult task monitorId execution.recoveryNow) database
    else none

/-- `_run_probe_task`, with nothing else running. -/
def runProbeTask (task : Task) (monitorId : ℕ) (execution : Execution) (database : Database) :
    TaskEnd × Database :=
  match execution.timeLimit with
  | none => runSession task monitorId execution database
  | some .beforeCommit =>
    match recoverTimeLimit task monitorId execution database with
    | none => (.raised, database)
    | some after => (.timedOut, after)
  | some .afterCommit =>
    let committed := (runSession task monitorId execution database).2
    match recoverTimeLimit task monitorId execution committed with
    | none => (.raisedAfterCommit, committed)
    | some after => (.timedOut, after)

/-- What the probe of a run returns, if the run gets to it. -/
def Execution.returned (task : Task) (monitorId : ℕ) (execution : Execution)
    (database : Database) : Option PingResultDTO :=
  match database.monitors.get monitorId with
  | none => none
  | some loaded =>
    if task.admits loaded ∧ loaded.url ≠ [] then execution.probe loaded else none

/-- A run gets to its probe: the monitor is there, it is admitted, and it has a URL. -/
structure GetsToProbe (task : Task) (monitorId : ℕ) (database : Database) (loaded : Monitor) :
    Prop where
  get : database.monitors.get monitorId = some loaded
  admits : task.admits loaded = true
  url : loaded.url ≠ []

/-- The probe of a run that gets to it. -/
theorem GetsToProbe.returned_eq {task : Task} {monitorId : ℕ} {database : Database}
    {loaded : Monitor} (hgets : GetsToProbe task monitorId database loaded)
    (execution : Execution) :
    execution.returned task monitorId database = execution.probe loaded := by
  unfold Execution.returned
  rw [hgets.get]
  exact if_pos ⟨hgets.admits, hgets.url⟩

/-- The first session of a run that gets to its probe. -/
theorem GetsToProbe.runSession_eq {task : Task} {monitorId : ℕ} {database : Database}
    {loaded : Monitor} (hgets : GetsToProbe task monitorId database loaded)
    {execution : Execution} {dto : PingResultDTO} (hprobe : execution.probe loaded = some dto) :
    runSession task monitorId execution database =
      if isRetried execution.retries dto then (.retried (2 ^ execution.retries), database)
      else if ¬ execution.commits then (.raised, database)
      else (.completed dto,
        { monitors := database.monitors.modify monitorId
            (flushProbe task dto.outcome execution.now loaded)
          pingResults := database.pingResults.insert
            (probeResult task monitorId dto execution.now) }) := by
  unfold runSession commitResult
  simp only [hgets.get, if_neg (not_not_intro hgets.admits), if_neg hgets.url, hprobe, probeResult]

/-- A run gets to its probe, or its first session ends before that. -/
theorem getsToProbe_or (task : Task) (monitorId : ℕ) (execution : Execution)
    (database : Database) :
    (∃ loaded, GetsToProbe task monitorId database loaded) ∨
      execution.returned task monitorId database = none ∧
        ∃ taskEnd, (∀ dto, taskEnd ≠ .completed dto) ∧
          runSession task monitorId execution database = (taskEnd, database) := by
  unfold Execution.returned runSession
  cases hget : database.monitors.get monitorId with
  | none => exact Or.inr ⟨rfl, .notFound, fun _ ↦ TaskEnd.noConfusion, rfl⟩
  | some loaded =>
    dsimp only
    by_cases hadmits : ¬ task.admits loaded = true
    · rw [if_neg fun h ↦ hadmits h.1, if_pos hadmits]
      exact Or.inr ⟨rfl, .skipped, fun _ ↦ TaskEnd.noConfusion, rfl⟩
    by_cases hurl : loaded.url = []
    · rw [if_neg fun h ↦ h.2 hurl, if_neg hadmits, if_pos hurl]
      exact Or.inr ⟨rfl, .missingUrl, fun _ ↦ TaskEnd.noConfusion, rfl⟩
    · exact Or.inl ⟨loaded, hget, not_not.mp hadmits, hurl⟩

/-- A first session that completes: its probe returned, no retry is scheduled, and the commit
succeeds. -/
structure Completes (task : Task) (monitorId : ℕ) (execution : Execution) (database : Database)
    (loaded : Monitor) (dto : PingResultDTO) : Prop where
  gets : GetsToProbe task monitorId database loaded
  probe : execution.probe loaded = some dto
  notRetried : isRetried execution.retries dto = false
  commits : execution.commits = true

/-- What a first session that completes commits. -/
theorem Completes.runSession_eq {task : Task} {monitorId : ℕ} {execution : Execution}
    {database : Database} {loaded : Monitor} {dto : PingResultDTO}
    (hdone : Completes task monitorId execution database loaded dto) :
    runSession task monitorId execution database = (.completed dto,
      { monitors := database.monitors.modify monitorId
          (flushProbe task dto.outcome execution.now loaded)
        pingResults := database.pingResults.insert
          (probeResult task monitorId dto execution.now) }) := by
  rw [hdone.gets.runSession_eq hdone.probe, if_neg (ne_true_of_eq_false hdone.notRetried),
    if_neg (not_not_intro hdone.commits)]

/-- A first session completes, or leaves the database. -/
theorem runSession_cases (task : Task) (monitorId : ℕ) (execution : Execution)
    (database : Database) :
    (∃ loaded dto, Completes task monitorId execution database loaded dto) ∨
      (∀ dto, (runSession task monitorId execution database).1 ≠ .completed dto) ∧
        (runSession task monitorId execution database).2 = database := by
  rcases getsToProbe_or task monitorId execution database with ⟨loaded, hgets⟩ |
    ⟨-, taskEnd, hend, hrun⟩
  · cases hprobe : execution.probe loaded with
    | none =>
      have hrun : runSession task monitorId execution database = (.raised, database) := by
        unfold runSession
        simp only [hgets.get, if_neg (not_not_intro hgets.admits), if_neg hgets.url, hprobe]
      rw [hrun]
      exact Or.inr ⟨fun _ ↦ TaskEnd.noConfusion, rfl⟩
    | some dto =>
      have hrun := hgets.runSession_eq hprobe
      by_cases hretried : isRetried execution.retries dto = true
      · rw [hrun, if_pos hretried]
        exact Or.inr ⟨fun _ ↦ TaskEnd.noConfusion, rfl⟩
      by_cases hcommits : ¬ execution.commits = true
      · rw [hrun, if_neg hretried, if_pos hcommits]
        exact Or.inr ⟨fun _ ↦ TaskEnd.noConfusion, rfl⟩
      · exact Or.inl ⟨loaded, dto, hgets, hprobe, eq_false_of_ne_true hretried,
          not_not.mp hcommits⟩
  · rw [hrun]
    exact Or.inr ⟨hend, rfl⟩

/-- A first session that does not complete leaves the database. -/
theorem runSession_of_not_completed {task : Task} {monitorId : ℕ} {execution : Execution}
    {database : Database}
    (hend : ∀ dto, (runSession task monitorId execution database).1 ≠ .completed dto) :
    (runSession task monitorId execution database).2 = database := by
  rcases runSession_cases task monitorId execution database with ⟨_, dto, hdone⟩ | ⟨-, hsame⟩
  · exact absurd (congrArg Prod.fst hdone.runSession_eq) (hend dto)
  · exact hsame

/-- The database when a run recovers from the soft time limit. -/
def Execution.beforeRecovery (task : Task) (monitorId : ℕ) (execution : Execution)
    (database : Database) : Database :=
  match execution.timeLimit with
  | some .afterCommit => (runSession task monitorId execution database).2
  | _ => database

/-- What a run leaves that the soft time limit has stopped. -/
theorem runProbeTask_of_timeLimit {task : Task} {monitorId : ℕ} (execution : Execution)
    {database : Database} (hlimit : execution.timeLimit ≠ none) :
    (runProbeTask task monitorId execution database).2 =
      (recoverTimeLimit task monitorId execution
        (execution.beforeRecovery task monitorId database)).getD
          (execution.beforeRecovery task monitorId database) := by
  unfold runProbeTask Execution.beforeRecovery
  cases htimeLimit : execution.timeLimit with
  | none => exact absurd htimeLimit hlimit
  | some timeLimit =>
    cases timeLimit with
    | beforeCommit =>
      dsimp only
      cases recoverTimeLimit task monitorId execution database <;> rfl
    | afterCommit =>
      dsimp only
      cases recoverTimeLimit task monitorId execution
        (runSession task monitorId execution database).2 <;> rfl

/-! ### What a run writes -/

/-- Whether a row is the other with nothing but its status and the time of its last check changed.
-/
def IsChecked (before after : Monitor) : Prop :=
  ∃ status lastCheckedAt,
    after = { before with status := status, lastCheckedAt := lastCheckedAt }

theorem IsChecked.refl (monitor : Monitor) : IsChecked monitor monitor :=
  ⟨monitor.status, monitor.lastCheckedAt, rfl⟩

theorem IsChecked.trans {before middle after : Monitor} (hfirst : IsChecked before middle)
    (hsecond : IsChecked middle after) : IsChecked before after := by
  obtain ⟨_, _, rfl⟩ := hfirst
  obtain ⟨status, lastCheckedAt, rfl⟩ := hsecond
  exact ⟨status, lastCheckedAt, rfl⟩

theorem isChecked_flushStatus (outcome : PingOutcome) (now : ℤ) (loaded stored : Monitor) :
    IsChecked stored (flushStatus outcome now loaded stored) := ⟨_, _, rfl⟩

theorem isChecked_flushProbe (task : Task) (outcome : PingOutcome) (now : ℤ)
    (loaded stored : Monitor) : IsChecked stored (flushProbe task outcome now loaded stored) := by
  unfold flushProbe
  split_ifs
  · exact isChecked_flushStatus outcome now loaded stored
  · exact IsChecked.refl stored

/-- The rows of a database are those of another, checked or not. -/
def ChecksRows (before after : Database) : Prop :=
  ∀ monitorId later, after.monitors.get monitorId = some later →
    ∃ earlier, before.monitors.get monitorId = some earlier ∧ IsChecked earlier later

theorem ChecksRows.refl (database : Database) : ChecksRows database database :=
  fun _ later hget ↦ ⟨later, hget, IsChecked.refl later⟩

theorem ChecksRows.trans {before middle after : Database} (hfirst : ChecksRows before middle)
    (hsecond : ChecksRows middle after) : ChecksRows before after := by
  intro monitorId later hget
  obtain ⟨between, hbetween, hlater⟩ := hsecond monitorId later hget
  obtain ⟨earlier, hearlier, hchecked⟩ := hfirst monitorId between hbetween
  exact ⟨earlier, hearlier, hchecked.trans hlater⟩

/-- What a commit of a session leaves. -/
theorem commitResult_eq_some_iff {rewrite : Monitor → Monitor} {result : PingResult}
    {database after : Database} :
    commitResult rewrite result database = some after ↔
      database.monitors.get result.monitorId ≠ none ∧ after =
        { monitors := database.monitors.modify result.monitorId rewrite
          pingResults := database.pingResults.insert result } := by
  unfold commitResult
  cases database.monitors.get result.monitorId with
  | none => simp
  | some stored => simp [eq_comm]

/-- The commit of a session checks one row. -/
theorem checksRows_modify {rewrite : Monitor → Monitor} {database : Database}
    (hrewrite : ∀ stored, IsChecked stored (rewrite stored)) (monitorId : ℕ)
    (results : Table PingResult) :
    ChecksRows database ⟨database.monitors.modify monitorId rewrite, results⟩ := by
  intro otherId later hget
  rw [Table.get_modify] at hget
  split_ifs at hget with hkey
  · obtain ⟨stored, hstored, rfl⟩ := Option.map_eq_some_iff.mp hget
    exact ⟨stored, hstored, hrewrite stored⟩
  · exact ⟨later, hget, IsChecked.refl later⟩

theorem checksRows_runSession (task : Task) (monitorId : ℕ) (execution : Execution)
    (database : Database) :
    ChecksRows database (runSession task monitorId execution database).2 := by
  rcases runSession_cases task monitorId execution database with ⟨_, _, hdone⟩ | ⟨-, hsame⟩
  · rw [hdone.runSession_eq]
    exact checksRows_modify (isChecked_flushProbe _ _ _ _) _ _
  · rw [hsame]
    exact ChecksRows.refl database

theorem checksRows_recoverTimeLimit {task : Task} {monitorId : ℕ} {execution : Execution}
    {database after : Database}
    (hrecover : recoverTimeLimit task monitorId execution database = some after) :
    ChecksRows database after := by
  unfold recoverTimeLimit at hrecover
  split at hrecover
  · nomatch hrecover
  · split_ifs at hrecover
    obtain ⟨-, rfl⟩ := commitResult_eq_some_iff.mp hrecover
    exact checksRows_modify (isChecked_flushStatus _ _ _) _ _

/-- A probe task changes nothing of the rows but statuses and times of checks. -/
theorem checksRows_runProbeTask (task : Task) (monitorId : ℕ) (execution : Execution)
    (database : Database) :
    ChecksRows database (runProbeTask task monitorId execution database).2 := by
  have hsession := checksRows_runSession task monitorId execution database
  unfold runProbeTask
  split
  · exact hsession
  · split
    · exact ChecksRows.refl database
    · rename_i after hrecover
      exact checksRows_recoverTimeLimit hrecover
  · dsimp only
    split
    · exact hsession
    · rename_i after hrecover
      exact hsession.trans (checksRows_recoverTimeLimit hrecover)

end PingGuard.ProbeTask
