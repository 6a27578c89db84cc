import PingGuard.Api
import PingGuard.ProbeTask

/-!
# A task and a request on one monitor

One run of `_run_probe_task` and one request on the same monitor, `update_monitor` or
`delete_monitor`, in any interleaving. A turn of a process is what it does between two moments at
which the other one, or the soft time limit, may come in: it loads the row, it computes something of
its own, or it commits. Nothing else writes the monitor meanwhile.

The soft time limit strikes at most once, at any moment before the task has returned. Where the row
of the monitor is gone, a flush that refers to it fails.

`run_task`, `run_update` and `run_delete` say that a process whose turns are not interrupted does
what `runProbeTask`, `updateMonitor` and `deleteMonitor` do.
-/

set_option autoImplicit false
set_option relaxedAutoImplicit false

namespace PingGuard.Overlap

open Library.PyText Library.SerialTable Api Models Net ProbeTask Schemas

/-! ### What the processes meet -/

/-- The probe functions of the worker. -/
structure Probes where
  robustPing : PyStr → PingResultDTO
  robustKeepAlive : PyStr → Option PyStr → PingResultDTO

/-- `probe` of a task. -/
def Probes.probe (probes : Probes) : Task → Monitor → PingResultDTO
  | .executePing, monitor => probes.robustPing monitor.url
  | .executeKeepAlive, monitor => probes.robustKeepAlive monitor.url monitor.keepAlivePath

/-- The request. -/
inductive Request
  | update (payload : MonitorUpdate) (now : ℤ)
  | delete

/-- The task, its monitor and what both processes meet. -/
structure Scenario where
  task : Task
  monitorId : ℕ
  retries : ℕ
  now : ℤ
  recoveryNow : ℤ
  probes : Probes
  request : Request

/-- What the task meets when nothing else runs. -/
def Scenario.execution (scenario : Scenario) : Execution where
  now := scenario.now
  retries := scenario.retries
  probe := fun monitor ↦ some (scenario.probes.probe scenario.task monitor)
  commits := true
  timeLimit := none
  recoveryNow := scenario.recoveryNow
  recoveryCommits := true

/-- A health check of monitor 1 that finds it up. -/
def upScenario (request : Request) : Scenario where
  task := .executePing
  monitorId := 1
  retries := 0
  now := 10
  recoveryNow := 20
  probes :=
    { robustPing := fun url ↦ ⟨.up, some 200, some 12, none, url, some url⟩
      robustKeepAlive := fun url _ ↦ ⟨.up, some 200, some 12, none, url, some url⟩ }
  request := request

/-! ### The state -/

/-- Where the task stands: before its first session; with a row to probe; with a result to commit;
past the session, committed or rolled back, and about to return or raise; after the soft time limit,
without or with what the second session has loaded; or at its end. -/
inductive TaskStage
  | ready
  | loaded (monitor : Monitor)
  | probed (monitor : Monitor) (dto : PingResultDTO)
  | leaving (taskEnd : TaskEnd)
  | timeLimited
  | recovering (monitor : Option Monitor)
  | ended (taskEnd : TaskEnd)

/-- Where the request stands. -/
inductive RequestStage
  | ready
  | loaded (monitor : Monitor)
  | validated (monitor : Monitor) (draft : Draft)
  | answered (statusCode : ℕ)

/-- The database and the two processes. -/
structure State where
  database : Database
  task : TaskStage
  request : RequestStage

/-- Neither process has started. -/
def State.start (database : Database) : State := ⟨database, .ready, .ready⟩

/-! ### The turns of the task -/

/-- The next turn of the task. -/
def taskTurn (scenario : Scenario) (database : Database) : TaskStage → TaskStage × Database
  | .ready =>
    match database.monitors.get scenario.monitorId with
    | none => (.leaving .notFound, database)
    | some monitor =>
      if ¬ scenario.task.admits monitor then (.leaving .skipped, database)
      else if monitor.url = [] then (.leaving .missingUrl, database)
      else (.loaded monitor, database)
  | .loaded monitor =>
    let dto := scenario.probes.probe scenario.task monitor
    if isRetried scenario.retries dto then
      (.leaving (.retried (2 ^ scenario.retries)), database)
    else (.probed monitor dto, database)
  | .probed monitor dto =>
    match commitResult (flushProbe scenario.task dto.outcome scenario.now monitor)
      (probeResult scenario.task scenario.monitorId dto scenario.now) database with
    | none => (.leaving .raised, database)
    | some after => (.leaving (.completed dto), after)
  | .leaving taskEnd => (.ended taskEnd, database)
  | .timeLimited => (.recovering (database.monitors.get scenario.monitorId), database)
  | .recovering loaded =>
    -- without a row no attribute is set, and the result is still added
    let rewrite := match loaded with
      | none => id
      | some monitor => flushStatus .down scenario.recoveryNow monitor
    match commitResult rewrite
      (timeLimitResult scenario.task scenario.monitorId scenario.recoveryNow) database with
    | none => (.ended .raised, database)
    | some after => (.ended .timedOut, after)
  | .ended taskEnd => (.ended taskEnd, database)

/-- The soft time limit strikes, unless it has struck already or the task has ended. -/
def TaskStage.strike : TaskStage → TaskStage
  | .ready | .loaded _ | .probed _ _ | .leaving _ => .timeLimited
  | stage => stage

/-! ### The turns of the request -/

/-- The next turn of `update_monitor`. -/
def updateTurn (monitorId : ℕ) (payload : MonitorUpdate) (now : ℤ) (database : Database) :
    RequestStage → RequestStage × Database
  | .ready =>
    if ¬ payload.isAccepted then (.answered RequestFailure.unprocessable.statusCode, database)
    else
      match database.monitors.get monitorId with
      | none => (.answered RequestFailure.notFound.statusCode, database)
      | some loaded => (.loaded loaded, database)
  | .loaded loaded =>
    match draftUpdate loaded payload now with
    | .error failure => (.answered failure.statusCode, database)
    | .ok draft => (.validated loaded draft, database)
  | .validated loaded draft =>
    match (database.monitors.get monitorId).bind (draft.flush loaded) with
    | none => (.answered RequestFailure.serverError.statusCode, database)
    | some monitor =>
      (.answered 200,
        { database with monitors := database.monitors.modify monitorId fun _ ↦ monitor })
  | .answered statusCode => (.answered statusCode, database)

/-- The next turn of `delete_monitor`. -/
def deleteTurn (monitorId : ℕ) (database : Database) : RequestStage → RequestStage × Database
  | .ready =>
    match database.monitors.get monitorId with
    | none => (.answered RequestFailure.notFound.statusCode, database)
    | some loaded => (.loaded loaded, database)
  | .loaded _ => (.answered 204, database.deleteMonitor monitorId)
  | stage => (stage, database)

/-- The next turn of the request. -/
def requestTurn (scenario : Scenario) (database : Database) (stage : RequestStage) :
    RequestStage × Database :=
  match scenario.request with
  | .update payload now => updateTurn scenario.monitorId payload now database stage
  | .delete => deleteTurn scenario.monitorId database stage

/-! ### Interleavings -/

/-- Whose turn it is. -/
inductive Turn
  | task
  | timeLimit
  | request
  deriving DecidableEq

/-- A turn. -/
def turn (scenario : Scenario) (state : State) : Turn → State
  | .task =>
    let after := taskTurn scenario state.database state.task
    { state with task := after.1, database := after.2 }
  | .timeLimit => { state with task := state.task.strike }
  | .request =>
    let after := requestTurn scenario state.database state.request
    { state with request := after.1, database := after.2 }

/-- The state after a schedule. -/
def run (scenario : Scenario) (state : State) (schedule : List Turn) : State :=
  schedule.foldl (turn scenario) state

/-! ### Processes that are not interrupted -/

/-- A task that is not interrupted ends after four turns as `runProbeTask` does. -/
theorem run_task (scenario : Scenario) (database : Database) (request : RequestStage) :
    run scenario ⟨database, .ready, request⟩ (List.replicate 4 .task) =
      ⟨(runProbeTask scenario.task scenario.monitorId scenario.execution database).2,
        .ended (runProbeTask scenario.task scenario.monitorId scenario.execution database).1,
        request⟩ := by
  have hrun : runProbeTask scenario.task scenario.monitorId scenario.execution database =
      runSession scenario.task scenario.monitorId scenario.execution database := rfl
  rw [hrun]
  unfold run runSession
  simp only [List.replicate, List.foldl, turn]
  cases hget : database.monitors.get scenario.monitorId with
  | none => simp only [taskTurn, hget]
  | some monitor =>
    by_cases hadmits : scenario.task.admits monitor = true
    · by_cases hurl : monitor.url = []
      · simp [taskTurn, hget, hadmits, hurl]
      · by_cases hretried :
          isRetried scenario.retries (scenario.probes.probe scenario.task monitor) = true
        · simp [taskTurn, hget, hadmits, hurl, hretried, Scenario.execution]
        · simp [taskTurn, hget, hadmits, hurl, hretried, Scenario.execution, commitResult,
            probeResult]
    · simp [taskTurn, hget, hadmits]

/-- An update that is not interrupted is answered after three turns as `updateMonitor` says. -/
theorem run_update {payload : MonitorUpdate} {now : ℤ} {scenario : Scenario}
    (hrequest : scenario.request = .update payload now) (database : Database) (task : TaskStage) :
    run scenario ⟨database, task, .ready⟩ (List.replicate 3 .request) =
      match updateMonitor database scenario.monitorId payload now with
      | .error failure => ⟨database, task, .answered failure.statusCode⟩
      | .ok after => ⟨after, task, .answered 200⟩ := by
  unfold run updateMonitor
  simp only [List.replicate, List.foldl, turn, requestTurn, hrequest]
  by_cases haccepted : payload.isAccepted = true
  · cases hget : database.monitors.get scenario.monitorId with
    | none => simp [updateTurn, haccepted, hget]
    | some loaded =>
      unfold commitUpdate
      cases hdraft : draftUpdate loaded payload now with
      | error failure => simp [updateTurn, haccepted, hget, hdraft]
      | ok draft =>
        cases hflush : draft.flush loaded loaded with
        | none => simp [updateTurn, haccepted, hget, hdraft, hflush]
        | some monitor => simp [updateTurn, haccepted, hget, hdraft, hflush]
  · simp [updateTurn, haccepted]

/-- A deletion that is not interrupted is answered after two turns as `deleteMonitor` says. -/
theorem run_delete {scenario : Scenario} (hrequest : scenario.request = .delete)
    (database : Database) (task : TaskStage) :
    run scenario ⟨database, task, .ready⟩ (List.replicate 2 .request) =
      match deleteMonitor database scenario.monitorId with
      | .error failure => ⟨database, task, .answered failure.statusCode⟩
      | .ok after => ⟨after, task, .answered 204⟩ := by
  unfold run deleteMonitor
  simp only [List.replicate, List.foldl, turn, requestTurn, hrequest]
  cases hget : database.monitors.get scenario.monitorId with
  | none => simp [deleteTurn, hget]
  | some loaded => simp [deleteTurn, hget]

end PingGuard.Overlap
