import PingGuard.Api
import PingGuard.Library.Transition
import PingGuard.ProbeTask
import PingGuard.Sweep

/-!
# The concurrent system

Requests, sweeps and probe tasks over one database, in any interleaving of their transactions. A
process holds what its code has read so far. A step is a transaction or a part of one, a call of the
broker, or the end of a process. The functions that compute what is written are those of the
sequential model; here they get a row as it was loaded and the row as it is stored at the commit.

The `INSERT` of a monitor is a step of its own before the commit, since it takes the id, and pages
are ordered by the ids. A result gets its id at the commit, since nothing that is read of results
depends on the order of their ids.

The isolation is `READ COMMITTED`: a statement sees what is committed before it, and a write waits
for a lock. Only the selection of a batch locks rows (`FOR UPDATE SKIP LOCKED`), until its claim is
committed. Which of the due rows a selection returns is left open: concurrent sweeps skip each
other's rows, and the order among the others plays no part here.

`writes` and `dispatches` are no part of the system. They record, newest first, who wrote a schedule
column and what was handed to the broker, so that properties can speak about it.
-/

set_option autoImplicit false
set_option relaxedAutoImplicit false

namespace PingGuard.Concurrent

open Library.PyText Library.SerialTable Models Net ProbeTask Schemas Status Sweep

/-! ### Processes -/

/-- Where a phase of a sweep stands: before a batch; with rows locked and read; with claimed items
that are left to hand to the broker; or with items to reset after the broker failed. -/
inductive SweepStage
  | ready
  | selected (batch : List (ℕ × Monitor))
  | dispatching (items : List (ℕ × ℤ))
  | recovering (items : List (ℕ × ℤ))

/-- A run of `sweep_due_monitors`. Its clock is read once. -/
structure SweepRun where
  now : ℤ
  batchSize : ℕ
  maxBatches : ℕ
  schedule : Schedule
  batchesLeft : ℕ
  stage : SweepStage

/-- Where a probe task stands: in its first session, after the commit of that, or in the session
after the soft time limit. -/
inductive ProbeStage
  | probing
  | committed
  | timeLimited
  deriving DecidableEq

/-- A run of `_run_probe_task` after it loaded the monitor. -/
structure ProbeRun where
  task : Task
  monitorId : ℕ
  now : ℤ
  loaded : Monitor
  stage : ProbeStage

/-- A row that `create_monitor` has inserted. -/
structure NewRow where
  payload : MonitorCreate
  now : ℤ
  fits : (Api.newMonitor payload now).fitsColumns = true

/-- The row. -/
def NewRow.monitor (row : NewRow) : Monitor := Api.newMonitor row.payload row.now

/-- A process between two of its steps. A creation has counted the rows, or has inserted its row
under an id and not committed it yet. -/
inductive Process
  | sweep (run : SweepRun)
  | update (monitorId : ℕ) (payload : MonitorUpdate) (loaded : Monitor)
  | create (payload : MonitorCreate)
  | inserted (monitorId : ℕ) (row : NewRow)
  | delete (monitorId : ℕ)
  | probe (run : ProbeRun)
  | done

/-- The rows that a process has locked. -/
def Process.locked : Process → List (ℕ × Monitor)
  | .sweep run =>
    match run.stage with
    | .selected batch => batch
    | _ => []
  | _ => []

/-- What a sweep has claimed and not handed to the broker yet. -/
def Process.pending : Process → List (Schedule × ℕ × ℤ)
  | .sweep run =>
    match run.stage with
    | .dispatching items => items.map fun item ↦ (run.schedule, item.1, run.now)
    | _ => []
  | _ => []

/-- What a sweep goes on with after a phase. -/
def SweepRun.endPhase (run : SweepRun) : Process :=
  match run.schedule with
  | .health =>
    .sweep { run with schedule := .keepAlive, batchesLeft := run.maxBatches, stage := .ready }
  | .keepAlive => .done

/-! ### What is recorded -/

/-- Who wrote a schedule column, and what. -/
inductive Writer
  | claim (sweep : ℕ) (now interval : ℤ)
  | recovery (sweep : ℕ) (now : ℤ)
  | request (value : Option ℤ)
  deriving DecidableEq

/-- The value written. -/
def Writer.value : Writer → Option ℤ
  | claim _ now interval => some (now + seconds interval)
  | recovery _ now => some now
  | request value => value

/-- A write of a schedule column. -/
structure ScheduleWrite where
  schedule : Schedule
  monitorId : ℕ
  writer : Writer
  deriving DecidableEq

/-- The writes of one column of one row, newest first. -/
def writesOf (schedule : Schedule) (monitorId : ℕ) (writes : List ScheduleWrite) : List Writer :=
  (writes.filter fun write ↦ write.schedule = schedule ∧ write.monitorId = monitorId).map
    ScheduleWrite.writer

/-! ### The state -/

/-- The state of the system. -/
structure System where
  database : Database
  processes : Table Process
  writes : List ScheduleWrite
  dispatches : List (Schedule × ℕ × ℤ)

namespace System

/-- Nothing runs, and nothing is recorded. -/
def idle (database : Database) : System where
  database := database
  processes := Table.empty Process
  writes := []
  dispatches := []

/-- The stored monitor under a key. -/
def monitor (system : System) (monitorId : ℕ) : Option Monitor :=
  system.database.monitors.get monitorId

/-- Whether some process has locked a row. -/
def isLocked (system : System) (monitorId : ℕ) : Bool :=
  system.processes.rows.any fun row ↦ decide (monitorId ∈ row.2.locked.map Prod.fst)

/-- A new process. -/
def start (system : System) (process : Process) : System :=
  { system with processes := system.processes.insert process }

/-- A process goes on. -/
def resume (system : System) (processId : ℕ) (process : Process) : System :=
  { system with processes := system.processes.modify processId fun _ ↦ process }

/-- The table of monitors after a write. -/
def withMonitors (system : System) (monitors : Table Monitor) : System :=
  { system with database := { system.database with monitors := monitors } }

/-- The record after some writes of schedule columns. -/
def record (system : System) (writes : List ScheduleWrite) : System :=
  { system with writes := writes ++ system.writes }

end System

/-! ### Sweeps -/

/-- The rows under some keys, as they are stored. -/
def readRows (monitors : Table Monitor) (monitorIds : List ℕ) : List (ℕ × Monitor) :=
  monitorIds.filterMap fun monitorId ↦ (monitors.get monitorId).map (monitorId, ·)

/-- The selection of a batch, which returns the rows under some keys. Without rows, as after the
last batch, the phase ends. -/
def select (system : System) (processId : ℕ) (monitorIds : List ℕ) : Option System :=
  match system.processes.get processId with
  | some (.sweep run) =>
    match run.stage with
    | .ready =>
      if monitorIds = [] then some (system.resume processId run.endPhase)
      else if run.batchesLeft ≠ 0 ∧ monitorIds.Nodup ∧ monitorIds.length ≤ run.batchSize ∧
          ∀ monitorId ∈ monitorIds,
            (system.monitor monitorId).any (run.schedule.isDue run.now) = true ∧
              system.isLocked monitorId = false then
        some (system.resume processId (.sweep
          { run with stage := .selected (readRows system.database.monitors monitorIds) }))
      else none
    | _ => none
  | _ => none

/-- The claimed rows advanced by the intervals that were read. -/
def writeClaims (schedule : Schedule) (now : ℤ) (items : List (ℕ × ℤ)) (monitors : Table Monitor) :
    Table Monitor :=
  monitors.mapRows fun monitorId monitor ↦
    match items.lookup monitorId with
    | none => monitor
    | some interval => schedule.setNext (some (now + seconds interval)) monitor

/-- The commit of a claim. -/
def commitClaim (system : System) (processId : ℕ) : Option System :=
  match system.processes.get processId with
  | some (.sweep run) =>
    match run.stage with
    | .selected batch =>
      let items := batchItems run.schedule batch
      some (((system.resume processId
          (.sweep { run with stage := .dispatching items })).withMonitors
            (writeClaims run.schedule run.now items system.database.monitors)).record
        (items.map fun item ↦ ⟨run.schedule, item.1, .claim processId run.now item.2⟩))
    | _ => none
  | _ => none

/-- The broker is handed an item. Where it fails, the rest of the batch is left to recover. -/
def enqueue (system : System) (processId : ℕ) (accepted : Bool) : Option System :=
  match system.processes.get processId with
  | some (.sweep run) =>
    match run.stage with
    | .dispatching (item :: rest) =>
      if accepted then
        some { system.resume processId (.sweep { run with stage := .dispatching rest }) with
          dispatches := (run.schedule, item.1, run.now) :: system.dispatches }
      else
        some (system.resume processId (.sweep { run with stage := .recovering (item :: rest) }))
    | _ => none
  | _ => none

/-- The end of a batch whose items are all with the broker. -/
def endBatch (system : System) (processId : ℕ) : Option System :=
  match system.processes.get processId with
  | some (.sweep run) =>
    match run.stage with
    | .dispatching [] =>
      some (system.resume processId (.sweep
        { run with batchesLeft := run.batchesLeft - 1, stage := .ready }))
    | _ => none
  | _ => none

/-- The recovery transaction, which may fail. The phase ends either way. -/
def recoverItems (system : System) (processId : ℕ) (succeeds : Bool) : Option System :=
  match system.processes.get processId with
  | some (.sweep run) =>
    match run.stage with
    | .recovering items =>
      if ¬ succeeds then some (system.resume processId run.endPhase)
      else if ∀ item ∈ items, system.isLocked item.1 = false then
        some (((system.resume processId run.endPhase).withMonitors
            (recover run.schedule run.now (items.map Prod.fst) system.database.monitors)).record
          ((items.filter fun item ↦ (system.monitor item.1).isSome).map fun item ↦
            ⟨run.schedule, item.1, .recovery processId run.now⟩))
      else none
    | _ => none
  | _ => none

/-! ### Requests -/

/-- What the service is configured with. -/
structure Settings where
  tables : UnicodeTables
  maxMonitors : ℕ

/-- The default of `max_monitors`, and text without cased or compatibility characters outside
ASCII. -/
def Settings.default : Settings := ⟨UnicodeTables.caseless, 100⟩

/-- `create_monitor` up to the count of the rows. -/
def countMonitors (settings : Settings) (system : System) (payload : MonitorCreate) :
    Option System :=
  if payload.isAccepted settings.tables ∧
      system.database.monitors.rows.length < settings.maxMonitors then
    some (system.start (.create payload))
  else none

/-- The `INSERT` of `create_monitor`. It takes an id from the sequence, of which values may have
been lost, also to an `INSERT` that fails. Nobody else sees the row yet. -/
def insertMonitor (system : System) (processId : ℕ) (now : ℤ) (skipped : ℕ) : Option System :=
  match system.processes.get processId with
  | some (.create payload) =>
    if hfits : (Api.newMonitor payload now).fitsColumns = true then
      let monitors := system.database.monitors.skip skipped
      some ((system.resume processId
        (.inserted monitors.nextKey ⟨payload, now, hfits⟩)).withMonitors monitors.reserve)
    else some (system.resume processId .done)
  | _ => none

/-- The commit of `create_monitor`, under the id that its `INSERT` has reserved. -/
def commitCreate (system : System) (processId : ℕ) : Option System :=
  match system.processes.get processId with
  | some (.inserted monitorId row) =>
    if monitorId ∈ system.database.monitors.reserved then
      some (((system.resume processId .done).withMonitors
          (system.database.monitors.store monitorId row.monitor)).record
        [⟨.health, monitorId, .request row.monitor.nextCheckAt⟩,
          ⟨.keepAlive, monitorId, .request row.monitor.nextKeepAliveAt⟩])
    else some (system.resume processId .done)
  | _ => none

/-- `update_monitor` up to the load of the row. -/
def loadUpdate (system : System) (monitorId : ℕ) (payload : MonitorUpdate) : Option System :=
  match system.monitor monitorId with
  | none => none
  | some loaded =>
    if payload.isAccepted then some (system.start (.update monitorId payload loaded)) else none

/-- The schedule columns that an update writes: `next_keep_alive_at`, if it changed it. -/
def updateWrites (monitorId : ℕ) (payload : MonitorUpdate) (now : ℤ) (loaded : Monitor) :
    List ScheduleWrite :=
  match Api.draftUpdate loaded payload now with
  | .error _ => []
  | .ok draft =>
    if draft.nextKeepAliveAt = loaded.nextKeepAliveAt then []
    else [⟨.keepAlive, monitorId, .request draft.nextKeepAliveAt⟩]

/-- The end of `update_monitor`: the merged state is validated and the changed columns are
committed. -/
def commitUpdate (system : System) (processId : ℕ) (now : ℤ) : Option System :=
  match system.processes.get processId with
  | some (.update monitorId payload loaded) =>
    match system.monitor monitorId with
    | none => some (system.resume processId .done)
    | some stored =>
      if system.isLocked monitorId then none
      else
        match Api.commitUpdate payload now loaded stored with
        | .error _ => some (system.resume processId .done)
        | .ok monitor =>
          some (((system.resume processId .done).withMonitors
              (system.database.monitors.modify monitorId fun _ ↦ monitor)).record
            (updateWrites monitorId payload now loaded))
  | _ => none

/-- `delete_monitor` up to the load of the row. -/
def loadDelete (system : System) (monitorId : ℕ) : Option System :=
  match system.monitor monitorId with
  | none => none
  | some _ => some (system.start (.delete monitorId))

/-- The commit of `delete_monitor`. -/
def commitDelete (system : System) (processId : ℕ) : Option System :=
  match system.processes.get processId with
  | some (.delete monitorId) =>
    if system.isLocked monitorId then none
    else some { system.resume processId .done with
      database := system.database.deleteMonitor monitorId }
  | _ => none

/-! ### Probe tasks -/

/-- A probe task loads its monitor and starts its probe. -/
def loadProbe (system : System) (task : Task) (monitorId : ℕ) (now : ℤ) : Option System :=
  match system.monitor monitorId with
  | none => none
  | some loaded =>
    if task.admits loaded ∧ loaded.url ≠ [] then
      some (system.start (.probe ⟨task, monitorId, now, loaded, .probing⟩))
    else none

/-- The commit of a session of a probe task, which fails when the monitor is gone. -/
def commitSession (system : System) (processId : ℕ) (after : Process)
    (rewrite : Monitor → Monitor) (result : PingResult) : Option System :=
  if system.isLocked result.monitorId then none
  else
    match commitResult rewrite result system.database with
    | none => some (system.resume processId .done)
    | some database => some { system.resume processId after with database := database }

/-- The commit of the first session. -/
def commitProbe (system : System) (processId : ℕ) (dto : PingResultDTO) : Option System :=
  match system.processes.get processId with
  | some (.probe run) =>
    if run.stage = .probing then
      commitSession system processId (.probe { run with stage := .committed })
        (flushProbe run.task dto.outcome run.now run.loaded)
        (probeResult run.task run.monitorId dto run.now)
    else none
  | _ => none

/-- The soft time limit strikes, and the session after it loads the monitor. -/
def timeLimit (system : System) (processId : ℕ) (now : ℤ) : Option System :=
  match system.processes.get processId with
  | some (.probe run) =>
    if run.stage = .timeLimited then none
    else
      match system.monitor run.monitorId with
      | none => some (system.resume processId .done)
      | some loaded =>
        some (system.resume processId (.probe
          { run with now := now, loaded := loaded, stage := .timeLimited }))
  | _ => none

/-- The commit of the session after the soft time limit. -/
def commitTimeLimit (system : System) (processId : ℕ) : Option System :=
  match system.processes.get processId with
  | some (.probe run) =>
    if run.stage = .timeLimited then
      commitSession system processId .done (flushStatus .down run.now run.loaded)
        (timeLimitResult run.task run.monitorId run.now)
    else none
  | _ => none

/-! ### Steps -/

/-- The steps of the system. A process may also be abandoned at any time: a request that fails, a
task that raises or is to be retried, a worker that is killed. What it locked is free then. -/
inductive Action
  | startSweep (now : ℤ) (batchSize maxBatches : ℕ)
  | select (processId : ℕ) (monitorIds : List ℕ)
  | commitClaim (processId : ℕ)
  | enqueue (processId : ℕ) (accepted : Bool)
  | endBatch (processId : ℕ)
  | recoverItems (processId : ℕ) (succeeds : Bool)
  | countMonitors (payload : MonitorCreate)
  | insertMonitor (processId : ℕ) (now : ℤ) (skipped : ℕ)
  | commitCreate (processId : ℕ)
  | loadUpdate (monitorId : ℕ) (payload : MonitorUpdate)
  | commitUpdate (processId : ℕ) (now : ℤ)
  | loadDelete (monitorId : ℕ)
  | commitDelete (processId : ℕ)
  | loadProbe (task : Task) (monitorId : ℕ) (now : ℤ)
  | commitProbe (processId : ℕ) (dto : PingResultDTO)
  | timeLimit (processId : ℕ) (now : ℤ)
  | commitTimeLimit (processId : ℕ)
  | abandon (processId : ℕ)

/-- A step, if it is enabled. -/
def step (settings : Settings) (system : System) : Action → Option System
  | .startSweep now batchSize maxBatches =>
    some (system.start (.sweep ⟨now, batchSize, maxBatches, .health, maxBatches, .ready⟩))
  | .select processId monitorIds => select system processId monitorIds
  | .commitClaim processId => commitClaim system processId
  | .enqueue processId accepted => enqueue system processId accepted
  | .endBatch processId => endBatch system processId
  | .recoverItems processId succeeds => recoverItems system processId succeeds
  | .countMonitors payload => countMonitors settings system payload
  | .insertMonitor processId now skipped => insertMonitor system processId now skipped
  | .commitCreate processId => commitCreate system processId
  | .loadUpdate monitorId payload => loadUpdate system monitorId payload
  | .commitUpdate processId now => commitUpdate system processId now
  | .loadDelete monitorId => loadDelete system monitorId
  | .commitDelete processId => commitDelete system processId
  | .loadProbe task monitorId now => loadProbe system task monitorId now
  | .commitProbe processId dto => commitProbe system processId dto
  | .timeLimit processId now => timeLimit system processId now
  | .commitTimeLimit processId => commitTimeLimit system processId
  | .abandon processId =>
    (system.processes.get processId).map fun _ ↦ system.resume processId .done

end PingGuard.Concurrent
