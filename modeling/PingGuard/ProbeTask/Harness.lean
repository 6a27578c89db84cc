import PingGuard.Library.Exceptions
import PingGuard.ProbeTask

/-!
# The harness of the probe tasks

`_run_probe_task` of `app/tasks.py` and `get_sync_db` of `app/db.py`, statement by statement. Before
every statement an exception may be raised: the soft time limit, which is a signal, an error of the
database, the broker or the probe, or one that `except Exception` does not handle. What a run has
committed then depends on the transaction that the exception leaves.

A retry is one of these exceptions: a result that was added before it is rolled back. What the
statements guarantee is stated with `Meets`, up to the `with` statement, `meets_getSyncDb`. One that
nothing interrupts after its commit raises only before it, `meets_getSyncDb_early`.
-/

set_option autoImplicit false
set_option relaxedAutoImplicit false

namespace PingGuard.ProbeTask

open Library.Exceptions Library.SerialTable Models Net Status

/-! ### Exceptions -/

/-- What may be raised at any time: the soft time limit, another subclass of `Exception`, or an
exception that is none. -/
inductive Failure
  | softTimeLimitExceeded
  | exception
  | baseException

/-- What a run raises: one of these, or the `Retry` of `task.retry`. -/
inductive Raised
  | failure (failure : Failure)
  | retry (countdown : ℕ)

/-- The classes that `except Exception` handles. -/
def Raised.isException : Raised → Bool
  | .failure .baseException => false
  | _ => true

/-- The class that `except SoftTimeLimitExceeded` handles. -/
def Raised.isSoftTimeLimitExceeded : Raised → Bool
  | .failure .softTimeLimitExceeded => true
  | _ => false

/-! ### Sessions -/

/-- A session: the object that it has loaded, with its key, its loaded values and its attributes,
and the results that were added. -/
structure Session where
  object : Option (ℕ × Monitor × Monitor)
  added : List PingResult

/-- A session that has done nothing. -/
def Session.new : Session := ⟨none, []⟩

/-- A row after the flush of an object. -/
def flushObject (loaded object stored : Monitor) : Monitor :=
  { stored with
    status := flushColumn loaded.status object.status stored.status
    lastCheckedAt := flushColumn loaded.lastCheckedAt object.lastCheckedAt stored.lastCheckedAt }

/-- The insertion of a result, which refers to a monitor. -/
def insertResult (database : Database) (result : PingResult) : Option Database :=
  (database.monitors.get result.monitorId).map fun _ ↦
    { database with pingResults := database.pingResults.insert result }

/-- The database after the flush of a session. -/
def Session.flush (session : Session) (database : Database) : Option Database :=
  session.added.foldlM insertResult
    (match session.object with
    | none => database
    | some (key, loaded, object) =>
      { database with monitors := database.monitors.modify key (flushObject loaded object) })

/-! ### The run of a worker -/

/-- The places of a session at which something may be raised. -/
inductive Point
  | enter | load | gatekeeper | clock | probe | status | lastCheckedAt | save | retry
  | commit | committed | rollback | close | leave
  deriving DecidableEq

/-- The places of a session after its commit has taken effect: the end of `commit()`, `close()`, and
the end of the `with` statement. -/
def Point.isLate : Point → Bool
  | .committed | .close | .leave => true
  | _ => false

/-- The two sessions of a run. -/
inductive Phase
  | probing
  | recovering
  deriving DecidableEq

/-- What a run meets: its retries so far, its clock, the probe, and what is raised where. -/
structure Script where
  retries : ℕ
  now : ℤ
  recoveryNow : ℤ
  probe : Monitor → PingResultDTO
  raisedAt : Phase → Point → Option Failure

/-- What a run works on: the committed database and its open session. What the probe returned is
recorded. -/
structure Worker where
  database : Database
  session : Session
  returned : Option PingResultDTO

/-- A part of a run. -/
abbrev Run (α : Type) := EStateM Raised Worker α

section Statements

variable (script : Script) (phase : Phase)

/-- Something may be raised here. -/
def point (place : Point) : Run Unit :=
  match script.raisedAt phase place with
  | none => pure ()
  | some failure => throw (.failure failure)

/-- The session is replaced by a new one: by `SyncSessionLocal()`, `session.rollback()` or
`session.close()`. -/
def resetSession : Run Unit := modify fun worker ↦ { worker with session := .new }

/-- `session.get(Monitor, monitor_id)`. -/
def sessionGet (monitorId : ℕ) : Run (Option Monitor) := do
  point script phase .load
  let worker ← get
  let loaded := worker.database.monitors.get monitorId
  modify fun worker ↦ { worker with session :=
    { worker.session with object := loaded.map fun monitor ↦ (monitorId, monitor, monitor) } }
  return loaded

/-- The attributes of the loaded object are set. -/
def setAttributes (change : Monitor → Monitor) : Run Unit := modify fun worker ↦
  { worker with session := { worker.session with
    object := worker.session.object.map fun object ↦ (object.1, object.2.1, change object.2.2) } }

/-- `monitor.status = …` and `monitor.last_checked_at = now`, under a condition. -/
def setStatusIf (condition : Bool) (outcome : PingOutcome) (now : ℤ) : Run Unit :=
  if condition then do
    point script phase .status
    setAttributes fun object ↦ { object with status := outcomeToStatus outcome }
    point script phase .lastCheckedAt
    setAttributes fun object ↦ { object with lastCheckedAt := some now }
  else pure ()

/-- `save_ping_result`. -/
def savePingResult (result : PingResult) : Run Unit := do
  point script phase .save
  modify fun worker ↦
    { worker with session := { worker.session with added := worker.session.added ++ [result] } }

/-- `session.commit()`, which may also raise when the database has committed already. -/
def commit : Run Unit := do
  point script phase .commit
  let worker ← get
  match worker.session.flush worker.database with
  | none => throw (.failure .exception)
  | some database => modify fun worker ↦ { worker with database := database, session := .new }
  point script phase .committed

/-- `with get_sync_db() as session: body`, up to the end of the statement. -/
def getSyncDb {α : Type} (body : Run α) : Run α := do
  point script phase .enter
  resetSession
  let value ← tryFinally
    (tryExcept Raised.isException
      (do
        let value ← body
        commit script phase
        return value)
      fun raised ↦ do
        point script phase .rollback
        resetSession
        throw raised)
    (do
      point script phase .close
      resetSession)
  point script phase .leave
  return value

end Statements

/-- `probe(monitor)`. -/
def callProbe (script : Script) (monitor : Monitor) : Run PingResultDTO := do
  point script .probing .probe
  modify fun worker ↦ { worker with returned := some (script.probe monitor) }
  return script.probe monitor

/-- The body of the first `with` statement. -/
def probeSession (task : Task) (script : Script) (monitorId : ℕ) : Run TaskEnd := do
  match ← sessionGet script .probing monitorId with
  | none => return .notFound
  | some monitor =>
    point script .probing .gatekeeper
    if ¬ task.admits monitor then return .skipped
    else if monitor.url = [] then return .missingUrl
    else
      point script .probing .clock
      let dto ← callProbe script monitor
      setStatusIf script .probing task.updatesMonitorStatus dto.outcome script.now
      savePingResult script .probing (probeResult task monitorId dto script.now)
      point script .probing .retry
      if isRetried script.retries dto then throw (.retry (2 ^ script.retries))
      else return .completed dto

/-- The body of the second `with` statement. -/
def recoverySession (task : Task) (script : Script) (monitorId : ℕ) : Run Unit := do
  let monitor ← sessionGet script .recovering monitorId
  setStatusIf script .recovering monitor.isSome .down script.recoveryNow
  savePingResult script .recovering (timeLimitResult task monitorId script.recoveryNow)

/-- `_run_probe_task`. -/
def harness (task : Task) (script : Script) (monitorId : ℕ) : Run TaskEnd :=
  tryExcept Raised.isSoftTimeLimitExceeded
    (getSyncDb script .probing (probeSession task script monitorId))
    fun _ ↦ do
      point script .recovering .clock
      getSyncDb script .recovering (recoverySession task script monitorId)
      return .timedOut

/-! ### What the statements guarantee -/

section Guarantees

variable {script : Script} {phase : Phase} {pre : Worker → Prop} {raises : Raised → Worker → Prop}

/-- A place changes nothing. -/
theorem meets_point (place : Point)
    (hraises : ∀ failure worker, pre worker → raises (.failure failure) worker) :
    Meets pre (point script phase place) (fun _ ↦ pre) raises := by
  unfold point
  split
  · exact meets_pure fun _ hpre ↦ hpre
  · exact meets_throw fun worker hpre ↦ hraises _ worker hpre

/-- A run is interrupted before it has committed anything. -/
def Interrupted (database : Database) (returned : Option PingResultDTO) (raised : Raised)
    (worker : Worker) : Prop :=
  (∃ failure, raised = .failure failure) ∧ worker.database = database ∧ worker.returned = returned

variable (database : Database) (session : Session) (returned : Option PingResultDTO)

/-- At a place a run goes on as it is, or is interrupted. -/
theorem meets_pointAt (place : Point) :
    Meets (· = ⟨database, session, returned⟩) (point script phase place)
      (fun _ ↦ (· = ⟨database, session, returned⟩)) (Interrupted database returned) := by
  refine meets_point place ?_
  rintro failure _ rfl
  exact ⟨⟨failure, rfl⟩, rfl, rfl⟩

/-- What is loaded is the stored row. -/
theorem meets_sessionGet (monitorId : ℕ) :
    Meets (· = ⟨database, .new, returned⟩) (sessionGet script phase monitorId)
      (fun loaded worker ↦ loaded = database.monitors.get monitorId ∧
        worker = ⟨database, ⟨loaded.map fun monitor ↦ (monitorId, monitor, monitor), []⟩, returned⟩)
      (Interrupted database returned) := by
  refine (meets_pointAt database .new returned .load).bind fun _ before hbefore ↦ ?_
  subst hbefore
  exact ⟨rfl, rfl⟩

/-- The attributes of a loaded object are set. -/
theorem meets_setAttributes (change : Monitor → Monitor) (monitorId : ℕ)
    (loaded object : Monitor) (added : List PingResult) :
    Meets (· = ⟨database, ⟨some (monitorId, loaded, object), added⟩, returned⟩)
      (setAttributes change)
      (fun _ ↦ (· = ⟨database, ⟨some (monitorId, loaded, change object), added⟩, returned⟩))
      raises := by
  refine meets_modify ?_
  rintro _ rfl
  rfl

/-- An object whose status and time of check are set under a condition. -/
def checkedIf (condition : Bool) (outcome : PingOutcome) (now : ℤ) (object : Monitor) : Monitor :=
  if condition then { object with status := outcomeToStatus outcome, lastCheckedAt := some now }
  else object

/-- The status and the time of the check are set under a condition. -/
theorem meets_setStatusIf (condition : Bool) (outcome : PingOutcome) (now : ℤ) (monitorId : ℕ)
    (loaded object : Monitor) (added : List PingResult) :
    Meets (· = ⟨database, ⟨some (monitorId, loaded, object), added⟩, returned⟩)
      (setStatusIf script phase condition outcome now)
      (fun _ ↦ (· = ⟨database,
        ⟨some (monitorId, loaded, checkedIf condition outcome now object), added⟩, returned⟩))
      (Interrupted database returned) := by
  cases condition with
  | false => exact meets_pure fun _ h ↦ h
  | true =>
    refine (meets_pointAt _ _ _ .status).bind fun _ ↦ ?_
    refine (meets_setAttributes _ _ _ _ _ _ _).bind fun _ ↦ ?_
    refine (meets_pointAt _ _ _ .lastCheckedAt).bind fun _ ↦ ?_
    exact meets_setAttributes _ _ _ _ _ _ _

/-- The probe returns what the script says. -/
theorem meets_callProbe (monitor : Monitor) :
    Meets (· = ⟨database, session, none⟩) (callProbe script monitor)
      (fun dto worker ↦ dto = script.probe monitor ∧ worker = ⟨database, session, some dto⟩)
      (Interrupted database none) := by
  refine (meets_pointAt _ _ _ .probe).bind fun _ before hbefore ↦ ?_
  subst hbefore
  exact ⟨rfl, rfl⟩

/-- A result is added. -/
theorem meets_savePingResult (result : PingResult) :
    Meets (· = ⟨database, session, returned⟩) (savePingResult script phase result)
      (fun _ ↦ (· = ⟨database, ⟨session.object, session.added ++ [result]⟩, returned⟩))
      (Interrupted database returned) := by
  refine (meets_pointAt _ _ _ .save).bind fun _ ↦ meets_modify ?_
  rintro _ rfl
  rfl

/-- A body that is ready to commit has committed. -/
def Committed {α : Type} (ready : α → Worker → Prop) (value : α) (worker : Worker) : Prop :=
  ∃ before, ready value before ∧
    before.session.flush before.database = some worker.database ∧
    worker.returned = before.returned

/-- What the body of a `with` statement may raise, in a way that does not depend on the session. A
body that is interrupted, also where it is ready to commit, has failed. -/
structure Fails {α : Type} (ready : α → Worker → Prop) (failed : Raised → Worker → Prop) :
    Prop where
  ready : ∀ value worker failure, ready value worker → failed (.failure failure) worker
  replaced : ∀ raised worker failure, failed raised worker → failed (.failure failure) worker
  session : ∀ raised worker session, failed raised worker →
    failed raised { worker with session := session }

/-- How a `with` statement raises: its body has failed, or it has committed before. -/
def WithFails {α : Type} (ready : α → Worker → Prop) (failed : Raised → Worker → Prop)
    (raised : Raised) (worker : Worker) : Prop :=
  failed raised worker ∨
    (∃ failure, raised = .failure failure) ∧ ∃ value, Committed ready value worker

section With

variable {α : Type} {ready : α → Worker → Prop} {failed : Raised → Worker → Prop}

/-- What a `with` statement raises does not depend on the session either, and may be replaced. -/
theorem Fails.withFails (hfails : Fails ready failed) : Fails ready (WithFails ready failed) := by
  refine ⟨?_, ?_, ?_⟩
  · exact fun value worker failure hready ↦ Or.inl (hfails.ready value worker failure hready)
  · rintro raised worker failure (hfailed | ⟨-, hcommitted⟩)
    · exact Or.inl (hfails.replaced raised worker failure hfailed)
    · exact Or.inr ⟨⟨failure, rfl⟩, hcommitted⟩
  · rintro raised worker session (hfailed | ⟨hfailure, value, hcommitted⟩)
    · exact Or.inl (hfails.session raised worker session hfailed)
    · exact Or.inr ⟨hfailure, value, hcommitted⟩

/-- What is raised at a place after the commit counts as a failure. -/
def CountsLate {α : Type} (script : Script) (phase : Phase) (ready : α → Worker → Prop)
    (failed : Raised → Worker → Prop) (place : Point) : Prop :=
  ∀ failure, script.raisedAt phase place = some failure →
    ∀ value worker, Committed ready value worker → failed (.failure failure) worker

/-- A place after the commit. -/
theorem meets_latePoint {place : Point} (hlate : CountsLate script phase ready failed place)
    (value : α) :
    Meets (Committed ready value) (point script phase place) (fun _ ↦ Committed ready value)
      failed := by
  unfold point
  split
  · exact meets_pure fun _ hcommitted ↦ hcommitted
  · rename_i failure hraised
    exact meets_throw fun worker hcommitted ↦ hlate failure hraised value worker hcommitted

/-- A commit flushes the session, or fails. -/
theorem meets_commit (hfails : Fails ready failed)
    (hlate : CountsLate script phase ready failed .committed) (value : α) :
    Meets (ready value) (commit script phase) (fun _ ↦ Committed ready value) failed := by
  have hpoint : Meets (ready value) (point script phase .commit) (fun _ ↦ ready value) failed :=
    meets_point _ fun failure worker hready ↦ hfails.ready value worker failure hready
  have hget : Meets (ready value) get (fun worker state ↦ worker = state ∧ ready value state)
      failed := meets_get fun _ hready ↦ ⟨rfl, hready⟩
  refine hpoint.bind fun _ ↦ hget.bind fun worker ↦ ?_
  have hcommitted := meets_latePoint hlate value
  cases hflush : worker.session.flush worker.database with
  | none =>
    refine Meets.bind (meets_throw ?_) fun _ ↦ hcommitted
    rintro _ ⟨rfl, hready⟩
    exact hfails.ready value worker _ hready
  | some after =>
    refine Meets.bind (meets_modify ?_) fun _ ↦ hcommitted
    rintro _ ⟨rfl, hready⟩
    exact ⟨worker, hready, hflush, rfl⟩

/-- At a place of a statement that raises, the exception passes or is replaced. -/
theorem meets_pointRaised (hfails : Fails ready failed) (raised : Raised) (place : Point) :
    Meets (failed raised) (point script phase place) (fun _ ↦ failed raised) failed :=
  meets_point place fun failure worker hraised ↦ hfails.replaced raised worker failure hraised

/-- The session is reset in a statement that raises. -/
theorem meets_resetRaised (hfails : Fails ready failed) (raised : Raised) :
    Meets (failed raised) resetSession (fun _ ↦ failed raised) failed :=
  meets_modify fun worker hraised ↦ hfails.session raised worker .new hraised

/-- The close after a commit. -/
theorem meets_close (hlate : CountsLate script phase ready failed .close) (value : α) :
    Meets (Committed ready value) (do point script phase .close; resetSession)
      (fun _ ↦ Committed ready value) failed :=
  (meets_latePoint hlate value).bind fun _ ↦ meets_modify fun _ hcommitted ↦ hcommitted

/-- A `with` statement commits what its body has made ready, or raises. -/
theorem meets_getSyncDb_late {body : Run α} (hfails : Fails ready failed)
    (hlate : ∀ place, place.isLate = true → CountsLate script phase ready failed place)
    (hstart : ∀ worker failure, worker.database = database → worker.returned = returned →
      failed (.failure failure) worker)
    (hbody : Meets (· = ⟨database, .new, returned⟩) body ready failed) :
    Meets (fun worker ↦ worker.database = database ∧ worker.returned = returned)
      (getSyncDb script phase body) (Committed ready) failed := by
  have henter : Meets (fun worker ↦ worker.database = database ∧ worker.returned = returned)
      (point script phase .enter)
      (fun _ worker ↦ worker.database = database ∧ worker.returned = returned) failed :=
    meets_point _ fun failure worker hkept ↦ hstart worker failure hkept.1 hkept.2
  have hnew : Meets (fun worker ↦ worker.database = database ∧ worker.returned = returned)
      resetSession (fun _ ↦ (· = ⟨database, .new, returned⟩)) failed := by
    refine meets_modify ?_
    rintro worker ⟨rfl, rfl⟩
    rfl
  have hcommit : Meets (· = ⟨database, .new, returned⟩)
      (do let value ← body; commit script phase; return value) (Committed ready) failed :=
    hbody.bind fun value ↦ (meets_commit hfails (hlate .committed rfl) value).bind fun _ ↦
      meets_pure fun _ h ↦ h
  have hrollback : ∀ raised, Meets (failed raised)
      (do point script phase .rollback; resetSession; throw raised) (Committed ready) failed :=
    fun raised ↦ (meets_pointRaised hfails raised .rollback).bind fun _ ↦
      (meets_resetRaised hfails raised).bind fun _ ↦ meets_throw fun _ h ↦ h
  have hclose : ∀ raised, Meets (failed raised) (do point script phase .close; resetSession)
      (fun _ ↦ failed raised) failed := fun raised ↦
    (meets_pointRaised hfails raised .close).bind fun _ ↦ meets_resetRaised hfails raised
  have htry : Meets (· = ⟨database, .new, returned⟩) (tryExcept Raised.isException _ _)
      (Committed ready) failed :=
    hcommit.tryExcept (fun raised _ ↦ hrollback raised) fun _ _ _ hraised ↦ hraised
  have hleave : ∀ value, Meets (Committed ready value)
      (do point script phase .leave; return value) (Committed ready) failed := fun value ↦
    (meets_latePoint (hlate .leave rfl) value).bind fun _ ↦ meets_pure fun _ h ↦ h
  exact henter.bind fun _ ↦ hnew.bind fun _ ↦
    (htry.tryFinally (meets_close (hlate .close rfl)) hclose).bind hleave

/-- A `with` statement that is interrupted anywhere: it raises before its commit or after it. -/
theorem meets_getSyncDb {body : Run α} (hfails : Fails ready failed)
    (hstart : ∀ worker failure, worker.database = database → worker.returned = returned →
      failed (.failure failure) worker)
    (hbody : Meets (· = ⟨database, .new, returned⟩) body ready failed) :
    Meets (fun worker ↦ worker.database = database ∧ worker.returned = returned)
      (getSyncDb script phase body) (Committed ready) (WithFails ready failed) := by
  have hlate : ∀ place, CountsLate script phase ready (WithFails ready failed) place :=
    fun _ failure _ value _ hcommitted ↦ Or.inr ⟨⟨failure, rfl⟩, value, hcommitted⟩
  exact meets_getSyncDb_late database returned hfails.withFails (fun place _ ↦ hlate place)
    (fun worker failure hstored hreturned ↦ Or.inl (hstart worker failure hstored hreturned))
    (hbody.raising fun _ _ hfailed ↦ Or.inl hfailed)

/-- A `with` statement that nothing interrupts after its commit raises before it. -/
theorem meets_getSyncDb_early {body : Run α} (hfails : Fails ready failed)
    (hquiet : ∀ place, place.isLate = true → script.raisedAt phase place = none)
    (hstart : ∀ worker failure, worker.database = database → worker.returned = returned →
      failed (.failure failure) worker)
    (hbody : Meets (· = ⟨database, .new, returned⟩) body ready failed) :
    Meets (fun worker ↦ worker.database = database ∧ worker.returned = returned)
      (getSyncDb script phase body) (Committed ready) failed := by
  have hlate : ∀ place, place.isLate = true → CountsLate script phase ready failed place :=
    fun place hplace failure hraised ↦ nomatch (hquiet place hplace).symm.trans hraised
  exact meets_getSyncDb_late database returned hfails hlate hstart hbody

end With

end Guarantees

end PingGuard.ProbeTask
