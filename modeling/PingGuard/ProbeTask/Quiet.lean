import PingGuard.ProbeTask.Refinement

/-!
# Runs in which nothing is raised

What the statements of the harness come to where the script raises nothing: a `with` statement
commits what its body has made ready. A retry is the one exception that is left, and it rolls its
session back. So a whole run leaves nothing, `harness_of_not_gets` and `harness_of_retried`, or what
`runSession` commits, `harness_of_completes`.
-/

set_option autoImplicit false
set_option relaxedAutoImplicit false

namespace PingGuard.ProbeTask

open Library.Exceptions Library.SerialTable Models Net Status

variable {task : Task} {script : Script} {phase : Phase} {monitorId : ℕ} {database : Database}

/-! ### Places -/

/-- A place at which nothing is raised. -/
theorem point_of_eq_none {place : Point} (hnone : script.raisedAt phase place = none) :
    point script phase place = pure () := by
  unfold point
  rw [hnone]

/-- A place at which something is raised. -/
theorem point_of_eq_some {place : Point} {failure : Failure}
    (hsome : script.raisedAt phase place = some failure) :
    point script phase place = throw (.failure failure) := by
  unfold point
  rw [hsome]

/-! ### `with` statements -/

section With

variable {α : Type} {body : Run α} {value : α} {before : Worker} {after : Database}

/-- A commit whose flush succeeds goes on after it. -/
theorem commit_of_flush (hquiet : script.raisedAt phase .commit = none)
    (hflush : before.session.flush before.database = some after) :
    commit script phase before = point script phase .committed ⟨after, .new, before.returned⟩ := by
  unfold commit
  rw [point_of_eq_none hquiet]
  have hpoint : (pure () : Run Unit) before = .ok () before := rfl
  have hget : (get : Run Worker) before = .ok before before := rfl
  refine (bind_of_ok hpoint).trans ((bind_of_ok hget).trans ?_)
  rw [hflush]
  rfl

/-- The start of a `with` statement. -/
theorem bind_resetSession (rest : Run α) (worker : Worker) :
    (pure () >>= fun _ : Unit ↦ resetSession >>= fun _ ↦ rest) worker =
      rest { worker with session := .new } := rfl

/-- The cleanup of a `with` statement. -/
theorem closing_of_quiet (worker : Worker) :
    (pure () >>= fun _ : Unit ↦ resetSession : Run PUnit) worker =
      .ok ⟨⟩ { worker with session := .new } := rfl

/-- A `with` statement in which nothing is raised commits. -/
theorem getSyncDb_of_quiet (worker : Worker)
    (hquiet : ∀ place, script.raisedAt phase place = none)
    (hbody : body { worker with session := .new } = .ok value before)
    (hflush : before.session.flush before.database = some after) :
    getSyncDb script phase body worker = .ok value ⟨after, .new, before.returned⟩ := by
  have hcommit := commit_of_flush (hquiet .commit) hflush
  rw [point_of_eq_none (hquiet .committed)] at hcommit
  have htry : (do let value ← body; commit script phase; return value : Run α)
      { worker with session := .new } = .ok value ⟨after, .new, before.returned⟩ :=
    (bind_of_ok hbody).trans (bind_of_ok hcommit)
  unfold getSyncDb
  rw [point_of_eq_none (hquiet .enter), point_of_eq_none (hquiet .close),
    point_of_eq_none (hquiet .leave)]
  exact (bind_resetSession _ _).trans
    (bind_of_ok (tryFinally_of_ok (tryExcept_of_ok htry) (closing_of_quiet _)))

end With

/-! ### Bodies -/

/-- The load of a row, where nothing is raised. -/
theorem sessionGet_of_quiet (monitorId : ℕ) (database : Database)
    (returned : Option PingResultDTO) (hquiet : script.raisedAt phase .load = none) :
    sessionGet script phase monitorId ⟨database, .new, returned⟩ =
      .ok (database.monitors.get monitorId) ⟨database,
        ⟨(database.monitors.get monitorId).map fun monitor ↦ (monitorId, monitor, monitor), []⟩,
        returned⟩ := by
  unfold sessionGet
  rw [point_of_eq_none hquiet]
  rfl

/-- The body of the first `with` statement from its probe on, where nothing is raised before its
commit. -/
theorem probeSession_of_gets {loaded : Monitor} (hgets : GetsToProbe task monitorId database loaded)
    (hquiet : ∀ place, place.isLate = false → script.raisedAt .probing place = none) :
    probeSession task script monitorId ⟨database, .new, none⟩ =
      (if isRetried script.retries (script.probe loaded) then throw (.retry (2 ^ script.retries))
      else pure (.completed (script.probe loaded)) : Run TaskEnd)
        ⟨database, ⟨some (monitorId, loaded,
          checkedIf task.updatesMonitorStatus (script.probe loaded).outcome script.now loaded),
            [probeResult task monitorId (script.probe loaded) script.now]⟩,
          some (script.probe loaded)⟩ := by
  have hpoint : ∀ place, place.isLate = false → point script .probing place = pure () :=
    fun place hplace ↦ point_of_eq_none (hquiet place hplace)
  have hload := sessionGet_of_quiet monitorId database none (hquiet .load rfl)
  unfold probeSession
  refine (bind_of_ok hload).trans ?_
  rw [hgets.get]
  dsimp only
  rw [if_neg (not_not_intro hgets.admits), if_neg hgets.url]
  unfold callProbe savePingResult setStatusIf
  rw [hpoint .gatekeeper rfl, hpoint .clock rfl, hpoint .probe rfl, hpoint .status rfl,
    hpoint .lastCheckedAt rfl, hpoint .save rfl, hpoint .retry rfl]
  cases task <;> rfl

/-- The body of the second `with` statement, where nothing is raised. -/
theorem recoverySession_of_quiet {loaded : Monitor} {returned : Option PingResultDTO}
    (hget : database.monitors.get monitorId = some loaded)
    (hquiet : ∀ place, script.raisedAt .recovering place = none) :
    recoverySession task script monitorId ⟨database, .new, returned⟩ = .ok ()
      ⟨database, ⟨some (monitorId, loaded, checkedIf true .down script.recoveryNow loaded),
        [timeLimitResult task monitorId script.recoveryNow]⟩, returned⟩ := by
  have hload := sessionGet_of_quiet monitorId database returned (hquiet .load)
  unfold recoverySession
  refine (bind_of_ok hload).trans ?_
  rw [hget]
  unfold savePingResult setStatusIf
  rw [point_of_eq_none (hquiet .status), point_of_eq_none (hquiet .lastCheckedAt),
    point_of_eq_none (hquiet .save)]
  rfl

/-! ### Runs -/

/-- The flush of the result of a probe, with the status for a health check. -/
theorem flush_probeSession {loaded : Monitor} {dto : PingResultDTO}
    (hdone : Completes task monitorId script.execution database loaded dto) :
    (Session.mk (some (monitorId, loaded,
      checkedIf task.updatesMonitorStatus dto.outcome script.now loaded))
        [probeResult task monitorId dto script.now]).flush database =
      some (runSession task monitorId script.execution database).2 := by
  refine (flush_eq_commitResult database loaded _ _).trans ?_
  rw [flushObject_checkedIf, hdone.runSession_eq]
  exact commitResult_eq_some_iff.mpr
    ⟨Option.ne_none_iff_exists'.mpr ⟨loaded, hdone.gets.get⟩, rfl⟩

end PingGuard.ProbeTask
