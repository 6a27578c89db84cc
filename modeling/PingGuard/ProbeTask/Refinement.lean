import PingGuard.ProbeTask.Harness

/-!
# What a run of the harness comes to

A run of `harness` may be interrupted at every place, once or more than once. However it is, the
database that it leaves is the one that `runProbeTask` leaves for some `Execution`, and the probe
returned what it returns there: `harness_refines`. So it is enough to reason about executions.
-/

set_option autoImplicit false
set_option relaxedAutoImplicit false

namespace PingGuard.ProbeTask

open Library.Exceptions Library.SerialTable Models Net Status

variable {script : Script} {phase : Phase} {database : Database}

/-! ### What the two sessions commit -/

/-- The execution that a script describes as long as nothing is raised. -/
def Script.execution (script : Script) : Execution where
  now := script.now
  retries := script.retries
  probe := fun monitor ↦ some (script.probe monitor)
  commits := true
  timeLimit := none
  recoveryNow := script.recoveryNow
  recoveryCommits := true

/-- An object that is not changed is not flushed. -/
@[simp] theorem flushObject_self (loaded stored : Monitor) :
    flushObject loaded loaded stored = stored := by
  unfold flushObject
  rw [flushColumn_unchanged, flushColumn_unchanged]

/-- Without results and changes nothing is flushed. -/
theorem flush_unchanged (loaded : Option Monitor) (monitorId : ℕ) (database : Database) :
    (Session.mk (loaded.map fun monitor ↦ (monitorId, monitor, monitor)) []).flush database =
      some database := by
  cases loaded with
  | none => rfl
  | some monitor =>
    change some { database with
      monitors := database.monitors.modify monitorId (flushObject monitor monitor) } = some database
    rw [Table.modify_eq_self (flushObject_self monitor)]

/-- A result of a monitor that is gone is not flushed. -/
theorem flush_of_get_eq_none {database : Database} {result : PingResult}
    (hget : database.monitors.get result.monitorId = none) :
    (Session.mk none [result]).flush database = none := by
  unfold Session.flush
  simp [insertResult, hget]

/-- The flush of an object and a result. -/
theorem flush_eq_commitResult (database : Database) (loaded object : Monitor)
    (result : PingResult) :
    (Session.mk (some (result.monitorId, loaded, object)) [result]).flush database =
      commitResult (flushObject loaded object) result database := by
  unfold Session.flush commitResult
  cases hget : database.monitors.get result.monitorId with
  | none => simp [insertResult, hget]
  | some stored => simp [insertResult, hget]

/-- The flush of an object that a health check has set. -/
theorem flushObject_checkedIf (task : Task) (outcome : PingOutcome) (now : ℤ) (loaded : Monitor) :
    flushObject loaded (checkedIf task.updatesMonitorStatus outcome now loaded) =
      flushProbe task outcome now loaded := by
  funext stored
  cases task with
  | executePing => rfl
  | executeKeepAlive => exact flushObject_self loaded stored

/-- The first session is ready to commit what `runSession` commits. -/
def SessionReady (task : Task) (script : Script) (monitorId : ℕ) (database : Database)
    (taskEnd : TaskEnd) (worker : Worker) : Prop :=
  (taskEnd, worker.session.flush database) =
      ((runSession task monitorId script.execution database).1,
        some (runSession task monitorId script.execution database).2) ∧
    worker.database = database ∧
    worker.returned = script.execution.returned task monitorId database

/-- The first session has failed and committed nothing, before or after the probe returned. It
raises `Retry` only where `runSession` ends with a retry. -/
def SessionFailed (task : Task) (script : Script) (monitorId : ℕ) (database : Database)
    (raised : Raised) (worker : Worker) : Prop :=
  worker.database = database ∧
    (worker.returned = none ∧ (∃ failure, raised = .failure failure) ∨
      worker.returned = script.execution.returned task monitorId database ∧
        ∀ countdown, raised = .retry countdown →
          (runSession task monitorId script.execution database).1 = .retried countdown)

theorem fails_session (task : Task) (monitorId : ℕ) :
    Fails (SessionReady task script monitorId database)
      (SessionFailed task script monitorId database) := by
  refine ⟨?_, ?_, ?_⟩
  · rintro _ worker failure ⟨-, hdatabase, hreturned⟩
    exact ⟨hdatabase, Or.inr ⟨hreturned, nofun⟩⟩
  · rintro _ worker failure ⟨hdatabase, ⟨hreturned, -⟩ | ⟨hreturned, -⟩⟩
    · exact ⟨hdatabase, Or.inl ⟨hreturned, failure, rfl⟩⟩
    · exact ⟨hdatabase, Or.inr ⟨hreturned, nofun⟩⟩
  · exact fun _ _ _ hfailed ↦ hfailed

/-- The first session. -/
theorem meets_probeSession (task : Task) (monitorId : ℕ) :
    Meets (· = ⟨database, .new, none⟩) (probeSession task script monitorId)
      (SessionReady task script monitorId database)
      (SessionFailed task script monitorId database) := by
  have hbefore : ∀ raised worker, Interrupted database none raised worker →
      SessionFailed task script monitorId database raised worker :=
    fun _ _ hraised ↦ ⟨hraised.2.1, Or.inl ⟨hraised.2.2, hraised.1⟩⟩
  refine ((meets_sessionGet database none monitorId).raising hbefore).bind fun loaded ↦
    Meets.assuming fun hloaded ↦ ?_
  subst hloaded
  cases hget : database.monitors.get monitorId with
  | none =>
    refine meets_pure ?_
    rintro _ rfl
    refine ⟨?_, rfl, ?_⟩
    · unfold runSession
      rw [hget, flush_unchanged]
    · unfold Execution.returned
      rw [hget]
  | some monitor =>
    refine ((meets_pointAt _ _ _ .gatekeeper).raising hbefore).bind fun _ ↦ ?_
    by_cases hadmits : ¬ task.admits monitor = true
    · rw [if_pos hadmits]
      refine meets_pure ?_
      rintro _ rfl
      refine ⟨?_, rfl, ?_⟩
      · unfold runSession
        simp only [hget, if_pos hadmits, flush_unchanged]
      · unfold Execution.returned
        rw [hget]
        exact (if_neg fun h ↦ hadmits h.1).symm
    by_cases hurl : monitor.url = []
    · rw [if_neg hadmits, if_pos hurl]
      refine meets_pure ?_
      rintro _ rfl
      refine ⟨?_, rfl, ?_⟩
      · unfold runSession
        simp only [hget, if_neg hadmits, if_pos hurl, flush_unchanged]
      · unfold Execution.returned
        rw [hget]
        exact (if_neg fun h ↦ h.2 hurl).symm
    rw [if_neg hadmits, if_neg hurl]
    have hgets : GetsToProbe task monitorId database monitor := ⟨hget, not_not.mp hadmits, hurl⟩
    have hreturned : script.execution.returned task monitorId database =
        some (script.probe monitor) := hgets.returned_eq script.execution
    refine ((meets_pointAt _ _ _ .clock).raising hbefore).bind fun _ ↦ ?_
    refine ((meets_callProbe _ _ _).raising hbefore).bind fun dto ↦ Meets.assuming fun hdto ↦ ?_
    subst hdto
    -- from here on the probe has returned
    have hafter : ∀ raised worker, Interrupted database (some (script.probe monitor)) raised
        worker → SessionFailed task script monitorId database raised worker := by
      rintro raised worker ⟨⟨failure, rfl⟩, hdatabase, hworker⟩
      exact ⟨hdatabase, Or.inr ⟨hworker.trans hreturned.symm, nofun⟩⟩
    refine ((meets_setStatusIf _ _ _ _ _ _ _ _ _).raising hafter).bind fun _ ↦ ?_
    refine ((meets_savePingResult _ _ _ _).raising hafter).bind fun _ ↦ ?_
    refine ((meets_pointAt _ _ _ .retry).raising hafter).bind fun _ ↦ ?_
    by_cases hretried : isRetried script.retries (script.probe monitor) = true
    · rw [if_pos hretried]
      refine meets_throw ?_
      rintro _ rfl
      refine ⟨rfl, Or.inr ⟨hreturned.symm, ?_⟩⟩
      rintro _ ⟨⟩
      have hrun : runSession task monitorId script.execution database =
          (.retried (2 ^ script.retries), database) :=
        (hgets.runSession_eq rfl).trans (if_pos hretried)
      rw [hrun]
    · rw [if_neg hretried]
      refine meets_pure ?_
      rintro _ rfl
      refine ⟨?_, rfl, hreturned.symm⟩
      have hdone : Completes task monitorId script.execution database monitor
          (script.probe monitor) := ⟨hgets, rfl, eq_false_of_ne_true hretried, rfl⟩
      have hflush := flush_eq_commitResult database monitor
        (checkedIf task.updatesMonitorStatus (script.probe monitor).outcome script.now monitor)
        (probeResult task monitorId (script.probe monitor) script.now)
      rw [flushObject_checkedIf] at hflush
      rw [hdone.runSession_eq]
      refine Prod.ext rfl (hflush.trans (commitResult_eq_some_iff.mpr ⟨?_, rfl⟩))
      exact Option.ne_none_iff_exists'.mpr ⟨monitor, hget⟩

/-- The second session is ready to commit what `recoverTimeLimit` commits, if anything. -/
def RecoveryReady (task : Task) (script : Script) (monitorId : ℕ) (database : Database)
    (returned : Option PingResultDTO) (_ : Unit) (worker : Worker) : Prop :=
  worker.session.flush database = recoverTimeLimit task monitorId script.execution database ∧
    worker.database = database ∧ worker.returned = returned

theorem fails_recovery (task : Task) (monitorId : ℕ) (returned : Option PingResultDTO) :
    Fails (RecoveryReady task script monitorId database returned)
      (Interrupted database returned) := by
  refine ⟨?_, ?_, ?_⟩
  · rintro _ worker failure ⟨-, hdatabase, hreturned⟩
    exact ⟨⟨failure, rfl⟩, hdatabase, hreturned⟩
  · rintro _ worker failure ⟨-, hdatabase, hreturned⟩
    exact ⟨⟨failure, rfl⟩, hdatabase, hreturned⟩
  · exact fun _ _ _ hraised ↦ hraised

/-- The second session. -/
theorem meets_recoverySession (task : Task) (monitorId : ℕ) (returned : Option PingResultDTO) :
    Meets (· = ⟨database, .new, returned⟩) (recoverySession task script monitorId)
      (RecoveryReady task script monitorId database returned) (Interrupted database returned) := by
  refine (meets_sessionGet database returned monitorId).bind fun loaded ↦
    Meets.assuming fun hloaded ↦ ?_
  subst hloaded
  cases hget : database.monitors.get monitorId with
  | none =>
    have hskipped : Meets (· = ⟨database, .new, returned⟩) (pure () : Run Unit)
        (fun _ ↦ (· = ⟨database, .new, returned⟩)) (Interrupted database returned) :=
      meets_pure fun _ h ↦ h
    refine hskipped.bind fun _ ↦ ?_
    refine (meets_savePingResult _ _ _ _).mono (fun _ h ↦ h) ?_ fun _ _ h ↦ h
    rintro _ _ rfl
    refine ⟨?_, rfl, rfl⟩
    unfold recoverTimeLimit
    rw [hget]
    exact flush_of_get_eq_none hget
  | some monitor =>
    refine (meets_setStatusIf _ _ _ _ _ _ _ _ _).bind fun _ ↦ ?_
    refine (meets_savePingResult _ _ _ _).mono (fun _ h ↦ h) ?_ fun _ _ h ↦ h
    rintro _ _ rfl
    refine ⟨?_, rfl, rfl⟩
    unfold recoverTimeLimit
    rw [hget]
    exact flush_eq_commitResult _ _ _ _

/-- The first `with` statement. -/
theorem meets_firstWith (task : Task) (monitorId : ℕ) :
    Meets (fun worker ↦ worker.database = database ∧ worker.returned = none)
      (getSyncDb script .probing (probeSession task script monitorId))
      (Committed (SessionReady task script monitorId database))
      (WithFails (SessionReady task script monitorId database)
        (SessionFailed task script monitorId database)) :=
  meets_getSyncDb database none (fails_session task monitorId)
    (fun _ failure hstored hreturned ↦ ⟨hstored, Or.inl ⟨hreturned, failure, rfl⟩⟩)
    (meets_probeSession task monitorId)

/-- The second `with` statement. -/
theorem meets_secondWith (task : Task) (monitorId : ℕ) (returned : Option PingResultDTO) :
    Meets (fun worker ↦ worker.database = database ∧ worker.returned = returned)
      (getSyncDb script .recovering (recoverySession task script monitorId))
      (Committed (RecoveryReady task script monitorId database returned))
      (WithFails (RecoveryReady task script monitorId database returned)
        (Interrupted database returned)) :=
  meets_getSyncDb database returned (fails_recovery task monitorId returned)
    (fun _ failure hstored hreturned ↦ ⟨⟨failure, rfl⟩, hstored, hreturned⟩)
    (meets_recoverySession task monitorId returned)

/-! ### Whole runs -/

/-- A run with the script leaves what an execution leaves: the database, and what the probe has
returned. -/
structure Describes (task : Task) (script : Script) (monitorId : ℕ) (database : Database)
    (execution : Execution) (worker : Worker) : Prop where
  retries : execution.retries = script.retries
  stored : worker.database = (runProbeTask task monitorId execution database).2
  returned : worker.returned = execution.returned task monitorId database

/-- A session that does not commit what its probe returned leaves the database. -/
theorem runSession_of_not_commits {task : Task} {monitorId : ℕ} {execution : Execution}
    {database : Database}
    (hcommits : execution.returned task monitorId database ≠ none → execution.commits = false) :
    (runSession task monitorId execution database).2 = database := by
  rcases runSession_cases task monitorId execution database with ⟨_, dto, hdone⟩ | ⟨-, hsame⟩
  · have hreturned := (hdone.gets.returned_eq execution).trans hdone.probe
    have hfalse := hcommits (Option.ne_none_iff_exists'.mpr ⟨dto, hreturned⟩)
    exact absurd (hdone.commits.symm.trans hfalse) Bool.noConfusion
  · exact hsame

variable {task : Task} {monitorId : ℕ} {worker : Worker}

/-- The run of an execution whose recovery does not commit. -/
theorem describes_unrecovered (execution : Execution)
    (hretries : execution.retries = script.retries) (hlimit : execution.timeLimit ≠ none)
    (hstored : worker.database = execution.beforeRecovery task monitorId database)
    (hreturned : worker.returned = execution.returned task monitorId database) :
    Describes task script monitorId database { execution with recoveryCommits := false }
      worker := by
  refine ⟨hretries, Eq.trans ?_ (runProbeTask_of_timeLimit
    { execution with recoveryCommits := false } hlimit).symm, hreturned⟩
  have hnone : recoverTimeLimit task monitorId { execution with recoveryCommits := false }
      (execution.beforeRecovery task monitorId database) = none := by
    unfold recoverTimeLimit
    cases (execution.beforeRecovery task monitorId database).monitors.get monitorId <;> rfl
  exact hstored.trans (congrArg (Option.getD · _) hnone).symm

/-- The run of an execution whose recovery commits. -/
theorem describes_recovered (execution : Execution) (hretries : execution.retries = script.retries)
    (hlimit : execution.timeLimit ≠ none) (hnow : execution.recoveryNow = script.recoveryNow)
    (hstored : recoverTimeLimit task monitorId script.execution
      (execution.beforeRecovery task monitorId database) = some worker.database)
    (hreturned : worker.returned = execution.returned task monitorId database) :
    Describes task script monitorId database { execution with recoveryCommits := true }
      worker := by
  refine ⟨hretries, Eq.trans ?_ (runProbeTask_of_timeLimit
    { execution with recoveryCommits := true } hlimit).symm, hreturned⟩
  have hsome : recoverTimeLimit task monitorId { execution with recoveryCommits := true }
      (execution.beforeRecovery task monitorId database) = some worker.database := by
    rw [← hstored]
    unfold recoverTimeLimit
    rw [hnow]
    rfl
  exact (congrArg (Option.getD · _) hsome).symm

/-- The handler of the soft time limit, from what an execution leaves before its recovery. -/
theorem meets_handler (execution : Execution) (hretries : execution.retries = script.retries)
    (hlimit : execution.timeLimit ≠ none) (hnow : execution.recoveryNow = script.recoveryNow) :
    Meets
      (fun worker ↦ worker.database = execution.beforeRecovery task monitorId database ∧
        worker.returned = execution.returned task monitorId database)
      (do
        point script .recovering .clock
        getSyncDb script .recovering (recoverySession task script monitorId)
        return TaskEnd.timedOut)
      (fun _ worker ↦ ∃ execution, Describes task script monitorId database execution worker)
      (fun raised worker ↦ ∃ execution,
        Describes task script monitorId database execution worker ∧
          ∀ countdown, raised = .retry countdown →
            (runProbeTask task monitorId execution database).1 = .retried countdown) := by
  have hleft : ∀ worker, worker.database = execution.beforeRecovery task monitorId database →
      worker.returned = execution.returned task monitorId database →
        ∃ execution, Describes task script monitorId database execution worker :=
    fun worker hstored hreturned ↦
      ⟨_, describes_unrecovered execution hretries hlimit hstored hreturned⟩
  have hrecovered : ∀ worker, Committed (RecoveryReady task script monitorId
      (execution.beforeRecovery task monitorId database)
      (execution.returned task monitorId database)) () worker →
        ∃ execution, Describes task script monitorId database execution worker := by
    rintro worker ⟨before, ⟨hready, hdatabase, hreturned⟩, hflush, hworker⟩
    rw [hdatabase, hready] at hflush
    exact ⟨_, describes_recovered execution hretries hlimit hnow hflush (hworker.trans hreturned)⟩
  refine Meets.bind (meets_point .clock ?_) fun _ ↦ ?_
  · intro failure worker hkept
    obtain ⟨ended, hdescribed⟩ := hleft worker hkept.1 hkept.2
    exact ⟨ended, hdescribed, nofun⟩
  refine Meets.bind ((meets_secondWith task monitorId _).raising ?_) fun _ ↦ ?_
  · rintro _ worker (⟨⟨failure, rfl⟩, hstored, hreturned⟩ | ⟨⟨failure, rfl⟩, _, hcommitted⟩)
    · obtain ⟨ended, hdescribed⟩ := hleft worker hstored hreturned
      exact ⟨ended, hdescribed, nofun⟩
    · obtain ⟨ended, hdescribed⟩ := hrecovered worker hcommitted
      exact ⟨ended, hdescribed, nofun⟩
  exact meets_pure hrecovered

/-- A probe that does not return. -/
theorem returned_of_no_probe (execution : Execution) (database : Database) :
    Execution.returned task monitorId { execution with probe := fun _ ↦ none } database = none := by
  unfold Execution.returned
  split
  · rfl
  · split_ifs <;> rfl

/-- A run whose first `with` statement raises is interrupted before its probe returned, raises after
that, or has committed. -/
theorem withFails_cases {raised : Raised}
    (hraised : WithFails (SessionReady task script monitorId database)
      (SessionFailed task script monitorId database) raised worker) :
    (∃ failure, raised = .failure failure) ∧ worker.database = database ∧ worker.returned = none ∨
      worker.database = database ∧
        worker.returned = script.execution.returned task monitorId database ∧
        (∀ countdown, raised = .retry countdown →
          (runSession task monitorId script.execution database).1 = .retried countdown) ∨
      (∃ failure, raised = .failure failure) ∧
        worker.database = (runSession task monitorId script.execution database).2 ∧
        worker.returned = script.execution.returned task monitorId database := by
  rcases hraised with ⟨hdatabase, ⟨hreturned, hfailure⟩ | ⟨hreturned, hretry⟩⟩ |
    ⟨hfailure, _, before, ⟨hready, hdatabase, hreturned⟩, hflush, hworker⟩
  · exact Or.inl ⟨hfailure, hdatabase, hreturned⟩
  · exact Or.inr (Or.inl ⟨hdatabase, hreturned, hretry⟩)
  · rw [hdatabase] at hflush
    have hstored := Option.some.inj ((Prod.mk.inj hready).2.symm.trans hflush)
    exact Or.inr (Or.inr ⟨hfailure, hstored.symm, hworker.trans hreturned⟩)

/-- What a run leaves that raises in its first `with` statement. -/
theorem describes_of_withFails {raised : Raised}
    (hraised : WithFails (SessionReady task script monitorId database)
      (SessionFailed task script monitorId database) raised worker) :
    ∃ execution, Describes task script monitorId database execution worker ∧
      ∀ countdown, raised = .retry countdown →
        (runProbeTask task monitorId execution database).1 = .retried countdown := by
  rcases withFails_cases hraised with ⟨⟨failure, rfl⟩, hstored, hreturned⟩ |
    ⟨hstored, hreturned, hretry⟩ | ⟨⟨failure, rfl⟩, hstored, hreturned⟩
  · -- the probe did not return
    refine ⟨{ script.execution with probe := fun _ ↦ none }, ⟨rfl, ?_, ?_⟩, nofun⟩
    · refine hstored.trans (runSession_of_not_commits fun hne ↦ ?_).symm
      exact absurd (returned_of_no_probe script.execution database) hne
    · exact hreturned.trans (returned_of_no_probe script.execution database).symm
  · cases raised with
    | failure failure =>
      refine ⟨{ script.execution with commits := false }, ⟨rfl, ?_, hreturned⟩, nofun⟩
      exact hstored.trans (runSession_of_not_commits fun _ ↦ rfl).symm
    | retry countdown =>
      have hend := hretry countdown rfl
      refine ⟨script.execution, ⟨rfl, ?_, hreturned⟩, hretry⟩
      refine hstored.trans (runSession_of_not_completed fun dto hdone ↦ ?_).symm
      exact absurd (hend.symm.trans hdone) TaskEnd.noConfusion
  · -- it is as if the soft time limit had struck then and the recovery had failed
    exact ⟨_, describes_unrecovered { script.execution with timeLimit := some .afterCommit } rfl
      nofun hstored hreturned, nofun⟩

/-- However a run of the harness is interrupted, it leaves what an execution leaves, and it raises
`Retry` only where the execution ends with a retry. -/
theorem harness_refines (task : Task) (script : Script) (monitorId : ℕ) (database : Database) :
    Meets (fun worker ↦ worker.database = database ∧ worker.returned = none)
      (harness task script monitorId)
      (fun _ worker ↦ ∃ execution, Describes task script monitorId database execution worker)
      (fun raised worker ↦ ∃ execution,
        Describes task script monitorId database execution worker ∧
          ∀ countdown, raised = .retry countdown →
            (runProbeTask task monitorId execution database).1 = .retried countdown) := by
  refine Meets.tryExcept (Meets.mono (meets_firstWith task monitorId) (fun _ h ↦ h) ?_
    fun _ _ h ↦ h) ?_ ?_
  · rintro taskEnd worker ⟨before, ⟨hready, hdatabase, hreturned⟩, hflush, hworker⟩
    rw [hdatabase] at hflush
    have hstored := (Prod.mk.inj hready).2.symm.trans hflush
    exact ⟨script.execution, rfl, (Option.some.inj hstored).symm, hworker.trans hreturned⟩
  · intro raised _ worker hraised
    have hfrom : ∀ execution : Execution, execution.retries = script.retries →
        execution.timeLimit ≠ none → execution.recoveryNow = script.recoveryNow →
          worker.database = execution.beforeRecovery task monitorId database →
            worker.returned = execution.returned task monitorId database → Ends _ _ _ :=
      fun execution hretries hlimit hnow hstored hreturned ↦
        meets_handler execution hretries hlimit hnow worker ⟨hstored, hreturned⟩
    rcases withFails_cases hraised with ⟨-, hstored, hreturned⟩ | ⟨hstored, hreturned, -⟩ |
      ⟨-, hstored, hreturned⟩
    · refine hfrom { script.execution with probe := fun _ ↦ none, timeLimit := some .beforeCommit }
        rfl nofun rfl hstored ?_
      exact hreturned.trans (returned_of_no_probe script.execution database).symm
    · exact hfrom { script.execution with timeLimit := some .beforeCommit } rfl nofun rfl hstored
        hreturned
    · exact hfrom { script.execution with timeLimit := some .afterCommit } rfl nofun rfl hstored
        hreturned
  · exact fun raised worker _ hraised ↦ describes_of_withFails hraised

end PingGuard.ProbeTask
