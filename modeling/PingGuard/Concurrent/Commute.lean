import PingGuard.Concurrent.Overlap
import PingGuard.Library.Interleaving
import PingGuard.Update

/-!
# A health check and an update commute

`execute_ping` and `update_monitor` both hold a row that they have loaded, and write it back later.
They commute all the same. The update writes no column that the check reads or writes, whatever its
payload sets, and the check writes only the status and the time of the check, which no decision of
the update reads. So the rows that they hold may be out of date without harm.

`healthView` and `configView` are what the two read of a row. `commutes_turn` says that two turns of
different processes may be swapped, as far as these views tell, and `run_eq_serial` that every
interleaving ends like the two serial runs.
-/

set_option autoImplicit false
set_option relaxedAutoImplicit false

namespace PingGuard.Overlap

open Library.Interleaving Library.SerialTable Api Models Net ProbeTask Schemas Status

/-! ### What the two read -/

/-- What a health check reads of a row: the URL, the status and the time of the last check. -/
def healthView (monitor : Monitor) : Monitor :=
  { Monitor.dueAtZero with
    url := monitor.url
    status := monitor.status
    lastCheckedAt := monitor.lastCheckedAt }

/-- What an update reads of a row: all but the status and the time of the last check. -/
def configView (monitor : Monitor) : Monitor :=
  { monitor with status := .pending, lastCheckedAt := none }

/-- What matters of a task that stands somewhere. -/
def TaskStage.view : TaskStage → TaskStage
  | .loaded monitor => .loaded (healthView monitor)
  | .probed monitor dto => .probed (healthView monitor) dto
  | .recovering monitor => .recovering (monitor.map healthView)
  | stage => stage

/-- What matters of a request that stands somewhere. -/
def RequestStage.view : RequestStage → RequestStage
  | .loaded monitor => .loaded (configView monitor)
  | .validated monitor draft => .validated (configView monitor) draft
  | stage => stage

/-- What matters of a state. -/
def State.view (state : State) : State :=
  { state with task := state.task.view, request := state.request.view }

/-- A check changes nothing that an update reads. -/
theorem configView_of_isChecked {before after : Monitor} (hchecked : IsChecked before after) :
    configView after = configView before := by
  obtain ⟨status, lastCheckedAt, rfl⟩ := hchecked
  rfl

/-! ### What an update writes -/

/-- The row after the flush of a draft. A row that would break a constraint stays as it is. -/
def writeDraft (loaded : Monitor) (draft : Draft) (stored : Monitor) : Monitor :=
  (draft.flush loaded stored).getD stored

/-- A row with the status and the time of a check. -/
def setChecks (status : MonitorStatus) (lastCheckedAt : Option ℤ) (monitor : Monitor) : Monitor :=
  { monitor with status := status, lastCheckedAt := lastCheckedAt }

/-- A flush and a check of a row may be swapped. -/
theorem flush_setChecks (draft : Draft) (loaded stored : Monitor) (status : MonitorStatus)
    (lastCheckedAt : Option ℤ) :
    draft.flush loaded (setChecks status lastCheckedAt stored) =
      (draft.flush loaded stored).map (setChecks status lastCheckedAt) := by
  unfold Draft.flush setChecks
  dsimp only
  cases flushColumn (some loaded.name) draft.name (some stored.name) with
  | none => rfl
  | some name =>
    cases flushColumn (some loaded.checkIntervalSeconds) draft.checkIntervalSeconds
      (some stored.checkIntervalSeconds) with
    | none => rfl
    | some interval =>
      cases flushColumn (some loaded.keepAliveEnabled) draft.keepAliveEnabled
        (some stored.keepAliveEnabled) with
      | none => rfl
      | some enabled =>
        simp only [Option.bind_eq_bind, Option.bind_some]
        unfold Monitor.fitsColumns
        dsimp only
        split_ifs <;> rfl

/-- An update writes neither the URL nor what a check writes. -/
theorem writeDraft_kept (loaded : Monitor) (draft : Draft) (stored : Monitor) :
    (writeDraft loaded draft stored).url = stored.url ∧
      (writeDraft loaded draft stored).status = stored.status ∧
      (writeDraft loaded draft stored).lastCheckedAt = stored.lastCheckedAt := by
  unfold writeDraft
  cases hflush : draft.flush loaded stored with
  | none => exact ⟨rfl, rfl, rfl⟩
  | some monitor =>
    have hflushed := flush_eq_some hflush
    exact ⟨hflushed.url, hflushed.status, hflushed.lastCheckedAt⟩

/-- An update leaves what a health check reads. -/
theorem healthView_writeDraft (loaded : Monitor) (draft : Draft) (stored : Monitor) :
    healthView (writeDraft loaded draft stored) = healthView stored := by
  obtain ⟨hurl, hstatus, hchecked⟩ := writeDraft_kept loaded draft stored
  unfold healthView
  rw [hurl, hstatus, hchecked]

/-- The write of a check and the write of an update may be swapped. -/
theorem flushStatus_writeDraft (outcome : PingOutcome) (now : ℤ) (checked loaded : Monitor)
    (draft : Draft) (stored : Monitor) :
    flushStatus outcome now checked (writeDraft loaded draft stored) =
      writeDraft loaded draft (flushStatus outcome now checked stored) := by
  obtain ⟨-, hstatus, hchecked⟩ := writeDraft_kept loaded draft stored
  have hset (monitor : Monitor) : flushStatus outcome now checked monitor =
      setChecks (flushColumn checked.status (outcomeToStatus outcome) monitor.status)
        (flushColumn checked.lastCheckedAt (some now) monitor.lastCheckedAt) monitor := rfl
  rw [hset, hset, hstatus, hchecked]
  unfold writeDraft
  rw [flush_setChecks]
  cases draft.flush loaded stored <;> rfl

/-- The commit of an update rewrites one row. -/
theorem updateTurn_validated (monitorId : ℕ) (payload : MonitorUpdate) (now : ℤ)
    (database : Database) (loaded : Monitor) (draft : Draft) :
    updateTurn monitorId payload now database (.validated loaded draft) =
      (.answered (if ((database.monitors.get monitorId).bind (draft.flush loaded)).isSome then 200
        else RequestFailure.serverError.statusCode),
        { database with
          monitors := database.monitors.modify monitorId (writeDraft loaded draft) }) := by
  unfold updateTurn
  cases hflush : (database.monitors.get monitorId).bind (draft.flush loaded) with
  | none =>
    have hsame : database.monitors.modify monitorId (writeDraft loaded draft) =
        database.monitors := by
      refine (Table.modify_congr fun row hget ↦ ?_).trans (Table.modify_eq_self fun _ ↦ rfl)
      rw [hget] at hflush
      exact congrArg (Option.getD · row) hflush
    simp [hsame, hflush]
  | some monitor =>
    have hsame : (database.monitors.modify monitorId fun _ ↦ monitor) =
        database.monitors.modify monitorId (writeDraft loaded draft) := by
      refine Table.modify_congr fun row hget ↦ ?_
      rw [hget] at hflush
      exact (congrArg (Option.getD · row) hflush).symm
    simp [hsame, hflush]

/-- The other turns of an update write nothing. -/
theorem updateTurn_of_not_validated {stage : RequestStage} (monitorId : ℕ)
    (payload : MonitorUpdate) (now : ℤ) (database : Database)
    (hstage : ∀ loaded draft, stage ≠ .validated loaded draft) :
    (updateTurn monitorId payload now database stage).2 = database := by
  cases stage with
  | ready =>
    unfold updateTurn
    dsimp only
    split_ifs
    · cases database.monitors.get monitorId <;> rfl
    · rfl
  | loaded loaded =>
    unfold updateTurn
    dsimp only
    cases draftUpdate loaded payload now <;> rfl
  | validated loaded draft => exact absurd rfl (hstage loaded draft)
  | answered statusCode => rfl

/-- What an update reads is left by every check of the row. -/
theorem updateTurn_view_of_isChecked (monitorId : ℕ) (payload : MonitorUpdate) (now : ℤ)
    {database after : Database} {check : Monitor → Monitor}
    (hcheck : ∀ stored, IsChecked stored (check stored))
    (hafter : after.monitors = database.monitors.modify monitorId check) (stage : RequestStage) :
    (updateTurn monitorId payload now after stage).1.view =
      (updateTurn monitorId payload now database stage).1.view := by
  have hget : after.monitors.get monitorId = (database.monitors.get monitorId).map check := by
    rw [hafter, Table.get_modify, if_pos rfl]
  cases stage with
  | ready =>
    unfold updateTurn
    dsimp only
    rw [hget]
    split_ifs
    · cases database.monitors.get monitorId with
      | none => rfl
      | some stored =>
        exact congrArg RequestStage.loaded (configView_of_isChecked (hcheck stored))
    · rfl
  | loaded loaded =>
    unfold updateTurn
    dsimp only
    cases draftUpdate loaded payload now <;> rfl
  | validated loaded draft =>
    rw [updateTurn_validated, updateTurn_validated, hget]
    cases database.monitors.get monitorId with
    | none => rfl
    | some stored =>
      obtain ⟨status, lastCheckedAt, hchecked⟩ := hcheck stored
      have hset : check stored = setChecks status lastCheckedAt stored := hchecked
      rw [Option.map_some, Option.bind_some, Option.bind_some, hset, flush_setChecks,
        Option.isSome_map]
  | answered statusCode => rfl

/-! ### Turns of the task -/

/-- What a turn of the task writes to the monitors: at most a check of its row. -/
theorem taskTurn_writes (scenario : Scenario) (database : Database) (stage : TaskStage) :
    ∃ check, (∀ stored, IsChecked stored (check stored)) ∧
      (taskTurn scenario database stage).2.monitors =
        database.monitors.modify scenario.monitorId check := by
  have hsame : ∃ check, (∀ stored, IsChecked stored (check stored)) ∧
      database.monitors = database.monitors.modify scenario.monitorId check :=
    ⟨id, IsChecked.refl, (Table.modify_eq_self fun _ ↦ rfl).symm⟩
  have hcommit : ∀ rewrite result, (∀ stored, IsChecked stored (rewrite stored)) →
      result.monitorId = scenario.monitorId → ∀ after, commitResult rewrite result database =
        some after → ∃ check, (∀ stored, IsChecked stored (check stored)) ∧
          after.monitors = database.monitors.modify scenario.monitorId check := by
    intro rewrite result hrewrite hmonitorId after hafter
    obtain ⟨-, rfl⟩ := commitResult_eq_some_iff.mp hafter
    exact ⟨rewrite, hrewrite, by rw [hmonitorId]⟩
  unfold taskTurn
  cases stage with
  | ready =>
    dsimp only
    split
    · exact hsame
    · split_ifs <;> exact hsame
  | loaded monitor =>
    dsimp only
    split_ifs <;> exact hsame
  | probed monitor dto =>
    dsimp only
    split
    · exact hsame
    · rename_i after hafter
      exact hcommit _ _ (isChecked_flushProbe _ _ _ _) rfl after hafter
  | recovering loaded =>
    dsimp only
    split
    · exact hsame
    · rename_i after hafter
      refine hcommit _ _ ?_ rfl after hafter
      cases loaded with
      | none => exact IsChecked.refl
      | some monitor => exact isChecked_flushStatus _ _ _
  | leaving taskEnd => exact hsame
  | timeLimited => exact hsame
  | ended taskEnd => exact hsame

/-- The commit of a session and another write of its row may be swapped. -/
theorem commitResult_modify {rewrite write : Monitor → Monitor} {result : PingResult}
    (hswap : ∀ stored, rewrite (write stored) = write (rewrite stored)) (database : Database) :
    commitResult rewrite result
        { database with monitors := database.monitors.modify result.monitorId write } =
      (commitResult rewrite result database).map fun after ↦
        { after with monitors := after.monitors.modify result.monitorId write } := by
  unfold commitResult
  rw [Table.get_modify, if_pos rfl]
  cases database.monitors.get result.monitorId with
  | none => rfl
  | some stored =>
    simp only [Option.map_some, Table.modify_modify, hswap]

/-- A write that a health check does not see may come before or after a turn of the check. -/
theorem taskTurn_modify {scenario : Scenario} (htask : scenario.task = .executePing)
    {write : Monitor → Monitor} (hurl : ∀ stored, (write stored).url = stored.url)
    (hview : ∀ stored, healthView (write stored) = healthView stored)
    (hswap : ∀ outcome now checked stored, flushStatus outcome now checked (write stored) =
      write (flushStatus outcome now checked stored)) (database : Database) (stage : TaskStage) :
    let before := taskTurn scenario
      { database with monitors := database.monitors.modify scenario.monitorId write } stage
    let after := taskTurn scenario database stage
    before.1.view = after.1.view ∧ before.2 =
      { after.2 with monitors := after.2.monitors.modify scenario.monitorId write } := by
  have hget : (database.monitors.modify scenario.monitorId write).get scenario.monitorId =
      (database.monitors.get scenario.monitorId).map write := by
    rw [Table.get_modify, if_pos rfl]
  have hcommit : ∀ rewrite result, (∀ stored, rewrite (write stored) = write (rewrite stored)) →
      result.monitorId = scenario.monitorId →
        commitResult rewrite result
            { database with monitors := database.monitors.modify scenario.monitorId write } =
          (commitResult rewrite result database).map fun after ↦
            { after with monitors := after.monitors.modify scenario.monitorId write } := by
    intro rewrite result hrewrite hmonitorId
    rw [← hmonitorId]
    exact commitResult_modify hrewrite database
  unfold taskTurn
  cases stage with
  | ready =>
    dsimp only
    rw [hget, htask]
    cases hstored : database.monitors.get scenario.monitorId with
    | none => exact ⟨rfl, rfl⟩
    | some stored =>
      have hadmits (monitor : Monitor) : ¬ ¬ Task.executePing.admits monitor = true :=
        not_not_intro rfl
      simp only [Option.map_some, if_neg (hadmits _), hurl]
      split_ifs
      · exact ⟨rfl, rfl⟩
      · exact ⟨congrArg TaskStage.loaded (hview stored), rfl⟩
  | loaded monitor =>
    dsimp only
    split_ifs <;> exact ⟨rfl, rfl⟩
  | probed monitor dto =>
    dsimp only
    rw [htask, flushProbe_executePing,
      hcommit _ (probeResult _ _ _ _) (hswap _ _ _) rfl]
    cases commitResult (flushStatus dto.outcome scenario.now monitor)
      (probeResult .executePing scenario.monitorId dto scenario.now) database <;> exact ⟨rfl, rfl⟩
  | recovering loaded =>
    dsimp only
    rw [hcommit _ (timeLimitResult _ _ _) ?_ rfl]
    · cases commitResult _ (timeLimitResult scenario.task scenario.monitorId scenario.recoveryNow)
        database <;> exact ⟨rfl, rfl⟩
    · cases loaded with
      | none => exact fun _ ↦ rfl
      | some monitor => exact hswap _ _ _
  | leaving taskEnd => exact ⟨rfl, rfl⟩
  | timeLimited =>
    dsimp only
    rw [hget]
    refine ⟨?_, rfl⟩
    cases database.monitors.get scenario.monitorId with
    | none => rfl
    | some stored => exact congrArg (fun view ↦ TaskStage.recovering (some view)) (hview stored)
  | ended taskEnd => exact ⟨rfl, rfl⟩

/-! ### Interleavings -/

/-- Whether a turn is the task's: its own, or the soft time limit. -/
def Turn.isTask : Turn → Bool
  | .task | .timeLimit => true
  | .request => false

variable {scenario : Scenario} {payload : MonitorUpdate} {now : ℤ}

/-- What matters of what matters. -/
@[simp] theorem TaskStage.view_view (stage : TaskStage) : stage.view.view = stage.view := by
  cases stage with
  | recovering monitor => cases monitor <;> rfl
  | _ => rfl

/-- What matters of what matters. -/
@[simp] theorem RequestStage.view_view (stage : RequestStage) : stage.view.view = stage.view := by
  cases stage <;> rfl

/-- The soft time limit reads nothing of a stage but what matters. -/
theorem TaskStage.strike_view (stage : TaskStage) :
    stage.view.strike.view = stage.strike.view := by
  cases stage with
  | recovering monitor => cases monitor <;> rfl
  | _ => rfl

/-- A turn of a health check reads nothing of its stage but what matters. -/
theorem taskTurn_view (htask : scenario.task = .executePing) (database : Database)
    (stage : TaskStage) :
    (taskTurn scenario database stage.view).1.view = (taskTurn scenario database stage).1.view ∧
      (taskTurn scenario database stage.view).2 = (taskTurn scenario database stage).2 := by
  unfold taskTurn
  rw [htask]
  cases stage with
  | loaded monitor =>
    -- the probe gets the URL only
    have hprobe : scenario.probes.probe .executePing (healthView monitor) =
        scenario.probes.probe .executePing monitor := rfl
    have hstage : (TaskStage.loaded monitor).view = .loaded (healthView monitor) := rfl
    rw [hstage]
    dsimp only
    rw [hprobe]
    split_ifs <;> exact ⟨rfl, rfl⟩
  | probed monitor dto => exact ⟨rfl, rfl⟩
  | recovering loaded => cases loaded <;> exact ⟨rfl, rfl⟩
  | _ => exact ⟨rfl, rfl⟩

/-- A turn of an update reads nothing of its stage but what matters. -/
theorem updateTurn_view (monitorId : ℕ) (payload : MonitorUpdate) (now : ℤ) (database : Database)
    (stage : RequestStage) :
    (updateTurn monitorId payload now database stage.view).1.view =
        (updateTurn monitorId payload now database stage).1.view ∧
      (updateTurn monitorId payload now database stage.view).2 =
        (updateTurn monitorId payload now database stage).2 := by
  cases stage with
  | loaded loaded =>
    have hdraft : draftUpdate (configView loaded) payload now = draftUpdate loaded payload now :=
      rfl
    unfold updateTurn
    dsimp only [RequestStage.view]
    rw [hdraft]
    cases draftUpdate loaded payload now <;> exact ⟨rfl, rfl⟩
  | _ => exact ⟨rfl, rfl⟩

/-- The turns of a health check and of an update commute. -/
theorem commutes_turn (htask : scenario.task = .executePing)
    (hrequest : scenario.request = .update payload now) :
    Commutes (turn scenario) State.view Turn.isTask where
  step_view state label := by
    obtain ⟨database, task, request⟩ := state
    cases label with
    | task =>
      obtain ⟨hstage, hdatabase⟩ := taskTurn_view htask database task
      simp only [turn, State.view, hstage, hdatabase, RequestStage.view_view]
    | timeLimit =>
      simp only [turn, State.view, TaskStage.strike_view, RequestStage.view_view]
    | request =>
      obtain ⟨hstage, hdatabase⟩ :=
        updateTurn_view scenario.monitorId payload now database request
      simp only [turn, State.view, requestTurn, hrequest, hstage, hdatabase, TaskStage.view_view]
  swap state first second hfirst hsecond := by
    obtain ⟨database, task, request⟩ := state
    cases second with
    | task => exact Bool.noConfusion hsecond
    | timeLimit => exact Bool.noConfusion hsecond
    | request =>
      cases first with
      | request => exact Bool.noConfusion hfirst
      | timeLimit => rfl
      | task =>
        obtain ⟨check, hcheck, hafter⟩ := taskTurn_writes scenario database task
        have hanswer := updateTurn_view_of_isChecked scenario.monitorId payload now hcheck hafter
          request
        by_cases hvalidated : ∃ loaded draft, request = .validated loaded draft
        · obtain ⟨loaded, draft, rfl⟩ := hvalidated
          obtain ⟨hstage, hdatabase⟩ := taskTurn_modify htask
            (fun stored ↦ (writeDraft_kept loaded draft stored).1)
            (healthView_writeDraft loaded draft) (fun outcome time checked stored ↦
              flushStatus_writeDraft outcome time checked loaded draft stored) database task
          simp only [turn, State.view, requestTurn, hrequest, hanswer]
          rw [updateTurn_validated, updateTurn_validated, hstage, hdatabase]
        · have hkept (other : Database) :
              (updateTurn scenario.monitorId payload now other request).2 = other :=
            updateTurn_of_not_validated scenario.monitorId payload now other
              fun loaded draft heq ↦ hvalidated ⟨loaded, draft, heq⟩
          simp only [turn, State.view, requestTurn, hrequest, hanswer, hkept]

/-- A state in which both processes have finished is known by what matters of it. -/
theorem State.eq_of_view {state other : State} {taskEnd : TaskEnd} {statusCode : ℕ}
    (hview : state.view = other.view) (hended : other.task = .ended taskEnd)
    (hanswered : other.request = .answered statusCode) : state = other := by
  obtain ⟨database, task, request⟩ := state
  obtain ⟨_, _, _⟩ := other
  dsimp only at hended hanswered
  subst hended hanswered
  obtain ⟨rfl, htask, hrequest⟩ := State.mk.inj hview
  cases task with
  | ended other =>
    cases request with
    | answered code =>
      obtain rfl := TaskStage.ended.inj htask
      obtain rfl := RequestStage.answered.inj hrequest
      rfl
    | _ => nomatch hrequest
  | _ => nomatch htask

/-- Every interleaving of a health check and an update in which both finish ends like the two serial
runs: with the same rows, the same end of the task and the same status code. -/
theorem run_eq_serial (htask : scenario.task = .executePing)
    (hrequest : scenario.request = .update payload now) (database : Database)
    {schedule : List Turn} {taskEnd : TaskEnd} {statusCode : ℕ}
    (hended : (run scenario (.start database) schedule).task = .ended taskEnd)
    (hanswered : (run scenario (.start database) schedule).request = .answered statusCode) :
    run scenario (.start database) (serial Turn.isTask schedule) =
        run scenario (.start database) schedule ∧
      run scenario (.start database) (serial (fun label ↦ !label.isTask) schedule) =
        run scenario (.start database) schedule := by
  have hcommutes := commutes_turn htask hrequest
  exact ⟨State.eq_of_view (hcommutes.foldl_serial schedule _) hended hanswered,
    State.eq_of_view (hcommutes.symm.foldl_serial schedule _) hended hanswered⟩

/-- An update of the name. -/
def newName : MonitorUpdate :=
  ⟨.value "renamed".toList, .omitted, .omitted, .omitted, .omitted, .omitted⟩

/-- Both load the row before either has committed, and neither write is lost. -/
theorem run_eq_serial_newName :
    let scenario := upScenario (.update newName 15)
    let schedule : List Turn := [.task, .request, .task, .request, .task, .request, .task]
    let final := run scenario (.start .oneMonitor) schedule
    (run scenario (.start .oneMonitor) (serial Turn.isTask schedule) = final ∧
        run scenario (.start .oneMonitor) (serial (fun label ↦ !label.isTask) schedule) = final) ∧
      (final.database.monitors.get 1).map Monitor.status = some .up ∧
      (final.database.monitors.get 1).map Monitor.name = some "renamed".toList :=
  ⟨run_eq_serial rfl rfl .oneMonitor rfl rfl, rfl, rfl⟩

end PingGuard.Overlap
