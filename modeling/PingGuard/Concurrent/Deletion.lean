import PingGuard.Concurrent.Overlap

/-!
# A monitor deleted under a task

`delete_monitor` may commit at any moment of a probe task on the same monitor. The results of the
monitor go with it, and a result cannot be added to a monitor that is gone, so no result is left
over: `ResultsRefer`. A task that finds no monitor when it loads one returns.

A task that commits a result after that fails, though. Its first session does not look again after
the probe, and the session after the soft time limit adds its result also where it has loaded no
monitor. `findsMonitor` is the condition under which a task ends as it should, and
`endsNormally_run` says so, and that it is exact in every state.
-/

set_option autoImplicit false
set_option relaxedAutoImplicit false

namespace PingGuard.Overlap

open Library.SerialTable Api Models Net ProbeTask Schemas Status

variable {scenario : Scenario} {database : Database} {state : State}

/-! ### Results without a monitor -/

/-- Every stored result refers to a stored monitor. -/
def ResultsRefer (database : Database) : Prop :=
  ∀ key result, database.pingResults.get key = some result →
    database.monitors.get result.monitorId ≠ none

/-- A monitor that is rewritten is still there. -/
theorem get_modify_ne_none (monitors : Table Monitor) (key other : ℕ)
    (rewrite : Monitor → Monitor) :
    (monitors.modify key rewrite).get other ≠ none ↔ monitors.get other ≠ none := by
  rw [Table.get_modify]
  split_ifs <;> cases monitors.get other <;> simp

/-- A monitor may be rewritten. -/
theorem ResultsRefer.modify (hrefer : ResultsRefer database) (key : ℕ)
    (rewrite : Monitor → Monitor) :
    ResultsRefer { database with monitors := database.monitors.modify key rewrite } :=
  fun other result hget ↦ (get_modify_ne_none _ _ _ _).mpr (hrefer other result hget)

/-- The commit of a session adds a result of a monitor that is there. -/
theorem ResultsRefer.commitResult {rewrite : Monitor → Monitor} {result : PingResult}
    {after : Database} (hrefer : ResultsRefer database)
    (hcommit : ProbeTask.commitResult rewrite result database = some after) :
    ResultsRefer after := by
  obtain ⟨hmonitor, rfl⟩ := commitResult_eq_some_iff.mp hcommit
  intro key row hget
  rw [Table.get_insert] at hget
  refine (get_modify_ne_none _ _ _ _).mpr ?_
  split_ifs at hget
  · rw [← Option.some.inj hget]
    exact hmonitor
  · exact hrefer key row hget

/-- A monitor is deleted with its results. -/
theorem ResultsRefer.deleteMonitor (hrefer : ResultsRefer database) (monitorId : ℕ) :
    ResultsRefer (database.deleteMonitor monitorId) := by
  intro key result hget
  have hfilter : (database.pingResults.get key).filter
      (fun row ↦ row.monitorId ≠ monitorId) = some result :=
    (Table.get_filterRows _ _ _).symm.trans hget
  obtain ⟨hstored, hother⟩ := Option.filter_eq_some_iff.mp hfilter
  have hkept : (database.deleteMonitor monitorId).monitors.get result.monitorId =
      database.monitors.get result.monitorId :=
    (Table.get_erase _ _ _).trans (if_neg (by simpa using hother))
  rw [hkept]
  exact hrefer key result hstored

/-- A turn of the task leaves no result without a monitor. -/
theorem ResultsRefer.taskTurn (hrefer : ResultsRefer database) (scenario : Scenario)
    (stage : TaskStage) : ResultsRefer (Overlap.taskTurn scenario database stage).2 := by
  unfold Overlap.taskTurn
  cases stage with
  | ready =>
    dsimp only
    split
    · exact hrefer
    · split_ifs <;> exact hrefer
  | loaded monitor =>
    dsimp only
    split_ifs <;> exact hrefer
  | probed monitor dto =>
    dsimp only
    split
    · exact hrefer
    · rename_i after hcommit
      exact hrefer.commitResult hcommit
  | recovering loaded =>
    dsimp only
    split
    · exact hrefer
    · rename_i after hcommit
      exact hrefer.commitResult hcommit
  | _ => exact hrefer

/-- A turn of the request leaves no result without a monitor. -/
theorem ResultsRefer.requestTurn (hrefer : ResultsRefer database) (scenario : Scenario)
    (stage : RequestStage) : ResultsRefer (Overlap.requestTurn scenario database stage).2 := by
  unfold Overlap.requestTurn
  cases scenario.request with
  | update payload now =>
    dsimp only
    unfold updateTurn
    cases stage with
    | ready =>
      dsimp only
      split_ifs
      · split <;> exact hrefer
      · exact hrefer
    | loaded loaded =>
      dsimp only
      split <;> exact hrefer
    | validated loaded draft =>
      dsimp only
      split
      · exact hrefer
      · exact hrefer.modify _ _
    | answered statusCode => exact hrefer
  | delete =>
    dsimp only
    unfold deleteTurn
    cases stage with
    | ready =>
      dsimp only
      split <;> exact hrefer
    | loaded loaded => exact hrefer.deleteMonitor _
    | _ => exact hrefer

/-! ### How a task ends -/

/-- Whether a task ends with a result or a retry. Otherwise an exception is not handled. -/
def isNormal : TaskEnd → Bool
  | .raised | .raisedAfterCommit => false
  | _ => true

/-- How the task has ended or is about to. -/
def TaskStage.taskEnd : TaskStage → Option TaskEnd
  | .leaving taskEnd | .ended taskEnd => some taskEnd
  | _ => none

/-- The task has met an error that it does not handle. -/
def TaskStage.hasRaised (stage : TaskStage) : Bool :=
  stage.taskEnd.any fun taskEnd ↦ !isNormal taskEnd

/-- Whether a task that commits a result in a turn finds its monitor there. -/
def findsMonitor (scenario : Scenario) (state : State) : Turn → Bool
  | .task =>
    match state.task with
    | .probed _ _ | .recovering _ =>
      (state.database.monitors.get scenario.monitorId).isSome
    | _ => true
  | _ => true

/-- A task that has met no error meets one in exactly the turns in which it commits a result of a
monitor that is gone. -/
theorem hasRaised_turn (hstage : state.task.hasRaised = false) (label : Turn) :
    (turn scenario state label).task.hasRaised = !findsMonitor scenario state label := by
  obtain ⟨database, task, request⟩ := state
  have hmissing : ∀ rewrite (result : PingResult), result.monitorId = scenario.monitorId →
      ((database.monitors.get scenario.monitorId).isSome =
        (commitResult rewrite result database).isSome) := by
    intro rewrite result hmonitorId
    unfold commitResult
    rw [hmonitorId]
    cases database.monitors.get scenario.monitorId <;> rfl
  cases label with
  | timeLimit => cases task <;> first | rfl | exact hstage
  | request => exact hstage
  | task =>
    unfold turn taskTurn findsMonitor
    cases task with
    | ready =>
      dsimp only
      split
      · rfl
      · split_ifs <;> rfl
    | loaded monitor =>
      dsimp only
      split_ifs <;> rfl
    | probed monitor dto =>
      dsimp only
      rw [hmissing (flushProbe scenario.task dto.outcome scenario.now monitor)
        (probeResult scenario.task scenario.monitorId dto scenario.now) rfl]
      cases commitResult (flushProbe scenario.task dto.outcome scenario.now monitor)
        (probeResult scenario.task scenario.monitorId dto scenario.now) database <;> rfl
    | recovering loaded =>
      dsimp only
      rw [hmissing _ (timeLimitResult scenario.task scenario.monitorId scenario.recoveryNow) rfl]
      cases commitResult _ (timeLimitResult scenario.task scenario.monitorId scenario.recoveryNow)
        database <;> rfl
    | leaving taskEnd => exact hstage
    | timeLimited => rfl
    | ended taskEnd => exact hstage

/-! ### The end -/

/-- How many turns the task has left at most. -/
def TaskStage.turnsLeft : TaskStage → ℕ
  | .ready => 5
  | .loaded _ => 4
  | .probed _ _ => 3
  | .leaving _ | .timeLimited => 2
  | .recovering _ => 1
  | .ended _ => 0

/-- A turn of the task uses one up. -/
theorem turnsLeft_taskTurn (scenario : Scenario) (database : Database) (stage : TaskStage) :
    (taskTurn scenario database stage).1.turnsLeft ≤ stage.turnsLeft - 1 := by
  unfold taskTurn
  cases stage with
  | ready =>
    dsimp only
    split
    · exact Nat.le_of_ble_eq_true rfl
    · split_ifs <;> exact Nat.le_of_ble_eq_true rfl
  | loaded monitor =>
    dsimp only
    split_ifs <;> exact Nat.le_of_ble_eq_true rfl
  | probed monitor dto =>
    dsimp only
    split <;> exact Nat.le_of_ble_eq_true rfl
  | recovering loaded =>
    dsimp only
    split <;> exact Nat.le_refl _
  | leaving taskEnd => exact Nat.zero_le _
  | timeLimited => exact Nat.le_refl _
  | ended taskEnd => exact Nat.le_refl _

/-- The soft time limit gives the task no more turns. -/
theorem turnsLeft_strike (stage : TaskStage) : stage.strike.turnsLeft ≤ stage.turnsLeft := by
  cases stage <;> exact Nat.le_of_ble_eq_true rfl

/-- After as many turns of its own as it has left, the task has ended. -/
theorem ended_of_turnsLeft_le {schedule : List Turn}
    (hturns : state.task.turnsLeft ≤ schedule.count .task) :
    ∃ taskEnd, (run scenario state schedule).task = .ended taskEnd := by
  induction schedule generalizing state with
  | nil =>
    have hzero : state.task.turnsLeft = 0 := Nat.le_zero.mp hturns
    change ∃ taskEnd, state.task = .ended taskEnd
    cases hstage : state.task with
    | ended taskEnd => exact ⟨taskEnd, rfl⟩
    | _ =>
      rw [hstage] at hzero
      nomatch hzero
  | cons label rest ih =>
    apply ih
    cases label with
    | task =>
      have hturn := turnsLeft_taskTurn scenario state.database state.task
      rw [List.count_cons_self] at hturns
      exact hturn.trans (Nat.sub_le_of_le_add hturns)
    | timeLimit =>
      rw [List.count_cons_of_ne (by decide)] at hturns
      exact (turnsLeft_strike state.task).trans hturns
    | request =>
      rw [List.count_cons_of_ne (by decide)] at hturns
      exact hturns

/-- The end of a task is as it should be: with a result or a retry, and without a result of a
monitor that is gone. -/
structure EndsNormally (scenario : Scenario) (state : State) : Prop where
  normal : ∀ taskEnd, state.task.taskEnd = some taskEnd → isNormal taskEnd = true
  refers : ResultsRefer state.database
  ends : ∀ schedule : List Turn, 5 ≤ schedule.count .task →
    ∃ taskEnd, (run scenario state schedule).task = .ended taskEnd

/-- A task ends as it should where it has not raised and results have monitors. -/
theorem endsNormally_iff : EndsNormally scenario state ↔
    state.task.hasRaised = false ∧ ResultsRefer state.database := by
  have hraised : state.task.hasRaised = false ↔
      ∀ taskEnd, state.task.taskEnd = some taskEnd → isNormal taskEnd = true := by
    unfold TaskStage.hasRaised
    cases state.task.taskEnd with
    | none => exact iff_of_true rfl nofun
    | some taskEnd => simp
  rw [hraised]
  refine ⟨fun hends ↦ ⟨hends.normal, hends.refers⟩, fun ⟨hnormal, hrefers⟩ ↦
    ⟨hnormal, hrefers, fun schedule hturns ↦ ended_of_turnsLeft_le (le_trans ?_ hturns)⟩⟩
  cases state.task <;> exact Nat.le_of_ble_eq_true rfl

/-- Whether every turn of a schedule finds its monitor. -/
def alwaysFindsMonitor (scenario : Scenario) (state : State) : List Turn → Bool
  | [] => true
  | label :: rest =>
    findsMonitor scenario state label &&
      alwaysFindsMonitor scenario (turn scenario state label) rest

/-- A turn leaves no result without a monitor. -/
theorem ResultsRefer.turn (hrefer : ResultsRefer state.database) (scenario : Scenario)
    (label : Turn) : ResultsRefer (Overlap.turn scenario state label).database := by
  cases label with
  | task => exact hrefer.taskTurn scenario state.task
  | timeLimit => exact hrefer
  | request => exact hrefer.requestTurn scenario state.request

/-- A task that always finds its monitor raises nothing, and leaves no result without a monitor. -/
theorem hasRaised_run {schedule : List Turn} (hstage : state.task.hasRaised = false)
    (hrefer : ResultsRefer state.database)
    (hfinds : alwaysFindsMonitor scenario state schedule = true) :
    (run scenario state schedule).task.hasRaised = false ∧
      ResultsRefer (run scenario state schedule).database := by
  induction schedule generalizing state with
  | nil => exact ⟨hstage, hrefer⟩
  | cons label rest ih =>
    obtain ⟨hfirst, hrest⟩ := Bool.and_eq_true_iff.mp hfinds
    refine ih ?_ (hrefer.turn scenario label) hrest
    rw [hasRaised_turn hstage, hfirst]
    rfl

/-- In every run whose results are committed for a monitor that is there, the task ends as it should
in every state. A further turn keeps that up in exactly the case that it meets the condition.
Assumes: at the start every result refers to a monitor. -/
theorem endsNormally_run (hrefer : ResultsRefer database) {schedule : List Turn}
    (hfinds : alwaysFindsMonitor scenario (.start database) schedule = true) :
    EndsNormally scenario (run scenario (.start database) schedule) ∧ ∀ label,
      (EndsNormally scenario (turn scenario (run scenario (.start database) schedule) label) ↔
        findsMonitor scenario (run scenario (.start database) schedule) label = true) := by
  obtain ⟨hstage, hresults⟩ : _ ∧ _ := hasRaised_run rfl hrefer hfinds
  refine ⟨endsNormally_iff.mpr ⟨hstage, hresults⟩, fun label ↦ ?_⟩
  rw [endsNormally_iff, hasRaised_turn hstage, and_iff_left (hresults.turn scenario label)]
  exact iff_of_eq (Bool.not_eq_false' _)

/-- No result is stored. -/
theorem resultsRefer_oneMonitor : ResultsRefer .oneMonitor := fun _ _ hget ↦ nomatch hget

/-- A monitor that is deleted once its check is committed. -/
theorem endsNormally_run_deletedAfter :
    let schedule : List Turn := [.task, .task, .task, .request, .request, .task]
    let final := run (upScenario .delete) (.start .oneMonitor) schedule
    (EndsNormally (upScenario .delete) final ∧ ∀ label,
      (EndsNormally (upScenario .delete) (turn (upScenario .delete) final label) ↔
        findsMonitor (upScenario .delete) final label = true)) ∧
      final.database.pingResults.rows = [] :=
  ⟨endsNormally_run resultsRefer_oneMonitor rfl, rfl⟩

/-- A monitor that is deleted in its probe, or before the session after the soft time limit: the
task ends with an error of the database. -/
theorem deleted_under_task_raises :
    ResultsRefer .oneMonitor ∧
      (run (upScenario .delete) (.start .oneMonitor)
        [.task, .task, .request, .request, .task, .task]).task = .ended .raised ∧
      (run (upScenario .delete) (.start .oneMonitor)
        [.task, .request, .request, .timeLimit, .task, .task]).task = .ended .raised ∧
      isNormal .raised = false :=
  ⟨resultsRefer_oneMonitor, rfl, rfl, rfl⟩

end PingGuard.Overlap
