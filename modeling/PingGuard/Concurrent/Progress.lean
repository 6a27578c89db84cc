import PingGuard.Concurrent.Advances

/-!
# Progress

Every process that was started finishes. `System.work` bounds the steps that the processes can still
make, whatever the broker, the recovery transactions and the time limits do: the sweeps are bounded
by their batches, and every advance leaves a process less to do (`Advance.work_lt`). No process
waits for ever: only a sweep that has selected a batch holds locks, and its claim waits for nothing.
A system in which nothing can go on has therefore finished.
-/

set_option autoImplicit false
set_option relaxedAutoImplicit false

namespace PingGuard.Concurrent

open Library.SerialTable Library.Transition Models Net ProbeTask Sweep

variable {settings : Settings} {system next : System} {action : Action}

/-! ### What is left to do -/

/-- The steps of one batch at most: the selection, the claim, an item at a time and the end. -/
def SweepRun.batchWork (run : SweepRun) : ℕ := run.batchSize + 4

/-- The steps of the phases after the current one. -/
def SweepRun.laterWork (run : SweepRun) : ℕ :=
  match run.schedule with
  | .health => run.maxBatches * run.batchWork + 1
  | .keepAlive => 0

/-- The steps after the current batch. -/
def SweepRun.restWork (run : SweepRun) : ℕ :=
  (run.batchesLeft - 1) * run.batchWork + 1 + run.laterWork

/-- The steps that a sweep can still make. -/
def SweepRun.work (run : SweepRun) : ℕ :=
  match run.stage with
  | .ready => run.batchesLeft * run.batchWork + 1 + run.laterWork
  | .selected batch => batch.length + 3 + run.restWork
  | .dispatching items => items.length + 2 + run.restWork
  | .recovering _ => 1 + run.laterWork

/-- The steps that a process can still make. A probe task that has committed is done, unless the
soft time limit strikes. -/
def Process.work : Process → ℕ
  | .sweep run => run.work
  | .create _ => 2
  | .update .. | .inserted .. | .delete _ => 1
  | .probe run =>
    match run.stage with
    | .probing => 3
    | .committed => 2
    | .timeLimited => 1
  | .done => 0

/-- The steps that the processes can still make. -/
def System.work (system : System) : ℕ :=
  (system.processes.rows.map fun row ↦ row.2.work).sum

/-- Whether a process has finished: it is done, or it is a probe task that has committed. -/
def Process.isFinished : Process → Bool
  | .done => true
  | .probe run => run.stage = .committed
  | _ => false

/-- Every process has finished. -/
def System.Finished (system : System) : Prop :=
  ∀ processId process, system.processes.get processId = some process → process.isFinished = true

/-! ### The steps of a process -/

/-- The steps in which something outside fails: the broker, a recovery transaction or a probe that
takes too long. -/
def Action.isFailure : Action → Bool
  | .enqueue _ accepted => !accepted
  | .recoverItems _ succeeds => !succeeds
  | .timeLimit .. => true
  | _ => false

/-- The steps with which a process goes on, while nothing fails. -/
def Action.IsSuccess (action : Action) : Prop := action.goesOn = true ∧ action.isFailure = false

/-- What is left after a phase. -/
theorem work_endPhase (run : SweepRun) : run.endPhase.work = run.laterWork := by
  unfold SweepRun.endPhase SweepRun.laterWork
  cases run.schedule with
  | health => rfl
  | keepAlive => rfl

/-- What is left of a sweep, by its stage. -/
theorem work_of_stage {run : SweepRun} {stage : SweepStage} (hstage : run.stage = stage) :
    (Process.sweep run).work = { run with stage := stage }.work := by
  rw [← hstage]
  rfl

/-- A probe task has at least its end left, and a session of its own before the soft time limit. -/
theorem work_probe (run : ProbeRun) :
    0 < (Process.probe run).work ∧
      (run.stage ≠ .timeLimited → 1 < (Process.probe run).work) := by
  rw [Process.work]
  cases run.stage <;> simp

/-- A claim has no more items than the batch has rows. -/
theorem length_batchItems_le (schedule : Schedule) (batch : List (ℕ × Monitor)) :
    (batchItems schedule batch).length ≤ batch.length := by
  have hsublist := (batchItems_sublist schedule batch).length_le
  rwa [List.length_map, List.length_map] at hsublist

/-- Every advance leaves a process less to do. -/
theorem Advance.work_lt {processId : ℕ} {before after : Process}
    {handed : List (Schedule × ℕ × ℤ)} {added : List ScheduleWrite}
    (hadvance : Advance system processId action before after handed added) :
    after.work < before.work := by
  cases hadvance with
  | phaseEnded run hstage =>
    rw [work_endPhase, work_of_stage hstage]
    change _ < run.batchesLeft * run.batchWork + 1 + run.laterWork
    omega
  | selected run monitorIds hstage hleft hlength =>
    -- one batch less, and its rows are no more than a batch holds
    have hread : (readRows system.database.monitors monitorIds).length ≤ monitorIds.length :=
      List.length_filterMap_le _ _
    have hbatches : run.batchesLeft * run.batchWork =
        (run.batchesLeft - 1) * run.batchWork + run.batchWork := by
      rw [← Nat.succ_mul, Nat.succ_eq_add_one, Nat.sub_add_cancel (Nat.pos_of_ne_zero hleft)]
    have hbatch : run.batchWork = run.batchSize + 4 := rfl
    rw [work_of_stage hstage]
    change (readRows system.database.monitors monitorIds).length + 3 +
        ((run.batchesLeft - 1) * run.batchWork + 1 + run.laterWork) <
      run.batchesLeft * run.batchWork + 1 + run.laterWork
    omega
  | claimed run batch hstage =>
    have hitems := length_batchItems_le run.schedule batch
    rw [work_of_stage hstage]
    change (batchItems run.schedule batch).length + 2 + run.restWork <
      batch.length + 3 + run.restWork
    omega
  | handed run item rest hstage =>
    rw [work_of_stage hstage]
    change rest.length + 2 + run.restWork < (item :: rest).length + 2 + run.restWork
    rw [List.length_cons]
    omega
  | refused run item rest hstage =>
    have hrest : run.laterWork < run.restWork := by
      unfold SweepRun.restWork
      omega
    rw [work_of_stage hstage]
    change 1 + run.laterWork < (item :: rest).length + 2 + run.restWork
    omega
  | batchEnded run hstage =>
    rw [work_of_stage hstage]
    change run.restWork < 0 + 2 + run.restWork
    omega
  | recovered run items hstage | notRecovered run items hstage =>
    rw [work_endPhase, work_of_stage hstage]
    change run.laterWork < 1 + run.laterWork
    omega
  | inserted => exact Nat.one_lt_two
  | notInserted => exact Nat.zero_lt_two
  | created | notCreated | updated | notUpdated | deleted => exact Nat.zero_lt_one
  | probed run dto hstage =>
    rw [Process.work, Process.work, hstage]
    exact Nat.lt_succ_self 2
  | timeLimited run now loaded hstage =>
    exact (work_probe run).2 hstage
  | probeEnded run => exact (work_probe run).1

/-- Every step with which a process goes on leaves less to do. -/
theorem work_lt_of_step (hgoesOn : action.goesOn = true)
    (hstep : step settings system action = some next) : next.work < system.work := by
  obtain ⟨processId, before, after, handed, added, hbefore, hadvance, hprocesses, -, -⟩ :=
    advances_of_step hgoesOn hstep
  unfold System.work
  rw [hprocesses]
  exact system.processes.sum_modify_lt hbefore hadvance.work_lt

/-! ### No deadlock -/

/-- Locks are held by a sweep that has selected a batch, and its claim is enabled. -/
theorem claim_enabled_of_isLocked (settings : Settings) {monitorId : ℕ}
    (hlocked : system.isLocked monitorId = true) :
    ∃ processId, step settings system (.commitClaim processId) ≠ none := by
  obtain ⟨⟨processId, process⟩, hrow, hmem⟩ := List.any_eq_true.mp hlocked
  have hget := (Table.mem_rows_iff _ _ _).mp hrow
  have hheld := of_decide_eq_true hmem
  refine ⟨processId, ?_⟩
  cases process with
  | sweep run =>
    cases hstage : run.stage with
    | selected batch =>
      change commitClaim system processId ≠ none
      unfold commitClaim
      rw [hget]
      dsimp only
      rw [hstage]
      exact Option.some_ne_none _
    | _ =>
      unfold Process.locked at hheld
      dsimp only at hheld
      rw [hstage] at hheld
      exact absurd hheld List.not_mem_nil
  | _ => exact absurd hheld List.not_mem_nil

/-- At rest, no row is locked. -/
theorem isLocked_of_atRest (hrest : AtRest (step settings) Action.IsSuccess system)
    (monitorId : ℕ) : system.isLocked monitorId = false := by
  rw [Bool.eq_false_iff]
  intro hlocked
  obtain ⟨processId, henabled⟩ := claim_enabled_of_isLocked settings hlocked
  exact henabled (hrest _ ⟨rfl, rfl⟩)

/-- At rest, no sweep is left. -/
theorem not_sweep_of_atRest (hrest : AtRest (step settings) Action.IsSuccess system)
    {processId : ℕ} {run : SweepRun}
    (hget : system.processes.get processId = some (.sweep run)) : False := by
  cases hstage : run.stage with
  | ready =>
    have hnone : select system processId [] = none := hrest (.select processId []) ⟨rfl, rfl⟩
    unfold select at hnone
    rw [hget] at hnone
    dsimp only at hnone
    rw [hstage] at hnone
    nomatch hnone
  | selected batch =>
    have hnone : commitClaim system processId = none := hrest (.commitClaim processId) ⟨rfl, rfl⟩
    unfold commitClaim at hnone
    rw [hget] at hnone
    dsimp only at hnone
    rw [hstage] at hnone
    nomatch hnone
  | dispatching items =>
    cases items with
    | nil =>
      have hnone : endBatch system processId = none := hrest (.endBatch processId) ⟨rfl, rfl⟩
      unfold endBatch at hnone
      rw [hget] at hnone
      dsimp only at hnone
      rw [hstage] at hnone
      nomatch hnone
    | cons item rest =>
      have hnone : enqueue system processId true = none :=
        hrest (.enqueue processId true) ⟨rfl, rfl⟩
      unfold enqueue at hnone
      rw [hget] at hnone
      dsimp only at hnone
      rw [hstage] at hnone
      nomatch hnone
  | recovering items =>
    have hnone : recoverItems system processId true = none :=
      hrest (.recoverItems processId true) ⟨rfl, rfl⟩
    unfold recoverItems at hnone
    rw [hget] at hnone
    dsimp only at hnone
    rw [hstage] at hnone
    dsimp only at hnone
    have hfree : ∀ item ∈ items, system.isLocked item.1 = false :=
      fun item _ ↦ isLocked_of_atRest hrest item.1
    rw [if_neg (not_not_intro rfl), if_pos hfree] at hnone
    nomatch hnone

/-- The commit of a session waits for nothing but a lock. -/
theorem commitSession_ne_none {processId : ℕ} {after : Process} {rewrite : Monitor → Monitor}
    {result : PingResult} (hunlocked : system.isLocked result.monitorId = false) :
    commitSession system processId after rewrite result ≠ none := by
  unfold commitSession
  rw [hunlocked, if_neg Bool.false_ne_true]
  split <;> exact Option.some_ne_none _

/-- A system at rest has finished. -/
theorem finished_of_atRest (hrest : AtRest (step settings) Action.IsSuccess system) :
    system.Finished := by
  intro processId process hget
  have hfree := isLocked_of_atRest hrest
  cases process with
  | sweep run => exact (not_sweep_of_atRest hrest hget).elim
  | update monitorId payload loaded =>
    have hnone : commitUpdate system processId 0 = none :=
      hrest (.commitUpdate processId 0) ⟨rfl, rfl⟩
    unfold commitUpdate at hnone
    rw [hget] at hnone
    dsimp only at hnone
    rw [hfree monitorId] at hnone
    split at hnone
    · nomatch hnone
    · rw [if_neg Bool.false_ne_true] at hnone
      split at hnone <;> nomatch hnone
  | create payload =>
    have hnone : insertMonitor system processId 0 0 = none :=
      hrest (.insertMonitor processId 0 0) ⟨rfl, rfl⟩
    unfold insertMonitor at hnone
    rw [hget] at hnone
    dsimp only at hnone
    split_ifs at hnone
  | inserted monitorId row =>
    have hnone : commitCreate system processId = none := hrest (.commitCreate processId) ⟨rfl, rfl⟩
    unfold commitCreate at hnone
    rw [hget] at hnone
    dsimp only at hnone
    split_ifs at hnone
  | delete monitorId =>
    have hnone : commitDelete system processId = none := hrest (.commitDelete processId) ⟨rfl, rfl⟩
    unfold commitDelete at hnone
    rw [hget] at hnone
    dsimp only at hnone
    rw [hfree monitorId, if_neg Bool.false_ne_true] at hnone
    exact absurd hnone (Option.some_ne_none _)
  | probe run =>
    cases hstage : run.stage with
    | probing =>
      have hnone : commitProbe system processId ⟨.down, none, none, none, [], none⟩ = none :=
        hrest (.commitProbe processId _) ⟨rfl, rfl⟩
      unfold commitProbe at hnone
      rw [hget] at hnone
      dsimp only at hnone
      rw [if_pos hstage] at hnone
      exact absurd hnone (commitSession_ne_none (hfree _))
    | committed => exact decide_eq_true hstage
    | timeLimited =>
      have hnone : commitTimeLimit system processId = none :=
        hrest (.commitTimeLimit processId) ⟨rfl, rfl⟩
      unfold commitTimeLimit at hnone
      rw [hget] at hnone
      dsimp only at hnone
      rw [if_pos hstage] at hnone
      exact absurd hnone (commitSession_ne_none (hfree _))
  | done => rfl

/-! ### Every run -/

/-- However the processes of a system have gone on, with failures of the broker, of recoveries and
of time limits, they have made at most `System.work` steps. Nothing blocks them: what is left can be
finished within that bound, and where nothing can go on, every process has finished. -/
theorem everyRunCompletes {labels : List Action} {middle : System}
    (hgoesOn : ∀ label ∈ labels, label.goesOn = true)
    (hrun : run (step settings) system labels = some middle) :
    labels.length ≤ system.work ∧
      (AtRest (step settings) Action.IsSuccess middle → middle.Finished) ∧
      ∃ rest final, (∀ label ∈ rest, label.IsSuccess) ∧
        run (step settings) system (labels ++ rest) = some final ∧ final.Finished ∧
          (labels ++ rest).length ≤ system.work := by
  have hsmaller : ∀ state label after, label.goesOn = true →
      step settings state label = some after → after.work < state.work :=
    fun _ _ _ ↦ work_lt_of_step
  have hfirst := length_add_measure_le_of_run hsmaller hgoesOn hrun
  have hsuccess : ∀ state (label : Action) after, label.IsSuccess →
      step settings state label = some after → after.work < state.work :=
    fun state label after hlabel ↦ hsmaller state label after hlabel.1
  obtain ⟨rest, final, hrest, hrunRest, hfinal⟩ := exists_run_atRest hsuccess middle
  have hsecond := length_add_measure_le_of_run hsmaller
    (fun label hlabel ↦ (hrest label hlabel).1) hrunRest
  refine ⟨by omega, finished_of_atRest, rest, final, hrest, ?_, finished_of_atRest hfinal, ?_⟩
  · rw [run_append hrun]
    exact hrunRest
  · rw [List.length_append]
    omega

/-- A sweep of one batch of one monitor, and a request that deletes the monitor. -/
def sweepAndDelete : System :=
  ((System.idle .oneMonitor).start (.sweep ⟨0, 1, 1, .health, 1, .ready⟩)).start (.delete 1)

/-- The sweep selects the monitor, claims it, and the broker fails. -/
theorem everyRunCompletes_sweepAndDelete :
    ∃ middle, run (step .default) sweepAndDelete
        [.select 1 [1], .commitClaim 1, .enqueue 1 false] = some middle ∧
      sweepAndDelete.work = 13 ∧
      ∃ rest final, (∀ label ∈ rest, label.IsSuccess) ∧
        run (step .default) sweepAndDelete
          ([.select 1 [1], .commitClaim 1, .enqueue 1 false] ++ rest) = some final ∧
        final.Finished := by
  have hgoesOn : ∀ label ∈ ([.select 1 [1], .commitClaim 1, .enqueue 1 false] : List Action),
      label.goesOn = true := by
    intro label hlabel
    simp only [List.mem_cons, List.not_mem_nil, or_false] at hlabel
    rcases hlabel with rfl | rfl | rfl <;> rfl
  have hsome : (run (step .default) sweepAndDelete
      [.select 1 [1], .commitClaim 1, .enqueue 1 false]).isSome = true := rfl
  obtain ⟨middle, hrun⟩ := Option.isSome_iff_exists.mp hsome
  obtain ⟨-, -, rest, final, hrest, hfinalRun, hfinal, -⟩ := everyRunCompletes hgoesOn hrun
  exact ⟨middle, hrun, rfl, rest, final, hrest, hfinalRun, hfinal⟩

end PingGuard.Concurrent
