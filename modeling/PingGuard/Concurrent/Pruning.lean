import PingGuard.Concurrent.History
import PingGuard.Retention

/-!
# Retention while the system runs

`prune_ping_results` beside requests, sweeps and probe tasks, and beside other runs of itself. A
batch is one statement: its subquery selects expired results, and then those of them are deleted
that are still there. What others have deleted in the meantime is not counted, so a run may find
that a batch has deleted nothing, and end, while there are expired results.

It never ends too early, though, for the last run: who has deleted its batch goes on. When all runs
have ended, no result is left that had expired for every one of them (`noneExpired_of_reaches`). And
the runs take nothing else: any other result stays until its monitor is deleted
(`resultsKept_of_reaches`).
-/

set_option autoImplicit false
set_option relaxedAutoImplicit false

namespace PingGuard.Concurrent

open Library.OrderedBatch Library.SerialTable Library.Transition Models Overlap Retention

variable {settings : Settings}

/-! ### Runs of the task -/

/-- Where a run of `prune_ping_results` stands: before a batch, in one with the selected
identifiers, or at its end. -/
inductive PruneStage
  | ready
  | selected (ids : List ℕ)
  | ended
  deriving DecidableEq

/-- A run of `prune_ping_results`. Its cutoff is computed once. -/
structure PruneRun where
  cutoff : ℤ
  batchLimit : ℕ
  stage : PruneStage

/-- The system and the runs of the task. -/
structure PruneSystem where
  system : System
  prunes : Table PruneRun

namespace PruneSystem

/-- No run has been started. -/
def idle (database : Database) : PruneSystem := ⟨System.idle database, Table.empty PruneRun⟩

/-- The stored results. -/
def results (state : PruneSystem) : Table PingResult := state.system.database.pingResults

/-- A run goes on. -/
def resume (state : PruneSystem) (runId : ℕ) (stage : PruneStage) : PruneSystem :=
  { state with prunes := state.prunes.modify runId fun run ↦ { run with stage := stage } }

/-- The table of results after a deletion. -/
def withResults (state : PruneSystem) (results : Table PingResult) : PruneSystem :=
  { state with system := { state.system with
      database := { state.system.database with pingResults := results } } }

end PruneSystem

/-- The steps of the system, and those of the task. A run may fail at any time. -/
inductive PruneAction
  | other (action : Action)
  | startPrune (cutoff : ℤ) (batchLimit : ℕ)
  | selectExpired (runId : ℕ)
  | deleteExpired (runId : ℕ)
  | abandonPrune (runId : ℕ)

/-- The subquery of a batch. -/
def selectExpired (state : PruneSystem) (runId : ℕ) : Option PruneSystem :=
  match state.prunes.get runId with
  | some ⟨cutoff, batchLimit, .ready⟩ =>
    some (state.resume runId (.selected (expiredIds batchLimit cutoff state.results)))
  | _ => none

/-- The deletion of a batch and its commit. A run that has deleted nothing ends. -/
def deleteExpired (state : PruneSystem) (runId : ℕ) : Option PruneSystem :=
  match state.prunes.get runId with
  | some ⟨_, _, .selected ids⟩ =>
    let deleted := state.results.rows.countP fun row ↦ row.1 ∈ ids
    some ((state.resume runId (if deleted = 0 then .ended else .ready)).withResults
      (state.results.filterRows fun resultId _ ↦ resultId ∉ ids))
  | _ => none

/-- A step, if it is enabled. -/
def stepPrune (settings : Settings) (state : PruneSystem) : PruneAction → Option PruneSystem
  | .other action =>
    (step settings state.system action).map fun system ↦ { state with system := system }
  | .startPrune cutoff batchLimit =>
    some { state with prunes := state.prunes.insert ⟨cutoff, batchLimit, .ready⟩ }
  | .selectExpired runId => selectExpired state runId
  | .deleteExpired runId => deleteExpired state runId
  | .abandonPrune runId => some (state.resume runId .ended)

variable {state next : PruneSystem} {action : PruneAction}

/-- The steps by what they do. -/
inductive PruneStep (settings : Settings) (state : PruneSystem) : PruneAction → PruneSystem → Prop
  | other {action : Action} {system : System}
      (hstep : step settings state.system action = some system) :
      PruneStep settings state (.other action) { state with system := system }
  | started (cutoff : ℤ) (batchLimit : ℕ) :
      PruneStep settings state (.startPrune cutoff batchLimit)
        { state with prunes := state.prunes.insert ⟨cutoff, batchLimit, .ready⟩ }
  | selected {runId : ℕ} {run : PruneRun} (hget : state.prunes.get runId = some run)
      (hstage : run.stage = .ready) :
      PruneStep settings state (.selectExpired runId)
        (state.resume runId (.selected (expiredIds run.batchLimit run.cutoff state.results)))
  | deleted {runId : ℕ} {run : PruneRun} {ids : List ℕ} {stage : PruneStage}
      (hget : state.prunes.get runId = some run) (hstage : run.stage = .selected ids)
      (hends : stage = .ended ∧ (∀ resultId ∈ ids, state.results.get resultId = none) ∨
        stage = .ready) :
      PruneStep settings state (.deleteExpired runId)
        ((state.resume runId stage).withResults
          (state.results.filterRows fun resultId _ ↦ resultId ∉ ids))
  | abandoned (runId : ℕ) :
      PruneStep settings state (.abandonPrune runId) (state.resume runId .ended)

/-- Nothing is counted where nothing of a batch is left. -/
theorem countP_mem_eq_zero_iff (table : Table PingResult) (ids : List ℕ) :
    table.rows.countP (fun row ↦ row.1 ∈ ids) = 0 ↔
      ∀ resultId ∈ ids, table.get resultId = none := by
  rw [List.countP_eq_zero]
  constructor
  · intro hnone resultId hmem
    rw [Option.eq_none_iff_forall_not_mem]
    intro result hget
    exact hnone (resultId, result) ((table.mem_rows_iff _ _).mpr hget) (decide_eq_true hmem)
  · intro hgone row hrow hmem
    have hget := (table.mem_rows_iff row.1 row.2).mp hrow
    rw [hgone row.1 (of_decide_eq_true hmem)] at hget
    exact Option.some_ne_none _ hget.symm

/-- Every step is one of them. -/
theorem pruneStep_of_step (hstep : stepPrune settings state action = some next) :
    PruneStep settings state action next := by
  cases action with
  | other action =>
    obtain ⟨system, hsystem, rfl⟩ := Option.map_eq_some_iff.mp hstep
    exact .other hsystem
  | startPrune cutoff batchLimit =>
    obtain rfl := Option.some.inj hstep
    exact .started cutoff batchLimit
  | selectExpired runId =>
    change selectExpired state runId = some next at hstep
    unfold selectExpired at hstep
    split at hstep
    · rename_i cutoff batchLimit hget
      obtain rfl := Option.some.inj hstep
      exact .selected hget rfl
    · nomatch hstep
  | deleteExpired runId =>
    change deleteExpired state runId = some next at hstep
    unfold deleteExpired at hstep
    split at hstep
    · rename_i cutoff batchLimit ids hget
      obtain rfl := Option.some.inj hstep
      refine .deleted hget rfl ?_
      split_ifs with hnone
      · exact Or.inl ⟨rfl, (countP_mem_eq_zero_iff _ _).mp hnone⟩
      · exact Or.inr rfl
    · nomatch hstep
  | abandonPrune runId =>
    obtain rfl := Option.some.inj hstep
    exact .abandoned runId

/-! ### What is kept -/

/-- What a database keeps of the results of the one before: none is rewritten, and those that are
not older than a cutoff are there unless their monitor has been deleted. -/
structure ResultsKept (cutoff : ℤ) (before after : Database) : Prop where
  keys : KeysGoOn before after
  refers : ResultsRefer after
  nextKey_le : before.pingResults.nextKey ≤ after.pingResults.nextKey
  old : ∀ key, key < before.pingResults.nextKey → ∀ result,
    after.pingResults.get key = some result → before.pingResults.get key = some result
  recent : ∀ key result, before.pingResults.get key = some result →
    isExpired cutoff result = false → (after.monitors.get result.monitorId).isSome = true →
      after.pingResults.get key = some result

section Kept

variable {cutoff : ℤ} {before middle after : Database}

/-- A history that is kept has its results kept. -/
theorem HistoryKept.resultsKept (hkept : HistoryKept before after) :
    ResultsKept cutoff before after where
  keys := hkept.keys
  refers := hkept.refers
  nextKey_le := hkept.nextKey_le
  old := by
    intro key hkey result hget
    rw [hkept.results key hkey] at hget
    exact (Option.filter_eq_some_iff.mp hget).1
  recent := by
    intro key result hget _ hpresent
    rw [hkept.results key (Table.lt_nextKey_of_get _ hget)]
    exact Option.filter_eq_some_iff.mpr ⟨hget, hpresent⟩

theorem ResultsKept.trans (hrefer : ResultsRefer before) (hfirst : ResultsKept cutoff before middle)
    (hsecond : ResultsKept cutoff middle after) : ResultsKept cutoff before after where
  keys := hfirst.keys.trans hsecond.keys
  refers := hsecond.refers
  nextKey_le := hfirst.nextKey_le.trans hsecond.nextKey_le
  old := fun key hkey result hget ↦
    hfirst.old key hkey result (hsecond.old key (hkey.trans_le hfirst.nextKey_le) result hget)
  recent := by
    intro key result hget hrecent hpresent
    -- a monitor that is there in the end was there in between
    have hspent : middle.monitors.IsSpent result.monitorId := by
      obtain ⟨monitor, hmonitor⟩ := Option.ne_none_iff_exists'.mp (hrefer key result hget)
      exact hfirst.keys.spent result.monitorId (Table.isSpent_of_get _ hmonitor)
    have hbetween := hsecond.keys.kept result.monitorId hspent hpresent
    exact hsecond.recent key result (hfirst.recent key result hget hrecent hbetween) hrecent
      hpresent

end Kept

/-- The cutoffs of the runs are no later than a bound, and what they have selected has expired. -/
structure SelectionsExpired (cutoff : ℤ) (state : PruneSystem) : Prop where
  refers : ResultsRefer state.system.database
  cutoffs : ∀ runId run, state.prunes.get runId = some run → run.cutoff ≤ cutoff
  selected : ∀ runId run ids, state.prunes.get runId = some run → run.stage = .selected ids →
    ∀ resultId ∈ ids, resultId < state.results.nextKey ∧
      ∀ result, state.results.get resultId = some result → isExpired cutoff result = true

/-- What has expired for a cutoff has expired for a later one. -/
theorem isExpired_of_le {cutoff later : ℤ} (hle : cutoff ≤ later) {result : PingResult}
    (hexpired : isExpired cutoff result = true) : isExpired later result = true :=
  decide_eq_true ((of_decide_eq_true hexpired).trans_le hle)

/-- The runs after one went on: that one, and the others. -/
theorem of_get_resume {runId otherId : ℕ} {stage : PruneStage} {run : PruneRun}
    (hget : (state.resume runId stage).prunes.get otherId = some run) :
    ∃ before, state.prunes.get otherId = some before ∧
      ((otherId = runId ∧ run = { before with stage := stage }) ∨
        (otherId ≠ runId ∧ run = before)) := by
  have hmodified := (Table.get_modify _ _ _ _).symm.trans hget
  split_ifs at hmodified with hsame
  · obtain ⟨before, hbefore, rfl⟩ := Option.map_eq_some_iff.mp hmodified
    exact ⟨before, hbefore, Or.inl ⟨hsame, rfl⟩⟩
  · exact ⟨run, hmodified, Or.inr ⟨hsame, rfl⟩⟩

/-- A step keeps the results that the runs must not take. -/
theorem resultsKept_of_pruneStep {cutoff : ℤ} (hselections : SelectionsExpired cutoff state)
    (hstep : PruneStep settings state action next) :
    ResultsKept cutoff state.system.database next.system.database := by
  have hsame : ResultsKept cutoff state.system.database state.system.database :=
    (HistoryKept.refl hselections.refers).resultsKept
  cases hstep with
  | other hstep =>
    exact (historyKept_of_transition hselections.refers (transition_of_step hstep)).resultsKept
  | started cutoff batchLimit => exact hsame
  | selected hget hstage => exact hsame
  | abandoned runId => exact hsame
  | @deleted runId run ids stage hget hstage hends =>
    have hafter : ∀ key result, (state.results.filterRows fun resultId _ ↦ resultId ∉ ids).get key =
        some result → state.results.get key = some result := fun key result hkept ↦
      (Option.filter_eq_some_iff.mp ((Table.get_filterRows _ _ _).symm.trans hkept)).1
    refine ⟨⟨le_rfl, fun _ hspent ↦ hspent, fun _ _ hpresent ↦ hpresent⟩,
      fun key result hkept ↦ hselections.refers key result (hafter key result hkept),
      le_rfl, fun key _ result hkept ↦ hafter key result hkept, ?_⟩
    intro key result hstored hrecent _
    refine (Table.get_filterRows _ _ _).trans (Option.filter_eq_some_iff.mpr ⟨hstored, ?_⟩)
    refine decide_eq_true fun hmem ↦ ?_
    have hexpired := (hselections.selected runId run ids hget hstage key hmem).2 result hstored
    exact Bool.false_ne_true (hrecent.symm.trans hexpired)

/-- Every step keeps to what has expired. -/
theorem SelectionsExpired.step {cutoff : ℤ} (hselections : SelectionsExpired cutoff state)
    (hcutoff : ∀ later batchLimit, action = .startPrune later batchLimit → later ≤ cutoff)
    (hstep : PruneStep settings state action next) : SelectionsExpired cutoff next := by
  have hkept := resultsKept_of_pruneStep hselections hstep
  refine ⟨hkept.refers, ?_, ?_⟩
  · intro runId run hget
    have hresumed : ∀ {actingId : ℕ} {stage : PruneStage},
        (state.resume actingId stage).prunes.get runId = some run → run.cutoff ≤ cutoff := by
      intro actingId stage hresume
      obtain ⟨before, hbefore, ⟨-, rfl⟩ | ⟨-, rfl⟩⟩ := of_get_resume hresume
      · exact hselections.cutoffs runId before hbefore
      · exact hselections.cutoffs runId run hbefore
    cases hstep with
    | other hstep => exact hselections.cutoffs runId run hget
    | started later batchLimit =>
      have hinserted := (Table.get_insert _ _ _).symm.trans hget
      split_ifs at hinserted
      · rw [← Option.some.inj hinserted]
        exact hcutoff later batchLimit rfl
      · exact hselections.cutoffs runId run hinserted
    | selected hbefore hstage => exact hresumed hget
    | deleted hbefore hstage hends => exact hresumed hget
    | abandoned actingId => exact hresumed hget
  · -- what was selected before is old, so it is as it was
    have hold : ∀ runId run ids, state.prunes.get runId = some run → run.stage = .selected ids →
        ∀ resultId ∈ ids, resultId < next.results.nextKey ∧
          ∀ result, next.results.get resultId = some result → isExpired cutoff result = true := by
      intro runId run ids hget hstage resultId hmem
      obtain ⟨hlt, hexpired⟩ := hselections.selected runId run ids hget hstage resultId hmem
      exact ⟨hlt.trans_le hkept.nextKey_le, fun result hstored ↦
        hexpired result (hkept.old resultId hlt result hstored)⟩
    intro runId run ids hget hstage
    cases hstep with
    | other hstep => exact hold runId run ids hget hstage
    | started later batchLimit =>
      have hinserted := (Table.get_insert _ _ _).symm.trans hget
      split_ifs at hinserted
      · rw [← Option.some.inj hinserted] at hstage
        nomatch hstage
      · exact hold runId run ids hinserted hstage
    | selected hbefore hready =>
      obtain ⟨before, hbefore', ⟨rfl, rfl⟩ | ⟨-, rfl⟩⟩ := of_get_resume hget
      · obtain rfl := Option.some.inj (hbefore.symm.trans hbefore')
        obtain rfl := PruneStage.selected.inj hstage
        intro resultId hmem
        obtain ⟨result, hstored, hexpired⟩ := of_mem_expiredIds hmem
        refine ⟨Table.lt_nextKey_of_get _ hstored, fun other hother ↦ ?_⟩
        obtain rfl := Option.some.inj (hstored.symm.trans hother)
        exact isExpired_of_le (hselections.cutoffs _ _ hbefore) hexpired
      · exact hold runId run ids hbefore' hstage
    | deleted hbefore hselected hends =>
      obtain ⟨before, hbefore', ⟨-, rfl⟩ | ⟨-, rfl⟩⟩ := of_get_resume hget
      · rcases hends with ⟨rfl, -⟩ | rfl
        · nomatch hstage
        · nomatch hstage
      · exact hold runId run ids hbefore' hstage
    | abandoned actingId =>
      obtain ⟨before, hbefore', ⟨-, rfl⟩ | ⟨-, rfl⟩⟩ := of_get_resume hget
      · nomatch hstage
      · exact hold runId run ids hbefore' hstage

/-- From any state of a run to any later one, with any runs of the task in between that may fail: no
result is rewritten, and a result that is not older than their cutoffs is there until its monitor is
deleted.
Assumes: the results that are there at the start refer to stored monitors. -/
theorem resultsKept_of_reaches {database : Database} (hrefer : ResultsRefer database) {cutoff : ℤ}
    {later : PruneSystem}
    (hreaches : Reaches (stepPrune settings) (fun _ label ↦ ∀ started batchLimit,
      label = .startPrune started batchLimit → started ≤ cutoff) (PruneSystem.idle database) state)
    (hlater : Reaches (stepPrune settings) (fun _ label ↦ ∀ started batchLimit,
      label = .startPrune started batchLimit → started ≤ cutoff) state later) :
    ResultsKept cutoff state.system.database later.system.database := by
  have hselections : SelectionsExpired cutoff state := by
    refine hreaches.invariant (motive := SelectionsExpired cutoff)
      ⟨hrefer, fun _ _ hget ↦ (nomatch hget), fun _ _ _ hget ↦ (nomatch hget)⟩ ?_
    intro middle label next hmiddle hcutoff hstep
    exact hmiddle.step hcutoff (pruneStep_of_step hstep)
  refine (hlater.invariant (motive := fun middle ↦ SelectionsExpired cutoff middle ∧
    ResultsKept cutoff state.system.database middle.system.database)
      ⟨hselections, (HistoryKept.refl hselections.refers).resultsKept⟩ ?_).2
  rintro middle label next ⟨hmiddle, hkept⟩ hcutoff hstep
  have hpruned := pruneStep_of_step hstep
  exact ⟨hmiddle.step hcutoff hpruned,
    hkept.trans hselections.refers (resultsKept_of_pruneStep hmiddle hpruned)⟩

/-! ### What is gone -/

/-- The results after a step: those before it, with a new one or without those of a monitor. -/
theorem results_of_transition {system after : System} {action : Action}
    (htransition : Transition settings system action after) :
    after.database.pingResults = system.database.pingResults ∨
      (∃ processId run result, system.processes.get processId = some (.probe run) ∧
        ((∃ dto, action = .commitProbe processId dto) ∨ action = .commitTimeLimit processId) ∧
          result.checkedAt = run.now ∧
            after.database.pingResults = system.database.pingResults.insert result) ∨
      ∃ processId monitorId, action = .commitDelete processId ∧
        system.processes.get processId = some (.delete monitorId) ∧
          after.database.pingResults = system.database.pingResults.filterRows
            fun _ result ↦ result.monitorId ≠ monitorId := by
  cases htransition with
  | probed processId run process rewrite result stored hbefore hcommit hstored hunlocked =>
    refine Or.inr (Or.inl ⟨processId, run, result, hbefore, ?_⟩)
    cases hcommit with
    | probe dto hstage => exact ⟨Or.inl ⟨dto, rfl⟩, rfl, rfl⟩
    | timeLimit hstage => exact ⟨Or.inr rfl, rfl, rfl⟩
  | deleted processId monitorId hbefore hunlocked =>
    exact Or.inr (Or.inr ⟨processId, monitorId, rfl, hbefore, rfl⟩)
  | _ => exact Or.inl rfl

/-- Some result of a batch is still there. -/
def LeavesSome (results : Table PingResult) (ids : List ℕ) : Prop :=
  ∃ resultId ∈ ids, (results.get resultId).isSome = true

/-- The steps of runs that are not disturbed: no run fails, their batch limits are positive and
their cutoffs no earlier than a bound, no result is committed that is older than that, and a monitor
is not deleted with all that a batch has still to delete. -/
def PrunesUndisturbed (cutoff : ℤ) (state : PruneSystem) : PruneAction → Prop
  | .startPrune started batchLimit => cutoff ≤ started ∧ 0 < batchLimit
  | .abandonPrune _ => False
  | .other action =>
    (∀ processId run, state.system.processes.get processId = some (.probe run) →
      ((∃ dto, action = .commitProbe processId dto) ∨ action = .commitTimeLimit processId) →
        cutoff ≤ run.now) ∧
    ∀ processId monitorId, action = .commitDelete processId →
      state.system.processes.get processId = some (.delete monitorId) →
        ∀ runId run ids, state.prunes.get runId = some run → run.stage = .selected ids →
          LeavesSome state.results ids → LeavesSome (state.results.filterRows
            fun _ result ↦ result.monitorId ≠ monitorId) ids
  | _ => True

/-- A run that will look for expired results again: it is before a batch, or has one of which
something is left. -/
def GoesOn (results : Table PingResult) (stage : PruneStage) : Prop :=
  stage = .ready ∨ ∃ ids, stage = .selected ids ∧ LeavesSome results ids

/-- While there are expired results some run goes on, if one has been started. -/
structure SomeGoesOn (cutoff : ℤ) (state : PruneSystem) : Prop where
  runs : ∀ runId run, state.prunes.get runId = some run →
    cutoff ≤ run.cutoff ∧ 0 < run.batchLimit
  goesOn : (∃ runId run, state.prunes.get runId = some run) →
    (∃ key result, state.results.get key = some result ∧ isExpired cutoff result = true) →
      ∃ runId run, state.prunes.get runId = some run ∧ GoesOn state.results run.stage

/-- Where something has expired, a batch selects results that are there. -/
theorem leavesSome_expiredIds {results : Table PingResult} {cutoff : ℤ} {batchLimit : ℕ}
    (hlimit : 0 < batchLimit) {key : ℕ} {result : PingResult}
    (hget : results.get key = some result) (hexpired : isExpired cutoff result = true) :
    LeavesSome results (expiredIds batchLimit cutoff results) := by
  have hmem : key ∈ (results.rows.filter fun row ↦ isExpired cutoff row.2).map Prod.fst :=
    List.mem_map.mpr ⟨(key, result),
      List.mem_filter.mpr ⟨(results.mem_rows_iff _ _).mpr hget, hexpired⟩, rfl⟩
  have hsome : expiredIds batchLimit cutoff results ≠ [] := fun hnone ↦
    List.ne_nil_of_mem hmem ((firstBy_eq_nil_iff hlimit).mp hnone)
  obtain ⟨first, hfirst⟩ := List.exists_mem_of_ne_nil _ hsome
  obtain ⟨other, hother, -⟩ := of_mem_expiredIds hfirst
  exact ⟨first, hfirst, Option.isSome_iff_exists.mpr ⟨other, hother⟩⟩

/-- A step of the system keeps it. -/
theorem SomeGoesOn.other {cutoff : ℤ} (hsome : SomeGoesOn cutoff state) {action : Action}
    {system : System} (hallowed : PrunesUndisturbed cutoff state (.other action))
    (hstep : step settings state.system action = some system) :
    SomeGoesOn cutoff { state with system := system } := by
  refine ⟨hsome.runs, fun hstarted hexpired ↦ ?_⟩
  -- an expired result was there before, and a run that went on does so still
  have hkept : ∀ after : Table PingResult, system.database.pingResults = after →
      (∀ key result, after.get key = some result → isExpired cutoff result = true →
        state.results.get key = some result) →
      (∀ runId run ids, state.prunes.get runId = some run → run.stage = .selected ids →
        LeavesSome state.results ids → LeavesSome after ids) →
      ∃ runId run, state.prunes.get runId = some run ∧
        GoesOn system.database.pingResults run.stage := by
    rintro after rfl hold hleaves
    obtain ⟨key, result, hget, hresult⟩ := hexpired
    obtain ⟨runId, run, hrun, hready | ⟨ids, hstage, hleft⟩⟩ :=
      hsome.goesOn hstarted ⟨key, result, hold key result hget hresult, hresult⟩
    · exact ⟨runId, run, hrun, Or.inl hready⟩
    · exact ⟨runId, run, hrun, Or.inr ⟨ids, hstage, hleaves runId run ids hrun hstage hleft⟩⟩
  rcases results_of_transition (transition_of_step hstep) with hsame |
    ⟨processId, run, result, hprocess, haction, htime, hinserted⟩ |
    ⟨processId, monitorId, rfl, hprocess, hdeleted⟩
  · exact hkept _ hsame (fun _ _ hget _ ↦ hget) fun _ _ _ _ _ hleft ↦ hleft
  · refine hkept _ hinserted (fun key other hget hold ↦ ?_) ?_
    · rw [Table.get_insert] at hget
      split_ifs at hget
      · obtain rfl := Option.some.inj hget
        have hearly := of_decide_eq_true hold
        exact absurd (hallowed.1 processId run hprocess haction)
          (not_le.mpr (htime ▸ hearly))
      · exact hget
    · rintro runId other ids - - ⟨resultId, hmem, hleft⟩
      refine ⟨resultId, hmem, ?_⟩
      rw [Table.get_insert]
      split_ifs
      · rfl
      · exact hleft
  · refine hkept _ hdeleted (fun key other hget _ ↦ ?_) fun runId run ids hrun hstage hleft ↦
      hallowed.2 processId monitorId rfl hprocess runId run ids hrun hstage hleft
    exact (Option.filter_eq_some_iff.mp ((Table.get_filterRows _ _ _).symm.trans hget)).1

/-- A run that went on is found with its new stage. -/
theorem get_resume_self {runId : ℕ} {run : PruneRun} (hget : state.prunes.get runId = some run)
    (stage : PruneStage) :
    (state.resume runId stage).prunes.get runId = some { run with stage := stage } := by
  refine (Table.get_modify _ _ _ _).trans ?_
  rw [if_pos rfl, hget]
  rfl

/-- A run that finds nothing left of its batch ends, and the one that has taken it goes on. -/
theorem SomeGoesOn.ended {cutoff : ℤ} (hsome : SomeGoesOn cutoff state) {runId : ℕ}
    {run : PruneRun} {ids : List ℕ} (hget : state.prunes.get runId = some run)
    (hstage : run.stage = .selected ids)
    (hgone : ∀ resultId ∈ ids, state.results.get resultId = none)
    (hexpired : ∃ key result, (state.results.filterRows fun resultId _ ↦ resultId ∉ ids).get key =
      some result ∧ isExpired cutoff result = true) :
    ∃ otherId other, (state.resume runId .ended).prunes.get otherId = some other ∧
      GoesOn (state.results.filterRows fun resultId _ ↦ resultId ∉ ids) other.stage := by
  have hpresent : ∀ resultId, (state.results.get resultId).isSome = true →
      ((state.results.filterRows fun resultId _ ↦ resultId ∉ ids).get resultId).isSome = true := by
    intro resultId hstored
    have hnot : resultId ∉ ids := fun hmem ↦ by
      rw [hgone resultId hmem] at hstored
      exact Bool.false_ne_true hstored
    obtain ⟨result, hresult⟩ := Option.isSome_iff_exists.mp hstored
    rw [Table.get_filterRows, hresult, Option.filter_some, if_pos (decide_eq_true hnot)]
    rfl
  obtain ⟨key, result, hkept, hresult⟩ := hexpired
  have hstored := (Option.filter_eq_some_iff.mp ((Table.get_filterRows _ _ _).symm.trans hkept)).1
  obtain ⟨otherId, other, hother, hgoes⟩ :=
    hsome.goesOn ⟨runId, run, hget⟩ ⟨key, result, hstored, hresult⟩
  have hne : otherId ≠ runId := by
    rintro rfl
    obtain rfl := Option.some.inj (hget.symm.trans hother)
    rcases hgoes with hready | ⟨others, hselected, resultId, hmem, hleft⟩
    · exact PruneStage.noConfusion (hstage.symm.trans hready)
    · obtain rfl := PruneStage.selected.inj (hstage.symm.trans hselected)
      rw [hgone resultId hmem] at hleft
      exact Bool.false_ne_true hleft
  refine ⟨otherId, other, (Table.get_modify _ _ _ _).trans ((if_neg hne).trans hother), ?_⟩
  rcases hgoes with hready | ⟨others, hselected, resultId, hmem, hleft⟩
  · exact Or.inl hready
  · exact Or.inr ⟨others, hselected, resultId, hmem, hpresent resultId hleft⟩

/-- Every step keeps it. -/
theorem SomeGoesOn.step {cutoff : ℤ} (hsome : SomeGoesOn cutoff state)
    (hallowed : PrunesUndisturbed cutoff state action)
    (hstep : PruneStep settings state action next) : SomeGoesOn cutoff next := by
  have hresumed : ∀ {actingId : ℕ} {stage : PruneStage}, ∀ runId run,
      (state.resume actingId stage).prunes.get runId = some run →
        cutoff ≤ run.cutoff ∧ 0 < run.batchLimit := by
    intro actingId stage runId run hresume
    obtain ⟨before, hbefore, ⟨-, rfl⟩ | ⟨-, rfl⟩⟩ := of_get_resume hresume
    · exact hsome.runs runId before hbefore
    · exact hsome.runs runId run hbefore
  cases hstep with
  | other hstep => exact hsome.other hallowed hstep
  | started later batchLimit =>
    refine ⟨fun runId run hget ↦ ?_, fun _ _ ↦
      ⟨state.prunes.nextKey, ⟨later, batchLimit, .ready⟩, ?_, Or.inl rfl⟩⟩
    · have hinserted := (Table.get_insert _ _ _).symm.trans hget
      split_ifs at hinserted
      · rw [← Option.some.inj hinserted]
        exact hallowed
      · exact hsome.runs runId run hinserted
    · exact (Table.get_insert _ _ _).trans (if_pos rfl)
  | @selected runId run hget hstage =>
    refine ⟨hresumed, fun _ ↦ ?_⟩
    rintro ⟨key, result, hstored, hexpired⟩
    obtain ⟨hle, hlimit⟩ := hsome.runs runId run hget
    exact ⟨runId, _, get_resume_self hget _, Or.inr ⟨_, rfl,
      leavesSome_expiredIds hlimit hstored (isExpired_of_le hle hexpired)⟩⟩
  | @deleted runId run ids stage hget hstage hends =>
    refine ⟨hresumed, fun _ hexpired ↦ ?_⟩
    rcases hends with ⟨rfl, hgone⟩ | rfl
    · exact hsome.ended hget hstage hgone hexpired
    · exact ⟨runId, _, get_resume_self hget _, Or.inl rfl⟩
  | abandoned runId => exact hallowed.elim

/-- When all runs of the task have ended, and one has been started, no result is left that was older
than all their cutoffs, however their batches and the rest of the system were interleaved.
Assumes: no run fails, no result is committed that is older than the cutoffs, and no monitor is
deleted with all that a batch has still to delete. -/
theorem noneExpired_of_reaches {database : Database} {cutoff : ℤ}
    (hreaches : Reaches (stepPrune settings) (PrunesUndisturbed cutoff)
      (PruneSystem.idle database) state)
    (hstarted : ∃ runId run, state.prunes.get runId = some run)
    (hended : ∀ runId run, state.prunes.get runId = some run → run.stage = .ended) :
    ∀ key result, state.results.get key = some result → cutoff ≤ result.checkedAt := by
  have hsome : SomeGoesOn cutoff state := by
    refine hreaches.invariant (motive := SomeGoesOn cutoff)
      ⟨fun _ _ hget ↦ (nomatch hget), fun ⟨_, _, hget⟩ ↦ (nomatch hget)⟩ ?_
    intro middle label next hmiddle hallowed hstep
    exact hmiddle.step hallowed (pruneStep_of_step hstep)
  intro key result hget
  by_contra hearly
  obtain ⟨runId, run, hrun, hgoes⟩ :=
    hsome.goesOn hstarted ⟨key, result, hget, decide_eq_true (not_le.mp hearly)⟩
  have hstage := hended runId run hrun
  rcases hgoes with hready | ⟨ids, hselected, -⟩
  · exact PruneStage.noConfusion (hstage.symm.trans hready)
  · exact PruneStage.noConfusion (hstage.symm.trans hselected)

/-- A database with three results that have expired for two runs, and one for the second alone. -/
def expiredDatabase : Database :=
  { Database.oneMonitor with
    pingResults := (Table.empty PingResult).insertAll
      [resultAt 3, resultAt 4, resultAt 5, resultAt 11, resultAt 20] }

/-- Both runs select the same batch. The second finds nothing left of it and ends, and the first
goes on. -/
def overlappingPrunes : List PruneAction :=
  [.startPrune 10 2, .startPrune 12 2, .selectExpired 1, .selectExpired 2, .deleteExpired 1,
    .deleteExpired 2, .selectExpired 1, .deleteExpired 1, .selectExpired 1, .deleteExpired 1]

/-- What they leave, and that they have ended. -/
theorem run_overlappingPrunes :
    (run (stepPrune .default) (PruneSystem.idle expiredDatabase) overlappingPrunes).map
      (fun state ↦ (state.results.rows.map Prod.fst,
        state.prunes.rows.all fun row ↦ row.2.stage = .ended,
        state.prunes.rows.length)) = some ([4, 5], true, 2) := rfl

/-- What had expired for both is gone. -/
theorem noneExpired_overlappingPrunes : ∃ state,
    run (stepPrune .default) (PruneSystem.idle expiredDatabase) overlappingPrunes = some state ∧
    state.results.rows.map Prod.fst = [4, 5] ∧
    ∀ key result, state.results.get key = some result → 10 ≤ result.checkedAt := by
  obtain ⟨state, hstate, hleft⟩ := Option.map_eq_some_iff.mp run_overlappingPrunes
  obtain ⟨hkeys, hstages⟩ := Prod.mk.inj hleft
  obtain ⟨hended, hlength⟩ := Prod.mk.inj hstages
  have hallowed : ∀ label ∈ overlappingPrunes, ∀ state, PrunesUndisturbed 10 state label := by
    intro label hlabel state
    simp only [overlappingPrunes, List.mem_cons, List.not_mem_nil, or_false] at hlabel
    rcases hlabel with rfl | rfl | rfl | rfl | rfl | rfl | rfl | rfl | rfl | rfl <;>
      simp [PrunesUndisturbed]
  refine ⟨state, hstate, hkeys,
    noneExpired_of_reaches (reaches_of_run .start hallowed hstate) ?_ fun runId run hget ↦ ?_⟩
  · obtain ⟨row, hrow⟩ := List.exists_mem_of_length_pos
      (show 0 < state.prunes.rows.length by rw [hlength]; decide)
    exact ⟨row.1, row.2, (state.prunes.mem_rows_iff _ _).mp hrow⟩
  · have hall := List.all_eq_true.mp hended (runId, run) ((state.prunes.mem_rows_iff _ _).mpr hget)
    exact of_decide_eq_true hall

/-- The results that are not older than both cutoffs are kept. -/
theorem resultsKept_overlappingPrunes : ∃ state,
    run (stepPrune .default) (PruneSystem.idle expiredDatabase) overlappingPrunes = some state ∧
    state.results.rows.map Prod.fst = [4, 5] ∧
    ResultsKept 12 expiredDatabase state.system.database := by
  obtain ⟨state, hstate, hleft⟩ := Option.map_eq_some_iff.mp run_overlappingPrunes
  have hrefer : ResultsRefer expiredDatabase := by
    have hall : (expiredDatabase.pingResults.rows.all fun row ↦
        (expiredDatabase.monitors.get row.2.monitorId).isSome) = true := rfl
    intro key result hget
    exact Option.isSome_iff_ne_none.mp (List.all_eq_true.mp hall (key, result)
      ((expiredDatabase.pingResults.mem_rows_iff _ _).mpr hget))
  have hallowed : ∀ label ∈ overlappingPrunes, ∀ _ : PruneSystem, ∀ started batchLimit,
      label = .startPrune started batchLimit → started ≤ 12 := by
    intro label hlabel _ started batchLimit heq
    simp only [overlappingPrunes, List.mem_cons, List.not_mem_nil, or_false] at hlabel
    rcases hlabel with rfl | rfl | rfl | rfl | rfl | rfl | rfl | rfl | rfl | rfl
    · rw [← (PruneAction.startPrune.inj heq).1]
      decide
    · rw [← (PruneAction.startPrune.inj heq).1]
    all_goals exact PruneAction.noConfusion heq
  exact ⟨state, hstate, (Prod.mk.inj hleft).1,
    resultsKept_of_reaches hrefer .start (reaches_of_run .start hallowed hstate)⟩

end PingGuard.Concurrent
