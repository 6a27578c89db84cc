import PingGuard.Library.OrderedBatch
import PingGuard.Models

/-!
# Retention

`prune_ping_results` of `app/tasks.py`: the results that are older than a cutoff are deleted in
batches, each in a transaction of its own, until a batch deletes nothing. Other transactions may
insert results between two batches, none of them older than the cutoff.

A batch deletes as many expired results as there are, up to its limit, and no others,
`deleteBatch_spec`. So the expired results that are left are the measure of the loop, and their
number plus what is deleted so far does not change: `prunes_pruneLoop`.
-/

set_option autoImplicit false
set_option relaxedAutoImplicit false

namespace PingGuard.Retention

open Library.OrderedBatch Library.SerialTable Models Status

/-! ### One batch -/

/-- Whether a result is older than the cutoff. -/
def isExpired (cutoff : ℤ) (result : PingResult) : Bool := result.checkedAt < cutoff

/-- A result that is not older than the cutoff. -/
abbrev Recent (cutoff : ℤ) := {result : PingResult // isExpired cutoff result = false}

/-- The number of expired results. -/
def expiredCount (cutoff : ℤ) (table : Table PingResult) : ℕ :=
  table.rows.countP fun row ↦ isExpired cutoff row.2

/-- The subquery: the first identifiers of expired results. -/
def expiredIds (batchLimit : ℕ) (cutoff : ℤ) (table : Table PingResult) : List ℕ :=
  firstBy id batchLimit ((table.rows.filter fun row ↦ isExpired cutoff row.2).map Prod.fst)

/-- The `DELETE` of a batch: its row count and the table that it leaves. -/
def deleteBatch (batchLimit : ℕ) (cutoff : ℤ) (table : Table PingResult) : ℕ × Table PingResult :=
  let ids := expiredIds batchLimit cutoff table
  (table.rows.countP fun row ↦ row.1 ∈ ids, table.filterRows fun resultId _ ↦ resultId ∉ ids)

section Batch

variable {batchLimit : ℕ} {cutoff : ℤ} {table : Table PingResult}

/-- What the subquery selects has expired. -/
theorem of_mem_expiredIds {resultId : ℕ} (hmem : resultId ∈ expiredIds batchLimit cutoff table) :
    ∃ result, table.get resultId = some result ∧ isExpired cutoff result = true := by
  obtain ⟨row, hrow, rfl⟩ := List.mem_map.mp (mem_of_mem_firstBy hmem)
  obtain ⟨hrow, hexpired⟩ := List.mem_filter.mp hrow
  exact ⟨row.2, (table.mem_rows_iff _ _).mp hrow, hexpired⟩

/-- The subquery selects no identifier twice. -/
theorem nodup_expiredIds (batchLimit : ℕ) (cutoff : ℤ) (table : Table PingResult) :
    (expiredIds batchLimit cutoff table).Nodup := by
  have hnodup : ((table.rows.filter fun row ↦ isExpired cutoff row.2).map Prod.fst).Nodup :=
    table.nodup.sublist (List.filter_sublist.map _)
  have hperm := firstBy_append_perm id batchLimit
    ((table.rows.filter fun row ↦ isExpired cutoff row.2).map Prod.fst)
  exact (List.nodup_append.mp (hperm.nodup_iff.mpr hnodup)).1

/-- The subquery selects as many expired results as there are, up to the limit. -/
theorem length_expiredIds (batchLimit : ℕ) (cutoff : ℤ) (table : Table PingResult) :
    (expiredIds batchLimit cutoff table).length = min batchLimit (expiredCount cutoff table) := by
  rw [expiredIds, length_firstBy, List.length_map, ← List.countP_eq_length_filter]
  rfl

/-- What a batch does: it deletes as many expired results as there are, up to the limit, and leaves
the recent ones. -/
structure DeletesBatch (batchLimit : ℕ) (cutoff : ℤ) (before : Table PingResult) (deleted : ℕ)
    (after : Table PingResult) : Prop where
  deleted_eq : deleted = min batchLimit (expiredCount cutoff before)
  expiredCount_add : expiredCount cutoff after + deleted = expiredCount cutoff before
  recent : (after.filterRows fun _ result ↦ !isExpired cutoff result) =
    before.filterRows fun _ result ↦ !isExpired cutoff result

theorem deleteBatch_spec (batchLimit : ℕ) (cutoff : ℤ) (table : Table PingResult) :
    DeletesBatch batchLimit cutoff table (deleteBatch batchLimit cutoff table).1
      (deleteBatch batchLimit cutoff table).2 := by
  have hexpired : ∀ row ∈ table.rows, row.1 ∈ expiredIds batchLimit cutoff table →
      isExpired cutoff row.2 = true := by
    intro row hrow hmem
    obtain ⟨result, hget, hexpired⟩ := of_mem_expiredIds hmem
    rw [(table.mem_rows_iff row.1 row.2).mp hrow] at hget
    rw [Option.some.inj hget]
    exact hexpired
  have hcount : (deleteBatch batchLimit cutoff table).1 =
      (expiredIds batchLimit cutoff table).length :=
    table.countP_mem_keys (nodup_expiredIds batchLimit cutoff table) fun _ hmem ↦
      (of_mem_expiredIds hmem).imp fun _ h ↦ h.1
  refine ⟨hcount.trans (length_expiredIds batchLimit cutoff table), ?_, ?_⟩
  · -- the expired results split into those that are selected and the others
    have hsplit := table.rows.countP_eq_countP_filter_add (fun row ↦ isExpired cutoff row.2)
      fun row ↦ decide (row.1 ∈ expiredIds batchLimit cutoff table)
    have hselected : ((table.rows.filter fun row ↦
        decide (row.1 ∈ expiredIds batchLimit cutoff table)).countP fun row ↦
          isExpired cutoff row.2) = (deleteBatch batchLimit cutoff table).1 := by
      rw [List.countP_filter]
      refine List.countP_congr fun row hrow ↦ ?_
      rw [Bool.and_eq_true, decide_eq_true_eq, and_iff_right_of_imp (hexpired row hrow)]
    have hothers : ((table.rows.filter fun row ↦
        !decide (row.1 ∈ expiredIds batchLimit cutoff table)).countP fun row ↦
          isExpired cutoff row.2) =
        expiredCount cutoff (deleteBatch batchLimit cutoff table).2 := by
      refine congrArg (List.countP _) (List.filter_congr fun row _ ↦ ?_)
      exact (decide_not).symm
    rw [hselected, hothers] at hsplit
    exact (Nat.add_comm _ _).trans hsplit.symm
  · unfold deleteBatch
    rw [Table.filterRows_filterRows]
    refine Table.filterRows_congr fun resultId result hget ↦ ?_
    by_cases hmem : resultId ∈ expiredIds batchLimit cutoff table
    · have hrow := (table.mem_rows_iff resultId result).mpr hget
      simp [hmem, hexpired _ hrow hmem]
    · simp [hmem]

/-- A batch deletes nothing exactly when nothing has expired. -/
theorem deleted_eq_zero_iff {deleted : ℕ} {after : Table PingResult} (hlimit : 1 ≤ batchLimit)
    (hbatch : DeletesBatch batchLimit cutoff table deleted after) :
    deleted = 0 ↔ expiredCount cutoff table = 0 := by
  rw [hbatch.deleted_eq]
  omega

/-- Insertions of recent results leave the number of expired ones. -/
theorem expiredCount_insertAll (table : Table PingResult) (results : List (Recent cutoff)) :
    expiredCount cutoff (table.insertAll (results.map Subtype.val)) =
      expiredCount cutoff table := by
  unfold Table.insertAll
  induction results generalizing table with
  | nil => rfl
  | cons result rest ih =>
    refine (ih (table.insert result.val)).trans ?_
    unfold expiredCount Table.insert
    rw [List.countP_append, List.countP_singleton]
    simp only [result.property]
    rfl

/-- A table without expired results. -/
theorem filterRows_of_expiredCount_eq_zero (hnone : expiredCount cutoff table = 0) :
    (table.filterRows fun _ result ↦ !isExpired cutoff result) = table := by
  ext1
  · refine List.filter_eq_self.mpr fun row hrow ↦ ?_
    have hexpired := List.countP_eq_zero.mp hnone row hrow
    dsimp only
    rw [eq_false_of_ne_true hexpired]
    rfl
  · rfl
  · rfl

/-- Recent results may be inserted after filtering. -/
theorem filterRows_insertAll_recent (table : Table PingResult) (results : List (Recent cutoff)) :
    ((table.insertAll (results.map Subtype.val)).filterRows fun _ result ↦
        !isExpired cutoff result) =
      (table.filterRows fun _ result ↦ !isExpired cutoff result).insertAll
        (results.map Subtype.val) := by
  refine Table.filterRows_insertAll fun result hmem _ ↦ ?_
  obtain ⟨recent, -, rfl⟩ := List.mem_map.mp hmem
  rw [recent.property]
  rfl

end Batch

/-! ### The loop -/

/-- A run of the loop: the rows that each of its transactions deleted, their sum, the results that
others inserted between them, and the table at the end. -/
structure Pruning where
  transactions : List ℕ
  totalDeleted : ℕ
  inserted : List PingResult
  table : Table PingResult

/-- The `while` loop, from a batch on. `inserts` is what others insert after each batch. -/
def pruneLoop (batchLimit : ℕ) (cutoff : ℤ) (inserts : ℕ → List (Recent cutoff)) (batch : ℕ)
    (totalDeleted : ℕ) (table : Table PingResult) : Pruning :=
  let deletion := deleteBatch batchLimit cutoff table
  if _hdeleted : deletion.1 = 0 then ⟨[deletion.1], totalDeleted + deletion.1, [], deletion.2⟩
  else
    let results := (inserts batch).map Subtype.val
    let later := pruneLoop batchLimit cutoff inserts (batch + 1) (totalDeleted + deletion.1)
      (deletion.2.insertAll results)
    { later with
      transactions := deletion.1 :: later.transactions
      inserted := results ++ later.inserted }
termination_by expiredCount cutoff table
decreasing_by
  rw [expiredCount_insertAll]
  have hadd := (deleteBatch_spec batchLimit cutoff table).expiredCount_add
  change ¬ (deleteBatch batchLimit cutoff table).1 = 0 at _hdeleted
  change expiredCount cutoff (deleteBatch batchLimit cutoff table).2 < expiredCount cutoff table
  omega

/-- The settings of the task. Both are validated to be positive. -/
structure RetentionSettings where
  pingResultsRetentionDays : ℕ
  retentionBatchSize : ℕ
  retentionDays_pos : 0 < pingResultsRetentionDays
  batchSize_pos : 0 < retentionBatchSize

/-- `cutoff`. -/
def RetentionSettings.cutoff (settings : RetentionSettings) (now : ℤ) : ℤ :=
  now - seconds (settings.pingResultsRetentionDays * 86400)

/-- `batch_limit`. -/
def RetentionSettings.batchLimit (settings : RetentionSettings) (batchSize : Option ℕ) : ℕ :=
  batchSize.getD settings.retentionBatchSize

/-- `prune_ping_results`. The commit at the end of its session has nothing to write. -/
def prunePingResults (settings : RetentionSettings) (batchSize : Option ℕ) (now : ℤ)
    (inserts : ℕ → List (Recent (settings.cutoff now))) (table : Table PingResult) : Pruning :=
  pruneLoop (settings.batchLimit batchSize) (settings.cutoff now) inserts 0 0 table

/-- What the loop does from a batch on, when it has deleted some rows before: each transaction keeps
to the limit, the expired results are deleted and counted, and the others are left, with those that
were inserted. -/
structure Prunes (batchLimit : ℕ) (cutoff : ℤ) (inserts : ℕ → List (Recent cutoff))
    (batch totalDeleted : ℕ) (before : Table PingResult) (run : Pruning) : Prop where
  batches : ∀ deleted ∈ run.transactions, deleted ≤ batchLimit
  inserted : run.inserted = (List.range' batch (run.transactions.length - 1)).flatMap
    fun index ↦ (inserts index).map Subtype.val
  table : run.table = (before.filterRows fun _ result ↦ !isExpired cutoff result).insertAll
    run.inserted
  totalDeleted : run.totalDeleted = totalDeleted + expiredCount cutoff before

/-- An empty batch ends the loop. -/
theorem pruneLoop_of_eq_zero {batchLimit : ℕ} {cutoff : ℤ} {table : Table PingResult}
    (hdeleted : (deleteBatch batchLimit cutoff table).1 = 0) (inserts : ℕ → List (Recent cutoff))
    (batch totalDeleted : ℕ) :
    pruneLoop batchLimit cutoff inserts batch totalDeleted table =
      ⟨[0], totalDeleted, [], (deleteBatch batchLimit cutoff table).2⟩ := by
  rw [pruneLoop, dif_pos hdeleted, hdeleted]
  rfl

/-- Any other batch is followed by the next one. -/
theorem pruneLoop_of_ne_zero {batchLimit : ℕ} {cutoff : ℤ} {table : Table PingResult}
    (hdeleted : (deleteBatch batchLimit cutoff table).1 ≠ 0) (inserts : ℕ → List (Recent cutoff))
    (batch totalDeleted : ℕ) :
    pruneLoop batchLimit cutoff inserts batch totalDeleted table =
      let deletion := deleteBatch batchLimit cutoff table
      let results := (inserts batch).map Subtype.val
      let later := pruneLoop batchLimit cutoff inserts (batch + 1) (totalDeleted + deletion.1)
        (deletion.2.insertAll results)
      { later with
        transactions := deletion.1 :: later.transactions
        inserted := results ++ later.inserted } := by
  rw [pruneLoop, dif_neg hdeleted]

/-- The loop makes a transaction. -/
theorem transactions_pruneLoop_ne_nil (batchLimit : ℕ) (cutoff : ℤ)
    (inserts : ℕ → List (Recent cutoff)) (batch totalDeleted : ℕ) (table : Table PingResult) :
    (pruneLoop batchLimit cutoff inserts batch totalDeleted table).transactions ≠ [] := by
  rw [pruneLoop]
  dsimp only
  split_ifs
  · exact List.cons_ne_nil _ _
  · exact List.cons_ne_nil _ _

/-- The loop from any batch on. The induction follows the loop: every batch that is not the last one
deletes expired results. -/
theorem prunes_pruneLoop {batchLimit : ℕ} (hlimit : 1 ≤ batchLimit) (cutoff : ℤ)
    (inserts : ℕ → List (Recent cutoff)) (batch totalDeleted : ℕ) (table : Table PingResult) :
    Prunes batchLimit cutoff inserts batch totalDeleted table
      (pruneLoop batchLimit cutoff inserts batch totalDeleted table) := by
  induction batch, totalDeleted, table using pruneLoop.induct batchLimit cutoff inserts with
  | case1 batch totalDeleted table deletion hdeleted =>
    have hspec := deleteBatch_spec batchLimit cutoff table
    have hnone : expiredCount cutoff table = 0 := (deleted_eq_zero_iff hlimit hspec).mp hdeleted
    have hafter : expiredCount cutoff deletion.2 = 0 := by
      have hadd := hspec.expiredCount_add
      rw [hnone] at hadd
      exact Nat.eq_zero_of_add_eq_zero_right hadd
    rw [pruneLoop_of_eq_zero hdeleted]
    refine ⟨?_, rfl, ?_, ?_⟩
    · intro deleted hmem
      rw [List.mem_singleton.mp hmem]
      exact Nat.zero_le _
    · exact (filterRows_of_expiredCount_eq_zero hafter).symm.trans hspec.recent
    · rw [hnone]
      rfl
  | case2 batch totalDeleted table deletion hdeleted results ih =>
    have hspec := deleteBatch_spec batchLimit cutoff table
    have hne := transactions_pruneLoop_ne_nil batchLimit cutoff inserts (batch + 1)
      (totalDeleted + deletion.1) (deletion.2.insertAll results)
    rw [pruneLoop_of_ne_zero hdeleted]
    refine ⟨?_, ?_, ?_, ?_⟩
    · refine List.forall_mem_cons.mpr ⟨?_, ih.batches⟩
      exact hspec.deleted_eq.trans_le (Nat.min_le_left _ _)
    · obtain ⟨first, rest, hcons⟩ := List.exists_cons_of_ne_nil hne
      have hinserted := ih.inserted
      rw [hcons] at hinserted
      dsimp only
      rw [hcons, hinserted]
      rfl
    · have htable := ih.table
      dsimp only
      rw [htable, filterRows_insertAll_recent, hspec.recent]
      exact List.foldl_append.symm
    · have htotal := ih.totalDeleted
      have hadd := hspec.expiredCount_add
      rw [expiredCount_insertAll] at htotal
      change expiredCount cutoff deletion.2 + deletion.1 = _ at hadd
      change (pruneLoop batchLimit cutoff inserts (batch + 1) (totalDeleted + deletion.1)
        (deletion.2.insertAll results)).totalDeleted = _
      omega

/-- A result has not expired exactly when it is not older than the cutoff. -/
theorem isExpired_eq_false_iff (cutoff : ℤ) (result : PingResult) :
    isExpired cutoff result = false ↔ cutoff ≤ result.checkedAt :=
  decide_eq_false_iff_not.trans Int.not_lt

/-- What others insert between the transactions is recent. -/
theorem Prunes.exists_recent {batchLimit : ℕ} {cutoff : ℤ} {inserts : ℕ → List (Recent cutoff)}
    {batch totalDeleted : ℕ} {before : Table PingResult} {run : Pruning}
    (hprunes : Prunes batchLimit cutoff inserts batch totalDeleted before run) :
    ∃ results : List (Recent cutoff), run.inserted = results.map Subtype.val := by
  refine ⟨(List.range' batch (run.transactions.length - 1)).flatMap inserts, ?_⟩
  rw [hprunes.inserted, List.map_flatMap]

/-- What the loop leaves under an identifier. -/
theorem Prunes.get_eq_some_iff {batchLimit : ℕ} {cutoff : ℤ} {inserts : ℕ → List (Recent cutoff)}
    {batch totalDeleted : ℕ} {before : Table PingResult} {run : Pruning}
    (hprunes : Prunes batchLimit cutoff inserts batch totalDeleted before run) (resultId : ℕ)
    (result : PingResult) :
    run.table.get resultId = some result ↔
      (before.insertAll run.inserted).get resultId = some result ∧ cutoff ≤ result.checkedAt := by
  obtain ⟨results, hresults⟩ := hprunes.exists_recent
  rw [hprunes.table, hresults, ← filterRows_insertAll_recent, Table.get_filterRows,
    Option.filter_eq_some_iff, Bool.not_eq_true', isExpired_eq_false_iff]

/-! ### The task -/

/-- A run of the task: no transaction deletes more than a batch, the results that are left are the
recent ones of the table and of what the schedule inserted between the transactions, each as it was
under its identifier, and the total is the number of results that had expired. -/
structure PrunesExpired (batchLimit : ℕ) (cutoff : ℤ) (inserts : ℕ → List (Recent cutoff))
    (before : Table PingResult) (run : Pruning) : Prop where
  batches : ∀ deleted ∈ run.transactions, deleted ≤ batchLimit
  inserted : run.inserted = (List.range (run.transactions.length - 1)).flatMap
    fun index ↦ (inserts index).map Subtype.val
  left : ∀ resultId result, run.table.get resultId = some result ↔
    (before.insertAll run.inserted).get resultId = some result ∧ cutoff ≤ result.checkedAt
  keepsRecent : ∀ resultId result, before.get resultId = some result →
    cutoff ≤ result.checkedAt → run.table.get resultId = some result
  totalDeleted : run.totalDeleted = expiredCount cutoff before

/-- The task deletes what has expired, whatever recent results are inserted meanwhile. -/
theorem prunesExpired_prunePingResults (settings : RetentionSettings) {batchSize : Option ℕ}
    (hsize : ∀ size ∈ batchSize, 1 ≤ size) (now : ℤ)
    (inserts : ℕ → List (Recent (settings.cutoff now))) (table : Table PingResult) :
    PrunesExpired (settings.batchLimit batchSize) (settings.cutoff now) inserts table
      (prunePingResults settings batchSize now inserts table) := by
  have hlimit : 1 ≤ settings.batchLimit batchSize := by
    cases batchSize with
    | none => exact settings.batchSize_pos
    | some size => exact hsize size rfl
  have hprunes : Prunes _ _ inserts 0 0 table (prunePingResults settings batchSize now inserts
      table) := prunes_pruneLoop hlimit (settings.cutoff now) inserts 0 0 table
  refine ⟨hprunes.batches, ?_, hprunes.get_eq_some_iff, ?_, ?_⟩
  · rw [List.range_eq_range']
    exact hprunes.inserted
  · intro resultId result hget hrecent
    exact (hprunes.get_eq_some_iff resultId result).mpr ⟨Table.get_insertAll hget _, hrecent⟩
  · exact hprunes.totalDeleted.trans (Nat.zero_add _)

/-- The default settings. -/
def RetentionSettings.default : RetentionSettings := ⟨30, 10000, by decide, by decide⟩

/-- A result that was recorded at a time. -/
def resultAt (checkedAt : ℤ) : PingResult := ⟨1, .monitor, some 200, some 10, none, checkedAt, .up⟩

/-- A result that is recorded at the cutoff. -/
def resultAtCutoff (cutoff : ℤ) : Recent cutoff :=
  ⟨resultAt cutoff, (isExpired_eq_false_iff _ _).mpr (Int.le_refl cutoff)⟩

/-- Three results that have expired at time 0. -/
def threeExpired : Table PingResult :=
  (Table.empty PingResult).insertAll
    ((List.range 3).map fun index ↦ resultAt (RetentionSettings.default.cutoff 0 - index - 1))

/-- They are deleted in batches of two, while a recent one is inserted after each batch. -/
theorem prunesExpired_threeExpired :
    PrunesExpired 2 (RetentionSettings.default.cutoff 0)
      (fun _ ↦ [resultAtCutoff (RetentionSettings.default.cutoff 0)]) threeExpired
      (prunePingResults .default (some 2) 0
        (fun _ ↦ [resultAtCutoff (RetentionSettings.default.cutoff 0)]) threeExpired) := by
  have hsize : ∀ size ∈ some 2, 1 ≤ size := by
    intro size hsize
    rw [← Option.some.inj hsize]
    exact Nat.le_succ 1
  exact prunesExpired_prunePingResults .default hsize 0 _ threeExpired

end PingGuard.Retention
