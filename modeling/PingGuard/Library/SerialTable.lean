import Mathlib.Algebra.GroupWithZero.Nat
import Mathlib.Data.List.Nodup
import Mathlib.Data.List.Perm.Subperm
import Mathlib.Tactic.Common

/-!
# Tables with a serial key

A table of rows under a key that the table hands out itself: an insertion takes the next number,
and a number is never handed out twice, also after the row is deleted. The order of the rows means
nothing; `get` and `mem_rows_iff` are how a table is read.

A transaction takes the number when it inserts its row (`reserve`) and the row is seen when it
commits (`store`), so rows may appear in another order than their keys. A number may also be lost
(`skip`). A key that is spent (`IsSpent`) has its row or will never have one.
-/

set_option autoImplicit false
set_option relaxedAutoImplicit false

namespace PingGuard.Library.SerialTable

/-- A table: its rows with their keys, the next key, and the keys of the rows that are inserted and
not committed. No key occurs twice, and every key is one that was handed out. -/
@[ext] structure Table (ρ : Type) where
  rows : List (ℕ × ρ)
  nextKey : ℕ
  reserved : List ℕ
  nodup : (rows.map Prod.fst).Nodup
  lt_nextKey : ∀ row ∈ rows, row.1 < nextKey
  notMem_reserved : ∀ row ∈ rows, row.1 ∉ reserved
  reserved_lt : ∀ key ∈ reserved, key < nextKey

namespace Table

variable {ρ : Type}

/-- The table without rows. -/
def empty (ρ : Type) : Table ρ where
  rows := []
  nextKey := 1
  reserved := []
  nodup := List.nodup_nil
  lt_nextKey := List.forall_mem_nil _
  notMem_reserved := List.forall_mem_nil _
  reserved_lt := List.forall_mem_nil _

/-- The row under a key. -/
def get (table : Table ρ) (key : ℕ) : Option ρ :=
  (table.rows.find? (·.1 = key)).map Prod.snd

/-- The table with every row rewritten under its key. -/
def mapRows (table : Table ρ) (rewrite : ℕ → ρ → ρ) : Table ρ where
  rows := table.rows.map fun row ↦ (row.1, rewrite row.1 row.2)
  nextKey := table.nextKey
  reserved := table.reserved
  nodup := by
    rw [List.map_map]
    exact table.nodup
  lt_nextKey := List.forall_mem_map.mpr table.lt_nextKey
  notMem_reserved := List.forall_mem_map.mpr table.notMem_reserved
  reserved_lt := table.reserved_lt

/-- The table with one row rewritten. -/
def modify (table : Table ρ) (key : ℕ) (rewrite : ρ → ρ) : Table ρ :=
  table.mapRows fun other row ↦ if other = key then rewrite row else row

/-- A further key keeps the keys of some rows distinct if none of them has it. -/
theorem nodup_keys_concat {rows : List (ℕ × ρ)} (hnodup : (rows.map Prod.fst).Nodup) {key : ℕ}
    {row : ρ} (hnew : ∀ other ∈ rows, other.1 ≠ key) :
    ((rows ++ [(key, row)]).map Prod.fst).Nodup := by
  rw [List.map_append, List.map_singleton, List.nodup_append_comm, List.singleton_append,
    List.nodup_cons]
  refine ⟨fun hmem ↦ ?_, hnodup⟩
  obtain ⟨other, hother, heq⟩ := List.mem_map.mp hmem
  exact hnew other hother heq

/-- The table with a row under the next key. -/
def insert (table : Table ρ) (row : ρ) : Table ρ where
  rows := table.rows ++ [(table.nextKey, row)]
  nextKey := table.nextKey + 1
  reserved := table.reserved
  nodup := nodup_keys_concat table.nodup fun other hother ↦
    Nat.ne_of_lt (table.lt_nextKey other hother)
  lt_nextKey := by
    rw [List.forall_mem_append, List.forall_mem_singleton]
    exact ⟨fun other hother ↦ Nat.lt_succ_of_lt (table.lt_nextKey other hother), Nat.lt_succ_self _⟩
  notMem_reserved := by
    rw [List.forall_mem_append, List.forall_mem_singleton]
    exact ⟨table.notMem_reserved, fun hmem ↦ Nat.lt_irrefl _ (table.reserved_lt _ hmem)⟩
  reserved_lt := fun key hkey ↦ Nat.lt_succ_of_lt (table.reserved_lt key hkey)

/-- The table after some keys were lost. -/
def skip (table : Table ρ) (count : ℕ) : Table ρ where
  rows := table.rows
  nextKey := table.nextKey + count
  reserved := table.reserved
  nodup := table.nodup
  lt_nextKey := fun row hrow ↦ Nat.lt_add_right count (table.lt_nextKey row hrow)
  notMem_reserved := table.notMem_reserved
  reserved_lt := fun key hkey ↦ Nat.lt_add_right count (table.reserved_lt key hkey)

/-- The table after a row was inserted under the next key that is not committed. -/
def reserve (table : Table ρ) : Table ρ where
  rows := table.rows
  nextKey := table.nextKey + 1
  reserved := table.nextKey :: table.reserved
  nodup := table.nodup
  lt_nextKey := fun row hrow ↦ Nat.lt_succ_of_lt (table.lt_nextKey row hrow)
  notMem_reserved := by
    intro row hrow
    rw [List.mem_cons, not_or]
    exact ⟨Nat.ne_of_lt (table.lt_nextKey row hrow), table.notMem_reserved row hrow⟩
  reserved_lt := by
    rw [List.forall_mem_cons]
    exact ⟨Nat.lt_succ_self _, fun key hkey ↦ Nat.lt_succ_of_lt (table.reserved_lt key hkey)⟩

/-- The table after the commit of a row under a key that is reserved. -/
def store (table : Table ρ) (key : ℕ) (row : ρ) : Table ρ :=
  if hkey : key ∈ table.reserved then
    { rows := table.rows ++ [(key, row)]
      nextKey := table.nextKey
      reserved := table.reserved.filter (· ≠ key)
      nodup := nodup_keys_concat table.nodup fun other hother heq ↦
        table.notMem_reserved other hother (heq ▸ hkey)
      lt_nextKey := by
        rw [List.forall_mem_append, List.forall_mem_singleton]
        exact ⟨table.lt_nextKey, table.reserved_lt key hkey⟩
      notMem_reserved := by
        rw [List.forall_mem_append, List.forall_mem_singleton]
        refine ⟨fun other hother hmem ↦ ?_, fun hmem ↦ ?_⟩
        · exact table.notMem_reserved other hother (List.mem_filter.mp hmem).1
        · exact of_decide_eq_true (List.mem_filter.mp hmem).2 rfl
      reserved_lt := fun other hother ↦
        table.reserved_lt other (List.mem_filter.mp hother).1 }
  else table

/-- The table with the rows that a condition keeps. -/
def filterRows (table : Table ρ) (keep : ℕ → ρ → Bool) : Table ρ where
  rows := table.rows.filter fun row ↦ keep row.1 row.2
  nextKey := table.nextKey
  reserved := table.reserved
  nodup := table.nodup.sublist (List.filter_sublist.map _)
  lt_nextKey := fun row hrow ↦ table.lt_nextKey row (List.mem_filter.mp hrow).1
  notMem_reserved := fun row hrow ↦ table.notMem_reserved row (List.mem_filter.mp hrow).1
  reserved_lt := table.reserved_lt

/-- The table without the row under a key. -/
def erase (table : Table ρ) (key : ℕ) : Table ρ := table.filterRows fun other _ ↦ other ≠ key

/-- A row is in the table exactly when it is found under its key. -/
theorem mem_rows_iff (table : Table ρ) (key : ℕ) (row : ρ) :
    (key, row) ∈ table.rows ↔ table.get key = some row := by
  unfold get
  constructor
  · intro hmem
    cases hfind : table.rows.find? (·.1 = key) with
    | none =>
      have hnone := List.find?_eq_none.mp hfind (key, row) hmem
      simp at hnone
    | some found =>
      have hfound := List.mem_of_find?_eq_some hfind
      have hkey : found.1 = key := by simpa using List.find?_some hfind
      have heq := List.inj_on_of_nodup_map table.nodup hfound hmem hkey
      rw [heq]
      rfl
  · intro hget
    obtain ⟨found, hfind, rfl⟩ := Option.map_eq_some_iff.mp hget
    have hkey : found.1 = key := by simpa using List.find?_some hfind
    exact hkey ▸ List.mem_of_find?_eq_some hfind

/-- Nothing is found under a key exactly when no row has it. -/
theorem get_eq_none_iff (table : Table ρ) (key : ℕ) :
    table.get key = none ↔ ∀ row, (key, row) ∉ table.rows := by
  simp only [mem_rows_iff]
  exact Option.eq_none_iff_forall_ne_some

/-- A key that is not handed out yet has no row. -/
theorem get_of_nextKey_le (table : Table ρ) {key : ℕ} (hkey : table.nextKey ≤ key) :
    table.get key = none := by
  rw [get_eq_none_iff]
  exact fun row hmem ↦ absurd (table.lt_nextKey _ hmem) (Nat.not_lt.mpr hkey)

/-- The key of a row is one that was handed out. -/
theorem lt_nextKey_of_get (table : Table ρ) {key : ℕ} {row : ρ} (hget : table.get key = some row) :
    key < table.nextKey :=
  table.lt_nextKey _ ((table.mem_rows_iff key row).mpr hget)

/-- A key is spent that was handed out for a row which is stored, was deleted or is lost. -/
def IsSpent (table : Table ρ) (key : ℕ) : Prop := key < table.nextKey ∧ key ∉ table.reserved

/-- The key of a row is spent. -/
theorem isSpent_of_get (table : Table ρ) {key : ℕ} {row : ρ} (hget : table.get key = some row) :
    table.IsSpent key :=
  have hmem := (table.mem_rows_iff key row).mpr hget
  ⟨table.lt_nextKey _ hmem, table.notMem_reserved _ hmem⟩

/-- A reserved key is not spent. -/
theorem not_isSpent_of_mem_reserved {table : Table ρ} {key : ℕ} (hkey : key ∈ table.reserved) :
    ¬ table.IsSpent key := fun hspent ↦ hspent.2 hkey

/-- A key with a row is not reserved. -/
theorem ne_of_mem_reserved {table : Table ρ} {key other : ℕ} {row : ρ}
    (hget : table.get key = some row) (hother : other ∈ table.reserved) : key ≠ other := by
  rintro rfl
  exact (table.isSpent_of_get hget).2 hother

/-- A key that is not spent has no row. -/
theorem get_of_not_isSpent (table : Table ρ) {key : ℕ} (hkey : ¬ table.IsSpent key) :
    table.get key = none :=
  Option.eq_none_iff_forall_ne_some.mpr fun _ hget ↦ hkey (table.isSpent_of_get hget)

@[simp] theorem isSpent_mapRows (table : Table ρ) (rewrite : ℕ → ρ → ρ) (key : ℕ) :
    (table.mapRows rewrite).IsSpent key ↔ table.IsSpent key := Iff.rfl

@[simp] theorem isSpent_modify (table : Table ρ) (key : ℕ) (rewrite : ρ → ρ) (other : ℕ) :
    (table.modify key rewrite).IsSpent other ↔ table.IsSpent other := Iff.rfl

@[simp] theorem isSpent_filterRows (table : Table ρ) (keep : ℕ → ρ → Bool) (key : ℕ) :
    (table.filterRows keep).IsSpent key ↔ table.IsSpent key := Iff.rfl

@[simp] theorem isSpent_erase (table : Table ρ) (key other : ℕ) :
    (table.erase key).IsSpent other ↔ table.IsSpent other := Iff.rfl

/-- A spent key stays spent when keys are lost. -/
theorem isSpent_skip {table : Table ρ} {key : ℕ} (hspent : table.IsSpent key) (count : ℕ) :
    (table.skip count).IsSpent key := ⟨Nat.lt_add_right count hspent.1, hspent.2⟩

/-- Lost keys leave what is found. -/
@[simp] theorem get_skip (table : Table ρ) (count key : ℕ) :
    (table.skip count).get key = table.get key := rfl

/-- A row that is not committed is not found. -/
@[simp] theorem get_reserve (table : Table ρ) (key : ℕ) :
    table.reserve.get key = table.get key := rfl

/-- An inserted row spends its key when it is committed. -/
@[simp] theorem isSpent_reserve (table : Table ρ) (key : ℕ) :
    table.reserve.IsSpent key ↔ table.IsSpent key := by
  unfold IsSpent reserve
  dsimp only
  rw [List.mem_cons, not_or, ← and_assoc]
  refine and_congr_left fun _ ↦ ?_
  omega

/-- A commit hands out no key. -/
@[simp] theorem nextKey_store (table : Table ρ) (key : ℕ) (row : ρ) :
    (table.store key row).nextKey = table.nextKey := by
  unfold store
  split_ifs <;> rfl

/-- A commit takes its key, and leaves the others that are reserved. -/
theorem mem_reserved_store {table : Table ρ} {key : ℕ} (hkey : key ∈ table.reserved) (row : ρ)
    (other : ℕ) :
    other ∈ (table.store key row).reserved ↔ other ∈ table.reserved ∧ other ≠ key := by
  unfold store
  rw [dif_pos hkey]
  exact List.mem_filter.trans (and_congr_right fun _ ↦ decide_eq_true_iff)

/-- A commit spends its key. -/
theorem isSpent_store {table : Table ρ} {key : ℕ} (hkey : key ∈ table.reserved) (row : ρ)
    (other : ℕ) : (table.store key row).IsSpent other ↔ other = key ∨ table.IsSpent other := by
  have hlt := table.reserved_lt key hkey
  unfold IsSpent store
  rw [dif_pos hkey]
  dsimp only
  rw [List.mem_filter, decide_eq_true_iff, not_and_not_right]
  by_cases heq : other = key
  · rw [heq]
    exact iff_of_true ⟨hlt, fun _ ↦ rfl⟩ (Or.inl rfl)
  · rw [or_iff_right heq]
    exact and_congr_right fun _ ↦ imp_iff_not heq

/-- What is found after a commit. -/
theorem get_store {table : Table ρ} {key : ℕ} (hkey : key ∈ table.reserved) (row : ρ)
    (other : ℕ) :
    (table.store key row).get other = if other = key then some row else table.get other := by
  ext found
  rw [← mem_rows_iff]
  unfold store
  rw [dif_pos hkey]
  dsimp only
  rw [List.mem_append, List.mem_singleton, Prod.mk.injEq, mem_rows_iff]
  split_ifs with heq
  · rw [heq, table.get_of_not_isSpent (not_isSpent_of_mem_reserved hkey)]
    simp [eq_comm]
  · simp [heq]

/-- A row that is inserted and committed is in the table under the next key. -/
theorem store_reserve (table : Table ρ) (row : ρ) :
    table.reserve.store table.nextKey row = table.insert row := by
  have hnone : table.reserved.filter (· ≠ table.nextKey) = table.reserved :=
    List.filter_eq_self.mpr fun key hkey ↦
      decide_eq_true (Nat.ne_of_lt (table.reserved_lt key hkey))
  have hkey : table.nextKey ∈ table.reserve.reserved := List.mem_cons_self
  unfold store
  rw [dif_pos hkey]
  ext1
  · rfl
  · rfl
  · exact (List.filter_cons_of_neg (by simp)).trans hnone

/-- Rewriting the rows rewrites what is found. -/
@[simp] theorem get_mapRows (table : Table ρ) (rewrite : ℕ → ρ → ρ) (key : ℕ) :
    (table.mapRows rewrite).get key = (table.get key).map (rewrite key) := by
  ext row
  rw [← mem_rows_iff, Option.map_eq_some_iff]
  constructor
  · intro hmem
    obtain ⟨⟨other, original⟩, horiginal, heq⟩ := List.mem_map.mp hmem
    obtain ⟨rfl, rfl⟩ := Prod.mk.inj heq
    exact ⟨original, (table.mem_rows_iff _ _).mp horiginal, rfl⟩
  · rintro ⟨original, hget, rfl⟩
    exact List.mem_map.mpr ⟨(key, original), (table.mem_rows_iff _ _).mpr hget, rfl⟩

/-- Rewriting the rows twice is one rewriting. -/
theorem mapRows_mapRows (table : Table ρ) (first second : ℕ → ρ → ρ) :
    (table.mapRows first).mapRows second =
      table.mapRows fun key row ↦ second key (first key row) := by
  ext1
  · simp only [mapRows, List.map_map]
    rfl
  · rfl
  · rfl

/-- Two rewritings that agree on the rows of a table give the same table. -/
theorem mapRows_congr {table : Table ρ} {first second : ℕ → ρ → ρ}
    (hagree : ∀ key row, table.get key = some row → first key row = second key row) :
    table.mapRows first = table.mapRows second := by
  ext1
  · refine List.map_congr_left fun row hrow ↦ ?_
    rw [hagree row.1 row.2 ((table.mem_rows_iff row.1 row.2).mp hrow)]
  · rfl
  · rfl

/-- Rewriting nothing leaves the table as it is. -/
theorem mapRows_id (table : Table ρ) : (table.mapRows fun _ row ↦ row) = table := by
  ext1
  · exact List.map_id _
  · rfl
  · rfl

/-- Rewriting one row rewrites what is found under its key only. -/
@[simp] theorem get_modify (table : Table ρ) (key : ℕ) (rewrite : ρ → ρ) (other : ℕ) :
    (table.modify key rewrite).get other =
      if other = key then (table.get other).map rewrite else table.get other := by
  rw [modify, get_mapRows]
  split_ifs with heq
  · rfl
  · exact Option.map_id'

/-- Two rewritings of one row that agree on it give the same table. -/
theorem modify_congr {table : Table ρ} {key : ℕ} {first second : ρ → ρ}
    (hagree : ∀ row, table.get key = some row → first row = second row) :
    table.modify key first = table.modify key second := by
  refine mapRows_congr fun other row hget ↦ ?_
  split_ifs with heq
  · subst heq
    exact hagree row hget
  · rfl

/-- Rewriting one row twice is one rewriting. -/
theorem modify_modify (table : Table ρ) (key : ℕ) (first second : ρ → ρ) :
    (table.modify key first).modify key second = table.modify key fun row ↦ second (first row) := by
  unfold modify
  rw [mapRows_mapRows]
  refine mapRows_congr fun other row _ ↦ ?_
  split_ifs <;> rfl

/-- Rewriting one row as it is leaves the table. -/
theorem modify_eq_self {table : Table ρ} {key : ℕ} {rewrite : ρ → ρ}
    (hsame : ∀ row, rewrite row = row) : table.modify key rewrite = table := by
  unfold modify
  refine (mapRows_congr fun other row _ ↦ ?_).trans table.mapRows_id
  split_ifs
  · exact hsame row
  · rfl

/-- An inserted row is found under the next key. -/
@[simp] theorem get_insert (table : Table ρ) (row : ρ) (key : ℕ) :
    (table.insert row).get key = if key = table.nextKey then some row else table.get key := by
  ext other
  rw [← mem_rows_iff]
  simp only [insert, List.mem_append, List.mem_singleton, Prod.mk.injEq, mem_rows_iff]
  split_ifs with heq
  · rw [heq, table.get_of_nextKey_le (Nat.le_refl _)]
    simp [eq_comm]
  · simp [heq]

/-- A row is found after filtering when it is found before and kept. -/
@[simp] theorem get_filterRows (table : Table ρ) (keep : ℕ → ρ → Bool) (key : ℕ) :
    (table.filterRows keep).get key = (table.get key).filter (keep key) := by
  ext row
  rw [← mem_rows_iff, Option.filter_eq_some_iff, ← mem_rows_iff]
  exact List.mem_filter

/-- Filtering twice is filtering once. -/
theorem filterRows_filterRows (table : Table ρ) (first second : ℕ → ρ → Bool) :
    (table.filterRows first).filterRows second =
      table.filterRows fun key row ↦ first key row && second key row := by
  ext1
  · exact (List.filter_filter).trans (List.filter_congr fun row _ ↦ Bool.and_comm _ _)
  · rfl
  · rfl

/-- Two conditions that agree on the rows of a table keep the same. -/
theorem filterRows_congr {table : Table ρ} {first second : ℕ → ρ → Bool}
    (hagree : ∀ key row, table.get key = some row → first key row = second key row) :
    table.filterRows first = table.filterRows second := by
  ext1
  · exact List.filter_congr fun row hrow ↦
      hagree row.1 row.2 ((table.mem_rows_iff row.1 row.2).mp hrow)
  · rfl
  · rfl

/-- A row that is kept may be inserted after filtering. -/
theorem filterRows_insert {table : Table ρ} {keep : ℕ → ρ → Bool} {row : ρ}
    (hkeep : keep table.nextKey row = true) :
    (table.insert row).filterRows keep = (table.filterRows keep).insert row := by
  ext1
  · simp [insert, filterRows, hkeep]
  · rfl
  · rfl

/-- The table with rows inserted in order. -/
def insertAll (table : Table ρ) (rows : List ρ) : Table ρ := rows.foldl insert table

/-- Rows that are kept may be inserted after filtering. -/
theorem filterRows_insertAll {table : Table ρ} {keep : ℕ → ρ → Bool} {rows : List ρ}
    (hkeep : ∀ row ∈ rows, ∀ key, keep key row = true) :
    (table.insertAll rows).filterRows keep = (table.filterRows keep).insertAll rows := by
  unfold insertAll
  induction rows generalizing table with
  | nil => rfl
  | cons row rest ih =>
    rw [List.foldl_cons, List.foldl_cons, ih fun other hother ↦
      hkeep other (List.mem_cons_of_mem _ hother),
      filterRows_insert (hkeep row List.mem_cons_self _)]

/-- Insertions keep the rows of a table. -/
theorem get_insertAll {table : Table ρ} {key : ℕ} {row : ρ} (hget : table.get key = some row)
    (rows : List ρ) : (table.insertAll rows).get key = some row := by
  unfold insertAll
  induction rows generalizing table with
  | nil => exact hget
  | cons other rest ih =>
    refine ih ?_
    rw [get_insert, if_neg (Nat.ne_of_lt (table.lt_nextKey_of_get hget))]
    exact hget

/-- What is collected from the rows of a table and of the table with one row replaced: the same,
but for that row. -/
theorem exists_perm_flatMap_modify {β : Type} (table : Table ρ) {key : ℕ} {before : ρ}
    (hget : table.get key = some before) (after : ρ) (collect : ρ → List β) :
    ∃ others, (table.rows.flatMap fun row ↦ collect row.2).Perm (collect before ++ others) ∧
      ((table.modify key fun _ ↦ after).rows.flatMap fun row ↦ collect row.2).Perm
        (collect after ++ others) := by
  obtain ⟨first, last, hrows⟩ := List.append_of_mem ((table.mem_rows_iff key before).mpr hget)
  have hnodup := table.nodup
  rw [hrows, List.map_append, List.map_cons, List.nodup_append, List.nodup_cons] at hnodup
  obtain ⟨-, ⟨hlast, -⟩, hfirst⟩ := hnodup
  -- no other row has the key
  have hkeep : ∀ rows : List (ℕ × ρ), (∀ row ∈ rows, row.1 ≠ key) →
      (rows.map fun row ↦ (row.1, if row.1 = key then after else row.2)) = rows := by
    intro rows hne
    conv_rhs => rw [← List.map_id rows]
    refine List.map_congr_left fun row hrow ↦ ?_
    rw [if_neg (hne row hrow)]
    rfl
  have hmodified : (table.modify key fun _ ↦ after).rows = first ++ (key, after) :: last := by
    unfold modify mapRows
    dsimp only
    rw [hrows, List.map_append, List.map_cons, if_pos rfl, hkeep, hkeep]
    · exact fun row hrow heq ↦ hlast (List.mem_map.mpr ⟨row, hrow, heq⟩)
    · exact fun row hrow heq ↦ hfirst row.1 (List.mem_map_of_mem hrow) key List.mem_cons_self heq
  refine ⟨first.flatMap (fun row ↦ collect row.2) ++ last.flatMap fun row ↦ collect row.2, ?_, ?_⟩
  · rw [hrows, List.flatMap_append, List.flatMap_cons]
    exact List.perm_append_comm_assoc _ _ _
  · rw [hmodified, List.flatMap_append, List.flatMap_cons]
    exact List.perm_append_comm_assoc _ _ _

/-- A sum over the rows is smaller after one row is replaced by one that counts for less. -/
theorem sum_modify_lt (table : Table ρ) {key : ℕ} {before after : ρ}
    (hget : table.get key = some before) {weight : ρ → ℕ} (hlt : weight after < weight before) :
    ((table.modify key fun _ ↦ after).rows.map fun row ↦ weight row.2).sum <
      (table.rows.map fun row ↦ weight row.2).sum := by
  -- a row that counts for `n` is collected as `n` tokens
  have hlength : ∀ rows : List (ℕ × ρ),
      (rows.flatMap fun row ↦ List.replicate (weight row.2) ()).length =
        (rows.map fun row ↦ weight row.2).sum := by
    intro rows
    simp only [List.length_flatMap, List.length_replicate]
  obtain ⟨others, hold, hnew⟩ :=
    table.exists_perm_flatMap_modify hget after fun row ↦ List.replicate (weight row) ()
  rw [← hlength, ← hlength, hold.length_eq, hnew.length_eq]
  simp only [List.length_append, List.length_replicate]
  omega

/-- An erased row is not found. -/
@[simp] theorem get_erase (table : Table ρ) (key other : ℕ) :
    (table.erase key).get other = if other = key then none else table.get other := by
  rw [erase, get_filterRows]
  split_ifs with heq
  · cases table.get other <;> simp [heq]
  · cases table.get other <;> simp [heq]

/-- The rows of a table under keys that another table had not handed out. -/
def addedSince (before after : Table ρ) : List ρ :=
  (after.rows.filter fun row ↦ before.nextKey ≤ row.1).map Prod.snd

/-- Nothing is added to a table that stays as it is. -/
@[simp] theorem addedSince_self (table : Table ρ) : addedSince table table = [] := by
  unfold addedSince
  rw [List.map_eq_nil_iff, List.filter_eq_nil_iff]
  intro row hrow
  simpa using table.lt_nextKey row hrow

/-- An insertion adds its row. -/
@[simp] theorem addedSince_insert {before after : Table ρ} (hle : before.nextKey ≤ after.nextKey)
    (row : ρ) : addedSince before (after.insert row) = addedSince before after ++ [row] := by
  unfold addedSince insert
  simp [hle]

/-- Rewriting the rows leaves their number. -/
@[simp] theorem length_rows_mapRows (table : Table ρ) (rewrite : ℕ → ρ → ρ) :
    (table.mapRows rewrite).rows.length = table.rows.length := List.length_map _

/-- Rewriting one row leaves the number of rows. -/
@[simp] theorem length_rows_modify (table : Table ρ) (key : ℕ) (rewrite : ρ → ρ) :
    (table.modify key rewrite).rows.length = table.rows.length := List.length_map _

/-- An insertion adds one row. -/
@[simp] theorem length_rows_insert (table : Table ρ) (row : ρ) :
    (table.insert row).rows.length = table.rows.length + 1 := List.length_append

/-- A commit adds one row. -/
theorem length_rows_store {table : Table ρ} {key : ℕ} (hkey : key ∈ table.reserved) (row : ρ) :
    (table.store key row).rows.length = table.rows.length + 1 := by
  unfold store
  rw [dif_pos hkey]
  exact List.length_append

/-- A list of keys, each with a row, counts the rows that have them. -/
theorem countP_mem_keys (table : Table ρ) {keys : List ℕ} (hnodup : keys.Nodup)
    (hmem : ∀ key ∈ keys, ∃ row, table.get key = some row) :
    table.rows.countP (fun row ↦ row.1 ∈ keys) = keys.length := by
  have hperm : ((table.rows.map Prod.fst).filter (· ∈ keys)).Perm keys := by
    rw [List.perm_ext_iff_of_nodup (table.nodup.filter _) hnodup]
    intro key
    rw [List.mem_filter, decide_eq_true_eq, and_iff_right_of_imp]
    intro hkey
    obtain ⟨row, hget⟩ := hmem key hkey
    exact List.mem_map.mpr ⟨(key, row), (table.mem_rows_iff key row).mpr hget, rfl⟩
  rw [← hperm.length_eq, ← List.countP_eq_length_filter, List.countP_map]
  rfl

/-- Where the rows of a kind were of that kind before, there are no more of them, and fewer by the
rows of that kind that are not any more. -/
theorem countP_add_length_le {before after : Table ρ} {kind : ρ → Bool} {left : List ℕ}
    (hkept : ∀ key row, after.get key = some row → kind row = true →
      ∃ earlier, before.get key = some earlier ∧ kind earlier = true)
    (hnodup : left.Nodup)
    (hleft : ∀ key ∈ left, (∃ earlier, before.get key = some earlier ∧ kind earlier = true) ∧
      ∀ row, after.get key = some row → kind row = false) :
    (after.rows.countP fun row ↦ kind row.2) + left.length ≤
      before.rows.countP fun row ↦ kind row.2 := by
  have hmem : ∀ (table : Table ρ) (key : ℕ),
      key ∈ (table.rows.filter fun row ↦ kind row.2).map Prod.fst ↔
        ∃ row, table.get key = some row ∧ kind row = true := by
    intro table key
    rw [List.mem_map]
    constructor
    · rintro ⟨row, hrow, rfl⟩
      obtain ⟨hrow, hkind⟩ := List.mem_filter.mp hrow
      exact ⟨row.2, (table.mem_rows_iff row.1 row.2).mp hrow, hkind⟩
    · rintro ⟨row, hget, hkind⟩
      exact ⟨(key, row), List.mem_filter.mpr ⟨(table.mem_rows_iff key row).mpr hget, hkind⟩, rfl⟩
  have hkeys : ∀ table : Table ρ, ((table.rows.filter fun row ↦ kind row.2).map Prod.fst).Nodup :=
    fun table ↦ table.nodup.sublist (List.filter_sublist.map _)
  have hdisjoint : ((after.rows.filter fun row ↦ kind row.2).map Prod.fst ++ left).Nodup := by
    rw [List.nodup_append]
    refine ⟨hkeys after, hnodup, ?_⟩
    rintro key hkey _ hother rfl
    obtain ⟨row, hget, hkind⟩ := (hmem after key).mp hkey
    exact Bool.false_ne_true (((hleft key hother).2 row hget).symm.trans hkind)
  have hsubset : (after.rows.filter fun row ↦ kind row.2).map Prod.fst ++ left ⊆
      (before.rows.filter fun row ↦ kind row.2).map Prod.fst := by
    intro key hkey
    rw [hmem]
    rcases List.mem_append.mp hkey with hlater | hgone
    · obtain ⟨row, hget, hkind⟩ := (hmem after key).mp hlater
      exact hkept key row hget hkind
    · exact (hleft key hgone).1
  have hlength := (List.subperm_of_subset hdisjoint hsubset).length_le
  rw [List.length_append, List.length_map, List.length_map] at hlength
  rw [List.countP_eq_length_filter, List.countP_eq_length_filter]
  exact hlength

/-- The erasure of a row that is there removes one row. -/
theorem length_rows_erase (table : Table ρ) (key : ℕ) :
    (table.erase key).rows.length + (if (table.get key).isSome then 1 else 0) =
      table.rows.length := by
  have hcount : table.rows.countP (fun row ↦ decide (row.1 = key)) =
      if (table.get key).isSome then 1 else 0 := by
    have hmap : table.rows.countP (fun row ↦ decide (row.1 = key)) =
        (table.rows.map Prod.fst).count key := by
      rw [List.count_eq_countP, List.countP_map]
      rfl
    have hmem : key ∈ table.rows.map Prod.fst ↔ (table.get key).isSome = true := by
      rw [List.mem_map, Option.isSome_iff_exists]
      constructor
      · rintro ⟨row, hrow, rfl⟩
        exact ⟨row.2, (table.mem_rows_iff row.1 row.2).mp hrow⟩
      · rintro ⟨row, hget⟩
        exact ⟨(key, row), (table.mem_rows_iff key row).mpr hget, rfl⟩
    rw [hmap, table.nodup.count]
    simp only [hmem]
  have hkept : (table.erase key).rows.length =
      table.rows.countP (fun row ↦ ¬ decide (row.1 = key)) := by
    rw [List.countP_eq_length_filter]
    simp [erase, filterRows]
  rw [← hcount, hkept, Nat.add_comm]
  exact (List.length_eq_countP_add_countP _).symm

end Table

end PingGuard.Library.SerialTable
