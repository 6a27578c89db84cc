import Mathlib.Data.List.MinMax
import Mathlib.Data.List.Sort

/-!
# The first elements of an order

`ORDER BY key LIMIT n` on a list: sort by a key in a linear order and take a prefix. The prefix has
as many elements as there are, up to the limit, and nothing left behind comes before an element
taken.

The last section counts the elements of one kind among those taken, when the others take up room.
-/

set_option autoImplicit false
set_option relaxedAutoImplicit false

namespace PingGuard.Library.OrderedBatch

variable {α κ : Type} [LinearOrder κ]

/-- The elements of a list in the order of their keys. -/
def orderedBy (key : α → κ) (elements : List α) : List α :=
  elements.insertionSort fun a b ↦ key a ≤ key b

/-- The first elements of a list in the order of their keys. -/
def firstBy (key : α → κ) (limit : ℕ) (elements : List α) : List α :=
  (orderedBy key elements).take limit

/-- The elements that are not taken. -/
def leftBehind (key : α → κ) (limit : ℕ) (elements : List α) : List α :=
  (orderedBy key elements).drop limit

/-- Ordering permutes. -/
theorem orderedBy_perm (key : α → κ) (elements : List α) :
    (orderedBy key elements).Perm elements :=
  List.perm_insertionSort _ elements

/-- Ordering orders. -/
theorem pairwise_orderedBy (key : α → κ) (elements : List α) :
    (orderedBy key elements).Pairwise fun a b ↦ key a ≤ key b := by
  have : Std.Total fun a b : α ↦ key a ≤ key b := ⟨fun a b ↦ le_total (key a) (key b)⟩
  have : IsTrans α fun a b ↦ key a ≤ key b := ⟨fun _ _ _ ↦ le_trans⟩
  exact List.pairwise_insertionSort _ elements

/-- Every element taken is an element of the list. -/
theorem mem_of_mem_firstBy {key : α → κ} {limit : ℕ} {elements : List α} {a : α}
    (hmem : a ∈ firstBy key limit elements) : a ∈ elements :=
  (orderedBy_perm key elements).mem_iff.mp (List.mem_of_mem_take hmem)

/-- As many elements are taken as there are, up to the limit. -/
theorem length_firstBy (key : α → κ) (limit : ℕ) (elements : List α) :
    (firstBy key limit elements).length = min limit elements.length := by
  rw [firstBy, List.length_take, (orderedBy_perm key elements).length_eq]

/-- The elements taken stand in the order of their keys. -/
theorem pairwise_firstBy (key : α → κ) (limit : ℕ) (elements : List α) :
    (firstBy key limit elements).Pairwise fun a b ↦ key a ≤ key b :=
  (pairwise_orderedBy key elements).sublist (List.take_sublist limit _)

/-- The elements taken and the others make up the list. -/
theorem firstBy_append_perm (key : α → κ) (limit : ℕ) (elements : List α) :
    (firstBy key limit elements ++ leftBehind key limit elements).Perm elements := by
  rw [firstBy, leftBehind, List.take_append_drop]
  exact orderedBy_perm key elements

/-- An element taken does not come after one that is not. -/
theorem le_of_mem_leftBehind {key : α → κ} {limit : ℕ} {elements : List α} {a b : α}
    (ha : a ∈ firstBy key limit elements) (hb : b ∈ leftBehind key limit elements) :
    key a ≤ key b := by
  have hpairwise := pairwise_orderedBy key elements
  rw [← List.take_append_drop limit (orderedBy key elements), List.pairwise_append] at hpairwise
  exact hpairwise.2.2 a ha b hb

/-- An element left behind does not come before one taken. -/
theorem le_of_notMem_firstBy {key : α → κ} {limit : ℕ} {elements : List α} {a b : α}
    (ha : a ∈ firstBy key limit elements) (hb : b ∈ elements)
    (hnot : b ∉ firstBy key limit elements) : key a ≤ key b := by
  have hmem := (firstBy_append_perm key limit elements).mem_iff.mpr hb
  exact le_of_mem_leftBehind ha ((List.mem_append.mp hmem).resolve_left hnot)

/-- Where an element is left behind, the limit is reached. -/
theorem length_firstBy_of_mem_leftBehind {key : α → κ} {limit : ℕ} {elements : List α} {b : α}
    (hb : b ∈ leftBehind key limit elements) :
    (firstBy key limit elements).length = limit := by
  rw [firstBy, List.length_take]
  refine min_eq_left (Nat.le_of_not_lt fun hlt ↦ ?_)
  rw [leftBehind, List.drop_eq_nil_of_le (Nat.le_of_lt hlt)] at hb
  exact List.not_mem_nil hb

/-- With room for an element, nothing is taken only where there is nothing. -/
theorem firstBy_eq_nil_iff {key : α → κ} {limit : ℕ} (hlimit : 0 < limit) {elements : List α} :
    firstBy key limit elements = [] ↔ elements = [] := by
  rw [← List.length_eq_zero_iff, length_firstBy, ← List.length_eq_zero_iff]
  omega

/-- The first element taken comes before every element. -/
theorem le_of_mem_head?_firstBy {key : α → κ} {limit : ℕ} {elements : List α} {a b : α}
    (ha : a ∈ (firstBy key limit elements).head?) (hb : b ∈ elements) : key a ≤ key b := by
  have hmem : b ∈ orderedBy key elements := (orderedBy_perm key elements).mem_iff.mpr hb
  have hpairwise := pairwise_orderedBy key elements
  unfold firstBy at ha
  cases hordered : orderedBy key elements with
  | nil =>
    rw [hordered] at hmem
    exact absurd hmem List.not_mem_nil
  | cons first rest =>
    rw [hordered] at ha hmem hpairwise
    cases limit with
    | zero => nomatch ha
    | succ limit =>
      obtain rfl := Option.some.inj ha
      rcases List.mem_cons.mp hmem with rfl | hrest
      · exact le_rfl
      · exact (List.pairwise_cons.mp hpairwise).1 b hrest

/-! ### Elements of one kind -/

/-- A kind is counted among the elements taken and among the others. -/
theorem countP_firstBy_add (key : α → κ) (limit : ℕ) (elements : List α) (kind : α → Bool) :
    (firstBy key limit elements).countP kind + (leftBehind key limit elements).countP kind =
      elements.countP kind := by
  rw [← List.countP_append]
  exact (firstBy_append_perm key limit elements).countP_eq kind

/-- If so many early elements of a kind leave room for all early elements of the other kind, at
least so many of the kind are taken. -/
theorem le_countP_firstBy {key : α → κ} {limit : ℕ} {elements : List α} {kind early : α → Bool}
    (hearly : ∀ a b, key a ≤ key b → early b = true → early a = true) {count : ℕ}
    (hcount : count ≤ elements.countP fun a ↦ kind a && early a)
    (hroom : count + (elements.countP fun a ↦ !kind a && early a) ≤ limit) :
    count ≤ (firstBy key limit elements).countP kind := by
  by_contra hless
  have hkind := countP_firstBy_add key limit elements fun a ↦ kind a && early a
  have hother := countP_firstBy_add key limit elements fun a ↦ !kind a && early a
  have htaken : ((firstBy key limit elements).countP fun a ↦ kind a && early a) ≤
      (firstBy key limit elements).countP kind :=
    List.countP_mono_left fun a _ h ↦ (Bool.and_eq_true_iff.mp h).1
  -- an early element of the kind is left behind, so everything taken is early and the room is full
  have hleft : 0 < (leftBehind key limit elements).countP fun a ↦ kind a && early a := by omega
  obtain ⟨b, hb, hbEarly⟩ := List.countP_pos_iff.mp hleft
  have hallEarly : ∀ a ∈ firstBy key limit elements, early a = true := fun a ha ↦
    hearly a b (le_of_mem_leftBehind ha hb) (Bool.and_eq_true_iff.mp hbEarly).2
  have hlength := length_firstBy_of_mem_leftBehind hb
  have hsplit := List.length_eq_countP_add_countP kind (l := firstBy key limit elements)
  have hrest : ((firstBy key limit elements).countP fun a ↦ ¬ kind a = true) =
      (firstBy key limit elements).countP fun a ↦ !kind a && early a := by
    refine List.countP_congr fun a ha ↦ ?_
    simp [hallEarly a ha]
  omega

/-- The last element of a kind that is taken: the elements of the other kind before it are all taken
too. -/
theorem exists_last_firstBy {key : α → κ} {limit : ℕ} {elements : List α} {kind : α → Bool}
    (hsome : (firstBy key limit elements).countP kind ≠ 0) :
    ∃ last ∈ firstBy key limit elements, kind last = true ∧
      (∀ a ∈ firstBy key limit elements, kind a = true → key a ≤ key last) ∧
      (firstBy key limit elements).countP kind +
        (elements.countP fun a ↦ !kind a && decide (key a < key last)) ≤ limit := by
  cases hlast : ((firstBy key limit elements).filter kind).argmax key with
  | none =>
    rw [List.argmax_eq_none, List.filter_eq_nil_iff] at hlast
    exact absurd (List.countP_eq_zero.mpr hlast) hsome
  | some last =>
    obtain ⟨hmem, hkind⟩ := List.mem_filter.mp (List.argmax_mem hlast)
    refine ⟨last, hmem, hkind, ?_, ?_⟩
    · intro a ha hkindA
      exact List.le_of_mem_argmax (List.mem_filter.mpr ⟨ha, hkindA⟩) hlast
    · have hother := countP_firstBy_add key limit elements
        fun a ↦ !kind a && decide (key a < key last)
      have hnone : ((leftBehind key limit elements).countP
          fun a ↦ !kind a && decide (key a < key last)) = 0 := by
        refine List.countP_eq_zero.mpr fun b hb hbefore ↦ ?_
        have hlt := of_decide_eq_true (Bool.and_eq_true_iff.mp hbefore).2
        exact absurd (le_of_mem_leftBehind hmem hb) (not_le.mpr hlt)
      have hle : ((firstBy key limit elements).countP
          fun a ↦ !kind a && decide (key a < key last)) ≤
          (firstBy key limit elements).countP fun a ↦ ¬ kind a = true := by
        refine List.countP_mono_left fun a _ h ↦ ?_
        simpa using (Bool.and_eq_true_iff.mp h).1
      have hsplit := List.length_eq_countP_add_countP kind (l := firstBy key limit elements)
      have hlength := length_firstBy key limit elements
      omega

end PingGuard.Library.OrderedBatch
