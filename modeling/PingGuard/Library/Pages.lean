import Mathlib.Data.List.Sort

/-!
# Pages of a list that changes

A reader takes a list page by page, each page by an offset into the list as it is then. Between two
pages elements may go, and new ones come, but only above all that were there (`GoesOn`). The reader
then never sees an element twice, and sees the pages in order: what the offset skips has been read,
or is gone. If nothing goes, the reader sees everything that was there at the start.
-/

set_option autoImplicit false
set_option relaxedAutoImplicit false

namespace PingGuard.Library.Pages

variable {κ : Type} [LinearOrder κ]

/-- A page of a list: so many elements from an offset on. -/
def page (offset size : ℕ) (elements : List κ) : List κ := (elements.drop offset).take size

/-- What is new in the later list is above all of the earlier one. -/
def GoesOn (earlier later : List κ) : Prop := ∀ a ∈ later, a ∉ earlier → ∀ b ∈ earlier, b < a

section Two

variable {earlier later : List κ}

/-- What comes after so many elements of the later list is above the first so many of the earlier
one. -/
theorem GoesOn.lt_of_mem_drop (hgoesOn : GoesOn earlier later)
    (hearlier : earlier.Pairwise (· < ·)) (hlater : later.Pairwise (· < ·)) {count : ℕ} {a b : κ}
    (ha : a ∈ earlier.take count) (hb : b ∈ later.drop count) : a < b := by
  by_contra hnot
  have hle : b ≤ a := not_lt.mp hnot
  rw [← List.take_append_drop count earlier, List.pairwise_append] at hearlier
  rw [← List.take_append_drop count later, List.pairwise_append] at hlater
  -- the first elements of the later list are elements of the earlier one before `a`
  have hsubset : later.take count ⊆ (earlier.take count).erase a := by
    intro x hx
    have hlt : x < a := (hlater.2.2 x hx b hb).trans_le hle
    have hmem : x ∈ earlier := by
      by_contra hnew
      exact lt_asymm hlt (hgoesOn x (List.mem_of_mem_take hx) hnew a (List.mem_of_mem_take ha))
    rw [List.mem_erase_of_ne hlt.ne]
    rw [← List.take_append_drop count earlier] at hmem
    exact (List.mem_append.mp hmem).resolve_right fun hdrop ↦
      lt_asymm hlt (hearlier.2.2 a ha x hdrop)
  have hnodup : (later.take count).Nodup := hlater.1.imp fun hlt ↦ hlt.ne
  have hlength := (List.subperm_of_subset hnodup hsubset).length_le
  have hlaterLength : (later.take count).length = count := by
    rw [List.length_take]
    refine min_eq_left (Nat.le_of_not_lt fun hlt ↦ ?_)
    rw [List.drop_eq_nil_of_le (Nat.le_of_lt hlt)] at hb
    exact List.not_mem_nil hb
  have hearlierLength : (earlier.take count).length ≤ count := List.length_take_le _ _
  have hpos : 0 < (earlier.take count).length := List.length_pos_of_mem ha
  rw [List.length_erase_of_mem ha] at hlength
  omega

/-- Where nothing of the earlier list is gone, the later list begins with it. -/
theorem GoesOn.eq_append (hgoesOn : GoesOn earlier later)
    (hearlier : earlier.Pairwise (· < ·)) (hlater : later.Pairwise (· < ·))
    (hall : earlier ⊆ later) : later = earlier ++ later.filter (· ∉ earlier) := by
  have hsorted : (earlier ++ later.filter (· ∉ earlier)).Pairwise (· < ·) := by
    refine List.pairwise_append.mpr ⟨hearlier, hlater.sublist List.filter_sublist, ?_⟩
    intro a ha b hb
    obtain ⟨hlaterMem, hnew⟩ := List.mem_filter.mp hb
    exact hgoesOn b hlaterMem (of_decide_eq_true hnew) a ha
  refine List.Perm.eq_of_pairwise' hlater hsorted ?_
  refine (List.perm_ext_iff_of_nodup (hlater.imp fun hlt ↦ hlt.ne)
    (hsorted.imp fun hlt ↦ hlt.ne)).mpr fun a ↦ ?_
  rw [List.mem_append, List.mem_filter, decide_eq_true_eq]
  constructor
  · intro ha
    by_cases hmem : a ∈ earlier
    · exact Or.inl hmem
    · exact Or.inr ⟨ha, hmem⟩
  · rintro (ha | ⟨ha, -⟩)
    · exact hall ha
    · exact ha

end Two

/-! ### Reading page by page -/

section Reading

variable {lists : ℕ → List κ}

/-- What a reader sees in so many pages. -/
def readPages (size : ℕ) (lists : ℕ → List κ) (pages : ℕ) : List κ :=
  (List.range pages).flatMap fun index ↦ page (index * size) size (lists index)

/-- A reader sees the elements in order, and none of them twice. -/
theorem pairwise_readPages (hsorted : ∀ index, (lists index).Pairwise (· < ·))
    (hgoesOn : ∀ first second, first ≤ second → GoesOn (lists first) (lists second))
    (size pages : ℕ) :
    (readPages size lists pages).Pairwise (· < ·) := by
  induction pages with
  | zero => exact List.Pairwise.nil
  | succ pages ih =>
    unfold readPages at ih ⊢
    rw [List.range_succ, List.flatMap_append, List.flatMap_singleton]
    refine List.pairwise_append.mpr ⟨ih, ?_, ?_⟩
    · exact (hsorted pages).sublist ((List.take_sublist _ _).trans (List.drop_sublist _ _))
    · intro a ha b hb
      obtain ⟨index, hindex, ha⟩ := List.mem_flatMap.mp ha
      have hlt := List.mem_range.mp hindex
      -- the offset of the last page skips the whole earlier page
      have hskipped : index * size + size ≤ pages * size := by
        rw [← Nat.succ_mul]
        exact Nat.mul_le_mul_right size hlt
      have hread : a ∈ (lists index).take (index * size + size) := by
        rw [page, List.take_drop] at ha
        exact List.mem_of_mem_drop ha
      have hunread : b ∈ (lists pages).drop (index * size + size) :=
        (List.drop_sublist_drop_left _ hskipped).subset (List.mem_of_mem_take hb)
      exact (hgoesOn index pages (Nat.le_of_lt hlt)).lt_of_mem_drop (hsorted index)
        (hsorted pages) hread hunread

/-- Where nothing that was there at the start goes, a reader sees all of it. -/
theorem subset_readPages (hsorted : ∀ index, (lists index).Pairwise (· < ·))
    (hgoesOn : ∀ first second, first ≤ second → GoesOn (lists first) (lists second))
    (hall : ∀ index, lists 0 ⊆ lists index) {size pages : ℕ} (hsize : 0 < size)
    (henough : (lists 0).length ≤ pages * size) : lists 0 ⊆ readPages size lists pages := by
  intro a ha
  obtain ⟨position, hposition, rfl⟩ := List.getElem_of_mem ha
  have hindex : position / size < pages :=
    Nat.div_lt_of_lt_mul ((hposition.trans_le henough).trans_eq (Nat.mul_comm _ _))
  refine List.mem_flatMap.mpr ⟨position / size, List.mem_range.mpr hindex, ?_⟩
  -- the element stands where it stood at the start
  have hsame : (lists (position / size))[position]? = some (lists 0)[position] := by
    rw [(hgoesOn 0 (position / size) (Nat.zero_le _)).eq_append (hsorted 0) (hsorted _)
      (hall _), List.getElem?_append_left hposition]
    exact List.getElem?_eq_getElem hposition
  have hoffset : position / size * size + position % size = position := Nat.div_add_mod' _ _
  have hmem : (page (position / size * size) size (lists (position / size)))[position % size]? =
      some (lists 0)[position] := by
    rw [page, List.getElem?_take_of_lt (Nat.mod_lt position hsize), List.getElem?_drop, hoffset]
    exact hsame
  exact List.mem_of_getElem? hmem

end Reading

end PingGuard.Library.Pages
