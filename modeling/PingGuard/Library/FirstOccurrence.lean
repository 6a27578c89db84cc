import Mathlib.Data.List.Nodup

/-!
# First occurrences

A loop that adds a value to the end of a list unless the list has it already. Of the values it has
gone through it keeps each once, in the order of their first occurrences.
-/

set_option autoImplicit false
set_option relaxedAutoImplicit false

namespace PingGuard.Library.FirstOccurrence

variable {α : Type} [DecidableEq α]

/-- One round of the loop. -/
def appendNew (kept : List α) (value : α) : List α :=
  if value ∈ kept then kept else kept ++ [value]

/-- What is kept of some values: each of them once, in the order of their first occurrences. -/
structure KeepsFirst (values kept : List α) : Prop where
  nodup : kept.Nodup
  mem_iff : ∀ value, value ∈ kept ↔ value ∈ values
  ordered : kept.Pairwise fun first second ↦ values.idxOf first < values.idxOf second

/-- Of no values nothing is kept. -/
theorem keepsFirst_nil : KeepsFirst ([] : List α) [] :=
  ⟨List.nodup_nil, fun _ ↦ Iff.rfl, List.Pairwise.nil⟩

/-- One more value is gone through. -/
theorem KeepsFirst.appendNew {values kept : List α} (hkeeps : KeepsFirst values kept) (value : α) :
    KeepsFirst (values ++ [value]) (appendNew kept value) := by
  have hordered : kept.Pairwise fun first second ↦
      (values ++ [value]).idxOf first < (values ++ [value]).idxOf second := by
    refine hkeeps.ordered.imp_of_mem fun hfirst hsecond hlt ↦ ?_
    rwa [List.idxOf_append_of_mem ((hkeeps.mem_iff _).mp hfirst),
      List.idxOf_append_of_mem ((hkeeps.mem_iff _).mp hsecond)]
  unfold FirstOccurrence.appendNew
  by_cases hknown : value ∈ kept
  · rw [if_pos hknown]
    refine ⟨hkeeps.nodup, fun other ↦ ?_, hordered⟩
    rw [hkeeps.mem_iff, List.mem_append, List.mem_singleton]
    exact ⟨Or.inl, fun h ↦ h.elim id fun heq ↦ heq ▸ (hkeeps.mem_iff value).mp hknown⟩
  · rw [if_neg hknown]
    have hnew : value ∉ values := fun hmem ↦ hknown ((hkeeps.mem_iff value).mpr hmem)
    refine ⟨?_, fun other ↦ ?_, ?_⟩
    · rw [← List.concat_eq_append]
      exact List.Nodup.concat hknown hkeeps.nodup
    · rw [List.mem_append, List.mem_append, hkeeps.mem_iff]
    · rw [List.pairwise_append]
      refine ⟨hordered, List.pairwise_singleton _ _, fun first hfirst second hsecond ↦ ?_⟩
      obtain rfl := List.mem_singleton.mp hsecond
      rw [List.idxOf_append_of_mem ((hkeeps.mem_iff _).mp hfirst),
        List.idxOf_append_of_notMem hnew]
      have hlt := List.idxOf_lt_length_of_mem ((hkeeps.mem_iff _).mp hfirst)
      omega

/-- The whole loop, over what follows the values already gone through. -/
theorem KeepsFirst.foldl {values kept : List α} (hkeeps : KeepsFirst values kept)
    (following : List α) :
    KeepsFirst (values ++ following) (following.foldl FirstOccurrence.appendNew kept) := by
  induction following generalizing values kept with
  | nil => rwa [List.append_nil]
  | cons value rest ih =>
    have hrest := ih (hkeeps.appendNew value)
    rwa [List.append_assoc, List.singleton_append] at hrest

/-- The loop keeps the first occurrences of the values it goes through. -/
theorem keepsFirst_foldl (values : List α) : KeepsFirst values (values.foldl appendNew []) := by
  have hkeeps := keepsFirst_nil.foldl values
  rwa [List.nil_append] at hkeeps

/-- Values that are all different are all kept. -/
theorem foldl_appendNew_of_nodup {kept values : List α} (hnodup : (kept ++ values).Nodup) :
    values.foldl appendNew kept = kept ++ values := by
  induction values generalizing kept with
  | nil => rw [List.foldl_nil, List.append_nil]
  | cons value rest ih =>
    have hnew : value ∉ kept := fun hmem ↦
      (List.nodup_append.mp hnodup).2.2 value hmem value List.mem_cons_self rfl
    rw [List.append_cons] at hnodup ⊢
    rw [List.foldl_cons, appendNew, if_neg hnew, ih hnodup]

end PingGuard.Library.FirstOccurrence
