import Mathlib.Tactic.Common

/-!
# Interleavings of two processes

Two processes take turns on one state, in any order. A label says whose turn it is. Where the turns
of one commute with the turns of the other, as far as a view of the state tells, every interleaving
ends like the two serial runs: all turns of one process, then all turns of the other.

The turns of one process need not commute with each other.
-/

set_option autoImplicit false
set_option relaxedAutoImplicit false

namespace PingGuard.Library.Interleaving

variable {σ α : Type} {step : σ → α → σ} {view : σ → σ} {isFirst : α → Bool}

/-- The turns of one process in a schedule, then those of the other. -/
def serial (isFirst : α → Bool) (schedule : List α) : List α :=
  schedule.filter isFirst ++ schedule.filter fun label ↦ !isFirst label

/-- Two processes commute, as far as a view tells: a turn reads nothing of the state that the view
leaves out, and two turns of different processes may be swapped. -/
structure Commutes (step : σ → α → σ) (view : σ → σ) (isFirst : α → Bool) : Prop where
  step_view : ∀ state label, view (step (view state) label) = view (step state label)
  swap : ∀ state first second, isFirst first = true → isFirst second = false →
    view (step (step state second) first) = view (step (step state first) second)

namespace Commutes

/-- Turns take states that look the same to states that look the same. -/
theorem foldl_congr (hcommutes : Commutes step view isFirst) (labels : List α) {state other : σ}
    (hsame : view state = view other) :
    view (labels.foldl step state) = view (labels.foldl step other) := by
  induction labels generalizing state other with
  | nil => exact hsame
  | cons label rest ih =>
    apply ih
    rw [← hcommutes.step_view state, hsame, hcommutes.step_view other]

/-- A turn of the second process may be put off until the first one has finished. -/
theorem foldl_postpone (hcommutes : Commutes step view isFirst) {labels : List α}
    (hfirst : ∀ label ∈ labels, isFirst label = true) {second : α}
    (hsecond : isFirst second = false) (state : σ) :
    view (labels.foldl step (step state second)) =
      view (step (labels.foldl step state) second) := by
  induction labels generalizing state with
  | nil => rfl
  | cons label rest ih =>
    have hswap := hcommutes.swap state label second (hfirst label List.mem_cons_self) hsecond
    have hrest := ih (fun other hother ↦ hfirst other (List.mem_cons_of_mem _ hother))
      (step state label)
    exact (hcommutes.foldl_congr rest hswap).trans hrest

/-- Every interleaving ends like the serial run in which the first process goes first. -/
theorem foldl_serial (hcommutes : Commutes step view isFirst) (schedule : List α) (state : σ) :
    view ((serial isFirst schedule).foldl step state) = view (schedule.foldl step state) := by
  induction schedule generalizing state with
  | nil => rfl
  | cons label rest ih =>
    unfold serial at ih ⊢
    cases hlabel : isFirst label with
    | true =>
      rw [List.filter_cons_of_pos hlabel, List.filter_cons_of_neg (by simp [hlabel])]
      exact ih (step state label)
    | false =>
      rw [List.filter_cons_of_neg (by simp [hlabel]), List.filter_cons_of_pos (by simp [hlabel]),
        List.foldl_cons, ← ih, List.foldl_append, List.foldl_append, List.foldl_cons]
      -- the turn of the second process is the first of its serial run
      refine hcommutes.foldl_congr _ (hcommutes.foldl_postpone ?_ hlabel state).symm
      exact fun other hother ↦ (List.mem_filter.mp hother).2

/-- The processes may be named the other way round. -/
theorem symm (hcommutes : Commutes step view isFirst) :
    Commutes step view fun label ↦ !isFirst label where
  step_view := hcommutes.step_view
  swap state first second hfirst hsecond :=
    (hcommutes.swap state second first (by simpa using hsecond) (by simpa using hfirst)).symm

end Commutes

end PingGuard.Library.Interleaving
