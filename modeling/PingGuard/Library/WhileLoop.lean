import Mathlib.Data.Nat.Notation
import Mathlib.Tactic.Common

/-!
# Loops that leave when they choose

A loop is given by its body: a round makes something, and it either leaves the loop with a result or
goes on from another state. Nothing bounds the number of rounds. `rounds` is what a number of rounds
comes to, and a loop stops when some number of rounds leaves it.

A budget is a number that every round that goes on makes smaller. A loop with a budget stops, and it
makes at most one round more than the budget of the state that it starts from.
-/

set_option autoImplicit false
set_option relaxedAutoImplicit false

namespace PingGuard.Library.WhileLoop

variable {σ ρ α : Type} {body : σ → α × (ρ ⊕ σ)} {state next : σ} {made : α} {result : ρ}

/-- What the first rounds make, and the result with which one of them leaves the loop or the state
from which they would go on. -/
def rounds (body : σ → α × (ρ ⊕ σ)) : ℕ → σ → List α × (ρ ⊕ σ)
  | 0, state => ([], .inr state)
  | count + 1, state =>
    match body state with
    | (made, .inl result) => ([made], .inl result)
    | (made, .inr next) =>
      let rest := rounds body count next
      (made :: rest.1, rest.2)

/-- Every round that goes on makes the budget smaller. -/
def Spends (body : σ → α × (ρ ⊕ σ)) (budget : σ → ℕ) : Prop :=
  ∀ state made next, body state = (made, .inr next) → budget next < budget state

/-- A round that leaves the loop is its last one. -/
theorem rounds_of_leaves (hleaves : body state = (made, .inl result)) (count : ℕ) :
    rounds body (count + 1) state = ([made], .inl result) := by
  rw [rounds, hleaves]

/-- A round that goes on comes before the rounds from its next state. -/
theorem rounds_of_continues (hcontinues : body state = (made, .inr next)) (count : ℕ) :
    rounds body (count + 1) state =
      (made :: (rounds body count next).1, (rounds body count next).2) := by
  rw [rounds, hcontinues]

/-- Every round makes one thing. -/
theorem length_rounds_le (body : σ → α × (ρ ⊕ σ)) (count : ℕ) (state : σ) :
    (rounds body count state).1.length ≤ count := by
  induction count generalizing state with
  | zero => exact Nat.zero_le 0
  | succ count ih =>
    rcases hround : body state with ⟨made, result | next⟩
    · rw [rounds_of_leaves hround]
      exact Nat.succ_le_succ (Nat.zero_le count)
    · rw [rounds_of_continues hround]
      exact Nat.succ_le_succ (ih next)

/-- Rounds after which the loop goes on are followed by those from the state they get to. -/
theorem rounds_add {things : List α} {count : ℕ}
    (hrounds : rounds body count state = (things, .inr next)) (more : ℕ) :
    rounds body (count + more) state =
      (things ++ (rounds body more next).1, (rounds body more next).2) := by
  induction count generalizing state things with
  | zero =>
    obtain ⟨rfl, hnext⟩ := Prod.mk.inj hrounds
    obtain rfl := Sum.inr.inj hnext
    rw [Nat.zero_add, List.nil_append]
  | succ count ih =>
    rcases hround : body state with ⟨made, result | middle⟩
    · rw [rounds_of_leaves hround] at hrounds
      exact nomatch (Prod.mk.inj hrounds).2
    · rw [rounds_of_continues hround] at hrounds
      obtain ⟨rfl, hnext⟩ := Prod.mk.inj hrounds
      have hrest : rounds body count middle = ((rounds body count middle).1, .inr next) :=
        Prod.ext rfl hnext
      rw [Nat.succ_add, rounds_of_continues hround, ih hrest, List.cons_append]

/-- Once the loop is left, further rounds change nothing. -/
theorem rounds_of_stopped {count : ℕ} (hstopped : (rounds body count state).2 = .inl result)
    {more : ℕ} (hmore : count ≤ more) : rounds body more state = rounds body count state := by
  induction count generalizing state more with
  | zero => nomatch hstopped
  | succ count ih =>
    obtain ⟨more, rfl⟩ := Nat.exists_eq_add_of_lt hmore
    rcases hround : body state with ⟨made, left | next⟩
    · rw [rounds_of_leaves hround, rounds_of_leaves hround]
    · rw [rounds_of_continues hround] at hstopped ⊢
      rw [rounds_of_continues hround, ih hstopped (Nat.le_add_right count more)]

/-- A loop with a budget has stopped once it was given more rounds than its budget. -/
theorem stops_of_spends {budget : σ → ℕ} (hspends : Spends body budget) {count : ℕ}
    (hcount : budget state < count) : ∃ result, (rounds body count state).2 = .inl result := by
  induction count generalizing state with
  | zero => exact absurd hcount (Nat.not_lt_zero _)
  | succ count ih =>
    rcases hround : body state with ⟨made, result | next⟩
    · exact ⟨result, by rw [rounds_of_leaves hround]⟩
    · have hspent := hspends state made next hround
      rw [rounds_of_continues hround]
      exact ih (by omega)

/-- However many rounds a loop with a budget is given, it makes at most one more than its budget. -/
theorem length_rounds_le_of_spends {budget : σ → ℕ} (hspends : Spends body budget) (count : ℕ)
    (state : σ) : (rounds body count state).1.length ≤ budget state + 1 := by
  rcases Nat.le_total count (budget state + 1) with hfew | hmany
  · exact Nat.le_trans (length_rounds_le body count state) hfew
  · obtain ⟨result, hstopped⟩ := stops_of_spends hspends (Nat.lt_succ_self (budget state))
    rw [rounds_of_stopped hstopped hmany]
    exact length_rounds_le body _ state

end PingGuard.Library.WhileLoop
