import Mathlib.Algebra.Order.Group.Defs
import PingGuard.Library.ExpiringStore

/-!
# Fixed windows

What every limiter with a fixed window does to the counter of a key. `Counted` is one call: it opens
a window where the counter is gone, or it is counted in the window that is open, and allowed only
while the count is below the limit. A limiter may or may not go on counting calls that it denies. A
call may also fail halfway, and leave a counter without a deadline.

A window opens when a call comes, so an interval as long as a window meets two of them at most.
`allowed_le_two_mul` is the bound that this gives for any such interval, wherever it begins.
-/

set_option autoImplicit false
set_option relaxedAutoImplicit false

namespace PingGuard.Library.FixedWindow

open ExpiringStore

/-! ### Places -/

section Places

variable {τ : Type} [LinearOrder τ] {limit : ℤ}

/-- The calls that can still be allowed before an instant that is at most a window away. -/
def places (limit : ℤ) (stop : τ) : Option (Entry τ) → ℤ
  | none => limit
  | some entry =>
    max 0 (limit - entry.count) + if entry.deadline.all fun deadline ↦ decide (stop ≤ deadline)
      then 0 else limit

/-- The places of a window that ends after the instant. -/
theorem places_of_le (limit count : ℤ) {stop deadline : τ} (hle : stop ≤ deadline) :
    places limit stop (some ⟨count, some deadline⟩) = max 0 (limit - count) := by
  rw [places, Option.all_some, decide_eq_true hle, if_pos rfl, Int.add_zero]

/-- The places of a window that ends before the instant. -/
theorem places_of_lt (limit count : ℤ) {stop deadline : τ} (hlt : deadline < stop) :
    places limit stop (some ⟨count, some deadline⟩) = max 0 (limit - count) + limit := by
  rw [places, Option.all_some, decide_eq_false (not_le.mpr hlt), if_neg Bool.false_ne_true]

/-- Where the counter is gone by an earlier instant, there are the places of a window. -/
theorem limit_le_places {now stop : τ} {before : Option (Entry τ)}
    (hgone : liveAt now before = none) (hbefore : now < stop) :
    limit ≤ places limit stop before := by
  rcases before with _ | ⟨count, _ | deadline⟩
  · exact le_rfl
  · nomatch hgone
  · have hover : deadline ≤ now := by
      by_contra hlt
      rw [liveAt_of_lt count (not_le.mp hlt)] at hgone
      nomatch hgone
    have hmax : 0 ≤ max 0 (limit - count) := le_max_left 0 _
    rw [places_of_lt _ _ (hover.trans_lt hbefore)]
    omega

/-- There are never fewer than no places. -/
theorem places_nonneg (hlimit : 1 ≤ limit) (stop : τ) (before : Option (Entry τ)) :
    0 ≤ places limit stop before := by
  cases before with
  | none => exact Int.le_of_lt hlimit
  | some entry =>
    have hmax : 0 ≤ max 0 (limit - entry.count) := le_max_left 0 _
    rw [places]
    split_ifs <;> omega

/-- A window and the next one have at most twice the limit. -/
theorem places_le (hlimit : 1 ≤ limit) (stop : τ) {before : Option (Entry τ)}
    (hcount : ∀ entry, before = some entry → 0 ≤ entry.count) :
    places limit stop before ≤ 2 * limit := by
  cases before with
  | none =>
    rw [places]
    omega
  | some entry =>
    have hnonneg := hcount entry rfl
    have hmax : max 0 (limit - entry.count) ≤ limit := max_le (by omega) (by omega)
    rw [places]
    split_ifs <;> omega

end Places

/-! ### Calls -/

variable {τ : Type} [AddCommGroup τ] [LinearOrder τ] {limit : ℤ} {window : τ}

/-- A call at an instant: the counter before it, whether it is counted and allowed, and the counter
after it. A call that fails may have reached the counter or not. -/
inductive Counted (limit : ℤ) (window now : τ) :
    Option (Entry τ) → Bool → Option (Entry τ) → Prop
  | opened (before : Option (Entry τ)) (hgone : liveAt now before = none) :
      Counted limit window now before true (some ⟨1, some (now + window)⟩)
  | added (entry : Entry τ) (allowed : Bool) (count : ℤ) (hlive : entry.isLiveAt now = true)
      (hallowed : allowed = true → entry.count < limit ∧ entry.count < count)
      (hcount : entry.count ≤ count) :
      Counted limit window now (some entry) allowed
        (some ⟨count, some (entry.deadline.getD (now + window))⟩)
  | missed (before after : Option (Entry τ)) (hafter : after = liveAt now before) :
      Counted limit window now before false after
  | left (before : Option (Entry τ)) (count : ℤ) (deadline : Option τ)
      (hcount : ((liveAt now before).map Entry.count).getD 0 ≤ count)
      (hdeadline : deadline = (liveAt now before).bind Entry.deadline ∨
        (liveAt now before).bind Entry.deadline = none ∧ deadline = some (now + window)) :
      Counted limit window now before false (some ⟨count, deadline⟩)

/-- Calls one after the other, each with its instant and whether it is allowed. -/
inductive CountedAll (limit : ℤ) (window : τ) : Option (Entry τ) → List (τ × Bool) → Prop
  | nil (before : Option (Entry τ)) : CountedAll limit window before []
  | cons {before middle : Option (Entry τ)} {now : τ} {allowed : Bool} {rest : List (τ × Bool)}
      (hcall : Counted limit window now before allowed middle)
      (hrest : CountedAll limit window middle rest) :
      CountedAll limit window before ((now, allowed) :: rest)

/-- A counter that counts no less than nothing goes on so. -/
theorem Counted.count_nonneg {now : τ} {before after : Option (Entry τ)} {allowed : Bool}
    (hcall : Counted limit window now before allowed after)
    (hcount : ∀ entry, before = some entry → 0 ≤ entry.count) :
    ∀ entry, after = some entry → 0 ≤ entry.count := by
  rintro _ rfl
  cases hcall with
  | opened before hgone => exact Int.one_nonneg
  | added entry allowed count hlive hallowed hle => exact (hcount entry rfl).trans hle
  | missed before _ hafter => exact hcount _ (eq_some_of_liveAt hafter.symm).1
  | left before count deadline hle hdeadline =>
    refine le_trans ?_ hle
    cases hlive : liveAt now before with
    | none => exact le_rfl
    | some entry => exact hcount entry (eq_some_of_liveAt hlive).1

/-- A call that is allowed takes a place, if it comes before the instant. -/
theorem Counted.places_add_le {now stop : τ} {before after : Option (Entry τ)} {allowed : Bool}
    (hcall : Counted limit window now before allowed after) (hlimit : 1 ≤ limit)
    (hbefore : now < stop) (hwindow : stop ≤ now + window) :
    places limit stop after + (if allowed then 1 else 0) ≤ places limit stop before := by
  cases hcall with
  | opened before hgone =>
    -- what is gone has ended before the call
    have hle : limit ≤ places limit stop before := limit_le_places hgone hbefore
    rw [places_of_le _ _ hwindow, if_pos rfl, max_eq_right (by omega)]
    omega
  | added entry allowed count hlive hallowed hcount =>
    -- the end of the window is set, if it was not, and it is after the instant then
    have hsame : places limit stop (some ⟨count, some (entry.deadline.getD (now + window))⟩) =
        max 0 (limit - count) + if entry.deadline.all fun deadline ↦ decide (stop ≤ deadline)
          then 0 else limit := by
      obtain ⟨stored, _ | deadline⟩ := entry
      · exact (places_of_le _ _ hwindow).trans (Int.add_zero _).symm
      · rfl
    rw [hsame, places]
    have hmax : max 0 (limit - count) + (if allowed then 1 else 0) ≤
        max 0 (limit - entry.count) := by
      cases allowed with
      | false => exact (Int.add_zero _).le.trans (max_le_max_left 0 (by omega))
      | true =>
        obtain ⟨hroom, hmore⟩ := hallowed rfl
        rw [if_pos rfl, max_eq_right (a := 0) (b := limit - entry.count) (by omega)]
        have hle : max 0 (limit - count) ≤ limit - entry.count - 1 := max_le (by omega) (by omega)
        omega
    omega
  | missed before _ hafter =>
    rw [hafter, if_neg Bool.false_ne_true, Int.add_zero]
    cases hlive : liveAt now before with
    | none => exact limit_le_places hlive hbefore
    | some entry => rw [(eq_some_of_liveAt hlive).1]
  | left before count deadline hcount hdeadline =>
    rw [if_neg Bool.false_ne_true, Int.add_zero]
    cases hlive : liveAt now before with
    | none =>
      refine le_trans ?_ (limit_le_places hlive hbefore)
      rw [hlive] at hcount hdeadline
      have hnonneg : 0 ≤ count := hcount
      have hafter : places limit stop (some ⟨count, deadline⟩) = max 0 (limit - count) := by
        rcases hdeadline with rfl | ⟨-, rfl⟩
        · exact Int.add_zero _
        · exact places_of_le _ _ hwindow
      rw [hafter]
      exact max_le (by omega) (by omega)
    | some entry =>
      obtain ⟨rfl, -⟩ := eq_some_of_liveAt hlive
      rw [hlive] at hcount hdeadline
      obtain ⟨stored, due⟩ := entry
      have hmax : max 0 (limit - count) ≤ max 0 (limit - stored) :=
        max_le_max_left 0 (Int.sub_le_sub_left hcount limit)
      rcases hdeadline with rfl | ⟨hnone, rfl⟩
      · exact Int.add_le_add_right hmax _
      · obtain rfl : due = none := hnone
        rw [places_of_le _ _ hwindow]
        exact hmax.trans (Int.add_zero _).symm.le

/-- The calls that are allowed before an instant have places, if they come at most a window before
it, one after the other. -/
theorem countP_allowed_le {before : Option (Entry τ)} {calls : List (τ × Bool)}
    (hcalls : CountedAll limit window before calls) (hlimit : 1 ≤ limit) {stop : τ}
    (hordered : calls.Pairwise fun earlier later ↦ earlier.1 ≤ later.1)
    (hwindow : ∀ call ∈ calls, stop ≤ call.1 + window) :
    ((calls.countP fun call ↦ call.2 && decide (call.1 < stop) : ℕ) : ℤ) ≤
      places limit stop before := by
  induction hcalls with
  | nil before => exact places_nonneg hlimit stop before
  | @cons before middle now allowed rest hcall hrest ih =>
    obtain ⟨hlater, hrestOrdered⟩ := List.pairwise_cons.mp hordered
    rcases lt_or_ge now stop with hlt | hge
    · have hstep := hcall.places_add_le hlimit hlt (hwindow _ List.mem_cons_self)
      have hrestLe := ih hrestOrdered fun call hmem ↦ hwindow call (List.mem_cons_of_mem _ hmem)
      rw [List.countP_cons]
      cases allowed with
      | false =>
        simp only [Bool.false_and, Bool.false_eq_true, if_false] at hstep ⊢
        omega
      | true =>
        simp only [hlt, decide_true, Bool.and_self, if_true] at hstep ⊢
        omega
    · have hnone : ((now, allowed) :: rest).countP
          (fun call ↦ call.2 && decide (call.1 < stop)) = 0 := by
        rw [List.countP_eq_zero]
        intro call hmem hcounted
        have hbefore := of_decide_eq_true (Bool.and_eq_true_iff.mp hcounted).2
        rcases List.mem_cons.mp hmem with rfl | hmem
        · exact absurd hbefore (not_lt.mpr hge)
        · exact absurd hbefore (not_lt.mpr (hge.trans (hlater call hmem)))
      rw [hnone]
      exact places_nonneg hlimit stop before

/-- In any interval as long as a window, at most twice as many calls as the limit are allowed. -/
theorem allowed_le_two_mul [IsOrderedAddMonoid τ] {before : Option (Entry τ)}
    {calls : List (τ × Bool)} (hcalls : CountedAll limit window before calls) (hlimit : 1 ≤ limit)
    (hcount : ∀ entry, before = some entry → 0 ≤ entry.count)
    (hordered : calls.Pairwise fun earlier later ↦ earlier.1 ≤ later.1) (start : τ) :
    ((calls.countP fun call ↦
      call.2 && decide (start ≤ call.1 ∧ call.1 < start + window) : ℕ) : ℤ) ≤ 2 * limit := by
  induction hcalls with
  | nil before => exact Int.le_trans (Int.natCast_nonneg 0) (by omega)
  | @cons before middle now allowed rest hcall hrest ih =>
    obtain ⟨hlater, hrestOrdered⟩ := List.pairwise_cons.mp hordered
    rcases lt_or_ge now start with hlt | hge
    · rw [List.countP_cons_of_neg]
      · exact ih (hcall.count_nonneg hcount) hrestOrdered
      · simp [not_le.mpr hlt]
    · -- from here on every call comes in the interval, or after it
      have hinside : ∀ call ∈ (now, allowed) :: rest, start ≤ call.1 := by
        intro call hmem
        rcases List.mem_cons.mp hmem with rfl | hmem
        · exact hge
        · exact hge.trans (hlater call hmem)
      have hsame : (((now, allowed) :: rest).countP fun call ↦
          call.2 && decide (start ≤ call.1 ∧ call.1 < start + window)) =
          ((now, allowed) :: rest).countP fun call ↦
            call.2 && decide (call.1 < start + window) := by
        refine List.countP_congr fun call hmem ↦ ?_
        simp only [hinside call hmem, true_and]
      rw [hsame]
      exact (countP_allowed_le (.cons hcall hrest) hlimit hordered fun call hmem ↦
        add_le_add_left (hinside call hmem) window).trans (places_le hlimit _ hcount)

end PingGuard.Library.FixedWindow
