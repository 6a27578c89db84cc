import Mathlib.Algebra.Group.Int.Defs
import Mathlib.Data.Option.Basic
import Mathlib.Order.Lattice
import Mathlib.Tactic.Common

/-!
# A store whose keys expire

Counters under keys, on a clock. A counter may have a deadline, and is gone from that instant on. A
`Store` holds only what is not gone yet. Incrementing a missing key creates it with the count 1 and
without a deadline.
-/

set_option autoImplicit false
set_option relaxedAutoImplicit false

namespace PingGuard.Library.ExpiringStore

variable {κ τ : Type} [LinearOrder τ]

/-- A counter, and the instant from which on it is gone. -/
structure Entry (τ : Type) where
  count : ℤ
  deadline : Option τ

/-- Whether a counter is still there at an instant. -/
def Entry.isLiveAt (now : τ) (entry : Entry τ) : Bool :=
  entry.deadline.all fun deadline ↦ decide (now < deadline)

/-- The counter of a key, if there is one at an instant. -/
def liveAt (now : τ) (entry : Option (Entry τ)) : Option (Entry τ) := entry.filter (·.isLiveAt now)

/-- The counters that are there at an instant. -/
structure Store (κ τ : Type) [LinearOrder τ] where
  now : τ
  get : κ → Option (Entry τ)
  isLive : ∀ key entry, get key = some entry → entry.isLiveAt now = true

/-! ### Counters -/

@[simp] theorem liveAt_none (now : τ) : liveAt now (none : Option (Entry τ)) = none := rfl

/-- A counter stays until its deadline. -/
theorem liveAt_of_lt {now deadline : τ} (count : ℤ) (hlt : now < deadline) :
    liveAt now (some ⟨count, some deadline⟩) = some ⟨count, some deadline⟩ :=
  Option.filter_some_pos (decide_eq_true hlt)

/-- A counter is gone from its deadline on. -/
theorem liveAt_of_le {now deadline : τ} (count : ℤ) (hle : deadline ≤ now) :
    liveAt now (some ⟨count, some deadline⟩) = none :=
  Option.filter_some_neg (by simpa [Entry.isLiveAt] using hle)

/-- What is there at an instant was there before. -/
theorem eq_some_of_liveAt {now : τ} {cell : Option (Entry τ)} {entry : Entry τ}
    (hlive : liveAt now cell = some entry) : cell = some entry ∧ entry.isLiveAt now = true :=
  Option.filter_eq_some_iff.mp hlive

/-- What is gone does not come back. -/
theorem liveAt_liveAt {now later : τ} (hle : now ≤ later) (cell : Option (Entry τ)) :
    liveAt later (liveAt now cell) = liveAt later cell := by
  rcases cell with _ | ⟨count, _ | deadline⟩
  · rfl
  · rfl
  · rcases lt_or_ge now deadline with hlt | hge
    · rw [liveAt_of_lt count hlt]
    · rw [liveAt_of_le count hge, liveAt_of_le count (hge.trans hle), liveAt_none]

namespace Store

/-- The store without counters. -/
def empty (κ : Type) (now : τ) : Store κ τ where
  now := now
  get := fun _ ↦ none
  isLive := fun _ _ hget ↦ nomatch hget

/-- What is left at a later instant. -/
def wait (later : τ) (store : Store κ τ) : Store κ τ where
  now := later
  get := fun key ↦ liveAt later (store.get key)
  isLive := fun _ _ hget ↦ (eq_some_of_liveAt hget).2

/-- The deadline of a key that has one. -/
def deadline (store : Store κ τ) (key : κ) : Option τ := (store.get key).bind Entry.deadline

variable {store : Store κ τ} {key other : κ}

@[simp] theorem now_wait (later : τ) (store : Store κ τ) : (store.wait later).now = later := rfl

@[simp] theorem get_wait (later : τ) (store : Store κ τ) (key : κ) :
    (store.wait later).get key = liveAt later (store.get key) := rfl

/-- A deadline that is still there is later than now. -/
theorem lt_deadline {deadline : τ} (hdeadline : store.deadline key = some deadline) :
    store.now < deadline := by
  obtain ⟨entry, hget, hentry⟩ := Option.bind_eq_some_iff.mp hdeadline
  have hlive := store.isLive key entry hget
  rw [Entry.isLiveAt, hentry] at hlive
  exact of_decide_eq_true hlive

/-- A key is gone from its deadline on. -/
theorem get_wait_of_le {deadline later : τ} (hdeadline : store.deadline key = some deadline)
    (hle : deadline ≤ later) : (store.wait later).get key = none := by
  obtain ⟨⟨count, stored⟩, hget, rfl : stored = some deadline⟩ :=
    Option.bind_eq_some_iff.mp hdeadline
  rw [get_wait, hget, liveAt_of_le count hle]

/-- Time takes a key away, or leaves it as it is. -/
theorem get_wait_eq (store : Store κ τ) (later : τ) (key : κ) :
    (store.wait later).get key = none ∨ (store.wait later).get key = store.get key := by
  rw [get_wait]
  cases hlive : liveAt later (store.get key) with
  | none => exact Or.inl rfl
  | some entry => exact Or.inr (eq_some_of_liveAt hlive).1.symm

/-- A key that is gone has no deadline. -/
theorem deadline_of_missing (hmissing : store.get key = none) : store.deadline key = none := by
  rw [Store.deadline, hmissing, Option.bind_none]

/-- Time takes a deadline away, or leaves it. -/
theorem deadline_wait (store : Store κ τ) (later : τ) (key : κ) :
    (store.wait later).deadline key = none ∨
      (store.wait later).deadline key = store.deadline key := by
  rcases get_wait_eq store later key with hgone | hsame
  · exact Or.inl (deadline_of_missing hgone)
  · rw [deadline, hsame]
    exact Or.inr rfl

/-! ### Changes -/

/-- The counter of a key after an increment. -/
def incremented : Option (Entry τ) → Entry τ
  | none => ⟨1, none⟩
  | some entry => { entry with count := entry.count + 1 }

variable [DecidableEq κ]

/-- The store with the counter of a key incremented. -/
def incr (key : κ) (store : Store κ τ) : Store κ τ where
  now := store.now
  get := Function.update store.get key (some (incremented (store.get key)))
  isLive := by
    intro other entry hget
    rw [Function.update_apply] at hget
    split_ifs at hget with hother
    · obtain rfl := Option.some.inj hget
      cases hbefore : store.get key with
      | none => rfl
      | some before => exact store.isLive key before hbefore
    · exact store.isLive other entry hget

/-- The store with the deadline of a key set. A key that is missing stays missing, and one whose
deadline is not later than now is gone. -/
def expire (key : κ) (deadline : τ) (store : Store κ τ) : Store κ τ where
  now := store.now
  get := Function.update store.get key
    (liveAt store.now ((store.get key).map fun entry ↦ { entry with deadline := some deadline }))
  isLive := by
    intro other entry hget
    rw [Function.update_apply] at hget
    split_ifs at hget with hother
    · exact (eq_some_of_liveAt hget).2
    · exact store.isLive other entry hget

@[simp] theorem now_incr (key : κ) (store : Store κ τ) : (store.incr key).now = store.now := rfl

@[simp] theorem get_incr_self (key : κ) (store : Store κ τ) :
    (store.incr key).get key = some (incremented (store.get key)) :=
  Function.update_self ..

/-- An increment leaves the other keys. -/
theorem get_incr_of_ne (hne : other ≠ key) (store : Store κ τ) :
    (store.incr key).get other = store.get other :=
  Function.update_of_ne hne ..

@[simp] theorem get_expire_self (key : κ) (deadline : τ) (store : Store κ τ) :
    (store.expire key deadline).get key =
      liveAt store.now ((store.get key).map fun entry ↦ { entry with deadline := some deadline }) :=
  Function.update_self ..

/-- An increment leaves the deadlines. -/
@[simp] theorem deadline_incr (key : κ) (store : Store κ τ) :
    (store.incr key).deadline = store.deadline := by
  funext other
  unfold deadline
  by_cases hother : other = key
  · rw [hother, get_incr_self]
    cases store.get key <;> rfl
  · rw [get_incr_of_ne hother]

/-- Setting a deadline leaves the other keys. -/
theorem get_expire_of_ne (hne : other ≠ key) (deadline : τ) (store : Store κ τ) :
    (store.expire key deadline).get other = store.get other :=
  Function.update_of_ne hne ..

/-- Setting a deadline leaves those of the other keys. -/
theorem deadline_expire_of_ne (hne : other ≠ key) (deadline : τ) (store : Store κ τ) :
    (store.expire key deadline).deadline other = store.deadline other := by
  rw [Store.deadline, get_expire_of_ne hne, Store.deadline]

/-- A key whose deadline is set is gone, or has that deadline. -/
theorem get_expire_eq (key : κ) (deadline : τ) (store : Store κ τ) :
    (store.expire key deadline).get key = none ∨
      (store.expire key deadline).deadline key = some deadline := by
  unfold Store.deadline
  rw [get_expire_self]
  cases hlive : liveAt store.now
      ((store.get key).map fun entry ↦ { entry with deadline := some deadline }) with
  | none => exact Or.inl rfl
  | some entry =>
    obtain ⟨before, -, rfl⟩ := Option.map_eq_some_iff.mp (eq_some_of_liveAt hlive).1
    exact Or.inr rfl

/-- Setting a later deadline of a key that is there keeps the key. -/
theorem deadline_expire_of_lt {entry : Entry τ} {deadline : τ} (hget : store.get key = some entry)
    (hlt : store.now < deadline) : (store.expire key deadline).deadline key = some deadline := by
  rw [Store.deadline, get_expire_self, hget, Option.map_some, liveAt_of_lt _ hlt, Option.bind_some]

end Store

end PingGuard.Library.ExpiringStore
