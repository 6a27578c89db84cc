import PingGuard.RateLimit

/-!
# Waiting as long as told

A call that the limiter in memory denies comes with a number of seconds to wait. That number is the
time that is left of the window without its fraction, and at least 1. So it reaches the end of the
window only if the window has a second left at most, or a whole number of seconds
(`le_max_one_truncate_iff`). Otherwise a client that waits as long as it is told comes back before
the window ends.

`retry_allowed_iff` says this of every sequence of calls.
-/

set_option autoImplicit false
set_option relaxedAutoImplicit false

namespace PingGuard.RateLimit

open Library.PyText

/-! ### The rounding -/

/-- The wait that a denied call is told reaches the end of the window if at most a second is left,
or a whole number of seconds. -/
theorem le_max_one_truncate_iff {left : ℚ} (hleft : 0 < left) :
    left ≤ (max 1 (truncate left) : ℤ) ↔ left ≤ 1 ∨ left = ⌊left⌋ := by
  have htruncate : truncate left = ⌊left⌋ := if_neg (not_lt.mpr hleft.le)
  rw [htruncate, Int.cast_max, Int.cast_one, le_max_iff]
  exact or_congr_right ⟨fun hle ↦ le_antisymm hle (Int.floor_le left), le_of_eq⟩

/-! ### Sequences of calls -/

/-- A call of the limiter in memory: when, and with which arguments. -/
structure TimedHit where
  now : ℚ
  key : PyStr
  limit : ℤ
  windowSeconds : ℤ

namespace InMemoryRateLimiter

/-- What a call returns, and the data after it. -/
def hitAt (data : Memory) (made : TimedHit) : (Bool × ℤ) × Memory :=
  hit made.now made.key made.limit made.windowSeconds data

/-- The data after some calls. -/
def afterHits (data : Memory) (hits : List TimedHit) : Memory :=
  hits.foldl (fun data made ↦ (hitAt data made).2) data

end InMemoryRateLimiter

open InMemoryRateLimiter

/-- A call leaves the counters of other keys alone. -/
theorem hitAt_of_ne {data : Memory} {made : TimedHit} {key : PyStr} (hkey : key ≠ made.key) :
    (hitAt data made).2 key = data key := by
  unfold hitAt hit
  split
  · exact Function.update_of_ne hkey _ _
  · split_ifs
    · exact Function.update_of_ne hkey _ _
    · exact Function.update_of_ne hkey _ _
    · rfl

/-- Calls leave the counters of other keys alone. -/
theorem afterHits_of_ne {data : Memory} {hits : List TimedHit} {key : PyStr}
    (hkeys : ∀ made ∈ hits, key ≠ made.key) : afterHits data hits key = data key := by
  induction hits generalizing data with
  | nil => rfl
  | cons made rest ih =>
    obtain ⟨hmade, hrest⟩ := List.forall_mem_cons.mp hkeys
    exact (ih hrest).trans (hitAt_of_ne hmade)

/-- A call that is denied finds an open window whose count has reached the limit. It is told to wait
for what is left of the window, and changes nothing. -/
theorem hitAt_denied {data : Memory} {made : TimedHit} {retryAfter : ℤ}
    (hdenied : (hitAt data made).1 = (false, retryAfter)) :
    ∃ count resetAt, data made.key = some (count, resetAt) ∧ made.now < resetAt ∧
      made.limit ≤ count ∧ retryAfter = max 1 (truncate (resetAt - made.now)) ∧
        (hitAt data made).2 = data := by
  unfold hitAt hit at hdenied ⊢
  cases hcounter : data made.key with
  | none =>
    rw [hcounter] at hdenied
    exact Bool.noConfusion (congrArg Prod.fst hdenied)
  | some counter =>
    obtain ⟨count, resetAt⟩ := counter
    rw [hcounter] at hdenied
    dsimp only at hdenied ⊢
    split_ifs at hdenied ⊢ with hover hcount
    · exact Bool.noConfusion (congrArg Prod.fst hdenied)
    · exact Bool.noConfusion (congrArg Prod.fst hdenied)
    · exact ⟨count, resetAt, rfl, not_le.mp hover, not_lt.mp hcount,
        (congrArg Prod.snd hdenied).symm, rfl⟩

/-- A call on a key with a counter is allowed exactly when its window is over or its limit is not
reached. -/
theorem hitAt_allowed_iff {data : Memory} {made : TimedHit} {count : ℤ} {resetAt : ℚ}
    (hcounter : data made.key = some (count, resetAt)) :
    (hitAt data made).1.1 = true ↔ resetAt ≤ made.now ∨ count < made.limit := by
  unfold hitAt hit
  rw [hcounter]
  dsimp only
  split_ifs with hover hcount
  · exact iff_of_true rfl (Or.inl hover)
  · exact iff_of_true rfl (Or.inr hcount)
  · exact iff_of_false (by simp) (not_or.mpr ⟨hover, hcount⟩)

/-- A call that is denied at some time, and repeated after the wait that it was told with no other
call on its key in between, is allowed exactly when the window had at most a second left or a whole
number of seconds, or the repeated call has a limit above the count. -/
theorem retry_allowed_iff {data : Memory} {before between : List TimedHit} {denied retry : TimedHit}
    {retryAfter : ℤ}
    (hdenied : (hitAt (afterHits data before) denied).1 = (false, retryAfter))
    (hbetween : ∀ made ∈ between, denied.key ≠ made.key) (hkey : retry.key = denied.key)
    (hnow : retry.now = denied.now + retryAfter) :
    ∃ count resetAt, afterHits data before denied.key = some (count, resetAt) ∧
      ((hitAt (afterHits data (before ++ denied :: between)) retry).1.1 = true ↔
        resetAt - denied.now ≤ 1 ∨ resetAt - denied.now = ⌊resetAt - denied.now⌋ ∨
          count < retry.limit) := by
  obtain ⟨count, resetAt, hcounter, hopen, -, rfl, hsame⟩ := hitAt_denied hdenied
  refine ⟨count, resetAt, hcounter, ?_⟩
  have hretry : afterHits data (before ++ denied :: between) retry.key =
      some (count, resetAt) := by
    have hsplit : afterHits data (before ++ denied :: between) =
        afterHits (hitAt (afterHits data before) denied).2 between := by
      unfold afterHits
      rw [List.foldl_append, List.foldl_cons]
    rw [hsplit, hsame, hkey, afterHits_of_ne hbetween, hcounter]
  have hreached : resetAt ≤ retry.now ↔
      resetAt - denied.now ≤ (max 1 (truncate (resetAt - denied.now)) : ℤ) := by
    rw [hnow, sub_le_iff_le_add']
  rw [hitAt_allowed_iff hretry, hreached, le_max_one_truncate_iff (sub_pos.mpr hopen), or_assoc]

/-- With a limit of one call in a minute, a call that is made half a minute after the first is told
to wait for the other half, and the condition says what it gets then. -/
theorem retry_allowed_half_minute :
    ∃ count resetAt,
      afterHits (fun _ ↦ none) [⟨0, "key".toList, 1, 60⟩] "key".toList = some (count, resetAt) ∧
        ((hitAt (afterHits (fun _ ↦ none)
          [⟨0, "key".toList, 1, 60⟩, ⟨30, "key".toList, 1, 60⟩, ⟨40, "other".toList, 1, 60⟩])
            ⟨60, "key".toList, 1, 60⟩).1.1 = true ↔
          resetAt - 30 ≤ 1 ∨ resetAt - 30 = ⌊resetAt - 30⌋ ∨ count < 1) := by
  have hdenied : (hitAt (afterHits (fun _ ↦ none) [⟨0, "key".toList, 1, 60⟩])
      ⟨30, "key".toList, 1, 60⟩).1 = (false, 30) := by decide +kernel
  have hbetween : ∀ made ∈ [TimedHit.mk 40 "other".toList 1 60], "key".toList ≠ made.key :=
    List.forall_iff_forall_mem.mp (by decide)
  have hnow : (60 : ℚ) = 30 + (30 : ℤ) := by norm_num
  exact retry_allowed_iff hdenied hbetween rfl hnow

/-- With a limit of one call in a minute, a call that is made half a second after the first is told
to wait for 59 seconds, and denied again when it has waited. -/
theorem retry_denied :
    (hitAt (afterHits (fun _ ↦ none) [⟨0, "key".toList, 1, 60⟩])
        ⟨1 / 2, "key".toList, 1, 60⟩).1 = (false, 59) ∧
      (hitAt (afterHits (fun _ ↦ none)
        [⟨0, "key".toList, 1, 60⟩, ⟨1 / 2, "key".toList, 1, 60⟩])
          ⟨1 / 2 + 59, "key".toList, 1, 60⟩).1.1 = false := by
  decide +kernel

end PingGuard.RateLimit
