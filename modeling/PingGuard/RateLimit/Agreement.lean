import PingGuard.Library.Transition
import PingGuard.RateLimit

/-!
# Two limiters, one decision

Calls one after the other, each at one instant, with the limit and the window fixed. The limiter on
Redis goes on counting calls that it denies, and its key vanishes at the end of the window. The
limiter in memory stops counting at the limit, and compares the time. They decide alike:
`decisions_agree`.
-/

set_option autoImplicit false
set_option relaxedAutoImplicit false

namespace PingGuard.RateLimit

open Library.ExpiringStore Library.PyText Library.Transition

/-- A call of a limiter, at an instant. -/
structure Hit where
  key : PyStr
  now : ℚ

/-- Whether the limiter on Redis allows a call. -/
def RedisRateLimiter.allows (rounding : TtlRounding) (limit windowSeconds : ℤ) (redis : Redis)
    (hit : Hit) : Except RedisError Bool × Redis :=
  let result := RedisRateLimiter.hitAt rounding hit.now hit.key limit windowSeconds redis
  (result.1.map Prod.fst, result.2)

/-- Whether the limiter in memory allows a call. It never raises. -/
def InMemoryRateLimiter.allows (limit windowSeconds : ℤ) (data : Memory) (hit : Hit) :
    Except RedisError Bool × Memory :=
  let result := InMemoryRateLimiter.hit hit.now hit.key limit windowSeconds data
  (.ok result.1.1, result.2)

/-! ### The simulation -/

/-- A counter in memory stands for a counter of Redis: it has the same end, and the same count up to
the limit. -/
def Represents (limit : ℤ) : Option (ℤ × ℚ) → Option (Entry ℚ) → Prop
  | none, entry => entry = none
  | some (count, resetAt), entry =>
    ∃ total, entry = some ⟨total, some resetAt⟩ ∧ count = min total limit

/-- The data in memory stands for the store: what Redis holds of a key is what is left of a counter
that the counter in memory stands for. -/
def Simulates (limit : ℤ) (redis : Redis) (data : Memory) : Prop :=
  ∀ key, ∃ entry, Represents limit (data key) entry ∧
    redis.get (redisKey key) = liveAt redis.now entry

/-- The empty data stands for the empty store. -/
theorem simulates_empty (limit : ℤ) (start : ℚ) :
    Simulates limit (Store.empty PyStr start) fun _ ↦ none :=
  fun _ ↦ ⟨none, rfl, rfl⟩

variable {limit windowSeconds : ℤ} {redis : Redis} {data : Memory}

/-- Time passes. -/
theorem Simulates.wait {now : ℚ} (hsimulates : Simulates limit redis data) (hle : redis.now ≤ now) :
    Simulates limit (redis.wait now) data := by
  intro key
  obtain ⟨entry, hentry, hget⟩ := hsimulates key
  refine ⟨entry, hentry, ?_⟩
  rw [Store.get_wait, hget, liveAt_liveAt hle, Store.now_wait]

/-- One key changes on both sides. -/
theorem Simulates.update {key : PyStr} {after : Redis} {entry : Option (Entry ℚ)}
    {counter : Option (ℤ × ℚ)} (hsimulates : Simulates limit redis data)
    (hnow : after.now = redis.now)
    (hothers : ∀ other, other ≠ redisKey key → after.get other = redis.get other)
    (hentry : Represents limit counter entry)
    (hkey : after.get (redisKey key) = liveAt redis.now entry) :
    Simulates limit after (Function.update data key counter) := by
  intro other
  by_cases hother : other = key
  · subst hother
    refine ⟨entry, ?_, ?_⟩
    · rw [Function.update_self]
      exact hentry
    · rw [hkey, hnow]
  · obtain ⟨before, hbefore, hget⟩ := hsimulates other
    refine ⟨before, ?_, ?_⟩
    · rw [Function.update_of_ne hother]
      exact hbefore
    · rw [hothers _ (mt redisKey_inj.mp hother), hget, hnow]

/-- A call on a key that Redis does not hold opens a window. -/
theorem Simulates.opened {key : PyStr} {now : ℚ} (rounding : TtlRounding) (windowSeconds : ℤ)
    (hsimulates : Simulates limit (redis.wait now) data) (hlimit : 1 ≤ limit)
    (hmissing : (redis.wait now).get (redisKey key) = none) :
    (RedisRateLimiter.hitAt rounding now key limit windowSeconds redis).1 = .ok (true, 0) ∧
      Simulates limit (RedisRateLimiter.hitAt rounding now key limit windowSeconds redis).2
        (Function.update data key (some (1, now + windowSeconds))) := by
  rw [hitAt_of_missing hlimit hmissing]
  have hcounter : Represents limit (some (1, now + windowSeconds))
      (some ⟨1, some (now + windowSeconds)⟩) := ⟨1, rfl, (min_eq_left hlimit).symm⟩
  refine ⟨rfl, ?_⟩
  refine hsimulates.update rfl (fun other hother ↦ ?_) hcounter ?_
  · rw [Store.get_expire_of_ne hother, Store.get_incr_of_ne hother]
  · rw [Store.get_expire_self, Store.get_incr_self, hmissing]
    rfl

/-- A call on a key whose window is open. -/
theorem Simulates.counted {key : PyStr} {now resetAt : ℚ} {total : ℤ} (rounding : TtlRounding)
    (windowSeconds : ℤ) (hsimulates : Simulates limit (redis.wait now) data)
    (hopen : (redis.wait now).get (redisKey key) = some ⟨total, some resetAt⟩) :
    (RedisRateLimiter.hitAt rounding now key limit windowSeconds redis).1.map Prod.fst =
        .ok (decide (total + 1 ≤ limit)) ∧
      Simulates limit (RedisRateLimiter.hitAt rounding now key limit windowSeconds redis).2
        (Function.update data key (some (min (total + 1) limit, resetAt))) := by
  have hset : (redis.wait now).deadline (redisKey key) = some resetAt := by
    rw [Store.deadline, hopen, Option.bind_some]
  rw [hitAt_of_set hset, hopen]
  have hcounter : Represents limit (some (min (total + 1) limit, resetAt))
      (some ⟨total + 1, some resetAt⟩) := ⟨total + 1, rfl, rfl⟩
  refine ⟨congrArg Except.ok (decision_fst _ _ _), ?_⟩
  refine hsimulates.update rfl (fun other hother ↦ ?_) hcounter ?_
  · rw [Store.get_incr_of_ne hother]
  · rw [Store.get_incr_self, hopen]
    exact (liveAt_of_lt _ (Store.lt_deadline hset)).symm

/-- A call in memory on a key whose window is open: the count grows up to the limit. -/
theorem allows_of_open {hit : Hit} {resetAt : ℚ} {total : ℤ}
    (hcounter : data hit.key = some (min total limit, resetAt)) (hopen : hit.now < resetAt) :
    InMemoryRateLimiter.allows limit windowSeconds data hit =
      (.ok (decide (total + 1 ≤ limit)),
        Function.update data hit.key (some (min (total + 1) limit, resetAt))) := by
  unfold InMemoryRateLimiter.allows InMemoryRateLimiter.hit
  rw [hcounter]
  dsimp only
  rw [if_neg (not_le.mpr hopen)]
  by_cases hroom : total < limit
  · have hcount : min total limit + 1 = min (total + 1) limit := by omega
    rw [if_pos (by omega), hcount, decide_eq_true (by omega : total + 1 ≤ limit)]
  · have hsame : Function.update data hit.key (some (min (total + 1) limit, resetAt)) = data := by
      have hcount : min (total + 1) limit = min total limit := by omega
      rw [hcount, ← hcounter, Function.update_eq_self]
    rw [if_neg (by omega), hsame, decide_eq_false (by omega : ¬ total + 1 ≤ limit)]

/-- A call in memory on a key that is missing, or whose window is over, opens a window. -/
theorem allows_of_over {hit : Hit}
    (hover : ∀ count resetAt, data hit.key = some (count, resetAt) → resetAt ≤ hit.now) :
    InMemoryRateLimiter.allows limit windowSeconds data hit =
      (.ok true, Function.update data hit.key (some (1, hit.now + windowSeconds))) := by
  unfold InMemoryRateLimiter.allows InMemoryRateLimiter.hit
  rcases hcounter : data hit.key with _ | ⟨count, resetAt⟩
  · rfl
  · dsimp only
    rw [if_pos (hover count resetAt hcounter)]

/-- One call: the same decision, and the data still stands for the store. -/
theorem Simulates.allows {hit : Hit} (rounding : TtlRounding) (windowSeconds : ℤ)
    (hsimulates : Simulates limit redis data) (hlimit : 1 ≤ limit) (hle : redis.now ≤ hit.now) :
    (RedisRateLimiter.allows rounding limit windowSeconds redis hit).1 =
        (InMemoryRateLimiter.allows limit windowSeconds data hit).1 ∧
      Simulates limit (RedisRateLimiter.allows rounding limit windowSeconds redis hit).2
        (InMemoryRateLimiter.allows limit windowSeconds data hit).2 := by
  have hlater := hsimulates.wait hle
  unfold RedisRateLimiter.allows
  dsimp only
  obtain ⟨entry, hentry, hget⟩ := hlater hit.key
  rw [Store.now_wait] at hget
  by_cases hover : ∀ count resetAt, data hit.key = some (count, resetAt) → resetAt ≤ hit.now
  · have hmissing : (redis.wait hit.now).get (redisKey hit.key) = none := by
      rw [hget]
      rcases hcounter : data hit.key with _ | ⟨count, resetAt⟩
      · rw [hcounter] at hentry
        rw [hentry, liveAt_none]
      · rw [hcounter] at hentry
        obtain ⟨total, rfl, -⟩ := hentry
        exact liveAt_of_le total (hover count resetAt hcounter)
    obtain ⟨hallowed, hafter⟩ := hlater.opened rounding windowSeconds hlimit hmissing
    rw [allows_of_over hover, hallowed]
    exact ⟨rfl, hafter⟩
  · push Not at hover
    obtain ⟨count, resetAt, hcounter, hopen⟩ := hover
    rw [hcounter] at hentry
    obtain ⟨total, rfl, rfl⟩ := hentry
    rw [liveAt_of_lt total hopen] at hget
    obtain ⟨hdecided, hafter⟩ := hlater.counted rounding windowSeconds hget
    rw [allows_of_open hcounter hopen, hdecided]
    exact ⟨rfl, hafter⟩

/-! ### Sequences of calls -/

/-- Whatever the keys, and whatever the times if they do not go back, the two limiters decide alike
on every call. -/
theorem decisions_agree (rounding : TtlRounding) (limit windowSeconds : ℤ) (hlimit : 1 ≤ limit)
    (start : ℚ) (hits : List Hit) (htimes : (start :: hits.map Hit.now).Pairwise (· ≤ ·)) :
    outputs (RedisRateLimiter.allows rounding limit windowSeconds) (Store.empty PyStr start) hits =
      outputs (InMemoryRateLimiter.allows limit windowSeconds) (fun _ ↦ none) hits := by
  refine outputs_eq_of_simulation
    (fun redis data rest ↦ Simulates limit redis data ∧
      (redis.now :: rest.map Hit.now).Pairwise (· ≤ ·))
    ⟨simulates_empty limit start, htimes⟩ ?_
  rintro redis data hit rest ⟨hsimulates, hsorted⟩
  rw [List.map_cons, List.pairwise_cons] at hsorted
  obtain ⟨hallows, hafter⟩ :=
    hsimulates.allows rounding windowSeconds hlimit (hsorted.1 hit.now List.mem_cons_self)
  refine ⟨hallows, hafter, ?_⟩
  change ((RedisRateLimiter.hitAt rounding hit.now hit.key limit windowSeconds redis).2.now ::
    rest.map Hit.now).Pairwise (· ≤ ·)
  rw [now_hitAt]
  exact hsorted.2

/-- With a limit of one, the second call on a key in a minute is denied, and a call on another key
or in the next minute is not. -/
theorem decisions_agree_two_windows :
    outputs (RedisRateLimiter.allows .nearest 1 60) (Store.empty PyStr 1000)
        [⟨"a".toList, 1000⟩, ⟨"a".toList, 1030⟩, ⟨"b".toList, 1030⟩, ⟨"a".toList, 1061⟩] =
      [.ok true, .ok false, .ok true, .ok true] := by
  refine (decisions_agree .nearest 1 60 (by decide) 1000 _ ?_).trans ?_
  · decide +kernel
  · decide +kernel

end PingGuard.RateLimit
