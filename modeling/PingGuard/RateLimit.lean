import Mathlib.Data.Rat.Floor
import PingGuard.Library.Commands
import PingGuard.Library.ExpiringStore
import PingGuard.Library.PyText

/-!
# Rate limiters

`app/ratelimit.py`: the limiter on Redis, the limiter in memory, and the dependency that refuses
write requests. Times are rational numbers of seconds.

A call of the limiter on Redis issues at most two commands, a transaction with `INCR` and `TTL` and
then perhaps `EXPIRE`. Each is one step, and time may pass and other calls may run between them.
-/

set_option autoImplicit false
set_option relaxedAutoImplicit false

namespace PingGuard.RateLimit

open Library.Commands Library.Exceptions Library.ExpiringStore Library.PyText

/-! ### Redis -/

/-- The counters of a Redis server. -/
abbrev Redis : Type := Store PyStr ℚ

/-- How the time that is left to a key becomes a number of seconds. The rounding is left open, but a
key with an expiry never seems to have none. -/
structure TtlRounding where
  seconds : ℚ → ℤ
  nonneg : ∀ left, 0 < left → 0 ≤ seconds left

/-- The rounding of Redis, to the nearest second. -/
def TtlRounding.nearest : TtlRounding where
  seconds := fun left ↦ ⌊left + 1 / 2⌋
  nonneg := fun left hleft ↦ Int.floor_nonneg.mpr (by linarith)

/-- The commands that are issued: `MULTI`, `INCR`, `TTL`, `EXEC` as one, and `EXPIRE`. -/
inductive Command
  | incrTtl (key : PyStr)
  | expire (key : PyStr) (seconds : ℤ)

/-- The type of the reply to a command. -/
abbrev Command.Answer : Command → Type
  | incrTtl _ => ℤ × ℤ
  | expire _ _ => Bool

/-- The count of a key that exists. -/
def count (key : PyStr) (redis : Redis) : ℤ := ((redis.get key).map Entry.count).getD 0

/-- `TTL`: the seconds left to a key, -1 if it has no expiry, and -2 if it is missing. -/
def ttl (rounding : TtlRounding) (key : PyStr) (redis : Redis) : ℤ :=
  match redis.get key with
  | none => -2
  | some entry =>
    match entry.deadline with
    | none => -1
    | some deadline => rounding.seconds (deadline - redis.now)

/-- What a command replies, and what it does. -/
def execute (rounding : TtlRounding) :
    (command : Command) → Redis → command.Answer × Redis
  | .incrTtl key, redis =>
    ((count key (redis.incr key), ttl rounding key (redis.incr key)), redis.incr key)
  | .expire key seconds, redis =>
    ((redis.get key).isSome, redis.expire key (redis.now + seconds))

/-- An exception of the Redis client, with the text that is logged. -/
structure RedisError where
  text : PyStr
  deriving DecidableEq

/-- What becomes of a command: it is answered, it is carried out but the client raises, or it is not
carried out and the client raises. -/
inductive Delivery
  | answered
  | unanswered (raised : RedisError)
  | refused (raised : RedisError)

/-- The server, as a client sees it. -/
def serve (rounding : TtlRounding) (delivery : Delivery) (command : Command) (redis : Redis) :
    Reply RedisError Command.Answer command × Redis :=
  match delivery with
  | .answered => (.ok (execute rounding command redis).1, (execute rounding command redis).2)
  | .unanswered raised => (.error raised, (execute rounding command redis).2)
  | .refused raised => (.error raised, redis)

/-! ### `RedisRateLimiter` -/

/-- A computation that uses a Redis client. -/
abbrev RedisM (α : Type) : Type := Attempt Command Command.Answer RedisError α

/-- A computation that uses a Redis client, between two of its commands. -/
abbrev RedisProgram (α : Type) : Type :=
  Program Command (Reply RedisError Command.Answer) (Except RedisError α)

/-- The pipeline of `INCR` and `TTL`. -/
def pipelineIncrTtl (key : PyStr) : RedisM (ℤ × ℤ) := issue (Command.incrTtl key)

/-- `client.expire`. -/
def clientExpire (key : PyStr) (seconds : ℤ) : RedisM Bool := issue (Command.expire key seconds)

/-- The Redis key of a limiter key. -/
def redisKey (key : PyStr) : PyStr := "rl:".toList ++ key

/-- `RedisRateLimiter.hit`. A client that cannot be made raises where its first command is issued.
-/
def RedisRateLimiter.hit (key : PyStr) (limit windowSeconds : ℤ) : RedisM (Bool × ℤ) :=
  tryExcept (fun _ : RedisError ↦ true)
    (do
      let (count, ttl) ← pipelineIncrTtl (redisKey key)
      -- set the expiration if the key was newly created or has no TTL
      let ttl ← if ttl < 0 then (do
          let _ ← clientExpire (redisKey key) windowSeconds
          pure windowSeconds)
        else pure ttl
      if count ≤ limit then pure (true, 0) else pure (false, max 1 ttl))
    fun _ ↦ pure (true, 0)

/-- A call that runs at one instant, with every command answered. -/
def RedisRateLimiter.hitAt (rounding : TtlRounding) (now : ℚ) (key : PyStr)
    (limit windowSeconds : ℤ) (redis : Redis) : Except RedisError (Bool × ℤ) × Redis :=
  (RedisRateLimiter.hit key limit windowSeconds).run.run (serve rounding .answered) (redis.wait now)

/-- What becomes of the commands that a call may issue. -/
structure Deliveries where
  pipeline : Delivery
  expire : Delivery

namespace Deliveries

/-- Every command is answered. -/
def answered : Deliveries := ⟨.answered, .answered⟩

/-- Whether it is. -/
def isAnswered : Deliveries → Bool
  | ⟨.answered, .answered⟩ => true
  | _ => false

/-- What becomes of a command. -/
def of (deliveries : Deliveries) : Command → Delivery
  | .incrTtl _ => deliveries.pipeline
  | .expire _ _ => deliveries.expire

end Deliveries

/-- A call that runs at one instant, and whose commands may fail. -/
def RedisRateLimiter.hitDelivered (rounding : TtlRounding) (deliveries : Deliveries) (now : ℚ)
    (key : PyStr) (limit windowSeconds : ℤ) (redis : Redis) :
    Except RedisError (Bool × ℤ) × Redis :=
  (RedisRateLimiter.hit key limit windowSeconds).run.run
    (fun command ↦ serve rounding (deliveries.of command) command) (redis.wait now)

/-! ### `InMemoryRateLimiter` -/

/-- `int` of a rational number. -/
def truncate (number : ℚ) : ℤ := if number < 0 then ⌈number⌉ else ⌊number⌋

/-- The data of the limiter in memory: the count of a key and the time when it is reset. -/
abbrev Memory : Type := PyStr → Option (ℤ × ℚ)

/-- `InMemoryRateLimiter.hit`, with the time that the clock reads. -/
def InMemoryRateLimiter.hit (now : ℚ) (key : PyStr) (limit windowSeconds : ℤ) (data : Memory) :
    (Bool × ℤ) × Memory :=
  match data key with
  | none => ((true, 0), Function.update data key (some (1, now + windowSeconds)))
  | some (count, resetAt) =>
    if resetAt ≤ now then ((true, 0), Function.update data key (some (1, now + windowSeconds)))
    else if count < limit then ((true, 0), Function.update data key (some (count + 1, resetAt)))
    else ((false, max 1 (truncate (resetAt - now))), data)

/-! ### `rate_limit_write` -/

/-- What `rate_limit_write` reads of a request. -/
structure Request where
  apiKey : Option PyStr
  clientHost : Option PyStr

/-- The limiter key of a request. `hexdigest` is that of SHA-256, of a text in UTF-8. -/
def rateLimitKey (hexdigest : PyStr → PyStr) (request : Request) : PyStr :=
  match request.apiKey.filter (· ≠ []), request.clientHost.filter (· ≠ []) with
  | some apiKey, _ => (hexdigest apiKey).take 16
  | none, some host => "ip:".toList ++ host
  | none, none => "unknown_client".toList

/-- The response to a request that is refused: 429, with the `Retry-After` header. -/
structure TooManyRequests where
  detail : PyStr
  retryAfter : ℤ
  deriving DecidableEq

/-- `rate_limit_write`, with the `hit` of any limiter. -/
def rateLimitWrite {ε : Type} {m : Type → Type} [Monad m]
    (hit : PyStr → ℤ → ℤ → ExceptT ε m (Bool × ℤ)) (hexdigest : PyStr → PyStr)
    (writesPerMinute : ℤ) (request : Request) : ExceptT TooManyRequests m Unit := do
  match ← ExceptT.lift (hit (rateLimitKey hexdigest request) writesPerMinute 60).run with
  | .error _ => pure ()
  | .ok (allowed, retryAfter) =>
    raiseIf (!allowed) { detail := "rate limit exceeded".toList, retryAfter := retryAfter }

/-! ### What the limiters decide -/

/-- What a call returns after it has read a count and a time to live. -/
def decision (count ttl limit : ℤ) : Bool × ℤ :=
  if count ≤ limit then (true, 0) else (false, max 1 ttl)

/-- The rest of a call that has read a count and no time to live. -/
def afterIncr (key : PyStr) (count limit windowSeconds : ℤ) : RedisProgram (Bool × ℤ) :=
  .waiting (.expire (redisKey key) windowSeconds) fun
    | .ok _ => .finished (.ok (decision count windowSeconds limit))
    | .error _ => .finished (.ok (true, 0))

/-- The steps of a call. -/
theorem hit_eq (key : PyStr) (limit windowSeconds : ℤ) :
    (RedisRateLimiter.hit key limit windowSeconds).run =
      (Program.waiting (.incrTtl (redisKey key)) fun
        | .ok (count, ttl) => if ttl < 0 then afterIncr key count limit windowSeconds
          else .finished (.ok (decision count ttl limit))
        | .error _ => .finished (.ok (true, 0)) : RedisProgram (Bool × ℤ)) := by
  have hdecision (count ttl : ℤ) :
      (if count ≤ limit then pure (true, 0) else pure (false, max 1 ttl) : RedisM (Bool × ℤ)) =
        pure (decision count ttl limit) :=
    (apply_ite pure _ _ _).symm
  unfold RedisRateLimiter.hit
  simp only [hdecision]
  refine congrArg (Program.waiting (Command.incrTtl (redisKey key))) (funext fun reply ↦ ?_)
  cases reply with
  | error raised => rfl
  | ok reply =>
    simp only [Program.bind, ExceptT.bindCont]
    by_cases httl : reply.2 < 0
    · simp only [if_pos httl]
      refine congrArg (Program.waiting (Command.expire (redisKey key) windowSeconds))
        (funext fun found ↦ ?_)
      cases found with
      | error raised => rfl
      | ok found => rfl
    · simp only [if_neg httl]
      rfl

variable {rounding : TtlRounding} {key : PyStr} {redis : Redis}

/-- The keys of Redis stand for the keys of the limiter. -/
theorem redisKey_inj {key other : PyStr} : redisKey key = redisKey other ↔ key = other :=
  List.append_right_inj _

/-- `INCR` replies the new count. -/
@[simp] theorem count_incr :
    count key (redis.incr key) = (Store.incremented (redis.get key)).count := by
  rw [count, Store.get_incr_self, Option.map_some, Option.getD_some]

/-- After `INCR`, a key seems to have no expiry exactly when it had none. -/
theorem ttl_incr_neg_iff :
    ttl rounding key (redis.incr key) < 0 ↔ redis.deadline key = none := by
  unfold ttl
  rw [Store.get_incr_self, Store.now_incr]
  rcases hget : redis.get key with _ | ⟨count, _ | deadline⟩
  · have hnone : redis.deadline key = none := by rw [Store.deadline, hget, Option.bind_none]
    exact iff_of_true (Int.negSucc_lt_zero 0) hnone
  · have hnone : redis.deadline key = none := by rw [Store.deadline, hget, Option.bind_some]
    exact iff_of_true (Int.negSucc_lt_zero 0) hnone
  · have hsome : redis.deadline key = some deadline := by
      rw [Store.deadline, hget, Option.bind_some]
    have hleft := rounding.nonneg _ (sub_pos.mpr (Store.lt_deadline hsome))
    rw [hsome]
    exact iff_of_false (not_lt.mpr hleft) (Option.some_ne_none deadline)

/-- A call whose limit is not exceeded is allowed. -/
theorem decision_of_le {count ttl limit : ℤ} (hle : count ≤ limit) :
    decision count ttl limit = (true, 0) := if_pos hle

/-- A call is allowed exactly when its count is within the limit. -/
@[simp] theorem decision_fst (count ttl limit : ℤ) :
    (decision count ttl limit).1 = decide (count ≤ limit) := by
  unfold decision
  split_ifs with hle <;> simp [hle]

/-- A call at one instant that finds no expiry. -/
theorem hitAt_of_unset {now : ℚ} {limit windowSeconds : ℤ}
    (hunset : (redis.wait now).deadline (redisKey key) = none) :
    RedisRateLimiter.hitAt rounding now key limit windowSeconds redis =
      (.ok (decision (Store.incremented ((redis.wait now).get (redisKey key))).count
        windowSeconds limit),
        ((redis.wait now).incr (redisKey key)).expire (redisKey key) (now + windowSeconds)) := by
  unfold RedisRateLimiter.hitAt
  rw [hit_eq]
  simp only [Program.run_waiting, serve, execute, count_incr, if_pos (ttl_incr_neg_iff.mpr hunset)]
  rfl

/-- A call at one instant that finds an expiry. -/
theorem hitAt_of_set {now deadline : ℚ} {limit windowSeconds : ℤ}
    (hset : (redis.wait now).deadline (redisKey key) = some deadline) :
    RedisRateLimiter.hitAt rounding now key limit windowSeconds redis =
      (.ok (decision (Store.incremented ((redis.wait now).get (redisKey key))).count
        (ttl rounding (redisKey key) ((redis.wait now).incr (redisKey key))) limit),
        (redis.wait now).incr (redisKey key)) := by
  have hnot : ¬ ttl rounding (redisKey key) ((redis.wait now).incr (redisKey key)) < 0 := by
    rw [ttl_incr_neg_iff, hset]
    nofun
  unfold RedisRateLimiter.hitAt
  rw [hit_eq]
  simp only [Program.run_waiting, serve, execute, count_incr, if_neg hnot]
  rfl

/-- A call at one instant on a key that is missing is allowed. -/
theorem hitAt_of_missing {now : ℚ} {limit windowSeconds : ℤ} (hlimit : 1 ≤ limit)
    (hmissing : (redis.wait now).get (redisKey key) = none) :
    RedisRateLimiter.hitAt rounding now key limit windowSeconds redis =
      (.ok (true, 0),
        ((redis.wait now).incr (redisKey key)).expire (redisKey key) (now + windowSeconds)) := by
  rw [hitAt_of_unset (Store.deadline_of_missing hmissing), hmissing]
  exact congrArg (fun result ↦ (Except.ok result, _)) (decision_of_le hlimit)

/-- A call at one instant whose commands are answered. -/
theorem hitDelivered_of_isAnswered {deliveries : Deliveries}
    (hanswered : deliveries.isAnswered = true) (now : ℚ) (limit windowSeconds : ℤ) :
    RedisRateLimiter.hitDelivered rounding deliveries now key limit windowSeconds redis =
      RedisRateLimiter.hitAt rounding now key limit windowSeconds redis := by
  have hsame : deliveries = .answered := by
    obtain ⟨_ | _ | _, _ | _ | _⟩ := deliveries <;> first | rfl | nomatch hanswered
  have hof : ∀ command, Deliveries.answered.of command = .answered := by
    intro command
    cases command <;> rfl
  unfold RedisRateLimiter.hitDelivered RedisRateLimiter.hitAt
  simp only [hsame, hof]

/-- What a call at one instant leaves when a command fails: nothing has been done, or the key is
incremented, and where it had no expiry it may have got one. -/
theorem hitDelivered_of_failed {deliveries : Deliveries} (hfailed : deliveries.isAnswered = false)
    (now : ℚ) (limit windowSeconds : ℤ) :
    ∃ decided after,
      RedisRateLimiter.hitDelivered rounding deliveries now key limit windowSeconds redis =
        (.ok decided, after) ∧
      (after = redis.wait now ∨ after = (redis.wait now).incr (redisKey key) ∨
        (redis.wait now).deadline (redisKey key) = none ∧
          after = ((redis.wait now).incr (redisKey key)).expire (redisKey key)
            (now + windowSeconds)) := by
  obtain ⟨pipeline, expire⟩ := deliveries
  unfold RedisRateLimiter.hitDelivered
  rw [hit_eq]
  simp only [Program.run_waiting, Deliveries.of]
  cases pipeline with
  | refused raised => exact ⟨_, _, rfl, Or.inl rfl⟩
  | unanswered raised => exact ⟨_, _, rfl, Or.inr (Or.inl rfl)⟩
  | answered =>
    simp only [serve, execute]
    split_ifs with hunset
    · rw [ttl_incr_neg_iff] at hunset
      cases expire with
      | answered => nomatch hfailed
      | unanswered raised => exact ⟨_, _, rfl, Or.inr (Or.inr ⟨hunset, rfl⟩)⟩
      | refused raised => exact ⟨_, _, rfl, Or.inr (Or.inl rfl)⟩
    · exact ⟨_, _, rfl, Or.inr (Or.inl rfl)⟩

/-- A call at one instant leaves the clock there. -/
@[simp] theorem now_hitAt (now : ℚ) (limit windowSeconds : ℤ) :
    (RedisRateLimiter.hitAt rounding now key limit windowSeconds redis).2.now = now := by
  cases hdeadline : (redis.wait now).deadline (redisKey key) with
  | none =>
    rw [hitAt_of_unset hdeadline]
    rfl
  | some deadline =>
    rw [hitAt_of_set hdeadline]
    rfl

/-! ### What a write request gets -/

/-- Whatever the server does, a call does not raise, and one that is denied is told to wait for a
second at least. -/
theorem run_hit {σ : Type}
    (server : (command : Command) → σ → Reply RedisError Command.Answer command × σ) (key : PyStr)
    (limit windowSeconds : ℤ) (state : σ) :
    ∃ allowed retryAfter,
      ((RedisRateLimiter.hit key limit windowSeconds).run.run server state).1 =
        .ok (allowed, retryAfter) ∧ (allowed = false → 1 ≤ retryAfter) := by
  have hdecision (count ttl : ℤ) : (decision count ttl limit).1 = false →
      1 ≤ (decision count ttl limit).2 := by
    unfold decision
    split_ifs with hle
    · nofun
    · exact fun _ ↦ le_max_left 1 ttl
  rw [hit_eq, Program.run_waiting]
  rcases (server (.incrTtl (redisKey key)) state).1 with raised | ⟨count, ttl⟩
  · exact ⟨true, 0, rfl, nofun⟩
  dsimp only
  split_ifs with hunset
  · rw [afterIncr, Program.run_waiting]
    cases (server (.expire (redisKey key) windowSeconds) _).1 with
    | error raised => exact ⟨true, 0, rfl, nofun⟩
    | ok found => exact ⟨_, _, rfl, hdecision count windowSeconds⟩
  · exact ⟨_, _, rfl, hdecision count ttl⟩

/-- A write request is refused exactly when the limiter denies it, never when the limiter fails. -/
theorem run_rateLimitWrite {κ ε σ : Type} {ρ : κ → Type}
    (server : (command : κ) → σ → Reply ε ρ command × σ)
    (hit : PyStr → ℤ → ℤ → Attempt κ ρ ε (Bool × ℤ)) (hexdigest : PyStr → PyStr)
    (writesPerMinute : ℤ) (request : Request) (state : σ) (refusal : TooManyRequests) :
    ((rateLimitWrite hit hexdigest writesPerMinute request).run.run server state).1 =
        .error refusal ↔
      ((hit (rateLimitKey hexdigest request) writesPerMinute 60).run.run server state).1 =
          .ok (false, refusal.retryAfter) ∧ refusal.detail = "rate limit exceeded".toList := by
  unfold rateLimitWrite
  rw [ExceptT.run_bind, Program.run_bind, ExceptT.run_lift, Program.run_map]
  dsimp only
  rcases ((hit (rateLimitKey hexdigest request) writesPerMinute 60).run.run server state).1 with
    raised | ⟨allowed, retryAfter⟩
  · exact iff_of_false nofun fun hdenied ↦ nomatch hdenied.1
  · cases allowed with
    | true => exact iff_of_false nofun fun hdenied ↦ nomatch hdenied.1
    | false =>
      obtain ⟨detail, seconds⟩ := refusal
      change (Except.error (TooManyRequests.mk "rate limit exceeded".toList retryAfter) :
        Except TooManyRequests Unit) = .error ⟨detail, seconds⟩ ↔ _
      rw [Except.error.injEq, TooManyRequests.mk.injEq, Except.ok.injEq, Prod.mk.injEq]
      tauto

end PingGuard.RateLimit
