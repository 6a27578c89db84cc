import PingGuard.Library.FixedWindow
import PingGuard.Service

/-!
# The write budget

Writes pass `rate_limit_write` after `require_api_key`, so all of them are counted under one key,
the digest of the API key. In any minute at most twice the limit is admitted of those for which
Redis answers, whatever else arrives and whatever fails. Where a command fails, the write is
admitted without being counted. Requests without the key are counted nowhere: leaving them out
changes no response to the others, no table, no queue and no counter.

The limiter counts in fixed windows (`Limiter.IsFixedWindow`), and the bound needs no more of it.
-/

set_option autoImplicit false
set_option relaxedAutoImplicit false

namespace PingGuard.Service

open Api Library.ExpiringStore Library.FixedWindow Library.PyText Library.Transition Models
open RateLimit Schemas

variable {σ : Type}

/-! ### The limiters -/

/-- A limiter counts the calls on a key in fixed windows, with the counter of a key read off what it
has stored. A call whose commands fail does not count, even if it is allowed. -/
def Limiter.IsFixedWindow (limiter : Limiter σ) (counter : PyStr → σ → Option (Entry ℚ)) : Prop :=
  ∀ (now : ℚ) (deliveries : Deliveries) (key : PyStr) (limit windowSeconds : ℤ) (stored : σ),
    1 ≤ limit → 0 < windowSeconds →
    ∃ decided after, limiter.hit now deliveries key limit windowSeconds stored =
        (.ok decided, after) ∧
      Counted limit (windowSeconds : ℚ) now (counter key stored)
        (deliveries.isAnswered && decided.1) (counter key after)

/-- The counter of a key on Redis. -/
def redisCounter (key : PyStr) (redis : Redis) : Option (Entry ℚ) := redis.get (redisKey key)

/-- A call that is counted on Redis. -/
theorem counted_decision {now window : ℚ} {limit ttl : ℤ} {entry : Entry ℚ} {deadline : ℚ}
    (hlive : entry.isLiveAt now = true)
    (hdeadline : entry.deadline.getD (now + window) = deadline) :
    Counted limit window now (some entry) (decision (entry.count + 1) ttl limit).1
      (some ⟨entry.count + 1, some deadline⟩) := by
  rw [← hdeadline]
  refine .added entry _ (entry.count + 1) hlive (fun hallowed ↦ ?_) (Int.le_add_one le_rfl)
  rw [decision_fst, decide_eq_true_eq] at hallowed
  exact ⟨hallowed, Int.lt_succ _⟩

/-- A call on Redis that is answered is counted. -/
theorem counted_hitAt {rounding : TtlRounding} {key : PyStr} {limit windowSeconds : ℤ}
    {redis : Redis} (now : ℚ) (hlimit : 1 ≤ limit) (hwindow : 0 < windowSeconds) :
    ∃ decided after, RedisRateLimiter.hitAt rounding now key limit windowSeconds redis =
        (.ok decided, after) ∧
      Counted limit (windowSeconds : ℚ) now (redisCounter key redis) decided.1
        (redisCounter key after) := by
  have hlater : now < now + (windowSeconds : ℚ) :=
    lt_add_of_pos_right now (Int.cast_pos.mpr hwindow)
  cases hbefore : (redis.wait now).get (redisKey key) with
  | none =>
    refine ⟨_, _, hitAt_of_missing hlimit hbefore, ?_⟩
    have hafter : redisCounter key (((redis.wait now).incr (redisKey key)).expire (redisKey key)
        (now + windowSeconds)) = some ⟨1, some (now + (windowSeconds : ℚ))⟩ := by
      rw [redisCounter, Store.get_expire_self, Store.get_incr_self, hbefore]
      exact liveAt_of_lt 1 hlater
    rw [hafter]
    exact .opened _ hbefore
  | some entry =>
    obtain ⟨hstored, hlive⟩ := eq_some_of_liveAt hbefore
    have hcounter : redisCounter key redis = some entry := hstored
    cases hdeadline : entry.deadline with
    | none =>
      have hunset : (redis.wait now).deadline (redisKey key) = none := by
        rw [Store.deadline, hbefore, Option.bind_some, hdeadline]
      refine ⟨_, _, hitAt_of_unset hunset, ?_⟩
      have hafter : redisCounter key (((redis.wait now).incr (redisKey key)).expire (redisKey key)
          (now + windowSeconds)) = some ⟨entry.count + 1, some (now + (windowSeconds : ℚ))⟩ := by
        rw [redisCounter, Store.get_expire_self, Store.get_incr_self, hbefore]
        exact liveAt_of_lt _ hlater
      rw [hafter, hcounter, hbefore]
      exact counted_decision hlive (by rw [hdeadline, Option.getD_none])
    | some deadline =>
      have hset : (redis.wait now).deadline (redisKey key) = some deadline := by
        rw [Store.deadline, hbefore, Option.bind_some, hdeadline]
      refine ⟨_, _, hitAt_of_set hset, ?_⟩
      have hafter : redisCounter key ((redis.wait now).incr (redisKey key)) =
          some ⟨entry.count + 1, some deadline⟩ := by
        rw [redisCounter, Store.get_incr_self, hbefore, ← hdeadline]
        rfl
      rw [hafter, hcounter, hbefore]
      exact counted_decision hlive (by rw [hdeadline, Option.getD_some])

/-- A call on Redis that fails leaves the counter, or one more. -/
theorem counted_of_failed {rounding : TtlRounding} {deliveries : Deliveries} {now : ℚ} {key : PyStr}
    {limit windowSeconds : ℤ} {redis : Redis} (hwindow : 0 < windowSeconds)
    (hfailed : deliveries.isAnswered = false) :
    ∃ decided after,
      RedisRateLimiter.hitDelivered rounding deliveries now key limit windowSeconds redis =
        (.ok decided, after) ∧
      Counted limit (windowSeconds : ℚ) now (redisCounter key redis) false
        (redisCounter key after) := by
  have hlater : now < now + (windowSeconds : ℚ) :=
    lt_add_of_pos_right now (Int.cast_pos.mpr hwindow)
  -- the counter that an increment leaves
  have hcount : ((liveAt now (redisCounter key redis)).map Entry.count).getD 0 ≤
      (Store.incremented (liveAt now (redisCounter key redis))).count := by
    cases liveAt now (redisCounter key redis) with
    | none => exact Int.one_nonneg
    | some entry => exact Int.le_add_one le_rfl
  have hkept : (Store.incremented (liveAt now (redisCounter key redis))).deadline =
      (liveAt now (redisCounter key redis)).bind Entry.deadline := by
    cases liveAt now (redisCounter key redis) <;> rfl
  obtain ⟨decided, after, hhit, hafter⟩ := hitDelivered_of_failed hfailed now limit windowSeconds
  refine ⟨decided, after, hhit, ?_⟩
  rcases hafter with rfl | rfl | ⟨hunset, rfl⟩
  · exact .missed _ _ rfl
  · have hget : redisCounter key ((redis.wait now).incr (redisKey key)) =
        some (Store.incremented (liveAt now (redisCounter key redis))) := by
      rw [redisCounter, Store.get_incr_self]
      rfl
    rw [hget]
    exact .left _ _ _ hcount (Or.inl hkept)
  · have hget : redisCounter key (((redis.wait now).incr (redisKey key)).expire (redisKey key)
        (now + windowSeconds)) = some
          ⟨(Store.incremented (liveAt now (redisCounter key redis))).count,
            some (now + (windowSeconds : ℚ))⟩ := by
      rw [redisCounter, Store.get_expire_self, Store.get_incr_self, Option.map_some]
      exact liveAt_of_lt _ hlater
    rw [hget]
    exact .left _ _ _ hcount (Or.inr ⟨hunset, rfl⟩)

/-- The limiter on Redis. It counts every call. -/
theorem isFixedWindow_redis (rounding : TtlRounding) :
    (Limiter.redis rounding).IsFixedWindow redisCounter := by
  intro now deliveries key limit windowSeconds redis hlimit hwindow
  cases hanswered : deliveries.isAnswered with
  | false => exact counted_of_failed hwindow hanswered
  | true =>
    obtain ⟨decided, after, hhit, hcounted⟩ := counted_hitAt now hlimit hwindow
    refine ⟨decided, after, ?_, hcounted⟩
    exact (hitDelivered_of_isAnswered hanswered now limit windowSeconds).trans hhit

/-! ### One request -/

/-- The limiter key of the requests that have the key. -/
def budgetKey (settings : Settings) : PyStr := (settings.hexdigest settings.apiKey).take 16

/-- A request with the key is counted under the digest of it. -/
theorem rateLimitKey_of_authenticated {settings : Settings} {arrival : Arrival}
    (hkey : isAuthenticated settings.apiKey arrival.apiKey = true) :
    rateLimitKey settings.hexdigest ⟨arrival.apiKey, arrival.clientHost⟩ = budgetKey settings := by
  unfold isAuthenticated at hkey
  simp only [Bool.and_eq_true, decide_eq_true_eq, ne_eq, decide_not, Bool.not_eq_eq_eq_not,
    Bool.not_true, decide_eq_false_iff_not] at hkey
  obtain ⟨hsame, hempty⟩ := hkey
  unfold rateLimitKey
  dsimp only
  rw [hsame, Option.filter_some_pos (by simp [hempty])]
  rfl

/-- What `rate_limit_write` does with an answer of the limiter. -/
theorem limitWrite_eq {settings : Settings} {limiter : Limiter σ} {arrival : Arrival}
    {stored after : σ} {decided : Bool × ℤ}
    (hhit : limiter.hit arrival.limiterNow arrival.deliveries
      (rateLimitKey settings.hexdigest ⟨arrival.apiKey, arrival.clientHost⟩)
      settings.writesPerMinute 60 stored = (.ok decided, after)) :
    limitWrite settings limiter arrival stored =
      (if decided.1 then .ok ()
        else .error ⟨"rate limit exceeded".toList, decided.2⟩, after) := by
  obtain ⟨allowed, retryAfter⟩ := decided
  unfold limitWrite rateLimitWrite
  rw [ExceptT.run_bind, ExceptT.run_lift]
  -- the computation reads what is stored, and goes on with the answer
  change ((Except.ok <$> (limiter.hit arrival.limiterNow arrival.deliveries
    (rateLimitKey settings.hexdigest ⟨arrival.apiKey, arrival.clientHost⟩)
      settings.writesPerMinute 60).run : StateM σ _) >>= _) stored = _
  simp only [bind, StateT.bind, Functor.map, StateT.map, ExceptT.run, hhit]
  cases allowed with
  | true => rfl
  | false => rfl


/-- Whether a response comes from behind the two dependencies. -/
def Response.isAdmitted : Response → Bool
  | .unauthorized _ | .tooManyRequests _ => false
  | .answered .. | .failed _ => true

/-- A request that has passed the dependencies is admitted, and leaves the counters. -/
theorem isAdmitted_answer (settings : Settings) (arrival : Arrival) (state : State σ) :
    (answer settings arrival state).1.isAdmitted = true ∧
      (answer settings arrival state).2.limiter = state.limiter := by
  unfold answer
  split <;> exact ⟨rfl, rfl⟩

/-- A request without the key changes nothing. -/
theorem respond_of_unauthenticated {settings : Settings} {arrival : Arrival}
    (hkey : isAuthenticated settings.apiKey arrival.apiKey = false) (limiter : Limiter σ)
    (state : State σ) :
    respond settings limiter arrival state = (.unauthorized unauthorized, state) := by
  unfold respond
  rw [requireApiKey_eq, hkey]
  rfl

/-- A request with the key that only reads is admitted, and leaves the counters. -/
theorem respond_of_read {settings : Settings} {arrival : Arrival}
    (hkey : isAuthenticated settings.apiKey arrival.apiKey = true)
    (hread : arrival.endpoint.isWrite = false) (limiter : Limiter σ) (state : State σ) :
    (respond settings limiter arrival state).1.isAdmitted = true ∧
      (respond settings limiter arrival state).2.limiter = state.limiter := by
  unfold respond
  rw [requireApiKey_eq, hkey, hread]
  exact isAdmitted_answer settings arrival state

/-- A write with the key is a call on the one limiter key, and is admitted if that allows it. -/
theorem respond_of_write {settings : Settings} {arrival : Arrival}
    (hkey : isAuthenticated settings.apiKey arrival.apiKey = true)
    (hwrite : arrival.endpoint.isWrite = true) {limiter : Limiter σ}
    {counter : PyStr → σ → Option (Entry ℚ)} (hfixed : limiter.IsFixedWindow counter)
    (hlimit : 1 ≤ settings.writesPerMinute) (state : State σ) :
    Counted settings.writesPerMinute ((60 : ℤ) : ℚ) arrival.limiterNow
      (counter (budgetKey settings) state.limiter)
      (arrival.deliveries.isAnswered && (respond settings limiter arrival state).1.isAdmitted)
      (counter (budgetKey settings) (respond settings limiter arrival state).2.limiter) := by
  obtain ⟨decided, after, hhit, hcounted⟩ := hfixed arrival.limiterNow arrival.deliveries
    (budgetKey settings) settings.writesPerMinute 60 state.limiter hlimit (by norm_num)
  rw [← rateLimitKey_of_authenticated hkey] at hhit
  have hrespond : respond settings limiter arrival state =
      if decided.1 then answer settings arrival { state with limiter := after }
      else (.tooManyRequests ⟨"rate limit exceeded".toList, decided.2⟩,
        { state with limiter := after }) := by
    unfold respond
    rw [requireApiKey_eq, hkey, hwrite, if_pos rfl]
    dsimp only
    rw [if_pos rfl, limitWrite_eq hhit]
    cases decided.1 <;> rfl
  rw [hrespond]
  cases hdecided : decided.1 with
  | true =>
    rw [hdecided] at hcounted
    obtain ⟨hadmitted, hlimiter⟩ :=
      isAdmitted_answer settings arrival { state with limiter := after }
    rw [if_pos rfl, hadmitted, hlimiter]
    exact hcounted
  | false =>
    rw [hdecided] at hcounted
    exact hcounted

/-! ### Every run -/

/-- Whether an event is not a request without the key. -/
def Event.hasKey (settings : Settings) : Event → Bool
  | .request arrival => isAuthenticated settings.apiKey arrival.apiKey
  | .background _ => true

/-- The time that the limiter reads for a request. -/
def Event.limiterNow : Event → Option ℚ
  | .request arrival => some arrival.limiterNow
  | .background _ => none

/-- Whether an event is a write that is admitted in the minute that begins at some time, with every
command of the limiter answered. -/
def isAdmittedWrite (start : ℚ) : Event × Option Response → Bool
  | (.request arrival, some response) =>
    arrival.endpoint.isWrite && (arrival.deliveries.isAnswered && response.isAdmitted &&
      decide (start ≤ arrival.limiterNow ∧ arrival.limiterNow < start + 60))
  | _ => false

/-- The writes of a run, as calls on the limiter key. -/
theorem exists_calls {settings : Settings} {limiter : Limiter σ}
    {counter : PyStr → σ → Option (Entry ℚ)} (hfixed : limiter.IsFixedWindow counter)
    (hlimit : 1 ≤ settings.writesPerMinute) (state : State σ) (events : List Event) :
    ∃ calls, CountedAll settings.writesPerMinute ((60 : ℤ) : ℚ)
        (counter (budgetKey settings) state.limiter) calls ∧
      (calls.map Prod.fst).Sublist (events.filterMap Event.limiterNow) ∧
      ∀ start, (events.zip (outputs (serve settings limiter) state events)).countP
          (isAdmittedWrite start) =
        calls.countP fun call ↦ call.2 && decide (start ≤ call.1 ∧ call.1 < start + 60) := by
  induction events generalizing state with
  | nil => exact ⟨[], .nil _, List.Sublist.refl _, fun _ ↦ rfl⟩
  | cons event rest ih =>
    obtain ⟨calls, hcalls, htimes, hcount⟩ := ih (serve settings limiter state event).2
    -- an event that is no call on the key
    have hskip : (serve settings limiter state event).2.limiter = state.limiter →
        (∀ start, isAdmittedWrite start (event, (serve settings limiter state event).1) = false) →
        ∃ calls, CountedAll settings.writesPerMinute ((60 : ℤ) : ℚ)
            (counter (budgetKey settings) state.limiter) calls ∧
          (calls.map Prod.fst).Sublist ((event :: rest).filterMap Event.limiterNow) ∧
          ∀ start, ((event :: rest).zip (outputs (serve settings limiter) state
              (event :: rest))).countP (isAdmittedWrite start) =
            calls.countP fun call ↦ call.2 && decide (start ≤ call.1 ∧ call.1 < start + 60) := by
      intro hlimiter hnot
      refine ⟨calls, hlimiter ▸ hcalls, ?_, fun start ↦ ?_⟩
      · exact htimes.trans ((List.sublist_cons_self event rest).filterMap _)
      · rw [outputs, List.zip_cons_cons, List.countP_cons, hnot start, hcount start]
        rfl
    cases event with
    | background change => exact hskip rfl fun _ ↦ rfl
    | request arrival =>
      have hserve : serve settings limiter state (.request arrival) =
          (some (respond settings limiter arrival state).1,
            (respond settings limiter arrival state).2) := rfl
      cases hkey : isAuthenticated settings.apiKey arrival.apiKey with
      | false =>
        have hrespond := respond_of_unauthenticated hkey limiter state
        refine hskip ?_ fun start ↦ ?_
        · rw [hserve, hrespond]
        · rw [hserve, hrespond]
          simp [isAdmittedWrite, Response.isAdmitted]
      | true =>
        cases hwrite : arrival.endpoint.isWrite with
        | false =>
          refine hskip (respond_of_read hkey hwrite limiter state).2 fun start ↦ ?_
          rw [hserve, isAdmittedWrite, hwrite, Bool.false_and]
        | true =>
          refine ⟨(arrival.limiterNow, arrival.deliveries.isAnswered &&
            (respond settings limiter arrival state).1.isAdmitted) :: calls,
            .cons (respond_of_write hkey hwrite hfixed hlimit state) hcalls,
            htimes.cons_cons _, fun start ↦ ?_⟩
          rw [outputs, List.zip_cons_cons, List.countP_cons, List.countP_cons, hcount start, hserve]
          simp only [isAdmittedWrite, hwrite, Bool.true_and]

/-- The writes that are admitted in any minute with the limiter answered are at most twice the
limit, whatever requests and changes in the background there are, and whatever commands fail. And
the requests without the key can be left out: the others get the same responses, and everything is
the same at the end.
Assumes: the limiter reads times that do not go back, and starts without counters. -/
theorem writes_admitted_le (settings : Settings) (rounding : TtlRounding)
    (hlimit : 1 ≤ settings.writesPerMinute) {state : State Redis} {opened : ℚ}
    (hempty : state.limiter = Store.empty PyStr opened) {events : List Event}
    (hclock : (events.filterMap Event.limiterNow).Pairwise (· ≤ ·)) (start : ℚ) :
    ((((events.zip (outputs (serve settings (.redis rounding)) state events)).countP
        (isAdmittedWrite start) : ℕ) : ℤ) ≤ 2 * settings.writesPerMinute) ∧
      after (serve settings (.redis rounding)) state (events.filter (Event.hasKey settings)) =
        after (serve settings (.redis rounding)) state events ∧
      outputs (serve settings (.redis rounding)) state (events.filter (Event.hasKey settings)) =
        ((events.zip (outputs (serve settings (.redis rounding)) state events)).filter
          fun pair ↦ pair.1.hasKey settings).map Prod.snd := by
  refine ⟨?_, ?_⟩
  · obtain ⟨calls, hcalls, htimes, hcount⟩ :=
      exists_calls (isFixedWindow_redis rounding) hlimit state events
    have hnone : redisCounter (budgetKey settings) state.limiter = none := by
      rw [hempty]
      rfl
    rw [hnone] at hcalls
    have hordered : calls.Pairwise fun earlier later ↦ earlier.1 ≤ later.1 :=
      List.pairwise_map.mp (hclock.sublist htimes)
    rw [hcount start]
    exact_mod_cast allowed_le_two_mul hcalls hlimit nofun hordered start
  · refine outputs_filter (fun other event hhidden ↦ ?_) state events
    cases event with
    | background change => nomatch hhidden
    | request arrival =>
      exact congrArg Prod.snd (respond_of_unauthenticated hhidden (.redis rounding) other)

/-- A service that admits one write in a window. -/
def oneWrite : Settings := ⟨UnicodeTables.caseless, "key".toList, 100, 1, fun text ↦ text⟩

/-- A request that deletes the first monitor. -/
def deleteFirst (apiKey : Option PyStr) (time : ℚ) (deliveries : Deliveries) : Event :=
  .request ⟨apiKey, none, .deleteMonitor 1, time, 0, true, deliveries, 0⟩

/-- The `EXPIRE` of a call fails. -/
def unsetExpiry : Deliveries := ⟨.answered, .refused ⟨"connection lost".toList⟩⟩

/-- A request without the key, and four with it. The first leaves a counter without an expiry, the
next sets it, and the last is in the window after that. -/
def fiveDeletes : List Event :=
  [deleteFirst none 0 .answered, deleteFirst (some "key".toList) 0 unsetExpiry,
    deleteFirst (some "key".toList) 1 .answered, deleteFirst (some "key".toList) 2 .answered,
    deleteFirst (some "key".toList) 61 .answered]

/-- The service before the first request. -/
def noRequests : State Redis := ⟨Database.oneMonitor, Store.empty PyStr 0, []⟩

/-- The write that is not counted is admitted, and the next two are refused. -/
theorem writes_admitted_le_fiveDeletes :
    (outputs (serve oneWrite (.redis .nearest)) noRequests fiveDeletes).map
        (Option.map Response.statusCode) = [some 401, some 204, some 429, some 429, some 404] ∧
      ((((fiveDeletes.zip (outputs (serve oneWrite (.redis .nearest)) noRequests
        fiveDeletes)).countP (isAdmittedWrite 2) : ℕ) : ℤ) ≤ 2 * 1) := by
  have hclock : (fiveDeletes.filterMap Event.limiterNow).Pairwise (· ≤ ·) := by
    have htimes : fiveDeletes.filterMap Event.limiterNow = [0, 0, 1, 2, 61] := rfl
    rw [htimes]
    norm_num
  refine ⟨by decide +kernel, ?_⟩
  exact (writes_admitted_le oneWrite .nearest (by decide) rfl hclock 2).1

end PingGuard.Service
