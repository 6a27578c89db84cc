import PingGuard.Library.Transition
import PingGuard.RateLimit

/-!
# Concurrent calls of the limiter on Redis

Any number of calls of `RedisRateLimiter.hit`, on any keys, in any interleaving of their commands,
with time passing in between. The limit and the window are the same for all calls. A call that is
not continued stands for one that was cancelled.

`expirations`, `openedAt` and `Call.pipeline` are no part of the system. They record how often a
Redis key has expired, when its present expiry was first set, and what the pipeline of a call has
read, and in which period of its key.
-/

set_option autoImplicit false
set_option relaxedAutoImplicit false

namespace PingGuard.RateLimit

open Library.Commands Library.ExpiringStore Library.PyText Library.Transition

/-! ### The state -/

/-- What the pipeline of a call has read: the count, and how often the key had expired. -/
structure Pipeline where
  period : ℕ
  count : ℤ

/-- A call: its key, what is left of it, and what its pipeline has read. -/
structure Call where
  key : PyStr
  program : RedisProgram (Bool × ℤ)
  pipeline : Option Pipeline

/-- The state of the system. -/
structure System where
  redis : Redis
  calls : List Call
  expirations : PyStr → ℕ
  openedAt : PyStr → Option ℚ

/-- What a call does, or time. -/
inductive Action
  | start (key : PyStr)
  | command (index : ℕ) (delivery : Delivery)
  | wait (later : ℚ)

/-- Whether no command fails in a step. -/
def Action.isAnswered : Action → Bool
  | command _ .answered => true
  | command _ _ => false
  | _ => true

namespace System

/-- No key and no call. -/
def idle (start : ℚ) : System where
  redis := Store.empty PyStr start
  calls := []
  expirations := fun _ ↦ 0
  openedAt := fun _ ↦ none

/-- The system with another store and other calls. -/
def moveTo (system : System) (redis : Redis) (calls : List Call) : System where
  redis := redis
  calls := calls
  expirations := fun key ↦
    if (system.redis.get key).isSome ∧ (redis.get key).isNone then system.expirations key + 1
    else system.expirations key
  openedAt := fun key ↦
    (redis.deadline key).map fun _ ↦ (system.openedAt key).getD redis.now

end System

/-! ### The steps -/

/-- What the pipeline of a call has read after a command. -/
def Call.pipelineAfter (call : Call) (system : System) (delivery : Delivery) (redis : Redis) :
    Option Pipeline :=
  match delivery, call.program.pending with
  | .refused _, _ => call.pipeline
  | _, some (.incrTtl key) => some ⟨system.expirations key, count key redis⟩
  | _, _ => call.pipeline

/-- The system after a step, if it is enabled: a call starts, or issues its next command, or time
passes. -/
def step (rounding : TtlRounding) (limit windowSeconds : ℤ) (system : System) :
    Action → Option System
  | .start key =>
    let call : Call := ⟨key, (RedisRateLimiter.hit key limit windowSeconds).run, none⟩
    some { system with calls := system.calls ++ [call] }
  | .command index delivery =>
    system.calls[index]?.bind fun call ↦
      (call.program.step (serve rounding delivery) system.redis).map fun after ↦
        system.moveTo after.2 (system.calls.set index
          { call with
            program := after.1
            pipeline := call.pipelineAfter system delivery after.2 })
  | .wait later =>
    if system.redis.now ≤ later then some (system.moveTo (system.redis.wait later) system.calls)
    else none

variable {rounding : TtlRounding} {limit windowSeconds : ℤ} {system next : System} {action : Action}

/-! ### Calls whose commands are answered -/

/-- Where a call stands: before its pipeline, before its `EXPIRE`, or at its end. -/
inductive IsCall (limit windowSeconds : ℤ) : Call → Prop
  | fresh (key : PyStr) :
    IsCall limit windowSeconds ⟨key, (RedisRateLimiter.hit key limit windowSeconds).run, none⟩
  | expiring (key : PyStr) (pipeline : Pipeline) :
    IsCall limit windowSeconds
      ⟨key, afterIncr key pipeline.count limit windowSeconds, some pipeline⟩
  | returned (key : PyStr) (pipeline : Pipeline) (ttl : ℤ) :
    IsCall limit windowSeconds
      ⟨key, .finished (.ok (decision pipeline.count ttl limit)), some pipeline⟩

/-- What a pipeline reads. -/
def System.read (system : System) (key : PyStr) : Pipeline where
  period := system.expirations (redisKey key)
  count := (Store.incremented (system.redis.get (redisKey key))).count

/-- A call after its pipeline. -/
def System.afterPipeline (rounding : TtlRounding) (limit windowSeconds : ℤ) (system : System)
    (key : PyStr) : Call where
  key := key
  program :=
    if system.redis.deadline (redisKey key) = none then
      afterIncr key (system.read key).count limit windowSeconds
    else
      let ttl := ttl rounding (redisKey key) (system.redis.incr (redisKey key))
      .finished (.ok (decision (system.read key).count ttl limit))
  pipeline := some (system.read key)

/-- What an answered step does. -/
inductive Transition (rounding : TtlRounding) (limit windowSeconds : ℤ) (system : System) :
    Action → System → Prop
  | started (key : PyStr) :
    Transition rounding limit windowSeconds system (.start key)
      { system with
        calls := system.calls ++
          [⟨key, (RedisRateLimiter.hit key limit windowSeconds).run, none⟩] }
  | counted (index : ℕ) (key : PyStr)
    (hcall : system.calls[index]? =
      some ⟨key, (RedisRateLimiter.hit key limit windowSeconds).run, none⟩) :
    Transition rounding limit windowSeconds system (.command index .answered)
      (system.moveTo (system.redis.incr (redisKey key))
        (system.calls.set index (system.afterPipeline rounding limit windowSeconds key)))
  | expired (index : ℕ) (key : PyStr) (pipeline : Pipeline)
    (hcall : system.calls[index]? =
      some ⟨key, afterIncr key pipeline.count limit windowSeconds, some pipeline⟩) :
    Transition rounding limit windowSeconds system (.command index .answered)
      (system.moveTo (system.redis.expire (redisKey key) (system.redis.now + windowSeconds))
        (system.calls.set index
          ⟨key, .finished (.ok (decision pipeline.count windowSeconds limit)), some pipeline⟩))
  | waited (later : ℚ) (hle : system.redis.now ≤ later) :
    Transition rounding limit windowSeconds system (.wait later)
      (system.moveTo (system.redis.wait later) system.calls)

/-- The pipeline of a call. -/
theorem step_hit (key : PyStr) :
    (RedisRateLimiter.hit key limit windowSeconds).run.step (serve rounding .answered)
        system.redis =
      some ((system.afterPipeline rounding limit windowSeconds key).program,
        system.redis.incr (redisKey key)) := by
  rw [hit_eq]
  unfold Program.step System.afterPipeline System.read
  simp only [serve, execute, count_incr, ttl_incr_neg_iff]

/-- What the pipeline of a call has read. -/
theorem pipelineAfter_hit (key : PyStr) :
    Call.pipelineAfter ⟨key, (RedisRateLimiter.hit key limit windowSeconds).run, none⟩ system
      .answered (system.redis.incr (redisKey key)) = some (system.read key) := by
  unfold Call.pipelineAfter System.read
  rw [hit_eq]
  simp only [Program.pending, count_incr]

/-- An answered step of calls that stand somewhere is one of the four. -/
theorem transition_of_step (hcalls : ∀ call ∈ system.calls, IsCall limit windowSeconds call)
    (hanswered : action.isAnswered = true)
    (hstep : step rounding limit windowSeconds system action = some next) :
    Transition rounding limit windowSeconds system action next := by
  cases action with
  | start key =>
    obtain rfl := Option.some.inj hstep
    exact .started key
  | command index delivery =>
    obtain rfl : delivery = .answered := by
      cases delivery with
      | answered => rfl
      | unanswered raised => nomatch hanswered
      | refused raised => nomatch hanswered
    obtain ⟨call, hcall, hafter⟩ := Option.bind_eq_some_iff.mp hstep
    obtain ⟨after, hprogram, rfl⟩ := Option.map_eq_some_iff.mp hafter
    cases hcalls call (List.mem_of_getElem? hcall) with
    | fresh key =>
      obtain rfl := Option.some.inj ((step_hit key).symm.trans hprogram)
      dsimp only
      rw [pipelineAfter_hit]
      exact .counted index key hcall
    | expiring key pipeline =>
      obtain rfl := Option.some.inj hprogram
      exact .expired index key pipeline hcall
    | returned key pipeline ttl => nomatch hprogram
  | wait later =>
    by_cases hle : system.redis.now ≤ later
    · obtain rfl := Option.some.inj ((if_pos hle).symm.trans hstep)
      exact .waited later hle
    · nomatch (if_neg hle).symm.trans hstep

/-- Each of the four is a step. -/
theorem step_of_transition
    (htransition : Transition rounding limit windowSeconds system action next) :
    step rounding limit windowSeconds system action = some next := by
  cases htransition with
  | started key => rfl
  | counted index key hcall =>
    unfold step
    dsimp only
    rw [hcall, Option.bind_some, step_hit, Option.map_some, pipelineAfter_hit]
    rfl
  | expired index key pipeline hcall =>
    unfold step
    dsimp only
    rw [hcall]
    rfl
  | waited later hle => exact if_pos hle

/-- A step leaves every call somewhere. -/
theorem isCall_of_transition
    (htransition : Transition rounding limit windowSeconds system action next)
    (hcalls : ∀ call ∈ system.calls, IsCall limit windowSeconds call) :
    ∀ call ∈ next.calls, IsCall limit windowSeconds call := by
  intro call hcall
  cases htransition with
  | started key =>
    rcases List.mem_append.mp hcall with hold | hnew
    · exact hcalls call hold
    · rw [List.mem_singleton.mp hnew]
      exact .fresh key
  | counted index key hbefore =>
    rcases List.mem_or_eq_of_mem_set hcall with hold | rfl
    · exact hcalls call hold
    · unfold System.afterPipeline
      split_ifs with hunset
      · exact .expiring key (system.read key)
      · exact .returned key (system.read key) _
  | expired index key pipeline hbefore =>
    rcases List.mem_or_eq_of_mem_set hcall with hold | rfl
    · exact hcalls call hold
    · exact .returned key pipeline windowSeconds
  | waited later hle => exact hcalls call hcall

/-- The invariant rule for runs whose commands are answered, with the place of every call. -/
theorem invariant_of_reaches {allowed : System → Action → Prop} {start : ℚ}
    {motive : System → Prop}
    (hreaches : Reaches (step rounding limit windowSeconds) allowed (System.idle start) system)
    (hanswered : ∀ state label, allowed state label → label.isAnswered = true)
    (hstart : motive (System.idle start))
    (hstep : ∀ state label later, motive state → allowed state label →
      Transition rounding limit windowSeconds state label later → motive later) :
    (∀ call ∈ system.calls, IsCall limit windowSeconds call) ∧ motive system := by
  refine hreaches.invariant
    (motive := fun state ↦ (∀ call ∈ state.calls, IsCall limit windowSeconds call) ∧ motive state)
    ⟨fun call hcall ↦ absurd hcall List.not_mem_nil, hstart⟩ ?_
  rintro state label later ⟨hcalls, hstate⟩ hlabel hnext
  have htransition := transition_of_step hcalls (hanswered state label hlabel) hnext
  exact ⟨isCall_of_transition htransition hcalls, hstep state label later hstate hlabel htransition⟩

/-! ### Calls one at a time -/

/-- A call that has a command left can issue it. -/
theorem step_command {index : ℕ} {delivery : Delivery} {call : Call} {command : Command}
    {rest : Reply RedisError Command.Answer command → RedisProgram (Bool × ℤ)}
    (hcall : system.calls[index]? = some call) (hprogram : call.program = .waiting command rest) :
    step rounding limit windowSeconds system (.command index delivery) =
      some (system.moveTo (serve rounding delivery command system.redis).2
        (system.calls.set index
          { call with
            program := rest (serve rounding delivery command system.redis).1
            pipeline := call.pipelineAfter system delivery
              (serve rounding delivery command system.redis).2 })) := by
  unfold step
  dsimp only
  rw [hcall, Option.bind_some, hprogram]
  rfl

/-- A call that is continued without another step in between ends as its program does when it is run
in one go. -/
theorem exists_reaches_run {start : System} {index : ℕ} {call : Call}
    (hreaches : Reaches (step rounding limit windowSeconds) (fun _ label ↦ label.isAnswered = true)
      start system) (hcall : system.calls[index]? = some call) :
    ∃ after returned, Reaches (step rounding limit windowSeconds)
        (fun _ label ↦ label.isAnswered = true) start after ∧
      after.redis = (call.program.run (serve rounding .answered) system.redis).2 ∧
      after.calls[index]? = some returned ∧ returned.key = call.key ∧
      returned.program =
        .finished (call.program.run (serve rounding .answered) system.redis).1 := by
  induction hprogram : call.program generalizing system call with
  | finished result => exact ⟨system, call, hreaches, rfl, hcall, rfl, hprogram⟩
  | waiting command rest ih =>
    have hlength : index < system.calls.length := (List.getElem?_eq_some_iff.mp hcall).1
    have hanswered : (Action.command index .answered).isAnswered = true := rfl
    have hnext := hreaches.step hanswered (step_command hcall hprogram)
    obtain ⟨after, returned, hafter, hredis, hreturned, hkey, hresult⟩ :=
      ih _ hnext (List.getElem?_set_self hlength) rfl
    exact ⟨after, returned, hafter, hredis, hreturned, hkey, hresult⟩

/-- A call at one instant is a run of the system. -/
theorem exists_reaches_hitAt {later : ℚ} (hle : system.redis.now ≤ later) (key : PyStr) :
    ∃ (after : System) (index : ℕ) (returned : Call),
      Reaches (step rounding limit windowSeconds) (fun _ label ↦ label.isAnswered = true) system
        after ∧
      after.redis =
        (RedisRateLimiter.hitAt rounding later key limit windowSeconds system.redis).2 ∧
      after.calls[index]? = some returned ∧ returned.key = key ∧
      returned.program = .finished
        (RedisRateLimiter.hitAt rounding later key limit windowSeconds system.redis).1 := by
  have hwaits : (Action.wait later).isAnswered = true := rfl
  have hstarts : (Action.start key).isAnswered = true := rfl
  have hwait : step rounding limit windowSeconds system (.wait later) =
      some (system.moveTo (system.redis.wait later) system.calls) := if_pos hle
  have hwaited : Reaches (step rounding limit windowSeconds) (fun _ label ↦ label.isAnswered = true)
      system (system.moveTo (system.redis.wait later) system.calls) :=
    Reaches.start.step hwaits hwait
  have hstarted := hwaited.step hstarts rfl
  obtain ⟨after, returned, hafter, hredis, hreturned, hkey, hresult⟩ :=
    exists_reaches_run hstarted List.getElem?_concat_length
  exact ⟨after, _, returned, hafter, hredis, hreturned, hkey, hresult⟩

end PingGuard.RateLimit
