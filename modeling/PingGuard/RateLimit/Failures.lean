import PingGuard.RateLimit.Calls

/-!
# When Redis fails

Concurrent calls of the limiter on Redis, where any command may fail: it is not carried out, or it
is and the client raises. A counter may then be left without an expiry, and a call that fails allows
its request. Nobody is locked out by that: a call that is denied leaves its counter with an expiry a
window away at most, and unless another call is about to set it again, the counter is gone by then,
whatever fails meanwhile (`admitted_after_denial`).
-/

set_option autoImplicit false
set_option relaxedAutoImplicit false

namespace PingGuard.RateLimit

open Library.Commands Library.ExpiringStore Library.PyText Library.Transition

variable {rounding : TtlRounding} {limit windowSeconds : ℤ} {system next : System} {action : Action}

/-! ### Steps that may fail -/

/-- Where a call stands whose commands may fail: before its pipeline, before its `EXPIRE`, or at its
end. -/
inductive Stands (limit windowSeconds : ℤ) (call : Call) : Prop
  | fresh (hprogram : call.program = (RedisRateLimiter.hit call.key limit windowSeconds).run)
  | expiring (count : ℤ) (hprogram : call.program = afterIncr call.key count limit windowSeconds)
  | returned (allowed : Bool) (retryAfter : ℤ)
      (hprogram : call.program = .finished (.ok (allowed, retryAfter)))

/-- What a step does, whether its command is answered or fails. Only a pipeline that reads no expiry
is followed by an `EXPIRE`, and one that is denied has read an expiry. -/
inductive Effect (limit windowSeconds : ℤ) (system : System) : Action → System → Prop
  | started (key : PyStr) :
    Effect limit windowSeconds system (.start key)
      { system with
        calls := system.calls ++
          [⟨key, (RedisRateLimiter.hit key limit windowSeconds).run, none⟩] }
  | counted (index : ℕ) (delivery : Delivery) (call after : Call)
    (hcall : system.calls[index]? = some call) (hkey : after.key = call.key)
    (hafter : (∃ count, after.program = afterIncr after.key count limit windowSeconds ∧
        system.redis.deadline (redisKey call.key) = none) ∨
      ∃ allowed retryAfter, after.program = .finished (.ok (allowed, retryAfter)) ∧
        (allowed = false → system.redis.deadline (redisKey call.key) ≠ none)) :
    Effect limit windowSeconds system (.command index delivery)
      (system.moveTo (system.redis.incr (redisKey call.key)) (system.calls.set index after))
  | expired (index : ℕ) (delivery : Delivery) (call after : Call)
    (hcall : system.calls[index]? = some call) (hkey : after.key = call.key)
    (hpending : call.program.pending = some (.expire (redisKey call.key) windowSeconds))
    (hafter : ∃ allowed retryAfter, after.program = .finished (.ok (allowed, retryAfter))) :
    Effect limit windowSeconds system (.command index delivery)
      (system.moveTo
        (system.redis.expire (redisKey call.key) (system.redis.now + windowSeconds))
        (system.calls.set index after))
  | failed (index : ℕ) (delivery : Delivery) (call after : Call)
    (hcall : system.calls[index]? = some call) (hkey : after.key = call.key)
    (hafter : after.program = .finished (.ok (true, 0))) :
    Effect limit windowSeconds system (.command index delivery)
      (system.moveTo system.redis (system.calls.set index after))
  | waited (later : ℚ) (hle : system.redis.now ≤ later) :
    Effect limit windowSeconds system (.wait later)
      (system.moveTo (system.redis.wait later) system.calls)

/-- A step of calls that stand somewhere is one of the five. -/
theorem effect_of_step (hcalls : ∀ call ∈ system.calls, Stands limit windowSeconds call)
    (hstep : step rounding limit windowSeconds system action = some next) :
    Effect limit windowSeconds system action next := by
  cases action with
  | start key =>
    obtain rfl := Option.some.inj hstep
    exact .started key
  | wait later =>
    by_cases hle : system.redis.now ≤ later
    · obtain rfl := Option.some.inj ((if_pos hle).symm.trans hstep)
      exact .waited later hle
    · nomatch (if_neg hle).symm.trans hstep
  | command index delivery =>
    obtain ⟨call, hcall, hafter⟩ := Option.bind_eq_some_iff.mp hstep
    obtain ⟨after, hprogram, rfl⟩ := Option.map_eq_some_iff.mp hafter
    cases hcalls call (List.mem_of_getElem? hcall) with
    | fresh hfresh =>
      cases delivery with
      | answered =>
        rw [hfresh, step_hit] at hprogram
        obtain rfl := Option.some.inj hprogram
        refine .counted index .answered call _ hcall rfl ?_
        dsimp only [System.afterPipeline]
        by_cases hunset : system.redis.deadline (redisKey call.key) = none
        · rw [if_pos hunset]
          exact Or.inl ⟨_, rfl, hunset⟩
        · rw [if_neg hunset]
          exact Or.inr ⟨_, _, rfl, fun _ ↦ hunset⟩
      | unanswered raised =>
        rw [hfresh, hit_eq] at hprogram
        obtain rfl := Option.some.inj hprogram
        exact .counted index _ call _ hcall rfl (Or.inr ⟨true, 0, rfl, nofun⟩)
      | refused raised =>
        rw [hfresh, hit_eq] at hprogram
        obtain rfl := Option.some.inj hprogram
        exact .failed index _ call _ hcall rfl rfl
    | expiring count hexpiring =>
      have hpending : call.program.pending =
          some (.expire (redisKey call.key) windowSeconds) := by
        rw [hexpiring]
        rfl
      rw [hexpiring] at hprogram
      obtain rfl := Option.some.inj hprogram
      cases delivery with
      | answered => exact .expired index _ call _ hcall rfl hpending ⟨_, _, rfl⟩
      | unanswered raised => exact .expired index _ call _ hcall rfl hpending ⟨true, 0, rfl⟩
      | refused raised => exact .failed index _ call _ hcall rfl rfl
    | returned allowed retryAfter hreturned =>
      rw [hreturned] at hprogram
      nomatch hprogram

/-- A step leaves every call somewhere. -/
theorem stands_of_effect (heffect : Effect limit windowSeconds system action next)
    (hcalls : ∀ call ∈ system.calls, Stands limit windowSeconds call) :
    ∀ call ∈ next.calls, Stands limit windowSeconds call := by
  -- the other calls are as they were
  have hset : ∀ (index : ℕ) (after : Call), Stands limit windowSeconds after →
      ∀ call ∈ system.calls.set index after, Stands limit windowSeconds call := by
    intro index after hafter call hcall
    rcases List.mem_or_eq_of_mem_set hcall with hold | rfl
    · exact hcalls call hold
    · exact hafter
  cases heffect with
  | started key =>
    intro call hcall
    rcases List.mem_append.mp hcall with hold | hnew
    · exact hcalls call hold
    · rw [List.mem_singleton.mp hnew]
      exact .fresh rfl
  | counted index delivery call after hcall hkey hafter =>
    apply hset
    rcases hafter with ⟨count, hprogram, -⟩ | ⟨allowed, retryAfter, hprogram, -⟩
    · exact .expiring count hprogram
    · exact .returned allowed retryAfter hprogram
  | expired index delivery call after hcall hkey hpending hafter =>
    obtain ⟨allowed, retryAfter, hprogram⟩ := hafter
    exact hset index after (.returned allowed retryAfter hprogram)
  | failed index delivery call after hcall hkey hafter =>
    exact hset index after (.returned true 0 hafter)
  | waited later hle => exact hcalls

/-! ### Expiries -/

/-- Every expiry is a window away at most. -/
def DeadlinesNear (windowSeconds : ℤ) (redis : Redis) : Prop :=
  ∀ key deadline, redis.deadline key = some deadline → deadline ≤ redis.now + windowSeconds

/-- A step sets no expiry that is further away. -/
theorem DeadlinesNear.of_effect (hnear : DeadlinesNear windowSeconds system.redis)
    (heffect : Effect limit windowSeconds system action next) :
    DeadlinesNear windowSeconds next.redis := by
  cases heffect with
  | started key => exact hnear
  | counted index delivery call after hcall hkey hafter =>
    intro key deadline hdeadline
    change (system.redis.incr (redisKey call.key)).deadline key = some deadline at hdeadline
    rw [Store.deadline_incr] at hdeadline
    exact hnear key deadline hdeadline
  | expired index delivery call after hcall hkey hpending hafter =>
    intro key deadline hdeadline
    by_cases hsame : key = redisKey call.key
    · subst hsame
      rcases Store.get_expire_eq (redisKey call.key) (system.redis.now + windowSeconds)
        system.redis with hgone | hset
      · nomatch (Store.deadline_of_missing hgone).symm.trans hdeadline
      · exact le_of_eq (Option.some.inj (hdeadline.symm.trans hset))
    · exact hnear key deadline
        ((Store.deadline_expire_of_ne hsame _ system.redis).symm.trans hdeadline)
  | failed index delivery call after hcall hkey hafter => exact hnear
  | waited later hle =>
    intro key deadline hdeadline
    rcases Store.deadline_wait system.redis later key with hnone | hsame
    · nomatch hnone.symm.trans hdeadline
    · refine (hnear key deadline (hsame.symm.trans hdeadline)).trans ?_
      exact add_le_add_left hle _

/-- What holds in every run: the calls stand somewhere, and the expiries are near. -/
theorem stands_and_near {start : ℚ}
    (hreaches : Reaches (step rounding limit windowSeconds) (fun _ _ ↦ True) (System.idle start)
      system) :
    (∀ call ∈ system.calls, Stands limit windowSeconds call) ∧
      DeadlinesNear windowSeconds system.redis := by
  refine hreaches.invariant (motive := fun state ↦
    (∀ call ∈ state.calls, Stands limit windowSeconds call) ∧
      DeadlinesNear windowSeconds state.redis)
    ⟨fun call hcall ↦ absurd hcall List.not_mem_nil, fun _ _ hdeadline ↦ nomatch hdeadline⟩ ?_
  rintro state label after ⟨hcalls, hnear⟩ - hstep
  have heffect := effect_of_step hcalls hstep
  exact ⟨stands_of_effect heffect hcalls, hnear.of_effect heffect⟩

/-- A call that a step denies leaves its counter with an expiry, unless the counter is gone. -/
theorem deadline_of_denied {index : ℕ} {delivery : Delivery} {call : Call} {retryAfter : ℤ}
    (heffect : Effect limit windowSeconds system (.command index delivery) next)
    (hcall : next.calls[index]? = some call)
    (hdenied : call.program = .finished (.ok (false, retryAfter))) :
    next.redis.get (redisKey call.key) = none ∨
      ∃ deadline, next.redis.deadline (redisKey call.key) = some deadline := by
  -- the call is the one that the step was of
  have hsame : ∀ {before after : Call} {redis : Redis}, system.calls[index]? = some before →
      (system.moveTo redis (system.calls.set index after)).calls[index]? = some call →
        after = call := by
    intro before after redis hbefore hafter
    have hlength : index < system.calls.length := (List.getElem?_eq_some_iff.mp hbefore).1
    exact Option.some.inj ((List.getElem?_set_self hlength).symm.trans hafter)
  cases heffect with
  | counted index delivery before after hbefore hkey hafter =>
    obtain rfl := hsame hbefore hcall
    rcases hafter with ⟨count, hprogram, -⟩ | ⟨allowed, seconds, hprogram, hset⟩
    · nomatch hprogram.symm.trans hdenied
    · obtain ⟨rfl, -⟩ := Prod.mk.inj (Except.ok.inj
        (Program.finished.inj (hprogram.symm.trans hdenied)))
      obtain ⟨deadline, hdeadline⟩ := Option.ne_none_iff_exists'.mp (hset rfl)
      refine Or.inr ⟨deadline, ?_⟩
      change (system.redis.incr _).deadline _ = _
      rw [Store.deadline_incr, hkey]
      exact hdeadline
  | expired index delivery before after hbefore hkey hpending hafter =>
    obtain rfl := hsame hbefore hcall
    rw [hkey]
    exact (Store.get_expire_eq _ _ system.redis).imp_right fun hset ↦ ⟨_, hset⟩
  | failed index delivery before after hbefore hkey hafter =>
    obtain rfl := hsame hbefore hcall
    nomatch hafter.symm.trans hdenied

/-! ### The end of a window -/

/-- A counter expires by some time, and no call is about to set its expiry again. -/
structure ExpiresBy (bound : ℚ) (key : PyStr) (system : System) : Prop where
  deadline : ∃ deadline, system.redis.deadline (redisKey key) = some deadline ∧ deadline ≤ bound
  quiet : ∀ call ∈ system.calls, ∀ seconds,
    call.program.pending ≠ some (.expire (redisKey key) seconds)

/-- A step leaves it so, or the counter is gone after it. -/
theorem ExpiresBy.of_effect {bound : ℚ} {key : PyStr} (hexpires : ExpiresBy bound key system)
    (heffect : Effect limit windowSeconds system action next) :
    ExpiresBy bound key next ∨ next.redis.get (redisKey key) = none := by
  obtain ⟨⟨deadline, hdeadline, hle⟩, hquiet⟩ := hexpires
  -- the other calls are as they were
  have hset : ∀ (index : ℕ) (after : Call),
      (∀ seconds, after.program.pending ≠ some (.expire (redisKey key) seconds)) →
        ∀ call ∈ system.calls.set index after, ∀ seconds,
          call.program.pending ≠ some (.expire (redisKey key) seconds) := by
    intro index after hafter call hcall
    rcases List.mem_or_eq_of_mem_set hcall with hold | rfl
    · exact hquiet call hold
    · exact hafter
  cases heffect with
  | started started =>
    refine Or.inl ⟨⟨deadline, hdeadline, hle⟩, fun call hcall ↦ ?_⟩
    rcases List.mem_append.mp hcall with hold | hnew
    · exact hquiet call hold
    · rw [List.mem_singleton.mp hnew, hit_eq]
      nofun
  | counted index delivery call after hcall hkey hafter =>
    refine Or.inl ⟨⟨deadline, ?_, hle⟩, hset index after ?_⟩
    · change (system.redis.incr _).deadline _ = _
      rw [Store.deadline_incr]
      exact hdeadline
    · rcases hafter with ⟨count, hprogram, hunset⟩ | ⟨allowed, retryAfter, hprogram, -⟩
      · -- a pipeline on this counter has read its expiry
        intro seconds hpending
        rw [hprogram] at hpending
        have hcommand : Command.expire (redisKey after.key) windowSeconds =
          .expire (redisKey key) seconds := Option.some.inj hpending
        obtain ⟨hsame, -⟩ := Command.expire.inj hcommand
        rw [← hkey, hsame, hdeadline] at hunset
        nomatch hunset
      · rw [hprogram]
        nofun
  | expired index delivery call after hcall hkey hpending hafter =>
    have hne : redisKey key ≠ redisKey call.key := by
      intro hsame
      exact hquiet call (List.mem_of_getElem? hcall) windowSeconds (hsame ▸ hpending)
    obtain ⟨allowed, retryAfter, hprogram⟩ := hafter
    refine Or.inl ⟨⟨deadline, ?_, hle⟩, hset index after ?_⟩
    · exact (Store.deadline_expire_of_ne hne _ system.redis).trans hdeadline
    · rw [hprogram]
      nofun
  | failed index delivery call after hcall hkey hafter =>
    refine Or.inl ⟨⟨deadline, hdeadline, hle⟩, hset index after ?_⟩
    rw [hafter]
    nofun
  | waited later hlater =>
    rcases Store.get_wait_eq system.redis later (redisKey key) with hgone | hsame
    · exact Or.inr hgone
    · refine Or.inl ⟨⟨deadline, ?_, hle⟩, hquiet⟩
      change (system.redis.wait later).deadline (redisKey key) = _
      rw [Store.deadline, hsame]
      exact hdeadline

/-- In every run that goes on, the counter still expires by that time, or it has been gone. -/
theorem ExpiresBy.of_reaches {bound : ℚ} {key : PyStr} {later : System}
    (hcalls : ∀ call ∈ system.calls, Stands limit windowSeconds call)
    (hexpires : ExpiresBy bound key system)
    (hlater : Reaches (step rounding limit windowSeconds) (fun _ _ ↦ True) system later) :
    ExpiresBy bound key later ∨ ∃ middle,
      Reaches (step rounding limit windowSeconds) (fun _ _ ↦ True) system middle ∧
        Reaches (step rounding limit windowSeconds) (fun _ _ ↦ True) middle later ∧
          middle.redis.get (redisKey key) = none := by
  have hrun : (∀ call ∈ later.calls, Stands limit windowSeconds call) ∧
      (ExpiresBy bound key later ∨ ∃ middle,
        Reaches (step rounding limit windowSeconds) (fun _ _ ↦ True) system middle ∧
          Reaches (step rounding limit windowSeconds) (fun _ _ ↦ True) middle later ∧
            middle.redis.get (redisKey key) = none) := by
    induction hlater with
    | start => exact ⟨hcalls, Or.inl hexpires⟩
    | step hreaches hallowed hstep ih =>
      obtain ⟨hstands, hstate⟩ := ih
      have heffect := effect_of_step hstands hstep
      refine ⟨stands_of_effect heffect hstands, ?_⟩
      rcases hstate with hstill | ⟨middle, hmiddle, hrest, hgone⟩
      · refine (hstill.of_effect heffect).imp_right fun hgone ↦ ?_
        exact ⟨_, hreaches.step hallowed hstep, .start, hgone⟩
      · exact Or.inr ⟨middle, hmiddle, hrest.step hallowed hstep, hgone⟩
  exact hrun.2

/-- Nobody is locked out. A call that is denied leaves its counter with an expiry a window away at
most, unless the counter is gone. And when no other call on its key is about to set the expiry, then
within the window that follows there is a moment at which a call on the key is allowed. Before it
and after it any command of any call may fail. -/
theorem admitted_after_denial (rounding : TtlRounding) (limit windowSeconds : ℤ) (start : ℚ)
    (hlimit : 1 ≤ limit) {system next : System} {index : ℕ} {delivery : Delivery} {call : Call}
    {retryAfter : ℤ}
    (hreaches : Reaches (step rounding limit windowSeconds) (fun _ _ ↦ True) (System.idle start)
      system)
    (hstep : step rounding limit windowSeconds system (.command index delivery) = some next)
    (hcall : next.calls[index]? = some call)
    (hdenied : call.program = .finished (.ok (false, retryAfter))) :
    (next.redis.get (redisKey call.key) = none ∨
      ∃ deadline, next.redis.deadline (redisKey call.key) = some deadline ∧
        deadline ≤ next.redis.now + windowSeconds) ∧
    ((∀ other ∈ next.calls, ∀ seconds,
        other.program.pending ≠ some (.expire (redisKey call.key) seconds)) →
      ∀ later, Reaches (step rounding limit windowSeconds) (fun _ _ ↦ True) next later →
        next.redis.now + windowSeconds ≤ later.redis.now →
          ∃ middle, Reaches (step rounding limit windowSeconds) (fun _ _ ↦ True) next middle ∧
            Reaches (step rounding limit windowSeconds) (fun _ _ ↦ True) middle later ∧
              (RedisRateLimiter.hitAt rounding middle.redis.now call.key limit windowSeconds
                middle.redis).1 = .ok (true, 0)) := by
  have hallowed : ∀ {redis : Redis}, redis.get (redisKey call.key) = none →
      (RedisRateLimiter.hitAt rounding redis.now call.key limit windowSeconds redis).1 =
        .ok (true, 0) := by
    intro redis hgone
    have hstill : (redis.wait redis.now).get (redisKey call.key) = none := by
      rw [Store.get_wait, hgone, liveAt_none]
    rw [hitAt_of_missing hlimit hstill]
  obtain ⟨hstands, hnear⟩ := stands_and_near hreaches
  have heffect := effect_of_step hstands hstep
  rcases deadline_of_denied heffect hcall hdenied with hgone | ⟨deadline, hdeadline⟩
  · exact ⟨Or.inl hgone, fun _ later hlater _ ↦ ⟨next, .start, hlater, hallowed hgone⟩⟩
  · have hwithin := hnear.of_effect heffect _ deadline hdeadline
    refine ⟨Or.inr ⟨deadline, hdeadline, hwithin⟩, fun hquiet later hlater htime ↦ ?_⟩
    have hexpires : ExpiresBy (next.redis.now + windowSeconds) call.key next :=
      ⟨⟨deadline, hdeadline, hwithin⟩, hquiet⟩
    rcases hexpires.of_reaches (stands_of_effect heffect hstands) hlater with
      hstill | ⟨middle, hmiddle, hrest, hgone⟩
    · obtain ⟨last, hlast, hle⟩ := hstill.deadline
      exact absurd (Store.lt_deadline hlast) (not_lt.mpr (hle.trans htime))
    · exact ⟨middle, hmiddle, hrest, hallowed hgone⟩

/-- The `EXPIRE` of a call fails, and the counter is left without an expiry. Ten seconds later
another call reads that. -/
def failedExpire : List Action :=
  [.start "a".toList, .command 0 .answered, .command 0 (.refused ⟨"connection lost".toList⟩),
    .wait 10, .start "a".toList, .command 1 .answered]

/-- That call sets the expiry, to a minute later, and is denied. By the end of its window a call has
been possible. -/
theorem admitted_after_denial_failedExpire : ∃ system next later middle deadline,
    run (step .nearest 1 60) (System.idle 0) failedExpire = some system ∧
    step .nearest 1 60 system (.command 1 .answered) = some next ∧
    step .nearest 1 60 next (.wait 70) = some later ∧
    (next.redis.deadline (redisKey "a".toList) = some deadline ∧ deadline ≤ 70) ∧
    Reaches (step .nearest 1 60) (fun _ _ ↦ True) next middle ∧
    Reaches (step .nearest 1 60) (fun _ _ ↦ True) middle later ∧
    (RedisRateLimiter.hitAt .nearest middle.redis.now "a".toList 1 60 middle.redis).1 =
      .ok (true, 0) := by
  have hrun : ((run (step .nearest 1 60) (System.idle 0) failedExpire).bind
      (step .nearest 1 60 · (.command 1 .answered))).bind (fun next ↦
        (step .nearest 1 60 next (.wait 70)).map fun later ↦
          (next.redis.now, later.redis.now,
            next.calls.all fun call ↦ call.program.pending.isNone,
            (next.redis.get (redisKey "a".toList)).isSome)) = some (10, 70, true, true) := by
    decide +kernel
  have hcalls : ((run (step .nearest 1 60) (System.idle 0) failedExpire).bind
      (step .nearest 1 60 · (.command 1 .answered))).bind (fun next ↦ next.calls[1]?) =
        some ⟨"a".toList, .finished (.ok (false, 60)), some ⟨0, 2⟩⟩ := rfl
  obtain ⟨next, hnext, hlaterRun⟩ := Option.bind_eq_some_iff.mp hrun
  obtain ⟨later, hlater, htimes⟩ := Option.map_eq_some_iff.mp hlaterRun
  rw [hnext, Option.bind_some] at hcalls
  obtain ⟨system, hsystem, hstep⟩ := Option.bind_eq_some_iff.mp hnext
  obtain ⟨hnow, hothers⟩ := Prod.mk.inj htimes
  obtain ⟨hend, hrest⟩ := Prod.mk.inj hothers
  obtain ⟨hquiet, hpresent⟩ := Prod.mk.inj hrest
  have hreaches : Reaches (step .nearest 1 60) (fun _ _ ↦ True) (System.idle 0) system :=
    reaches_of_run .start (fun _ _ _ ↦ trivial) hsystem
  have hwaits : Reaches (step .nearest 1 60) (fun _ _ ↦ True) next later :=
    Reaches.start.step trivial hlater
  have hnone : ∀ other ∈ next.calls, ∀ seconds,
      other.program.pending ≠ some (.expire (redisKey "a".toList) seconds) := by
    intro other hother seconds hpending
    have hfinished := List.all_eq_true.mp hquiet other hother
    rw [hpending] at hfinished
    exact Bool.false_ne_true hfinished
  obtain ⟨hset, hadmitted⟩ :=
    admitted_after_denial .nearest 1 60 0 (by decide) hreaches hstep hcalls rfl
  obtain ⟨deadline, hdeadline, hle⟩ := hset.resolve_left (Option.isSome_iff_ne_none.mp hpresent)
  have hwindow : next.redis.now + ((60 : ℤ) : ℚ) = 70 := by
    rw [hnow]
    norm_num
  obtain ⟨middle, hmiddle, hafter, hallowed⟩ :=
    hadmitted hnone later hwaits (by rw [hwindow, hend])
  exact ⟨system, next, later, middle, deadline, hsystem, hstep, hlater,
    ⟨hdeadline, hle.trans (le_of_eq hwindow)⟩, hmiddle, hafter, hallowed⟩

end PingGuard.RateLimit
