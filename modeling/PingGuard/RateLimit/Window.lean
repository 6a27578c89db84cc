import PingGuard.RateLimit.Calls

/-!
# When a window ends

Concurrent calls of the limiter on Redis. A call that reads no time to live sets the expiry later,
without looking again. Calls whose pipelines ran before the first of them set the expiry therefore
set it again, and each of them postpones the end of the window: `later_expire_postpones`.

The end of a window stays where it is exactly when `ExpiresFirst` holds of the steps: an `EXPIRE` is
the first one of its window, or runs at the same instant as the first.
-/

set_option autoImplicit false
set_option relaxedAutoImplicit false

namespace PingGuard.RateLimit

open Library.Commands Library.ExpiringStore Library.PyText Library.Transition

/-- An expiry of a key is later afterwards. -/
def Postpones (before after : Redis) (key : PyStr) : Prop :=
  ∃ earlier later, before.deadline key = some earlier ∧ after.deadline key = some later ∧
    earlier < later

/-- If a step is an `EXPIRE`, the key has no expiry or is missing, or its expiry was first set at
this instant. -/
def ExpiresFirst (system : System) : Action → Prop
  | .command index _ => ∀ call key seconds, system.calls[index]? = some call →
    call.program.pending = some (.expire key seconds) →
      ∀ opened, system.openedAt key = some opened → opened = system.redis.now
  | _ => True

/-- Whether a step is such an `EXPIRE` can be computed. -/
instance (system : System) (action : Action) : Decidable (ExpiresFirst system action) :=
  match action with
  | .start _ => inferInstanceAs (Decidable True)
  | .wait _ => inferInstanceAs (Decidable True)
  | .command index _ =>
    match hpending : (system.calls[index]?).bind (·.program.pending) with
    | some (.expire key _) =>
      decidable_of_iff (∀ opened ∈ system.openedAt key, opened = system.redis.now)
        ⟨fun hopened call other seconds hcall hother ↦ by
          rw [hcall, Option.bind_some, hother] at hpending
          obtain ⟨rfl, -⟩ := Command.expire.inj (Option.some.inj hpending)
          exact hopened,
        fun hfirst ↦ by
          obtain ⟨call, hcall, hother⟩ := Option.bind_eq_some_iff.mp hpending
          exact hfirst call key _ hcall hother⟩
    | some (.incrTtl key) =>
      isTrue fun call other seconds hcall hother ↦ by
        rw [hcall, Option.bind_some, hother] at hpending
        nomatch hpending
    | none =>
      isTrue fun call other seconds hcall hother ↦ by
        rw [hcall, Option.bind_some, hother] at hpending
        nomatch hpending

/-- Every expiry is the window after it was first set, and that is not to come. -/
structure IsFixed (windowSeconds : ℤ) (system : System) : Prop where
  deadline : ∀ key, system.redis.deadline key = (system.openedAt key).map (· + (windowSeconds : ℚ))
  opened_le : ∀ key opened, system.openedAt key = some opened → opened ≤ system.redis.now

variable {rounding : TtlRounding} {limit windowSeconds : ℤ} {system next : System} {action : Action}

/-- At the start there is no expiry. -/
theorem isFixed_idle (windowSeconds : ℤ) (start : ℚ) :
    IsFixed windowSeconds (System.idle start) where
  deadline := fun _ ↦ rfl
  opened_le := fun _ _ hopened ↦ nomatch hopened

/-- Windows stay fixed if every expiry is gone, or is the window after it was first set. -/
theorem IsFixed.moveTo {redis : Redis} {calls : List Call} (hfixed : IsFixed windowSeconds system)
    (hnow : system.redis.now ≤ redis.now)
    (hdeadline : ∀ key, redis.deadline key = none ∨
      redis.deadline key = some ((system.openedAt key).getD redis.now + windowSeconds)) :
    IsFixed windowSeconds (system.moveTo redis calls) where
  deadline := by
    intro key
    change redis.deadline key =
      ((redis.deadline key).map fun _ ↦ (system.openedAt key).getD redis.now).map _
    rcases hdeadline key with hnone | hsome
    · rw [hnone]
      rfl
    · rw [hsome]
      rfl
  opened_le := by
    intro key opened hopened
    obtain ⟨deadline, -, rfl⟩ := Option.map_eq_some_iff.mp hopened
    cases hbefore : system.openedAt key with
    | none => exact le_refl _
    | some opened => exact (hfixed.opened_le key opened hbefore).trans hnow

/-- A key whose expiry is gone or as before. -/
theorem IsFixed.deadline_of_same {redis : Redis} {key : PyStr}
    (hfixed : IsFixed windowSeconds system)
    (hsame : redis.deadline key = none ∨ redis.deadline key = system.redis.deadline key) :
    redis.deadline key = none ∨
      redis.deadline key = some ((system.openedAt key).getD redis.now + windowSeconds) := by
  rcases hsame with hnone | hsame
  · exact Or.inl hnone
  · rw [hsame, hfixed.deadline key]
    cases system.openedAt key with
    | none => exact Or.inl rfl
    | some opened => exact Or.inr rfl

/-- An `EXPIRE` that is not preceded by another one in its window, or only at this instant. -/
theorem IsFixed.deadline_expire {key : PyStr} (hfixed : IsFixed windowSeconds system)
    (hfirst : ∀ opened, system.openedAt key = some opened → opened = system.redis.now)
    (other : PyStr) :
    (system.redis.expire key (system.redis.now + windowSeconds)).deadline other = none ∨
      (system.redis.expire key (system.redis.now + windowSeconds)).deadline other =
        some ((system.openedAt other).getD system.redis.now + windowSeconds) := by
  by_cases hother : other = key
  · subst hother
    refine (Store.get_expire_eq other _ system.redis).imp Store.deadline_of_missing fun hset ↦ ?_
    rw [hset]
    cases hopened : system.openedAt other with
    | none => rfl
    | some opened =>
      rw [hfirst opened hopened]
      rfl
  · exact hfixed.deadline_of_same (Or.inr (Store.deadline_expire_of_ne hother _ system.redis))

/-- A step of which the condition holds leaves the windows fixed. -/
theorem IsFixed.of_transition (hfixed : IsFixed windowSeconds system)
    (htransition : Transition rounding limit windowSeconds system action next)
    (hfirst : ExpiresFirst system action) : IsFixed windowSeconds next := by
  cases htransition with
  | started key => exact ⟨hfixed.deadline, hfixed.opened_le⟩
  | counted index key hcall =>
    refine hfixed.moveTo le_rfl fun other ↦ hfixed.deadline_of_same (Or.inr ?_)
    rw [Store.deadline_incr]
  | expired index key pipeline hcall =>
    exact hfixed.moveTo le_rfl (hfixed.deadline_expire (hfirst _ _ _ hcall rfl))
  | waited later hle =>
    exact hfixed.moveTo hle fun other ↦
      hfixed.deadline_of_same (Store.deadline_wait system.redis later other)

/-! ### What postpones an expiry -/

/-- An expiry that is gone or as before is not postponed. -/
theorem not_postpones_of_same {before after : Redis} {key : PyStr}
    (hsame : after.deadline key = none ∨ after.deadline key = before.deadline key) :
    ¬ Postpones before after key := by
  rintro ⟨earlier, later, hbefore, hafter, hlt⟩
  rcases hsame with hnone | hsame
  · nomatch hafter.symm.trans hnone
  · obtain rfl := Option.some.inj (hafter.symm.trans (hsame.trans hbefore))
    exact lt_irrefl _ hlt

/-- With the windows fixed, an `EXPIRE` postpones an expiry exactly when there was one before it in
its window, at an earlier instant. -/
theorem IsFixed.postpones_expire_iff {key : PyStr} (hfixed : IsFixed windowSeconds system) :
    (∃ other, Postpones system.redis
        (system.redis.expire key (system.redis.now + windowSeconds)) other) ↔
      ∃ opened, system.openedAt key = some opened ∧ opened ≠ system.redis.now := by
  constructor
  · rintro ⟨other, hpostpones⟩
    by_contra hnot
    push Not at hnot
    refine not_postpones_of_same ?_ hpostpones
    by_cases hother : other = key
    · subst hother
      obtain ⟨earlier, later, hbefore, -, -⟩ := hpostpones
      rw [hfixed.deadline] at hbefore ⊢
      obtain ⟨opened, hopened, -⟩ := Option.map_eq_some_iff.mp hbefore
      rw [hopened, hnot opened hopened]
      exact (Store.get_expire_eq other _ system.redis).imp_left Store.deadline_of_missing
    · exact Or.inr (Store.deadline_expire_of_ne hother _ system.redis)
  · rintro ⟨opened, hopened, hne⟩
    have hearlier : opened < system.redis.now :=
      lt_of_le_of_ne (hfixed.opened_le key opened hopened) hne
    have hdeadline : system.redis.deadline key = some (opened + windowSeconds) := by
      rw [hfixed.deadline, hopened, Option.map_some]
    have hlive := Store.lt_deadline hdeadline
    obtain ⟨entry, hget, -⟩ := Option.bind_eq_some_iff.mp hdeadline
    refine ⟨key, _, _, hdeadline, Store.deadline_expire_of_lt hget ?_, ?_⟩
    · linarith
    · linarith

/-- With the windows fixed, a step postpones no expiry exactly when the condition holds of it. -/
theorem IsFixed.postpones_iff (hfixed : IsFixed windowSeconds system)
    (htransition : Transition rounding limit windowSeconds system action next) :
    (∀ key, ¬ Postpones system.redis next.redis key) ↔ ExpiresFirst system action := by
  cases htransition with
  | started key => exact iff_of_true (fun _ ↦ not_postpones_of_same (Or.inr rfl)) trivial
  | counted index key hcall =>
    refine iff_of_true (fun other ↦ not_postpones_of_same (Or.inr ?_)) ?_
    · exact congrFun (Store.deadline_incr _ system.redis) other
    · intro call other seconds hother hpending
      obtain rfl := Option.some.inj (hcall.symm.trans hother)
      dsimp only at hpending
      rw [hit_eq] at hpending
      nomatch hpending
  | expired index key pipeline hcall =>
    rw [← not_exists]
    refine (not_congr hfixed.postpones_expire_iff).trans ?_
    push Not
    constructor
    · intro hfirst call other seconds hother hpending
      obtain rfl := Option.some.inj (hcall.symm.trans hother)
      obtain ⟨rfl, -⟩ := Command.expire.inj (Option.some.inj hpending)
      exact hfirst
    · exact fun hfirst ↦ hfirst _ _ _ hcall rfl
  | waited later hle =>
    exact iff_of_true (fun other ↦
      not_postpones_of_same (Store.deadline_wait system.redis later other)) trivial

/-! ### Over every run -/

/-- In the runs whose steps all meet the condition, the next step postpones no expiry exactly when
it meets the condition too. The window that a first `EXPIRE` has opened ends after its length, and a
call on the key is then allowed. -/
theorem window_is_fixed (rounding : TtlRounding) (limit windowSeconds : ℤ) (start : ℚ)
    {system : System}
    (hreaches : Reaches (step rounding limit windowSeconds)
      (fun state action ↦ action.isAnswered = true ∧ ExpiresFirst state action)
      (System.idle start) system) :
    (∀ action next, action.isAnswered = true →
      step rounding limit windowSeconds system action = some next →
      ((∀ key, ¬ Postpones system.redis next.redis key) ↔ ExpiresFirst system action)) ∧
    ∀ key opened, system.openedAt (redisKey key) = some opened →
      system.redis.deadline (redisKey key) = some (opened + windowSeconds) ∧
      system.redis.now < opened + windowSeconds ∧
      (1 ≤ limit → ∀ later, opened + windowSeconds ≤ later →
        (RedisRateLimiter.hitAt rounding later key limit windowSeconds system.redis).1 =
          .ok (true, 0)) := by
  obtain ⟨hcalls, hfixed⟩ := invariant_of_reaches hreaches (fun _ _ hlabel ↦ hlabel.1)
    (isFixed_idle windowSeconds start)
    fun _ _ _ hfixed hlabel htransition ↦ IsFixed.of_transition hfixed htransition hlabel.2
  refine ⟨fun action next hanswered hstep ↦ ?_, fun key opened hopened ↦ ?_⟩
  · exact hfixed.postpones_iff (transition_of_step hcalls hanswered hstep)
  · have hdeadline : system.redis.deadline (redisKey key) = some (opened + windowSeconds) := by
      rw [hfixed.deadline, hopened, Option.map_some]
    refine ⟨hdeadline, Store.lt_deadline hdeadline, fun hlimit later hlater ↦ ?_⟩
    rw [hitAt_of_missing hlimit (Store.get_wait_of_le hdeadline hlater)]

/-- Calls on two keys are under way. One opens its window at once, the other half a minute later,
when a third call is denied by the first window. -/
def overlappingCalls : List Action :=
  [.start "a".toList, .start "b".toList, .command 0 .answered, .command 1 .answered,
    .command 0 .answered, .wait 30, .start "a".toList, .command 2 .answered,
    .command 1 .answered, .wait 45]

/-- The first window ends a minute after it was opened, and a call is then allowed. -/
theorem window_is_fixed_overlappingCalls :
    ∃ system, run (step .nearest 1 60) (System.idle 0) overlappingCalls = some system ∧
      system.openedAt (redisKey "a".toList) = some 0 ∧
      system.openedAt (redisKey "b".toList) = some 30 ∧
      system.redis.deadline (redisKey "a".toList) = some (0 + ((60 : ℤ) : ℚ)) ∧
      system.redis.deadline (redisKey "b".toList) = some (30 + ((60 : ℤ) : ℚ)) ∧
      (RedisRateLimiter.hitAt .nearest 61 "a".toList 1 60 system.redis).1 = .ok (true, 0) := by
  have hopened : (run (step .nearest 1 60) (System.idle 0) overlappingCalls).map (fun system ↦
      (system.openedAt (redisKey "a".toList), system.openedAt (redisKey "b".toList))) =
        some (some 0, some 30) := by
    decide +kernel
  have hmeets : runMeets (step .nearest 1 60)
      (fun state action ↦ action.isAnswered = true ∧ ExpiresFirst state action) (System.idle 0)
        overlappingCalls = true := by
    decide +kernel
  obtain ⟨system, hrun, hread⟩ := Option.map_eq_some_iff.mp hopened
  obtain ⟨hfirst, hsecond⟩ := Prod.mk.inj hread
  obtain ⟨-, hwindow⟩ :=
    window_is_fixed .nearest 1 60 0 (reaches_of_runMeets .start hmeets hrun)
  obtain ⟨hdeadline, -, hallowed⟩ := hwindow "a".toList 0 hfirst
  exact ⟨system, hrun, hfirst, hsecond, hdeadline, (hwindow "b".toList 30 hsecond).1,
    hallowed (by decide) 61 (by norm_num)⟩

/-- Two calls read no time to live. The first sets the expiry, and half a minute later the second
sets it again: it is postponed from 60 to 90. A call that comes a whole window after the first
`EXPIRE` is denied. -/
theorem later_expire_postpones :
    ∃ before after, Reaches (step .nearest 1 60) (fun _ action ↦ action.isAnswered = true)
        (System.idle 0) before ∧
      step .nearest 1 60 before (.command 1 .answered) = some after ∧
      before.openedAt (redisKey "a".toList) = some 0 ∧
      before.redis.deadline (redisKey "a".toList) = some 60 ∧
      after.redis.deadline (redisKey "a".toList) = some 90 ∧
      (RedisRateLimiter.hitAt .nearest 60 "a".toList 1 60 after.redis).1 = .ok (false, 30) := by
  have hbefore : (run (step .nearest 1 60) (System.idle 0)
      [.start "a".toList, .start "a".toList, .command 0 .answered, .command 1 .answered,
        .command 0 .answered, .wait 30]).map (fun before ↦
      (before.openedAt (redisKey "a".toList), before.redis.deadline (redisKey "a".toList))) =
      some (some 0, some 60) := by
    decide +kernel
  have hafter : ((run (step .nearest 1 60) (System.idle 0)
      [.start "a".toList, .start "a".toList, .command 0 .answered, .command 1 .answered,
        .command 0 .answered, .wait 30]).bind (step .nearest 1 60 · (.command 1 .answered))).map
      (fun after ↦ (after.redis.deadline (redisKey "a".toList),
        (RedisRateLimiter.hitAt .nearest 60 "a".toList 1 60 after.redis).1)) =
      some (some 90, .ok (false, 30)) := by
    decide +kernel
  obtain ⟨before, hrun, hread⟩ := Option.map_eq_some_iff.mp hbefore
  obtain ⟨hopened, hdeadline⟩ := Prod.mk.inj hread
  rw [hrun, Option.bind_some] at hafter
  obtain ⟨after, hstep, hlater⟩ := Option.map_eq_some_iff.mp hafter
  obtain ⟨hpostponed, hdenied⟩ := Prod.mk.inj hlater
  exact ⟨before, after, reaches_of_run .start (by simp [Action.isAnswered]) hrun, hstep, hopened,
    hdeadline, hpostponed, hdenied⟩

end PingGuard.RateLimit
