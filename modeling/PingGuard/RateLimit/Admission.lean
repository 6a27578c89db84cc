import PingGuard.RateLimit.Calls

/-!
# How many calls a window admits

Concurrent calls of the limiter on Redis. The pipeline is one step, so the calls whose pipelines ran
between two expirations of a key have read the counts from 1 on, each of them once. A call is
allowed by its count alone, however late it sets the expiry, and whichever window it then sets it
in. At most as many calls as the limit are allowed: `allowed_le_limit`.
-/

set_option autoImplicit false
set_option relaxedAutoImplicit false

namespace PingGuard.RateLimit

open Library.Commands Library.ExpiringStore Library.PyText Library.Transition

/-- Whether a call has returned that it is allowed. -/
def Call.isAllowed (call : Call) : Bool :=
  match call.program with
  | .finished (.ok (allowed, _)) => allowed
  | _ => false

/-- Whether a call is on a key and its pipeline ran in a period of the key. -/
def Call.ranIn (key : PyStr) (period : ℕ) (call : Call) : Bool :=
  decide (call.key = key) && call.pipeline.any fun pipeline ↦ decide (pipeline.period = period)

/-- Whether a pipeline has read a count within the limit. -/
def Call.isWithin (limit : ℤ) (call : Call) : Bool :=
  call.pipeline.any fun pipeline ↦ decide (pipeline.count ≤ limit)

/-- The number of calls whose pipelines have read a count within the limit in a period. -/
def System.places (system : System) (limit : ℤ) (key : PyStr) (period : ℕ) : ℕ :=
  system.calls.countP fun call ↦ call.ranIn key period && call.isWithin limit

variable {rounding : TtlRounding} {limit windowSeconds : ℤ} {system next : System} {action : Action}

/-- A call that is allowed has read a count within the limit. -/
theorem isWithin_of_isAllowed {call : Call} (hcall : IsCall limit windowSeconds call)
    (hallowed : call.isAllowed = true) : call.isWithin limit = true := by
  cases hcall with
  | fresh key =>
    unfold Call.isAllowed at hallowed
    rw [hit_eq] at hallowed
    nomatch hallowed
  | expiring key pipeline => nomatch hallowed
  | returned key pipeline ttl =>
    change (decision pipeline.count ttl limit).1 = true at hallowed
    rw [decision_fst] at hallowed
    exact hallowed

/-! ### Counting -/

/-- A count after an element of a list is replaced. -/
theorem countP_set_add {α : Type} (counted : α → Bool) {elements : List α} {index : ℕ} {old : α}
    (new : α) (hold : elements[index]? = some old) :
    (elements.set index new).countP counted + (if counted old then 1 else 0) =
      elements.countP counted + if counted new then 1 else 0 := by
  obtain ⟨hlength, rfl⟩ := List.getElem?_eq_some_iff.mp hold
  have hset := List.countP_set (p := counted) (a := new) hlength
  have hle : (if counted elements[index] then 1 else 0) ≤ elements.countP counted := by
    split_ifs with hcounted
    · exact List.countP_pos_iff.mpr ⟨_, List.getElem_mem hlength, hcounted⟩
    · exact Nat.zero_le _
  omega

/-- A call that is replaced by one with the same key and the same pipeline leaves the places. -/
theorem countP_set_of_same {calls : List Call} {index : ℕ} {old new : Call} (limit : ℤ)
    (hold : calls[index]? = some old) (hkey : new.key = old.key)
    (hpipeline : new.pipeline = old.pipeline) (key : PyStr) (period : ℕ) :
    ((calls.set index new).countP fun call ↦ call.ranIn key period && call.isWithin limit) =
      calls.countP fun call ↦ call.ranIn key period && call.isWithin limit := by
  have hsame : (new.ranIn key period && new.isWithin limit) =
      (old.ranIn key period && old.isWithin limit) := by
    unfold Call.ranIn Call.isWithin
    rw [hkey, hpipeline]
  have hset := countP_set_add (fun call : Call ↦ call.ranIn key period && call.isWithin limit) new
    hold
  rw [hsame] at hset
  exact Nat.add_right_cancel hset

/-- A key has expired as often as before, or once more, and then it is missing. -/
theorem expirations_moveTo (system : System) (redis : Redis) (calls : List Call) (key : PyStr) :
    (system.moveTo redis calls).expirations key = system.expirations key ∧
        ((redis.get key).isSome ∨ system.redis.get key = none) ∨
      (system.moveTo redis calls).expirations key = system.expirations key + 1 ∧
        redis.get key = none := by
  unfold System.moveTo
  dsimp only
  split_ifs with hgone
  · exact Or.inr ⟨rfl, Option.isNone_iff_eq_none.mp hgone.2⟩
  · refine Or.inl ⟨rfl, ?_⟩
    cases hafter : redis.get key with
    | some entry => exact Or.inl rfl
    | none =>
      rw [hafter] at hgone
      exact Or.inr (Option.not_isSome_iff_eq_none.mp fun hsome ↦ hgone ⟨hsome, rfl⟩)

/-- The places that are taken: never more than the limit, none in a period that has not begun, and
in the present period not more than the count of the key. -/
structure PlacesFit (limit : ℤ) (system : System) : Prop where
  bounded : ∀ key period, (system.places limit key period : ℤ) ≤ limit
  unopened : ∀ key period, system.expirations (redisKey key) < period →
    system.places limit key period = 0
  present : ∀ key, (system.places limit key (system.expirations (redisKey key)) : ℤ) ≤
    count (redisKey key) system.redis

/-- At the start no place is taken. -/
theorem placesFit_idle (hlimit : 0 ≤ limit) (start : ℚ) : PlacesFit limit (System.idle start) where
  bounded := fun _ _ ↦ hlimit
  unopened := fun _ _ _ ↦ rfl
  present := fun _ ↦ le_rfl

/-- The count of a key that is missing is zero. -/
theorem count_of_missing {redis : Redis} {key : PyStr} (hmissing : redis.get key = none) :
    count key redis = 0 := by
  rw [count, hmissing, Option.map_none, Option.getD_none]

/-- The places still fit after a step that takes none, if every key is gone or has the same count.
-/
theorem PlacesFit.kept {redis : Redis} {calls : List Call} (hfit : PlacesFit limit system)
    (hplaces : ∀ key period,
      (system.moveTo redis calls).places limit key period = system.places limit key period)
    (hkept : ∀ key, redis.get key = none ∨ count key redis = count key system.redis) :
    PlacesFit limit (system.moveTo redis calls) where
  bounded := fun key period ↦ (hplaces key period).symm ▸ hfit.bounded key period
  unopened := by
    intro key period hlt
    rw [hplaces]
    refine hfit.unopened key period ?_
    rcases expirations_moveTo system redis calls (redisKey key) with ⟨hsame, -⟩ | ⟨hmore, -⟩
    · omega
    · omega
  present := by
    intro key
    rw [hplaces]
    rcases expirations_moveTo system redis calls (redisKey key) with
      ⟨hsame, hthere⟩ | ⟨hmore, hgone⟩
    · rw [hsame]
      rcases hkept (redisKey key) with hgone | hcount
      · have hmissing := hthere.resolve_left fun hsome ↦ by
          rw [hgone] at hsome
          nomatch hsome
        have hpresent := hfit.present key
        rw [count_of_missing hmissing] at hpresent
        exact hpresent.trans (count_of_missing hgone).ge
      · exact (hfit.present key).trans hcount.ge
    · rw [hmore, hfit.unopened key _ (Nat.lt_succ_self _)]
      exact (count_of_missing hgone).ge

/-- Time takes a key away, or leaves its count. -/
theorem count_wait (redis : Redis) (later : ℚ) (key : PyStr) :
    (redis.wait later).get key = none ∨ count key (redis.wait later) = count key redis := by
  refine (Store.get_wait_eq redis later key).imp_right fun hsame ↦ ?_
  rw [count, hsame, count]

/-- Setting an expiry takes a key away, or leaves its count. -/
theorem count_expire (redis : Redis) (key other : PyStr) (deadline : ℚ) :
    (redis.expire key deadline).get other = none ∨
      count other (redis.expire key deadline) = count other redis := by
  by_cases hother : other = key
  · subst hother
    cases hafter : (redis.expire other deadline).get other with
    | none => exact Or.inl rfl
    | some entry =>
      rw [Store.get_expire_self] at hafter
      obtain ⟨before, hbefore, rfl⟩ := Option.map_eq_some_iff.mp (eq_some_of_liveAt hafter).1
      refine Or.inr ?_
      rw [count, Store.get_expire_self, hafter, count, hbefore]
      rfl
  · refine Or.inr ?_
    rw [count, Store.get_expire_of_ne hother, count]

/-- An increment takes no key away. -/
theorem expirations_incr (system : System) (key : PyStr) (calls : List Call) :
    (system.moveTo (system.redis.incr key) calls).expirations = system.expirations := by
  funext other
  refine if_neg fun hgone ↦ ?_
  by_cases hother : other = key
  · rw [hother, Store.get_incr_self] at hgone
    nomatch hgone.2
  · rw [Store.get_incr_of_ne hother, Option.isNone_iff_eq_none] at hgone
    rw [hgone.2] at hgone
    nomatch hgone.1

/-- A call that starts takes no place. -/
theorem PlacesFit.started {call : Call} (hfit : PlacesFit limit system)
    (hnone : call.pipeline = none) :
    PlacesFit limit { system with calls := system.calls ++ [call] } := by
  have hplaces (key : PyStr) (period : ℕ) :
      ({ system with calls := system.calls ++ [call] } : System).places limit key period =
        system.places limit key period := by
    unfold System.places
    rw [List.countP_append, List.countP_singleton, Call.isWithin, hnone, Option.any_none,
      Bool.and_false]
    rfl
  constructor
  · intro key period
    rw [hplaces]
    exact hfit.bounded key period
  · intro key period hlt
    rw [hplaces]
    exact hfit.unopened key period hlt
  · intro key
    rw [hplaces]
    exact hfit.present key

/-- A pipeline reads one more than the count. -/
theorem count_read (system : System) (key : PyStr) :
    (system.read key).count = count (redisKey key) system.redis + 1 := by
  unfold System.read count
  cases system.redis.get (redisKey key) <;> rfl

/-- The pipeline of a call takes a place of its key and its period, if its count is within the
limit. -/
theorem places_afterPipeline {index : ℕ} {key : PyStr} {call : Call}
    (hcall : system.calls[index]? = some call) (hnone : call.pipeline = none) (other : PyStr)
    (period : ℕ) :
    (system.moveTo (system.redis.incr (redisKey key)) (system.calls.set index
        (system.afterPipeline rounding limit windowSeconds key))).places limit other period =
      system.places limit other period +
        if key = other ∧ system.expirations (redisKey key) = period ∧
          (system.read key).count ≤ limit then 1 else 0 := by
  have hset := countP_set_add (fun call : Call ↦ call.ranIn other period && call.isWithin limit)
    (system.afterPipeline rounding limit windowSeconds key) hcall
  have hold : (call.ranIn other period && call.isWithin limit) = false := by
    rw [Call.isWithin, hnone, Option.any_none, Bool.and_false]
  have hnew : ((system.afterPipeline rounding limit windowSeconds key).ranIn other period &&
      (system.afterPipeline rounding limit windowSeconds key).isWithin limit) = true ↔
      key = other ∧ system.expirations (redisKey key) = period ∧
        (system.read key).count ≤ limit := by
    unfold Call.ranIn Call.isWithin System.afterPipeline
    simp only [Option.any_some, Bool.and_eq_true, decide_eq_true_eq, and_assoc]
    rfl
  rw [hold] at hset
  simp only [hnew] at hset
  exact hset

/-- The places still fit after a pipeline. -/
theorem PlacesFit.counted {index : ℕ} {key : PyStr} {call : Call} (hfit : PlacesFit limit system)
    (hcall : system.calls[index]? = some call) (hnone : call.pipeline = none) :
    PlacesFit limit (system.moveTo (system.redis.incr (redisKey key))
      (system.calls.set index (system.afterPipeline rounding limit windowSeconds key))) where
  bounded := by
    intro other period
    rw [places_afterPipeline hcall hnone]
    split_ifs with hplace
    · obtain ⟨rfl, rfl, hwithin⟩ := hplace
      have hpresent := hfit.present key
      rw [count_read] at hwithin
      push_cast
      omega
    · exact hfit.bounded other period
  unopened := by
    intro other period hlt
    rw [expirations_incr] at hlt
    rw [places_afterPipeline hcall hnone, if_neg, hfit.unopened other period hlt]
    rintro ⟨rfl, rfl, -⟩
    exact Nat.lt_irrefl _ hlt
  present := by
    intro other
    rw [expirations_incr, places_afterPipeline hcall hnone]
    have hpresent := hfit.present other
    by_cases hother : key = other
    · subst hother
      have hcount : count (redisKey key) (system.redis.incr (redisKey key)) =
          count (redisKey key) system.redis + 1 := by
        rw [count_incr]
        exact count_read system key
      change _ ≤ count (redisKey key) (system.redis.incr (redisKey key))
      rw [hcount]
      split_ifs with hplace <;> push_cast <;> omega
    · rw [if_neg fun hplace ↦ hother hplace.1, Nat.add_zero]
      change _ ≤ count (redisKey other) (system.redis.incr (redisKey key))
      rw [count, Store.get_incr_of_ne (mt redisKey_inj.mp (Ne.symm hother))]
      exact hpresent

/-! ### Over every run -/

/-- A step leaves the places within the limit. -/
theorem PlacesFit.of_transition (hfit : PlacesFit limit system)
    (htransition : Transition rounding limit windowSeconds system action next) :
    PlacesFit limit next := by
  cases htransition with
  | started key => exact hfit.started rfl
  | counted index key hcall => exact hfit.counted hcall rfl
  | expired index key pipeline hcall =>
    exact hfit.kept (countP_set_of_same limit hcall rfl rfl)
      fun other ↦ count_expire system.redis (redisKey key) other _
  | waited later hle =>
    exact hfit.kept (fun _ _ ↦ rfl) fun other ↦ count_wait system.redis later other

/-- At most as many calls as the limit are allowed among those whose pipelines ran in one period of
a key, between two expirations of it. -/
theorem allowed_le_limit (rounding : TtlRounding) (limit windowSeconds : ℤ) (hlimit : 1 ≤ limit)
    (start : ℚ) {system : System}
    (hreaches : Reaches (step rounding limit windowSeconds)
      (fun _ action ↦ action.isAnswered = true) (System.idle start) system)
    (key : PyStr) (period : ℕ) :
    ((system.calls.countP fun call ↦ call.ranIn key period && call.isAllowed : ℕ) : ℤ) ≤ limit := by
  obtain ⟨hcalls, hfit⟩ := invariant_of_reaches hreaches (fun _ _ hlabel ↦ hlabel)
    (placesFit_idle (by omega) start)
    fun _ _ _ hfit _ htransition ↦ PlacesFit.of_transition hfit htransition
  have hplaces : (system.calls.countP fun call ↦ call.ranIn key period && call.isAllowed) ≤
      system.places limit key period := by
    refine List.countP_mono_left fun call hcall hboth ↦ ?_
    obtain ⟨hran, hallowed⟩ := Bool.and_eq_true_iff.mp hboth
    exact Bool.and_eq_true_iff.mpr ⟨hran, isWithin_of_isAllowed (hcalls call hcall) hallowed⟩
  exact (Int.ofNat_le.mpr hplaces).trans (hfit.bounded key period)

/-- Two calls run their pipelines before one of them sets the expiry. With a limit of one, one of
the two is allowed. -/
theorem allowed_le_limit_two_calls :
    ∃ system, run (step .nearest 1 60) (System.idle 0)
        [.start "a".toList, .start "a".toList, .command 0 .answered, .command 1 .answered,
          .command 0 .answered, .command 1 .answered] = some system ∧
      (system.calls.countP fun call ↦ call.ranIn "a".toList 0) = 2 ∧
      ((system.calls.countP fun call ↦
        call.ranIn "a".toList 0 && call.isAllowed : ℕ) : ℤ) ≤ 1 := by
  have hrun : (run (step .nearest 1 60) (System.idle 0)
      [.start "a".toList, .start "a".toList, .command 0 .answered, .command 1 .answered,
        .command 0 .answered, .command 1 .answered]).map (fun system ↦
      system.calls.countP fun call ↦ call.ranIn "a".toList 0) = some 2 := by
    decide +kernel
  obtain ⟨system, hsystem, hran⟩ := Option.map_eq_some_iff.mp hrun
  refine ⟨system, hsystem, hran, ?_⟩
  refine allowed_le_limit .nearest 1 60 (by decide) 0 ?_ _ 0
  exact reaches_of_run .start (by simp [Action.isAnswered]) hsystem

end PingGuard.RateLimit
