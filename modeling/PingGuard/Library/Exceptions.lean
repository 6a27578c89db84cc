import Mathlib.Tactic.Common

/-!
# Exceptions

`try` statements for computations that may raise. `tryExcept` handles the exceptions of some classes
and raises the others again; `try … finally` is `tryFinally`. What a computation has done to its
state before it raises stays done.

`Meets` states what a computation over a state guarantees, where it returns and where it raises,
with one rule for every way to build a computation. `Agree` states that two computations without a
state end alike: they raise the same exception, or return related values. It has rules of the same
kind.
-/

set_option autoImplicit false
set_option relaxedAutoImplicit false

namespace PingGuard.Library.Exceptions

variable {ε σ α β : Type}

/-! ### Statements -/

/-- `try: body except <classes>: handler`. -/
def tryExcept {m : Type → Type} [Monad m] [MonadExceptOf ε m] (handles : ε → Bool) (body : m α)
    (handler : ε → m α) : m α :=
  tryCatch body fun raised ↦ if handles raised then handler raised else throw raised

/-- `if condition: raise raised`. -/
def raiseIf {m : Type → Type} [Monad m] [MonadExcept ε m] (condition : Bool) (raised : ε) :
    m Unit :=
  if condition then throw raised else pure ()

/-! ### What a computation guarantees -/

/-- A computation has ended with a value as `post` says, or with an exception as `raises` says. -/
def Ends (post : α → σ → Prop) (raises : ε → σ → Prop) : EStateM.Result ε σ α → Prop
  | .ok value after => post value after
  | .error raised after => raises raised after

/-- From a state with `pre`, a computation returns with `post` or raises with `raises`. -/
def Meets (pre : σ → Prop) (computation : EStateM ε σ α) (post : α → σ → Prop)
    (raises : ε → σ → Prop) : Prop :=
  ∀ before, pre before → Ends post raises (computation before)

variable {pre : σ → Prop} {post : α → σ → Prop} {raises : ε → σ → Prop}

/-- A stronger demand at the start and weaker promises at the end. -/
theorem Meets.mono {pre' : σ → Prop} {post' : α → σ → Prop} {raises' : ε → σ → Prop}
    {computation : EStateM ε σ α} (hmeets : Meets pre computation post raises)
    (hpre : ∀ state, pre' state → pre state)
    (hpost : ∀ value state, post value state → post' value state)
    (hraises : ∀ raised state, raises raised state → raises' raised state) :
    Meets pre' computation post' raises' := by
  intro before hbefore
  have hend := hmeets before (hpre before hbefore)
  cases hrun : computation before with
  | ok value after =>
    rw [hrun] at hend
    exact hpost value after hend
  | error raised after =>
    rw [hrun] at hend
    exact hraises raised after hend

/-- A weaker promise where a computation raises. -/
theorem Meets.raising {raises' : ε → σ → Prop} {computation : EStateM ε σ α}
    (hmeets : Meets pre computation post raises)
    (hraises : ∀ raised state, raises raised state → raises' raised state) :
    Meets pre computation post raises' :=
  hmeets.mono (fun _ hpre ↦ hpre) (fun _ _ hpost ↦ hpost) hraises

/-- A fact about the start may be assumed. -/
theorem Meets.assuming {fact : Prop} {computation : EStateM ε σ α}
    (hmeets : fact → Meets pre computation post raises) :
    Meets (fun state ↦ fact ∧ pre state) computation post raises :=
  fun before hbefore ↦ hmeets hbefore.1 before hbefore.2

/-- A value is returned in the state as it is. -/
theorem meets_pure {value : α} (hpost : ∀ state, pre state → post value state) :
    Meets pre (pure value) post raises := hpost

/-- An exception is raised in the state as it is. -/
theorem meets_throw {raised : ε} (hraises : ∀ state, pre state → raises raised state) :
    Meets pre (throw raised : EStateM ε σ α) post raises := hraises

/-- The state is read. -/
theorem meets_get {post : σ → σ → Prop} (hpost : ∀ state, pre state → post state state) :
    Meets pre (get : EStateM ε σ σ) post raises := hpost

/-- The state is changed. -/
theorem meets_modify {change : σ → σ} {post : PUnit → σ → Prop}
    (hpost : ∀ state, pre state → post ⟨⟩ (change state)) :
    Meets pre (modify change : EStateM ε σ PUnit) post raises := hpost

/-- One computation after another. -/
theorem Meets.bind {middle : β → σ → Prop} {first : EStateM ε σ β} {next : β → EStateM ε σ α}
    (hfirst : Meets pre first middle raises)
    (hnext : ∀ value, Meets (middle value) (next value) post raises) :
    Meets pre (first >>= next) post raises := by
  intro before hbefore
  have hmiddle := hfirst before hbefore
  change Ends post raises (EStateM.bind first next before)
  unfold EStateM.bind
  cases hrun : first before with
  | ok value after =>
    rw [hrun] at hmiddle
    exact hnext value after hmiddle
  | error raised after =>
    rw [hrun] at hmiddle
    exact hmiddle

/-- The handler starts where the body raises an exception that it handles. -/
theorem Meets.tryExcept {handles : ε → Bool} {body : EStateM ε σ α}
    {handler : ε → EStateM ε σ α} {caught : ε → σ → Prop} (hbody : Meets pre body post caught)
    (hhandler : ∀ raised, handles raised = true →
      Meets (caught raised) (handler raised) post raises)
    (hraises : ∀ raised state, handles raised = false → caught raised state →
      raises raised state) : Meets pre (tryExcept handles body handler) post raises := by
  intro before hbefore
  have hend := hbody before hbefore
  change Ends post raises (EStateM.tryCatch body
    (fun raised ↦ if handles raised then handler raised else throw raised) before)
  unfold EStateM.tryCatch
  cases hrun : body before with
  | ok value after =>
    rw [hrun] at hend
    exact hend
  | error raised after =>
    rw [hrun] at hend
    dsimp only
    cases hhandles : handles raised with
    | true => exact hhandler raised hhandles after hend
    | false => exact hraises raised after hhandles hend

/-- The cleanup runs after the body, however that ends. What the cleanup raises replaces what the
body has raised. -/
theorem Meets.tryFinally {body : EStateM ε σ α} {cleanup : EStateM ε σ PUnit}
    {returned : α → σ → Prop} {raised : ε → σ → Prop}
    (hbody : Meets pre body returned raised)
    (hreturned : ∀ value, Meets (returned value) cleanup (fun _ ↦ post value) raises)
    (hraised : ∀ error, Meets (raised error) cleanup (fun _ ↦ raises error) raises) :
    Meets pre (tryFinally body cleanup) post raises := by
  intro before hbefore
  have hend := hbody before hbefore
  change Ends post raises
    (EStateM.map Prod.fst (MonadFinally.tryFinally' body fun _ ↦ cleanup) before)
  unfold EStateM.map
  simp only [MonadFinally.tryFinally']
  cases hrun : body before with
  | ok value after =>
    rw [hrun] at hend
    have hlast := hreturned value after hend
    cases hcleanup : cleanup after with
    | ok done last =>
      rw [hcleanup] at hlast
      simp only [hcleanup]
      exact hlast
    | error other last =>
      rw [hcleanup] at hlast
      simp only [hcleanup]
      exact hlast
  | error error after =>
    rw [hrun] at hend
    have hlast := hraised error after hend
    cases hcleanup : cleanup after with
    | ok done last =>
      rw [hcleanup] at hlast
      simp only [hcleanup]
      exact hlast
    | error other last =>
      rw [hcleanup] at hlast
      simp only [hcleanup]
      exact hlast

/-! ### What a computation comes to -/

/-- The state in which a computation ends, by returning or by raising. -/
def finalState : EStateM.Result ε σ α → σ
  | .ok _ after => after
  | .error _ after => after

section From

variable {before middle after : σ} {value : α} {raised : ε}

/-- After a computation that returns, the next one goes on from there. -/
theorem bind_of_ok {first : EStateM ε σ β} {next : β → EStateM ε σ α} {returned : β}
    (hfirst : first before = .ok returned middle) :
    (first >>= next) before = next returned middle := by
  change EStateM.bind first next before = _
  unfold EStateM.bind
  rw [hfirst]

/-- After a computation that raises nothing follows. -/
theorem bind_of_error {first : EStateM ε σ β} {next : β → EStateM ε σ α}
    (hfirst : first before = .error raised middle) :
    (first >>= next) before = .error raised middle := by
  change EStateM.bind first next before = _
  unfold EStateM.bind
  rw [hfirst]

/-- Where what follows changes nothing, the first computation leaves the state. -/
theorem finalState_bind {first : EStateM ε σ β} {next : β → EStateM ε σ α}
    (hnext : ∀ returned state, finalState (next returned state) = state) (before : σ) :
    finalState ((first >>= next) before) = finalState (first before) := by
  cases hfirst : first before with
  | ok returned middle =>
    rw [bind_of_ok hfirst]
    exact hnext returned middle
  | error raised middle => rw [bind_of_error hfirst]; rfl

/-- A `try` statement whose body returns. -/
theorem tryExcept_of_ok {handles : ε → Bool} {body : EStateM ε σ α}
    {handler : ε → EStateM ε σ α} (hbody : body before = .ok value after) :
    tryExcept handles body handler before = .ok value after := by
  change EStateM.tryCatch body _ before = _
  unfold EStateM.tryCatch
  rw [hbody]

/-- A value is returned as it is. -/
theorem pure_eq_ok_iff {value returned : α} :
    (pure value : Except ε α) = .ok returned ↔ value = returned :=
  ⟨Except.ok.inj, congrArg Except.ok⟩

/-- A `try` statement whose body raises. -/
theorem tryExcept_of_error {handles : ε → Bool} {body : EStateM ε σ α}
    {handler : ε → EStateM ε σ α} (hbody : body before = .error raised middle) :
    tryExcept handles body handler before =
      if handles raised then handler raised middle else .error raised middle := by
  change EStateM.tryCatch body _ before = _
  unfold EStateM.tryCatch
  rw [hbody]
  cases hhandles : handles raised <;> simp only [hhandles] <;> rfl

/-- A cleanup that returns leaves what its body comes to. -/
theorem tryFinally_of_ok {body : EStateM ε σ α} {cleanup : EStateM ε σ PUnit}
    (hbody : body before = .ok value middle) (hcleanup : cleanup middle = .ok ⟨⟩ after) :
    tryFinally body cleanup before = .ok value after := by
  change EStateM.map Prod.fst (MonadFinally.tryFinally' body fun _ ↦ cleanup) before = _
  unfold EStateM.map
  simp only [MonadFinally.tryFinally', hbody, hcleanup]

/-- A cleanup that raises after a body that returns. -/
theorem tryFinally_of_cleanup {body : EStateM ε σ α} {cleanup : EStateM ε σ PUnit}
    (hbody : body before = .ok value middle) (hcleanup : cleanup middle = .error raised after) :
    tryFinally body cleanup before = .error raised after := by
  change EStateM.map Prod.fst (MonadFinally.tryFinally' body fun _ ↦ cleanup) before = _
  unfold EStateM.map
  simp only [MonadFinally.tryFinally', hbody, hcleanup]

/-- A cleanup that returns after a body that raises. -/
theorem tryFinally_of_error {body : EStateM ε σ α} {cleanup : EStateM ε σ PUnit}
    (hbody : body before = .error raised middle) (hcleanup : cleanup middle = .ok ⟨⟩ after) :
    tryFinally body cleanup before = .error raised after := by
  change EStateM.map Prod.fst (MonadFinally.tryFinally' body fun _ ↦ cleanup) before = _
  unfold EStateM.map
  simp only [MonadFinally.tryFinally', hbody, hcleanup]

end From

/-! ### What a computation returns -/

/-- One computation after another returns what the second one returns. -/
theorem bind_eq_ok_iff {first : Except ε β} {next : β → Except ε α} {value : α} :
    (first >>= next) = .ok value ↔ ∃ middle, first = .ok middle ∧ next middle = .ok value := by
  cases first with
  | ok middle => exact ⟨fun h ↦ ⟨middle, rfl, h⟩, fun ⟨_, heq, h⟩ ↦ Except.ok.inj heq ▸ h⟩
  | error raised => exact ⟨fun h ↦ (nomatch h), fun ⟨_, heq, _⟩ ↦ (nomatch heq)⟩

/-- A `try` statement whose body raises. -/
theorem tryExcept_error (handles : ε → Bool) (raised : ε) (handler : ε → Except ε α) :
    tryExcept handles (.error raised) handler =
      if handles raised then handler raised else .error raised :=
  rfl

/-- A `try` statement returns what its body returns, or what its handler returns. -/
theorem tryExcept_eq_ok_iff {handles : ε → Bool} {body : Except ε α} {handler : ε → Except ε α}
    {value : α} :
    tryExcept handles body handler = .ok value ↔ body = .ok value ∨
      ∃ raised, body = .error raised ∧ handles raised = true ∧ handler raised = .ok value := by
  cases body with
  | ok returned => exact ⟨Or.inl, fun h ↦ h.elim id fun ⟨_, heq, _⟩ ↦ nomatch heq⟩
  | error raised =>
    simp only [tryExcept_error, reduceCtorEq, Except.error.injEq, false_or, exists_eq_left']
    cases handles raised with
    | true => simp
    | false => simp

/-- A `try` statement whose handler raises returns what its body returns. -/
theorem eq_ok_of_tryExcept_eq_ok {handles : ε → Bool} {body : Except ε α}
    {handler : ε → Except ε α} {value : α} (htry : tryExcept handles body handler = .ok value)
    (hraises : ∀ raised, handler raised ≠ .ok value) : body = .ok value := by
  rcases tryExcept_eq_ok_iff.mp htry with hbody | ⟨raised, -, -, hhandler⟩
  · exact hbody
  · exact absurd hhandler (hraises raised)

/-- A condition is passed where it does not hold. -/
theorem raiseIf_eq_ok_iff {condition : Bool} {raised : ε} {done : Unit} :
    (raiseIf condition raised : Except ε Unit) = .ok done ↔ condition = false := by
  cases condition with
  | true => exact ⟨fun h ↦ (nomatch h), fun h ↦ (nomatch h)⟩
  | false => exact ⟨fun _ ↦ rfl, fun _ ↦ rfl⟩

/-- A condition before other statements. -/
theorem raiseIf_bind (condition : Bool) (raised : ε) (next : Unit → Except ε α) :
    (raiseIf condition raised >>= next) = if condition then .error raised else next () := by
  cases condition <;> rfl

/-- A `for` loop without a result returns where every round does. -/
theorem forM_eq_ok_iff {round : β → Except ε Unit} {values : List β} {done : Unit} :
    values.forM round = .ok done ↔ ∀ value ∈ values, round value = .ok () := by
  induction values with
  | nil => exact ⟨fun _ _ h ↦ absurd h List.not_mem_nil, fun _ ↦ rfl⟩
  | cons value rest ih =>
    change (round value >>= fun _ ↦ rest.forM round) = _ ↔ _
    rw [bind_eq_ok_iff, List.forall_mem_cons, ← ih]
    exact ⟨fun ⟨_, hround, hrest⟩ ↦ ⟨hround, hrest⟩, fun ⟨hround, hrest⟩ ↦ ⟨_, hround, hrest⟩⟩

/-- A `for` loop that computes something of every value and takes it into a state returns where
every computation does. -/
theorem foldlM_eq_ok_iff {compute : β → Except ε α} {take : σ → α → σ} {values : List β}
    {state final : σ} :
    values.foldlM (fun state value ↦ compute value >>= fun computed ↦ pure (take state computed))
        state = (.ok final : Except ε σ) ↔
      ∃ computed, List.Forall₂ (fun value result ↦ compute value = .ok result) values computed ∧
        computed.foldl take state = final := by
  induction values generalizing state with
  | nil =>
    rw [List.foldlM_nil]
    constructor
    · intro hfinal
      exact ⟨[], .nil, Except.ok.inj hfinal⟩
    · rintro ⟨computed, hcomputed, hfinal⟩
      cases hcomputed
      exact congrArg Except.ok hfinal
  | cons value rest ih =>
    rw [List.foldlM_cons, bind_eq_ok_iff]
    constructor
    · rintro ⟨next, hnext, hrest⟩
      obtain ⟨result, hresult, htaken⟩ := bind_eq_ok_iff.mp hnext
      obtain ⟨computed, hcomputed, hfinal⟩ := ih.mp hrest
      obtain rfl := Except.ok.inj htaken
      exact ⟨result :: computed, .cons hresult hcomputed, hfinal⟩
    · rintro ⟨computed, hcomputed, hfinal⟩
      cases hcomputed with
      | cons hresult hrest =>
        exact ⟨_, bind_eq_ok_iff.mpr ⟨_, hresult, rfl⟩, ih.mpr ⟨_, hrest, hfinal⟩⟩

/-! ### Computations that end alike -/

/-- Two computations raise the same exception or return related values. -/
inductive Agree (related : α → β → Prop) : Except ε α → Except ε β → Prop
  | returned {value : α} {other : β} (hrelated : related value other) :
    Agree related (.ok value) (.ok other)
  | raised (raised : ε) : Agree related (.error raised) (.error raised)

/-- A computation agrees with itself. -/
theorem agree_self (computation : Except ε α) : Agree Eq computation computation := by
  cases computation with
  | ok value => exact .returned rfl
  | error raised => exact .raised raised

/-- What the first computation is known to return may be added. -/
theorem Agree.returning {related : α → β → Prop} {returned : α → Prop}
    {computation : Except ε α} {other : Except ε β} (hagree : Agree related computation other)
    (hreturned : ∀ value, computation = .ok value → returned value) :
    Agree (fun value otherValue ↦ related value otherValue ∧ returned value) computation other := by
  cases hagree with
  | returned hrelated => exact .returned ⟨hrelated, hreturned _ rfl⟩
  | raised raised => exact .raised raised

/-- A computation that returns a function of what another one returns is the image of that. -/
theorem Agree.eq_map {related : α → β → Prop} {computation : Except ε α} {other : Except ε β}
    (hagree : Agree related computation other) {convert : α → β}
    (hrelated : ∀ value otherValue, related value otherValue → otherValue = convert value) :
    other = computation.map convert := by
  cases hagree with
  | returned hvalues => exact congrArg Except.ok (hrelated _ _ hvalues)
  | raised raised => rfl

/-- Two sequences agree when their parts do. -/
theorem Agree.bind {γ δ : Type} {related : α → β → Prop} {relatedNext : γ → δ → Prop}
    {first : Except ε α} {other : Except ε β} {next : α → Except ε γ} {otherNext : β → Except ε δ}
    (hfirst : Agree related first other)
    (hnext : ∀ value otherValue, related value otherValue →
      Agree relatedNext (next value) (otherNext otherValue)) :
    Agree relatedNext (first >>= next) (other >>= otherNext) := by
  cases hfirst with
  | returned hrelated => exact hnext _ _ hrelated
  | raised raised => exact .raised raised

/-- Two sequences agree that start alike and go on alike. -/
theorem agree_bind {γ δ : Type} {related : γ → δ → Prop} {first : Except ε α}
    {next : α → Except ε γ} {otherNext : α → Except ε δ}
    (hnext : ∀ value, first = .ok value → Agree related (next value) (otherNext value)) :
    Agree related (first >>= next) (first >>= otherNext) := by
  cases first with
  | ok value => exact hnext value rfl
  | error raised => exact .raised raised

/-- Two `try` statements agree when their bodies and their handlers do. -/
theorem Agree.tryExcept {related : α → β → Prop} {handles : ε → Bool} {body : Except ε α}
    {other : Except ε β} {handler : ε → Except ε α} {otherHandler : ε → Except ε β}
    (hbody : Agree related body other)
    (hhandler : ∀ raised, Agree related (handler raised) (otherHandler raised)) :
    Agree related (tryExcept handles body handler) (tryExcept handles other otherHandler) := by
  cases hbody with
  | returned hrelated => exact .returned hrelated
  | raised raised =>
    rw [tryExcept_error, tryExcept_error]
    cases handles raised with
    | true => exact hhandler raised
    | false => exact .raised raised

end PingGuard.Library.Exceptions
