import Mathlib.Tactic.Common

/-!
# Labelled transitions

A system given by a partial step function over labels: the run of a list of labels, the states
reached by steps that meet a condition, and the invariant rule. The condition may speak of the
state before the step, so that a property can be claimed for exactly the runs whose steps meet it.
Where the steps make a measure smaller, runs end, and some run comes to rest.

The last section is about total machines that put something out for every input: the invariant rule,
the inputs that can be left out, the simulation rules for two machines, and the rule for a machine
on images of states.
-/

set_option autoImplicit false
set_option relaxedAutoImplicit false

namespace PingGuard.Library.Transition

variable {σ α : Type} {step : σ → α → Option σ}

/-- The state after a list of steps, if every one of them is enabled. -/
def run (step : σ → α → Option σ) (state : σ) : List α → Option σ
  | [] => some state
  | label :: rest => (step state label).bind (run step · rest)

/-- The states reached from a start by steps that meet a condition. -/
inductive Reaches (step : σ → α → Option σ) (allowed : σ → α → Prop) (start : σ) : σ → Prop
  | start : Reaches step allowed start start
  | step {state next : σ} {label : α} (hreaches : Reaches step allowed start state)
      (hallowed : allowed state label) (hstep : step state label = some next) :
      Reaches step allowed start next

/-- What holds of the start and is preserved by every allowed step holds of every state reached. -/
theorem Reaches.invariant {allowed : σ → α → Prop} {start state : σ} {motive : σ → Prop}
    (hreaches : Reaches step allowed start state) (hstart : motive start)
    (hstep : ∀ state label next, motive state → allowed state label →
      step state label = some next → motive next) : motive state := by
  induction hreaches with
  | start => exact hstart
  | step _ hallowed hnext ih => exact hstep _ _ _ ih hallowed hnext

/-- The end of a run whose labels are allowed in every state is reached. -/
theorem reaches_of_run {allowed : σ → α → Prop} {start state final : σ} {labels : List α}
    (hreaches : Reaches step allowed start state)
    (hallowed : ∀ label ∈ labels, ∀ state, allowed state label)
    (hrun : run step state labels = some final) : Reaches step allowed start final := by
  induction labels generalizing state with
  | nil =>
    obtain rfl := Option.some.inj hrun
    exact hreaches
  | cons label rest ih =>
    obtain ⟨next, hstep, hrest⟩ := Option.bind_eq_some_iff.mp hrun
    exact ih (hreaches.step (hallowed label List.mem_cons_self state) hstep)
      (fun other hother ↦ hallowed other (List.mem_cons_of_mem _ hother)) hrest

/-- Whether every step of a run is enabled and meets a condition that can be decided. -/
def runMeets (step : σ → α → Option σ) (allowed : σ → α → Prop)
    [∀ state label, Decidable (allowed state label)] (state : σ) : List α → Bool
  | [] => true
  | label :: rest =>
    decide (allowed state label) && (step state label).any (runMeets step allowed · rest)

/-- The end of a run whose steps meet the condition is reached. -/
theorem reaches_of_runMeets {allowed : σ → α → Prop}
    [∀ state label, Decidable (allowed state label)] {start state final : σ} {labels : List α}
    (hreaches : Reaches step allowed start state)
    (hmeets : runMeets step allowed state labels = true)
    (hrun : run step state labels = some final) : Reaches step allowed start final := by
  induction labels generalizing state with
  | nil =>
    obtain rfl := Option.some.inj hrun
    exact hreaches
  | cons label rest ih =>
    obtain ⟨next, hstep, hrest⟩ := Option.bind_eq_some_iff.mp hrun
    rw [runMeets, hstep, Option.any_some, Bool.and_eq_true, decide_eq_true_eq] at hmeets
    exact ih (hreaches.step hmeets.1 hstep) hmeets.2 hrest

/-! ### Runs that end -/

/-- No step that meets a condition is enabled. -/
def AtRest (step : σ → α → Option σ) (allowed : α → Prop) (state : σ) : Prop :=
  ∀ label, allowed label → step state label = none

/-- The states after a list of steps and a further list. -/
theorem run_append {state middle : σ} {first second : List α}
    (hfirst : run step state first = some middle) :
    run step state (first ++ second) = run step middle second := by
  induction first generalizing state with
  | nil =>
    obtain rfl := Option.some.inj hfirst
    rfl
  | cons label rest ih =>
    obtain ⟨next, hstep, hrest⟩ := Option.bind_eq_some_iff.mp hfirst
    rw [List.cons_append, run, hstep]
    exact ih hrest

section Rest

variable {allowed : α → Prop} {measure : σ → ℕ}

/-- Where every allowed step makes a measure smaller, a run of allowed steps takes its length from
the measure. -/
theorem length_add_measure_le_of_run
    (hsmaller : ∀ state label next, allowed label → step state label = some next →
      measure next < measure state)
    {state final : σ} {labels : List α} (hallowed : ∀ label ∈ labels, allowed label)
    (hrun : run step state labels = some final) :
    labels.length + measure final ≤ measure state := by
  induction labels generalizing state with
  | nil =>
    obtain rfl := Option.some.inj hrun
    exact Nat.le_of_eq (Nat.zero_add _)
  | cons label rest ih =>
    obtain ⟨next, hstep, hrest⟩ := Option.bind_eq_some_iff.mp hrun
    have hnext := hsmaller state label next (hallowed label List.mem_cons_self) hstep
    have hlength := ih (fun other hother ↦ hallowed other (List.mem_cons_of_mem _ hother)) hrest
    rw [List.length_cons]
    omega

/-- Where every allowed step makes a measure smaller, some run of allowed steps comes to rest. -/
theorem exists_run_atRest
    (hsmaller : ∀ state label next, allowed label → step state label = some next →
      measure next < measure state) (state : σ) :
    ∃ labels final, (∀ label ∈ labels, allowed label) ∧ run step state labels = some final ∧
      AtRest step allowed final := by
  induction hmeasure : measure state using Nat.strongRecOn generalizing state with
  | ind bound ih =>
    by_cases hrest : AtRest step allowed state
    · exact ⟨[], state, List.forall_mem_nil _, rfl, hrest⟩
    · unfold AtRest at hrest
      push Not at hrest
      obtain ⟨label, hallowed, henabled⟩ := hrest
      obtain ⟨next, hstep⟩ := Option.ne_none_iff_exists'.mp henabled
      obtain ⟨rest, final, hrestAllowed, hrun, hfinal⟩ :=
        ih (measure next) (hmeasure ▸ hsmaller state label next hallowed hstep) next rfl
      refine ⟨label :: rest, final, List.forall_mem_cons.mpr ⟨hallowed, hrestAllowed⟩, ?_, hfinal⟩
      rw [run, hstep]
      exact hrun

end Rest

/-! ### Machines with outputs -/

variable {τ ω : Type} {machine : σ → α → ω × σ} {other : τ → α → ω × τ}

/-- What a machine puts out for a list of inputs. -/
def outputs (machine : σ → α → ω × σ) (state : σ) : List α → List ω
  | [] => []
  | input :: rest => (machine state input).1 :: outputs machine (machine state input).2 rest

/-- The state of a machine after a list of inputs. -/
def after (machine : σ → α → ω × σ) (state : σ) : List α → σ
  | [] => state
  | input :: rest => after machine (machine state input).2 rest

/-- Inputs that leave every state as it is can be left out: the state at the end is the same, and so
is what the machine puts out for the others. -/
theorem outputs_filter {visible : α → Bool}
    (hinvisible : ∀ state input, visible input = false → (machine state input).2 = state)
    (state : σ) (inputs : List α) :
    after machine state (inputs.filter visible) = after machine state inputs ∧
      outputs machine state (inputs.filter visible) =
        ((inputs.zip (outputs machine state inputs)).filter fun pair ↦ visible pair.1).map
          Prod.snd := by
  induction inputs generalizing state with
  | nil => exact ⟨rfl, rfl⟩
  | cons input rest ih =>
    obtain ⟨hafter, houtputs⟩ := ih (machine state input).2
    rw [after, outputs, List.zip_cons_cons]
    simp only [List.filter_cons]
    cases hvisible : visible input with
    | true =>
      simp only [if_true]
      rw [after, outputs, List.map_cons, hafter, houtputs]
      exact ⟨rfl, rfl⟩
    | false =>
      simp only [Bool.false_eq_true, if_false]
      rw [hinvisible state input hvisible] at hafter houtputs ⊢
      exact ⟨hafter, houtputs⟩

/-- Two machines put out the same if every input takes related states to related states and the same
output. The relation may speak of the inputs that are still to come. -/
theorem outputs_eq_of_simulation (related : σ → τ → List α → Prop) {state : σ} {image : τ}
    {inputs : List α} (hrelated : related state image inputs)
    (hstep : ∀ state image input rest, related state image (input :: rest) →
      (machine state input).1 = (other image input).1 ∧
        related (machine state input).2 (other image input).2 rest) :
    outputs machine state inputs = outputs other image inputs := by
  induction inputs generalizing state image with
  | nil => rfl
  | cons input rest ih =>
    obtain ⟨hsame, hrest⟩ := hstep state image input rest hrelated
    unfold outputs
    rw [hsame, ih hrest]

/-- Every input of a list meets a condition in the state in which it comes. -/
def Meets (machine : σ → α → ω × σ) (allowed : σ → α → Prop) (state : σ) : List α → Prop
  | [] => True
  | input :: rest => allowed state input ∧ Meets machine allowed (machine state input).2 rest

end PingGuard.Library.Transition
