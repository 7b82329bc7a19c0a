import BabaIo.Library.Runs

/-
Forward simulation with labels.

A step of a system shows a label or nothing.  Where every step of one system is
answered by a run of another that shows the same labels, every run of the first
shows the labels of a run of the second.
-/

set_option autoImplicit false

namespace BabaIo.Runs

variable {State Action Label : Type*} {step : State → Action → Option State}
  {label : State → Action → Option Label}

/-- The labels that the steps of a run show, in order. -/
def trace (step : State → Action → Option State) (label : State → Action → Option Label) :
    State → List Action → List Label
  | _, [] => []
  | state, action :: rest =>
      match step state action with
      | none => []
      | some next => (label state action).toList ++ trace step label next rest

theorem trace_cons {state next : State} {action : Action}
    (stepped : step state action = some next) (rest : List Action) :
    trace step label state (action :: rest) =
      (label state action).toList ++ trace step label next rest := by
  rw [trace, stepped]

theorem trace_single {state next : State} {action : Action}
    (stepped : step state action = some next) :
    trace step label state [action] = (label state action).toList := by
  rw [trace_cons stepped]
  exact List.append_nil _

theorem trace_append {state next : State} {actions : List Action}
    (executed : exec step state actions = some next) (later : List Action) :
    trace step label state (actions ++ later) =
      trace step label state actions ++ trace step label next later := by
  induction actions generalizing state with
  | nil =>
      have same : state = next := Option.some.inj executed
      rw [same]
      rfl
  | cons action rest ih =>
      obtain ⟨middle, stepped, continued⟩ := exec_cons_eq_some.mp executed
      rw [List.cons_append, trace_cons stepped, trace_cons stepped, ih continued,
        List.append_assoc]

/-- What relates a state to the labels shown on the way to it, and is kept by every step
that meets the condition, relates the end of a run of such steps to the trace. -/
theorem trace_extends (related : List Label → State → Prop)
    {condition : State → Action → Prop}
    (preserved : ∀ shown state action next, related shown state → condition state action →
      step state action = some next → related (shown ++ (label state action).toList) next)
    {shown : List Label} {state final : State} {actions : List Action}
    (initial : related shown state) (meets : StepsMeet step condition state actions)
    (executed : exec step state actions = some final) :
    related (shown ++ trace step label state actions) final := by
  induction actions generalizing shown state with
  | nil =>
      have same : state = final := Option.some.inj executed
      rw [trace, List.append_nil]
      exact same ▸ initial
  | cons action rest ih =>
      obtain ⟨next, stepped, later⟩ := exec_cons_eq_some.mp executed
      rw [trace_cons stepped, ← List.append_assoc]
      exact ih (preserved shown state action next initial meets.1 stepped)
        (meets.2 next stepped) later

theorem trace_invariant (related : List Label → State → Prop)
    {condition : State → Action → Prop}
    (preserved : ∀ shown state action next, related shown state → condition state action →
      step state action = some next → related (shown ++ (label state action).toList) next)
    {state final : State} {actions : List Action} (initial : related [] state)
    (meets : StepsMeet step condition state actions)
    (executed : exec step state actions = some final) :
    related (trace step label state actions) final := by
  have extended := trace_extends related preserved initial meets executed
  rwa [List.nil_append] at extended

/-- Where related states stay related as the second system answers each step of the first
with a run that shows the same labels, it answers every run of the first. -/
theorem simulates {Other OtherAction : Type*} {other : Other → OtherAction → Option Other}
    {otherLabel : Other → OtherAction → Option Label} {related : State → Other → Prop}
    {condition : State → Action → Prop}
    (answers : ∀ state action next seen, related state seen → condition state action →
      step state action = some next →
      ∃ (actions : List OtherAction) (after : Other), exec other seen actions = some after ∧
        trace other otherLabel seen actions = (label state action).toList ∧
        related next after)
    {state final : State} {actions : List Action} {seen : Other} (start : related state seen)
    (meets : StepsMeet step condition state actions)
    (executed : exec step state actions = some final) :
    ∃ (otherActions : List OtherAction) (otherFinal : Other),
      exec other seen otherActions = some otherFinal ∧
        trace other otherLabel seen otherActions = trace step label state actions ∧
        related final otherFinal := by
  induction actions generalizing state seen with
  | nil =>
      have same : state = final := Option.some.inj executed
      exact ⟨[], seen, rfl, rfl, same ▸ start⟩
  | cons action rest ih =>
      obtain ⟨next, stepped, continued⟩ := exec_cons_eq_some.mp executed
      obtain ⟨first, middle, ranFirst, shownFirst, here⟩ :=
        answers state action next seen start meets.1 stepped
      obtain ⟨later, last, ranLater, shownLater, there⟩ :=
        ih here (meets.2 next stepped) continued
      refine ⟨first ++ later, last, exec_trans ranFirst ranLater, ?_, there⟩
      rw [trace_append ranFirst, trace_cons stepped, shownFirst, shownLater]

end BabaIo.Runs
