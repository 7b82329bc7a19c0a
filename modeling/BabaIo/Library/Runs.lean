import Mathlib.Logic.Basic
import Mathlib.Data.List.Basic
import Mathlib.Data.List.Induction

/-
Runs of a system given by a partial step function.

An action carries every choice of the environment, so a run is a list of
actions and each state has at most one successor under an action.  The module
knows nothing about the system: it turns what one step preserves into what a
whole run preserves.
-/

set_option autoImplicit false

namespace BabaIo.Runs

variable {State Action : Type*}

/-- Execute the actions in order.  The result is `none` as soon as one of them
is not enabled. -/
def exec (step : State → Action → Option State) :
    State → List Action → Option State
  | state, [] => some state
  | state, action :: rest =>
      (step state action).bind (fun next => exec step next rest)

/-- Every step of the run meets `condition` in the state it starts from. -/
def StepsMeet (step : State → Action → Option State)
    (condition : State → Action → Prop) : State → List Action → Prop
  | _, [] => True
  | state, action :: rest =>
      condition state action ∧
        ∀ next, step state action = some next →
          StepsMeet step condition next rest

/-- Every state of the run, the first and the last included, has `property`. -/
def StatesMeet (step : State → Action → Option State)
    (property : State → Prop) : State → List Action → Prop
  | state, [] => property state
  | state, action :: rest =>
      property state ∧
        ∀ next, step state action = some next →
          StatesMeet step property next rest

variable {step : State → Action → Option State}

instance decidableStepsMeet {condition : State → Action → Prop}
    [∀ state action, Decidable (condition state action)] :
    (state : State) → (actions : List Action) →
      Decidable (StepsMeet step condition state actions)
  | _, [] => .isTrue trivial
  | state, action :: rest =>
      match stepped : step state action with
      | none => decidable_of_iff (condition state action)
          ⟨fun met => ⟨met, fun next other => by rw [stepped] at other; cases other⟩,
            fun met => met.1⟩
      | some next =>
          let later : Decidable (StepsMeet step condition next rest) :=
            decidableStepsMeet next rest
          decidable_of_iff (condition state action ∧ StepsMeet step condition next rest)
            ⟨fun met => ⟨met.1, fun other same => by
                rw [stepped] at same; cases same; exact met.2⟩,
              fun met => ⟨met.1, met.2 next stepped⟩⟩

@[simp] theorem exec_nil (state : State) :
    exec step state [] = some state := rfl

theorem exec_cons (state : State) (action : Action) (rest : List Action) :
    exec step state (action :: rest) =
      (step state action).bind (fun next => exec step next rest) := rfl

theorem exec_cons_eq_some {state final : State} {action : Action}
    {rest : List Action} :
    exec step state (action :: rest) = some final ↔
      ∃ next, step state action = some next ∧
        exec step next rest = some final := by
  rw [exec_cons, Option.bind_eq_some_iff]

theorem exec_append (state : State) (first second : List Action) :
    exec step state (first ++ second) =
      (exec step state first).bind (fun middle => exec step middle second) := by
  induction first generalizing state with
  | nil => rfl
  | cons action rest ih =>
      rw [List.cons_append, exec_cons, exec_cons, Option.bind_assoc]
      congr 1
      funext next
      exact ih next

theorem exec_trans {state middle final : State} {first second : List Action}
    (executed : exec step state first = some middle)
    (later : exec step middle second = some final) :
    exec step state (first ++ second) = some final := by
  rw [exec_append, executed]
  exact later

/-- Where every item can be executed and adds its part to a list, all of them can
and add all their parts. -/
theorem exec_accumulates {Part : Type*} {reached : List Part → State → Prop}
    {part : Action → List Part}
    (one : ∀ parts state action, reached parts state →
      ∃ next, step state action = some next ∧ reached (parts ++ part action) next)
    {parts : List Part} {state : State} (start : reached parts state)
    (actions : List Action) :
    ∃ final, exec step state actions = some final ∧
      reached (parts ++ actions.flatMap part) final := by
  induction actions generalizing parts state with
  | nil =>
      refine ⟨state, rfl, ?_⟩
      rw [List.flatMap_nil, List.append_nil]
      exact start
  | cons action rest ih =>
      obtain ⟨next, stepped, added⟩ := one parts state action start
      obtain ⟨final, executed, all⟩ := ih added
      refine ⟨final, ?_, ?_⟩
      · rw [exec_cons, stepped]
        exact executed
      · rw [List.flatMap_cons, ← List.append_assoc]
        exact all

/-- Where the actions of every item can be executed once, those of distinct items
can be executed one item after the other. -/
theorem exec_each {Item : Type*} {reached : List Item → State → Prop}
    {actions : Item → List Action}
    (one : ∀ done item state, item ∉ done → reached done state →
      ∃ next, exec step state (actions item) = some next ∧ reached (item :: done) next)
    {done : List Item} {state : State} (start : reached done state)
    {items : List Item} (distinct : (items.reverse ++ done).Nodup) :
    ∃ final, exec step state (items.flatMap actions) = some final ∧
      reached (items.reverse ++ done) final := by
  induction items generalizing done state with
  | nil => exact ⟨state, rfl, start⟩
  | cons item rest ih =>
      rw [List.reverse_cons, List.append_assoc, List.singleton_append] at distinct ⊢
      have fresh : item ∉ done := (List.nodup_cons.mp (List.nodup_append.mp distinct).2.1).1
      obtain ⟨next, stepped, added⟩ := one done item state fresh start
      obtain ⟨final, executed, all⟩ := ih added distinct
      refine ⟨final, ?_, all⟩
      rw [List.flatMap_cons]
      exact exec_trans stepped executed

/-! ### From one step to a run -/

/-- An invariant kept by every step that meets the condition holds in every
state of a run whose steps all meet it. -/
theorem statesMeet_of_preserved {invariant : State → Prop}
    {condition : State → Action → Prop}
    (preserved : ∀ state action next, invariant state →
      condition state action → step state action = some next →
        invariant next)
    {state : State} {actions : List Action} (initial : invariant state)
    (meets : StepsMeet step condition state actions) :
    StatesMeet step invariant state actions := by
  induction actions generalizing state with
  | nil => exact initial
  | cons action rest ih =>
      refine ⟨initial, ?_⟩
      intro next stepped
      have kept : invariant next :=
        preserved state action next initial meets.1 stepped
      exact ih kept (meets.2 next stepped)

theorem StatesMeet.final {property : State → Prop} {state final : State}
    {actions : List Action}
    (meets : StatesMeet step property state actions)
    (executed : exec step state actions = some final) : property final := by
  induction actions generalizing state with
  | nil =>
      have same : state = final := Option.some.inj executed
      exact same ▸ meets
  | cons action rest ih =>
      obtain ⟨next, stepped, later⟩ := exec_cons_eq_some.mp executed
      exact ih (meets.2 next stepped) later

theorem StatesMeet.initial {property : State → Prop} {state : State}
    {actions : List Action}
    (meets : StatesMeet step property state actions) : property state := by
  cases actions with
  | nil => exact meets
  | cons action rest => exact meets.1

theorem StatesMeet.imp {property weaker : State → Prop}
    (implied : ∀ state, property state → weaker state)
    {state : State} {actions : List Action}
    (meets : StatesMeet step property state actions) :
    StatesMeet step weaker state actions := by
  induction actions generalizing state with
  | nil => exact implied state meets
  | cons action rest ih =>
      exact ⟨implied state meets.1, fun next stepped =>
        ih (meets.2 next stepped)⟩

theorem StepsMeet.imp {condition weaker : State → Action → Prop}
    (implied : ∀ state action, condition state action → weaker state action)
    {state : State} {actions : List Action}
    (meets : StepsMeet step condition state actions) :
    StepsMeet step weaker state actions := by
  induction actions generalizing state with
  | nil => trivial
  | cons action rest ih =>
      exact ⟨implied state action meets.1, fun next stepped =>
        ih (meets.2 next stepped)⟩

theorem StepsMeet.and {first second : State → Action → Prop} {state : State}
    {actions : List Action} (left : StepsMeet step first state actions)
    (right : StepsMeet step second state actions) :
    StepsMeet step (fun state action => first state action ∧ second state action)
      state actions := by
  induction actions generalizing state with
  | nil => trivial
  | cons action rest ih =>
      exact ⟨⟨left.1, right.1⟩, fun next stepped =>
        ih (left.2 next stepped) (right.2 next stepped)⟩

theorem stepsMeet_true (state : State) (actions : List Action) :
    StepsMeet step (fun _ _ => True) state actions := by
  induction actions generalizing state with
  | nil => trivial
  | cons action rest ih => exact ⟨trivial, fun next _ => ih next⟩

/-- What holds of every step out of a state with the property holds of every step
of a run whose states all have it. -/
theorem StatesMeet.stepsMeet {property : State → Prop}
    {condition : State → Action → Prop}
    (implied : ∀ state action, property state → condition state action)
    {state : State} {actions : List Action}
    (meets : StatesMeet step property state actions) :
    StepsMeet step condition state actions := by
  induction actions generalizing state with
  | nil => trivial
  | cons action rest ih =>
      exact ⟨implied state action meets.1, fun next stepped =>
        ih (meets.2 next stepped)⟩

/-- What holds of every step that is taken from a state with the property and meets the
condition holds of every step of such a run. -/
theorem StepsMeet.of_taken {property : State → Prop}
    {condition implied : State → Action → Prop}
    (taken : ∀ state action next, property state → condition state action →
      step state action = some next → implied state action)
    {state final : State} {actions : List Action}
    (meets : StepsMeet step condition state actions)
    (states : StatesMeet step property state actions)
    (executed : exec step state actions = some final) :
    StepsMeet step implied state actions := by
  induction actions generalizing state with
  | nil => trivial
  | cons action rest ih =>
      obtain ⟨next, stepped, later⟩ := exec_cons_eq_some.mp executed
      refine ⟨taken state action next states.1 meets.1 stepped, ?_⟩
      intro other same
      rw [stepped] at same
      cases same
      exact ih (meets.2 next stepped) (states.2 next stepped) later

/-- An invariant kept by every step holds in every state of every run. -/
theorem statesMeet_of_invariant {invariant : State → Prop}
    (preserved : ∀ state action next, invariant state →
      step state action = some next → invariant next)
    {state : State} (actions : List Action) (initial : invariant state) :
    StatesMeet step invariant state actions :=
  statesMeet_of_preserved (fun state action next holds _ stepped =>
    preserved state action next holds stepped) initial (stepsMeet_true state actions)

/-- Where one step from a state with the property keeps it exactly when the step
meets the condition, a run keeps it exactly when all its steps do. -/
theorem statesMeet_iff_stepsMeet {invariant property : State → Prop}
    {condition : State → Action → Prop}
    (preserved : ∀ state action next, invariant state → property state →
      condition state action → step state action = some next → invariant next)
    (exact : ∀ state action next, invariant state → property state →
      step state action = some next → (property next ↔ condition state action))
    {state final : State} {actions : List Action} (holds : invariant state)
    (initial : property state) (executed : exec step state actions = some final) :
    StatesMeet step property state actions ↔
      StepsMeet step condition state actions := by
  induction actions generalizing state with
  | nil => exact ⟨fun _ => trivial, fun _ => initial⟩
  | cons action rest ih =>
      obtain ⟨next, stepped, later⟩ := exec_cons_eq_some.mp executed
      have here := exact state action next holds initial stepped
      have kept := fun met => preserved state action next holds initial met stepped
      constructor
      · intro meets
        have reached := meets.2 next stepped
        have met := here.mp reached.initial
        refine ⟨met, ?_⟩
        intro other same
        rw [stepped] at same
        cases same
        exact (ih (kept met) reached.initial later).mp reached
      · intro meets
        refine ⟨initial, ?_⟩
        intro other same
        rw [stepped] at same
        cases same
        have reached := here.mpr meets.1
        exact (ih (kept meets.1) reached later).mpr (meets.2 next stepped)

/-- An invariant kept by every step holds at the end of every run. -/
theorem exec_invariant {invariant : State → Prop}
    (preserved : ∀ state action next, invariant state →
      step state action = some next → invariant next)
    {state final : State} {actions : List Action} (initial : invariant state)
    (executed : exec step state actions = some final) : invariant final := by
  induction actions generalizing state with
  | nil =>
      have same : state = final := Option.some.inj executed
      exact same ▸ initial
  | cons action rest ih =>
      obtain ⟨next, stepped, later⟩ := exec_cons_eq_some.mp executed
      exact ih (preserved state action next initial stepped) later

/-- A view of the states under which some actions change nothing and every other one
is an action of a second system: the second system can execute a run without the
actions that are not seen. -/
theorem exec_filter {Other : Type*} {other : Other → Action → Option Other}
    {view : State → Other} {seen : Action → Bool} {condition : State → Action → Prop}
    (unseen : ∀ state action next, condition state action → seen action = false →
      step state action = some next → view next = view state)
    (simulated : ∀ state action next, condition state action → seen action = true →
      step state action = some next → other (view state) action = some (view next))
    {state final : State} {actions : List Action}
    (meets : StepsMeet step condition state actions)
    (executed : exec step state actions = some final) :
    exec other (view state) (actions.filter seen) = some (view final) := by
  induction actions generalizing state with
  | nil =>
      have same : state = final := Option.some.inj executed
      rw [same]
      rfl
  | cons action rest ih =>
      obtain ⟨next, stepped, later⟩ := exec_cons_eq_some.mp executed
      have continued := ih (meets.2 next stepped) later
      cases isSeen : seen action with
      | false =>
          rw [List.filter_cons_of_neg (by rw [isSeen]; decide),
            ← unseen state action next meets.1 isSeen stepped]
          exact continued
      | true =>
          rw [List.filter_cons_of_pos isSeen]
          exact exec_cons_eq_some.mpr
            ⟨view next, simulated state action next meets.1 isSeen stepped, continued⟩

/-- An invariant kept by every listed action holds after the list. -/
theorem exec_invariant_of_mem {invariant : State → Prop} {actions : List Action}
    (preserved : ∀ state action next, action ∈ actions → invariant state →
      step state action = some next → invariant next)
    {state final : State} (initial : invariant state)
    (executed : exec step state actions = some final) : invariant final := by
  induction actions generalizing state with
  | nil =>
      have same : state = final := Option.some.inj executed
      exact same ▸ initial
  | cons action rest ih =>
      obtain ⟨next, stepped, later⟩ := exec_cons_eq_some.mp executed
      refine ih ?_ (preserved state action next List.mem_cons_self initial stepped) later
      intro before other after member
      exact preserved before other after (List.mem_cons_of_mem _ member)

theorem StepsMeet.last {condition : State → Action → Prop} {state final : State}
    {actions : List Action} {action : Action}
    (meets : StepsMeet step condition state (actions ++ [action]))
    (executed : exec step state actions = some final) : condition final action := by
  induction actions generalizing state with
  | nil =>
      have same : state = final := Option.some.inj executed
      exact same ▸ meets.1
  | cons head rest ih =>
      obtain ⟨next, stepped, later⟩ := exec_cons_eq_some.mp executed
      exact ih (meets.2 next stepped) later

/-- Two conditions that agree where an invariant holds are met by the same runs. -/
theorem stepsMeet_congr {invariant : State → Prop} {first second : State → Action → Prop}
    (preserved : ∀ state action next, invariant state →
      step state action = some next → invariant next)
    (agree : ∀ state action, invariant state → (first state action ↔ second state action))
    {state : State} (actions : List Action) (initial : invariant state) :
    StepsMeet step first state actions ↔ StepsMeet step second state actions := by
  induction actions generalizing state with
  | nil => exact Iff.rfl
  | cons action rest ih =>
      apply and_congr (agree state action initial)
      apply forall_congr'
      intro next
      apply forall_congr'
      intro stepped
      exact ih (preserved state action next initial stepped)

end BabaIo.Runs
