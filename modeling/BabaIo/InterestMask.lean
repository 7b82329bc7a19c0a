import BabaIo.Descriptor

/-
`event_mask` and the interest of the kernel when an initiation and the handling of a
report overlap.

The init lambdas of `async_tcp` set the bit of their direction and read the mask in
one step and issue the `epoll_ctl` request with the value read in another.  The
reactor clears the reported bits, reads the mask and issues the re-arm request in
three steps, and then dispatches.  Nothing orders the requests of the two threads.
All requests succeed here.
-/

set_option autoImplicit false

namespace BabaIo.InterestMask

inductive Operation where
  | idle
  | outstanding
  /-- `epoll_wait` has returned a report for it. -/
  | reported
  /-- Its `react` is in the reactor task queue, or has run. -/
  | dispatched
  deriving DecidableEq

inductive Handling where
  | idle
  | harvested (events : Events)
  | cleared (events : Events)
  | read (events : Events) (mask : EventMask)
  /-- Past the re-arm request, or past its omission. -/
  | rearmed (events : Events)
  deriving DecidableEq

structure State where
  eventMask : EventMask
  interest : EventMask
  operation : Direction → Operation
  /-- The mask the initiating thread has read for its request. -/
  initiating : Option EventMask
  handling : Handling

def init : State :=
  { eventMask := EventMask.empty
    interest := EventMask.empty
    operation := fun _ => .idle
    initiating := none
    handling := .idle }

inductive Action where
  /-- `set_read_mask` or `set_write_mask`, and the mask is read. -/
  | initiate (direction : Direction)
  /-- The request of the initiation. -/
  | request
  | harvest (events : Events)
  | clear
  | read
  | rearm
  | dispatch
  /-- The callback of the operation has run. -/
  | complete (direction : Direction)
  deriving DecidableEq

def initiate (state : State) (direction : Direction) : State :=
  { state with
    eventMask := state.eventMask.setMask direction
    operation := Function.update state.operation direction .outstanding
    initiating := some (state.eventMask.setMask direction) }

def harvest (state : State) (events : Events) : State :=
  { state with
    interest := EventMask.empty
    operation := fun direction =>
      if has events direction.bit && state.operation direction = .outstanding then .reported
      else state.operation direction
    handling := .harvested events }

def dispatchTo (events : Events) (direction : Direction) : Bool :=
  tasksFor (dispatchReport events) direction ≠ 0

def dispatch (state : State) (events : Events) : State :=
  { state with
    operation := fun direction =>
      if dispatchTo events direction && state.operation direction = .reported then
        .dispatched
      else state.operation direction
    handling := .idle }

def step (state : State) : Action → Option State
  | .initiate direction =>
      match state.initiating, state.operation direction with
      | none, .idle => some (initiate state direction)
      | _, _ => none
  | .request =>
      match state.initiating with
      | some value => some { state with interest := value, initiating := none }
      | none => none
  | .harvest events =>
      match state.handling with
      | .idle =>
          if Descriptor.reportable state.interest events then some (harvest state events)
          else none
      | _ => none
  | .clear =>
      match state.handling with
      | .harvested events =>
          some { state with
            eventMask := clearReported state.eventMask events
            handling := .cleared events }
      | _ => none
  | .read =>
      match state.handling with
      | .cleared events => some { state with handling := .read events state.eventMask }
      | _ => none
  | .rearm =>
      match state.handling with
      | .read events mask =>
          some { state with
            interest := if mask.nonzero then mask else state.interest
            handling := .rearmed events }
      | _ => none
  | .dispatch =>
      match state.handling with
      | .rearmed events => some (dispatch state events)
      | _ => none
  | .complete direction =>
      if state.operation direction = .dispatched then
        some { state with operation := Function.update state.operation direction .idle }
      else none

/-! ### What should hold -/

def Within (inner outer : EventMask) : Prop :=
  ∀ direction, inner.has direction = true → outer.has direction = true

instance (inner outer : EventMask) : Decidable (Within inner outer) :=
  decidable_of_iff
    ((inner.has .read = true → outer.has .read = true) ∧
      (inner.has .write = true → outer.has .write = true))
    ⟨fun both direction => by cases direction with
      | read => exact both.1
      | write => exact both.2,
     fun all => ⟨all .read, all .write⟩⟩

def Quiet (state : State) : Prop := state.initiating = none ∧ state.handling = .idle

/-- The kernel listens only for bits of the mask, and the mask holds only directions
with an operation that has not been reported. -/
def Agrees (state : State) : Prop :=
  Quiet state → Within state.interest state.eventMask ∧
    ∀ direction, state.eventMask.has direction = true →
      state.operation direction = .outstanding

def DispatchesOutstanding (state : State) : Action → Prop
  | .dispatch => ∀ events, state.handling = .rearmed events →
      ∀ direction, dispatchTo events direction = true →
        state.operation direction = .reported
  | _ => True

/-- A re-arm request of the reactor is still to come, or the mask has not been read. -/
def Handling.rearmAhead : Handling → Bool
  | .harvested _ => true
  | .cleared _ => true
  | .read _ mask => mask.nonzero
  | _ => false

/-- The request that is applied last has the latest mask.  An initiation whose request no
re-arm follows has lost no bit of the value it read; and when the reactor finds no bit
to re-arm, no initiation has issued a request since the report was harvested. -/
def AppliesLatest (state : State) : Action → Prop
  | .request => state.handling.rearmAhead = false →
      ∀ value, value ∈ state.initiating → Within value state.eventMask
  | .read => state.eventMask.nonzero = false → state.interest.nonzero = false
  | _ => True

instance (state : State) (action : Action) : Decidable (AppliesLatest state action) :=
  match action with
  | .request => inferInstanceAs (Decidable (state.handling.rearmAhead = false →
      ∀ value, value ∈ state.initiating → Within value state.eventMask))
  | .read => inferInstanceAs (Decidable
      (state.eventMask.nonzero = false → state.interest.nonzero = false))
  | .initiate _ => .isTrue trivial
  | .harvest _ => .isTrue trivial
  | .clear => .isTrue trivial
  | .rearm => .isTrue trivial
  | .dispatch => .isTrue trivial
  | .complete _ => .isTrue trivial

/-! ### The invariant -/

theorem dispatchTo_eq (events : Events) (direction : Direction) :
    dispatchTo events direction = has events direction.bit := by
  unfold dispatchTo
  rw [tasksFor_dispatchReport]
  cases has events direction.bit <;> rfl

def Handling.events : Handling → Option Events
  | .idle => none
  | .harvested events => some events
  | .cleared events => some events
  | .read events _ => some events
  | .rearmed events => some events

structure Ordered (state : State) : Prop where
  /-- A bit of the mask that is not to be cleared belongs to a fresh operation. -/
  fresh : ∀ direction, state.eventMask.has direction = true →
    state.operation direction = .outstanding ∨
      ∃ events, state.handling = .harvested events ∧ has events direction.bit = true
  reported : ∀ events, state.handling.events = some events → ∀ direction,
    has events direction.bit = true → state.operation direction = .reported
  readMask : ∀ events mask, state.handling = .read events mask →
    Within mask state.eventMask
  interest : state.handling.rearmAhead = false → Within state.interest state.eventMask

theorem ordered_init : Ordered init := by
  constructor
  · intro direction impossible
    simp [init] at impossible
  · intro events impossible
    cases impossible
  · intro events mask impossible
    cases impossible
  · intro _ direction impossible
    simp [init] at impossible

theorem ordered_initiate {state : State} (ordered : Ordered state) {direction : Direction}
    (idle : state.operation direction = .idle) : Ordered (initiate state direction) := by
  have grows : ∀ other, state.eventMask.has other = true →
      (initiate state direction).eventMask.has other = true := by
    intro other present
    simp [initiate, present]
  constructor
  · intro other present
    by_cases same : other = direction
    · subst same
      exact Or.inl (Function.update_self ..)
    · have before : state.eventMask.has other = true := by
        simpa [initiate, same] using present
      refine (ordered.fresh other before).imp (fun kept => ?_) id
      exact (Function.update_of_ne same _ _).trans kept
  · intro events handled other reported
    have kept := ordered.reported events handled other reported
    have different : other ≠ direction := by
      intro same
      subst same
      rw [idle] at kept
      cases kept
    exact (Function.update_of_ne different _ _).trans kept
  · exact fun events mask handled other present =>
      grows other (ordered.readMask events mask handled other present)
  · exact fun noRearm other present => grows other (ordered.interest noRearm other present)

theorem ordered_harvest {state : State} (ordered : Ordered state) {events : Events}
    (idle : state.handling = .idle)
    (allowed : Descriptor.reportable state.interest events = true) :
    Ordered (harvest state events) := by
  have waiting : ∀ direction, state.eventMask.has direction = true →
      state.operation direction = .outstanding := by
    intro direction present
    rcases ordered.fresh direction present with fresh | ⟨other, handled, _⟩
    · exact fresh
    · rw [idle] at handled
      cases handled
  constructor
  · intro direction present
    cases reported : has events direction.bit with
    | true => exact Or.inr ⟨events, rfl, reported⟩
    | false =>
        left
        simp only [harvest, reported, Bool.false_and, Bool.false_eq_true, if_false]
        exact waiting direction present
  · intro other handled direction reported
    cases handled
    have armed := Descriptor.reportable_bit allowed reported
    have present := ordered.interest (by rw [idle]; rfl) direction armed
    simp [harvest, reported, waiting direction present]
  · intro other mask impossible
    cases impossible
  · intro impossible
    cases impossible

theorem ordered_clear {state : State} (ordered : Ordered state) {events : Events}
    (harvested : state.handling = .harvested events) :
    Ordered { state with
      eventMask := clearReported state.eventMask events
      handling := .cleared events } := by
  constructor
  · intro direction present
    rw [clearReported_has, Bool.and_eq_true, Bool.not_eq_true'] at present
    left
    rcases ordered.fresh direction present.1 with fresh | ⟨other, handled, reported⟩
    · exact fresh
    · rw [harvested] at handled
      cases handled
      rw [present.2] at reported
      cases reported
  · intro other handled
    cases handled
    exact ordered.reported events (by rw [harvested]; rfl)
  · intro other mask impossible
    cases impossible
  · intro impossible
    cases impossible

theorem ordered_read {state : State} (ordered : Ordered state) {events : Events}
    (cleared : state.handling = .cleared events)
    (latest : state.eventMask.nonzero = false → state.interest.nonzero = false) :
    Ordered { state with handling := .read events state.eventMask } := by
  constructor
  · intro direction present
    rcases ordered.fresh direction present with fresh | ⟨other, handled, _⟩
    · exact Or.inl fresh
    · rw [cleared] at handled
      cases handled
  · intro other handled
    cases handled
    exact ordered.reported events (by rw [cleared]; rfl)
  · intro other mask handled direction present
    cases handled
    exact present
  · intro empty direction armed
    have none := (state.interest.nonzero_eq_false_iff).mp (latest empty) direction
    change state.interest.has direction = true at armed
    rw [none] at armed
    cases armed

theorem ordered_rearm {state : State} (ordered : Ordered state) {events : Events}
    {mask : EventMask} (readOut : state.handling = .read events mask) :
    Ordered { state with
      interest := if mask.nonzero then mask else state.interest
      handling := .rearmed events } := by
  constructor
  · intro direction present
    rcases ordered.fresh direction present with fresh | ⟨other, handled, _⟩
    · exact Or.inl fresh
    · rw [readOut] at handled
      cases handled
  · intro other handled
    cases handled
    exact ordered.reported events (by rw [readOut]; rfl)
  · intro other value impossible
    cases impossible
  · intro _ direction present
    cases some : mask.nonzero with
    | true =>
        rw [some] at present
        exact ordered.readMask events mask readOut direction present
    | false =>
        rw [some] at present
        exact ordered.interest (by rw [readOut]; exact some) direction present

theorem ordered_dispatch {state : State} (ordered : Ordered state) {events : Events}
    (rearmed : state.handling = .rearmed events) : Ordered (dispatch state events) := by
  constructor
  · intro direction present
    left
    rcases ordered.fresh direction present with fresh | ⟨other, handled, _⟩
    · simp [dispatch, fresh]
    · rw [rearmed] at handled
      cases handled
  · intro other impossible
    cases impossible
  · intro other mask impossible
    cases impossible
  · intro _ direction present
    exact ordered.interest (by rw [rearmed]; rfl) direction present

theorem ordered_complete {state : State} (ordered : Ordered state) {direction : Direction}
    (done : state.operation direction = .dispatched) :
    Ordered { state with
      operation := Function.update state.operation direction .idle } := by
  constructor
  · intro other present
    refine (ordered.fresh other present).imp (fun fresh => ?_) id
    have different : other ≠ direction := by
      intro same
      subst same
      rw [done] at fresh
      cases fresh
    exact (Function.update_of_ne different _ _).trans fresh
  · intro events handled other reported
    have kept := ordered.reported events handled other reported
    have different : other ≠ direction := by
      intro same
      subst same
      rw [done] at kept
      cases kept
    exact (Function.update_of_ne different _ _).trans kept
  · exact ordered.readMask
  · exact ordered.interest

theorem ordered_step {state next : State} {action : Action} (ordered : Ordered state)
    (latest : AppliesLatest state action) (stepped : step state action = some next) :
    Ordered next := by
  cases action with
  | initiate direction =>
      simp only [step] at stepped
      split at stepped
      · cases stepped
        exact ordered_initiate ordered ‹_›
      · cases stepped
  | request =>
      simp only [step] at stepped
      split at stepped
      · rename_i value initiating
        cases stepped
        exact ⟨ordered.fresh, ordered.reported, ordered.readMask,
          fun noRearm => latest noRearm value initiating⟩
      · cases stepped
  | harvest events =>
      simp only [step] at stepped
      split at stepped
      · split at stepped
        · cases stepped
          exact ordered_harvest ordered ‹_› ‹_›
        · cases stepped
      · cases stepped
  | clear =>
      simp only [step] at stepped
      split at stepped
      · cases stepped
        exact ordered_clear ordered ‹_›
      · cases stepped
  | read =>
      simp only [step] at stepped
      split at stepped
      · cases stepped
        exact ordered_read ordered ‹_› latest
      · cases stepped
  | rearm =>
      simp only [step] at stepped
      split at stepped
      · rename_i events mask readOut
        cases stepped
        exact ordered_rearm ordered readOut
      · cases stepped
  | dispatch =>
      simp only [step] at stepped
      split at stepped
      · cases stepped
        exact ordered_dispatch ordered ‹_›
      · cases stepped
  | complete direction =>
      simp only [step] at stepped
      split at stepped
      · cases stepped
        exact ordered_complete ordered ‹_›
      · cases stepped

theorem Ordered.agrees {state : State} (ordered : Ordered state) : Agrees state := by
  intro quiet
  refine ⟨ordered.interest (by rw [quiet.2]; rfl), ?_⟩
  intro direction present
  rcases ordered.fresh direction present with fresh | ⟨events, handled, _⟩
  · exact fresh
  · rw [quiet.2] at handled
    cases handled

theorem Ordered.dispatchesOutstanding {state : State} (ordered : Ordered state)
    (action : Action) : DispatchesOutstanding state action := by
  cases action with
  | dispatch =>
      intro events handled direction dispatched
      rw [dispatchTo_eq] at dispatched
      exact ordered.reported events (by rw [handled]; rfl) direction dispatched
  | _ => trivial

/-! ### Every run -/

/-- Interest, mask and operations agree in every quiet state, and every dispatch finds
the operation it is for. -/
def InterestAgrees (actions : List Action) : Prop :=
  Runs.StatesMeet step Agrees init actions ∧
    Runs.StepsMeet step DispatchesOutstanding init actions

/-- They agree as long as no outdated request is left in the kernel. -/
theorem interestAgrees_of_latest {actions : List Action}
    (latest : Runs.StepsMeet step AppliesLatest init actions) : InterestAgrees actions := by
  have always : Runs.StatesMeet step Ordered init actions :=
    Runs.statesMeet_of_preserved
      (fun _ _ _ ordered applies stepped => ordered_step ordered applies stepped)
      ordered_init latest
  exact ⟨always.imp (fun state ordered => ordered.agrees),
    always.stepsMeet (fun state action ordered => ordered.dispatchesOutstanding action)⟩

/-- A send starts while the reactor handles the report of a recv, and its request comes
before the re-arm. -/
def overlappingSend : List Action :=
  [.initiate .read, .request, .harvest EPOLLIN, .initiate .write, .clear, .request, .read,
    .rearm, .dispatch, .complete .read, .harvest EPOLLOUT, .clear, .read, .rearm,
    .dispatch]

theorem overlappingSend_agrees :
    (Runs.exec step init overlappingSend).isSome = true ∧
      InterestAgrees overlappingSend :=
  ⟨by decide +kernel, interestAgrees_of_latest (by decide +kernel)⟩

/-- The request of the send, computed before the report of the recv is cleared, comes
after the re-arm. -/
def outdatedRequest : List Action :=
  [.initiate .read, .request, .harvest EPOLLIN, .initiate .write, .clear, .read, .rearm,
    .dispatch, .complete .read, .request]

theorem interestAgrees_false :
    ¬ ∀ actions : List Action, (Runs.exec step init actions).isSome = true →
      InterestAgrees actions := by
  intro claimed
  have executed : (Runs.exec step init outdatedRequest).isSome = true := by
    decide +kernel
  obtain ⟨final, reached⟩ := Option.isSome_iff_exists.mp executed
  have agrees := (claimed _ executed).1.final reached
  have outdated : (Runs.exec step init outdatedRequest).map (fun state =>
      (state.initiating, state.handling, state.interest.has .read,
        state.eventMask.has .read)) = some (none, .idle, true, false) := by
    decide +kernel
  rw [reached, Option.map_some, Option.some.injEq, Prod.mk.injEq, Prod.mk.injEq,
    Prod.mk.injEq] at outdated
  obtain ⟨initiating, handling, armed, cleared⟩ := outdated
  have present := (agrees ⟨initiating, handling⟩).1 .read armed
  rw [cleared] at present
  cases present

end BabaIo.InterestMask
