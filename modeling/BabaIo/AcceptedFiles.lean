import BabaIo.FileAccount

/-
The acceptor of an outstanding accept.

The reaction and the completion of an accept write and read `_peer_fd` of the
acceptor they captured.  As long as the descriptor of the event is in scope, that
acceptor is still the owner of the event and of its descriptor, so what it holds
is the file that the accept waits with.
-/

set_option autoImplicit false

namespace BabaIo.Objects

/-! ### What grows -/

/-- Ids are used in order, an event keeps its descriptor, a descriptor its file. -/
structure Extends (state next : State) : Prop where
  idGenerator : state.idGenerator ≤ next.idGenerator
  register : ∀ evt event, evt < state.idGenerator → next.register evt = some event →
    ∃ old, state.register evt = some old ∧ old.descriptor = event.descriptor
  nextDescriptor : state.nextDescriptor ≤ next.nextDescriptor
  files : ∀ descriptor, descriptor < state.nextDescriptor →
    (next.descriptors descriptor).fd = (state.descriptors descriptor).fd
  scopes : ∀ descriptor, descriptor < state.nextDescriptor →
    (next.descriptors descriptor).inScope = true →
      (state.descriptors descriptor).inScope = true

theorem extends_of_same {state next : State}
    (idGenerator : next.idGenerator = state.idGenerator)
    (register : next.register = state.register)
    (nextDescriptor : next.nextDescriptor = state.nextDescriptor)
    (descriptors : next.descriptors = state.descriptors) : Extends state next := by
  constructor
  · exact Nat.le_of_eq idGenerator.symm
  · intro evt event _ found
    exact ⟨event, register ▸ found, rfl⟩
  · exact Nat.le_of_eq nextDescriptor.symm
  · intro descriptor _
    rw [descriptors]
  · intro descriptor _ inScope
    exact descriptors ▸ inScope

theorem Extends.trans {first second third : State} (before : Extends first second)
    (after : Extends second third) : Extends first third := by
  constructor
  · exact before.idGenerator.trans after.idGenerator
  · intro evt event known found
    obtain ⟨middle, foundMiddle, sameMiddle⟩ :=
      after.register evt event (known.trans_le before.idGenerator) found
    obtain ⟨old, foundOld, sameOld⟩ := before.register evt middle known foundMiddle
    exact ⟨old, foundOld, sameOld.trans sameMiddle⟩
  · exact before.nextDescriptor.trans after.nextDescriptor
  · intro descriptor known
    exact (after.files descriptor (known.trans_le before.nextDescriptor)).trans
      (before.files descriptor known)
  · intro descriptor known inScope
    exact before.scopes descriptor known
      (after.scopes descriptor (known.trans_le before.nextDescriptor) inScope)

theorem Extends.inScope {state next : State} (grown : Extends state next)
    {event : ReactorEvent} (known : ∀ descriptor, event.descriptor = some descriptor →
      descriptor < state.nextDescriptor) (scope : inScope next event = true) :
    inScope state event = true := by
  unfold Objects.inScope at scope ⊢
  split
  · rename_i undescribed
    rw [undescribed] at scope
    exact scope
  · rename_i descriptor described
    rw [described] at scope
    exact grown.scopes descriptor (known descriptor described) scope

theorem Extends.armable {state next : State} (grown : Extends state next)
    {event : ReactorEvent} (known : ∀ descriptor, event.descriptor = some descriptor →
      descriptor < state.nextDescriptor) : armable next event = armable state event := by
  unfold Objects.armable
  split
  · rfl
  · rename_i descriptor described
    rw [grown.files descriptor (known descriptor described)]

theorem extends_take (state : State) (event : ReactorEvent) :
    Extends state (take state event) := by
  refine ⟨Nat.le_succ _, ?_, Nat.le_refl _, fun _ _ => rfl, fun _ _ inScope => inScope⟩
  intro evt other known found
  refine ⟨other, ?_, rfl⟩
  rw [← found]
  exact (Function.update_of_ne (Nat.ne_of_lt known) _ _).symm

theorem extends_takeEvents (state : State) (kind : Kind) (descriptor : DescriptorId)
    (strand : StrandId) : Extends state (takeEvents state kind descriptor strand) := by
  unfold takeEvents
  split
  · exact (extends_take state _).trans (extends_take _ _)
  · exact extends_take state _

theorem extends_construct (state : State) (kind : Kind) (strand : StrandId)
    (fd : Option Fd) : Extends state (construct state kind strand fd) := by
  refine Extends.trans ?_ (extends_takeEvents _ kind state.nextDescriptor strand)
  have other : ∀ descriptor, descriptor < state.nextDescriptor →
      Function.update state.descriptors state.nextDescriptor ⟨fd, true⟩ descriptor =
        state.descriptors descriptor :=
    fun descriptor known => Function.update_of_ne (Nat.ne_of_lt known) _ _
  constructor
  · exact Nat.le_refl _
  · exact fun evt event _ found => ⟨event, found, rfl⟩
  · exact Nat.le_succ _
  · intro descriptor known
    exact congrArg Descriptor.fd (other descriptor known)
  · intro descriptor known inScope
    rw [← other descriptor known]
    exact inScope

theorem extends_setEvent {state : State} {evt : EventId} {old : ReactorEvent}
    (found : state.register evt = some old) (event : ReactorEvent)
    (descriptor : event.descriptor = old.descriptor) :
    Extends state (setEvent state evt event) := by
  refine ⟨Nat.le_refl _, ?_, Nat.le_refl _, fun _ _ => rfl, fun _ _ inScope => inScope⟩
  intro id other _ isFound
  rcases update_eq_some isFound with ⟨rfl, new⟩ | ⟨_, before⟩
  · cases new
    exact ⟨old, found, descriptor.symm⟩
  · exact ⟨other, before, rfl⟩

theorem extends_give (state : State) (evt : EventId) : Extends state (give state evt) := by
  refine ⟨Nat.le_refl _, ?_, Nat.le_refl _, fun _ _ => rfl, fun _ _ inScope => inScope⟩
  intro id other _ isFound
  rcases update_eq_some isFound with ⟨_, impossible⟩ | ⟨_, before⟩
  · cases impossible
  · exact ⟨other, before, rfl⟩

theorem leaveScope_outside (state : State) (descriptor : DescriptorId) :
    ((leaveScope state descriptor).descriptors descriptor).inScope = false := by
  have outside : (Function.update state.descriptors descriptor
      { state.descriptors descriptor with inScope := false } descriptor).inScope = false := by
    rw [Function.update_self]
  unfold leaveScope closeFile
  split <;> exact outside

theorem extends_leaveScope (state : State) (descriptor : DescriptorId) :
    Extends state (leaveScope state descriptor) := by
  have left : Extends state { state with
      descriptors := Function.update state.descriptors descriptor
        { state.descriptors descriptor with inScope := false } } := by
    refine ⟨Nat.le_refl _, fun _ event _ found => ⟨event, found, rfl⟩, Nat.le_refl _, ?_, ?_⟩
    · intro other _
      by_cases same : other = descriptor
      · subst other
        change (Function.update state.descriptors descriptor _ descriptor).fd = _
        rw [Function.update_self]
      · exact congrArg Descriptor.fd (Function.update_of_ne same _ _)
    · intro other _ inScope
      by_cases same : other = descriptor
      · subst other
        change (Function.update state.descriptors descriptor _ descriptor).inScope = true
          at inScope
        rw [Function.update_self] at inScope
        cases inScope
      · change (Function.update state.descriptors descriptor _ other).inScope = true
          at inScope
        rw [Function.update_of_ne same] at inScope
        exact inScope
  refine left.trans ?_
  unfold leaveScope closeFile
  split <;> exact extends_of_same rfl rfl rfl rfl

theorem extends_dispose {state next : State} {evt : Option EventId}
    (disposed : dispose state evt = some next) : Extends state next := by
  cases evt with
  | none =>
      cases disposed
      exact extends_of_same rfl rfl rfl rfl
  | some evt =>
      obtain ⟨event, _, rfl⟩ := Option.map_eq_some_iff.mp disposed
      exact (extends_take state (finalEvent evt event.strand)).trans
        (extends_of_same rfl rfl rfl rfl)

theorem extends_destroy {state next : State} {var : Var} {object : AsyncObject}
    (ran : destroy state var object = some next) : Extends state next := by
  have gone : Extends state (assign state var none) := extends_of_same rfl rfl rfl rfl
  rcases destroy_cases ran with ⟨rfl, _⟩ | ⟨descriptor, disposed, _, _, _, first, second⟩
  · exact gone
  · exact ((gone.trans (extends_leaveScope _ _)).trans (extends_dispose first)).trans
      (extends_dispose second)

theorem extends_fin_accept (state : State) (acceptor : Var) (object : AsyncObject)
    (answer : Option Fd) : Extends state (fin_accept state acceptor object answer) := by
  cases answer <;> exact extends_of_same rfl rfl rfl rfl

theorem extends_enqueue (state : State) (strand : StrandId) (evt : EventId) :
    Extends state (enqueue state strand evt) := extends_of_same rfl rfl rfl rfl

theorem extends_initiate {state : State} {evt : EventId} {event : ReactorEvent}
    (found : state.register evt = some event) (operation : Operation) (armed : Bool) :
    Extends state (initiate state evt event operation armed) := by
  unfold initiate
  split
  · exact extends_setEvent found _ rfl
  · refine Extends.trans ?_ (extends_enqueue _ event.strand evt)
    exact extends_setEvent found _ rfl

theorem step_extends {state next : State} {action : Action}
    (stepped : step state action = some next) : Extends state next := by
  cases step_moves stepped with
  | default kind => exact extends_of_same rfl rfl rfl rfl
  | create kind strand fd free =>
      have made : ∀ opened : State, Extends opened
          (declare (construct opened kind strand fd) (constructed opened kind strand)) :=
        fun opened => (extends_construct opened kind strand fd).trans
          (extends_of_same rfl rfl rfl rfl)
      cases fd with
      | none => exact made state
      | some fd =>
          have opens : Extends state (openFile state fd) := extends_of_same rfl rfl rfl rfl
          exact opens.trans (made (openFile state fd))
  | moveConstruct source object found may => exact extends_of_same rfl rfl rfl rfl
  | moveAssign target source overwritten object foundTarget found sameKind may =>
      unfold moveAssign
      split <;> exact extends_of_same rfl rfl rfl rfl
  | convert connector object strand descriptor found kind forUser described =>
      exact (extends_construct state .tcp strand _).trans (extends_of_same rfl rfl rfl rfl)
  | convertAssign target connector socket object strand descriptor foundTarget found
      socketKind kind stranded described =>
      exact (extends_takeEvents state .tcp descriptor strand).trans
        (extends_of_same rfl rfl rfl rfl)
  | destroy var object next found ran => exact extends_destroy ran
  | initiate var sender armed object evt event found kind owns idle =>
      exact extends_initiate (ready_eq_some idle).2.1 .plain armed
  | accept acceptor peer peerStrand armed object evt event found kind stranded owns idle =>
      exact extends_initiate (ready_eq_some idle).2.1 _ armed
  | dispatch evt event found reacts => exact extends_setEvent found _ rfl
  | react evt ok answer event operation reacted outcome found reacts before active ran =>
      rcases doReact_cases ran with ⟨rfl, _, _⟩ |
        ⟨acceptor, peer, strand, object, _, _, _, _, _, rfl, _⟩
      · exact extends_setEvent found _ rfl
      · have still : (fin_accept state acceptor object answer).register evt = some event := by
          rw [(fin_accept_same state acceptor object answer).2.2.2.2.1]
          exact found
        exact (extends_fin_accept state acceptor object answer).trans
          (extends_setEvent still _ rfl)
  | forCompletion evt event operation outcome found reacts reacted =>
      refine Extends.trans ?_ (extends_enqueue _ event.strand evt)
      exact extends_setEvent found _ rfl
  | processDeletionQueue => exact extends_of_same rfl rfl rfl rfl
  | runTask final event member found => exact extends_of_same rfl rfl rfl rfl
  | completeCallback strand evt rest event operation outcome next queued found complete ran =>
      have completed : Extends state (setEvent { state with
          strandQueue := Function.update state.strandQueue strand rest } evt
            { event with complete := none, hasActiveEvent := false }) :=
        (extends_setEvent found { event with complete := none, hasActiveEvent := false }
          rfl).trans (extends_of_same rfl rfl rfl rfl)
      rcases completeCallback_cases ran with ⟨rfl, _⟩ |
        ⟨acceptor, peer, peerStrand, object, socket, taken, _, _, _, _, _, rfl⟩
      · exact completed
      · exact (completed.trans (extends_construct _ .tcp taken object.peerFd)).trans
          (extends_of_same rfl rfl rfl rfl)
  | completeFinal strand final rest event evt next queued found complete ran =>
      obtain ⟨owner, _, rfl⟩ := Option.map_eq_some_iff.mp ran
      have popped : Extends state { state with
          strandQueue := Function.update state.strandQueue strand rest } :=
        extends_of_same rfl rfl rfl rfl
      split
      · exact popped.trans (extends_enqueue _ event.strand final)
      · exact (popped.trans (extends_give _ evt)).trans (extends_give _ final)

/-! ### Objects and their events -/

def Linked (state : State) (object : AsyncObject) : Prop :=
  object.strand.isSome = true → ∀ evt, object.evt = some evt →
    evt < state.idGenerator ∧
      ∀ event, state.register evt = some event → event.descriptor = object.descriptor

def EventsLinked (state : State) : Prop :=
  ∀ var object, state.objects var = some object → Linked state object

theorem linked_unused (state : State) {object : AsyncObject} (stranded : object.strand = none) :
    Linked state object := by
  intro impossible
  rw [stranded] at impossible
  cases impossible

theorem Linked.later {state next : State} {object : AsyncObject}
    (linked : Linked state object) (grown : Extends state next) : Linked next object := by
  intro stranded evt owns
  obtain ⟨known, same⟩ := linked stranded evt owns
  refine ⟨known.trans_le grown.idGenerator, fun event found => ?_⟩
  obtain ⟨old, foundOld, sameOld⟩ := grown.register evt event known found
  rw [← sameOld]
  exact same old foundOld

theorem takeEvents_first (state : State) (kind : Kind) (descriptor : DescriptorId)
    (strand : StrandId) :
    state.idGenerator < (takeEvents state kind descriptor strand).idGenerator ∧
      (takeEvents state kind descriptor strand).register state.idGenerator =
        some (newEvent descriptor strand) := by
  have first : (take state (newEvent descriptor strand)).register state.idGenerator =
      some (newEvent descriptor strand) := Function.update_self ..
  unfold takeEvents
  split
  · refine ⟨Nat.lt_succ_of_lt (Nat.lt_succ_self _), ?_⟩
    rw [← first]
    exact Function.update_of_ne (Nat.ne_of_lt (Nat.lt_succ_self state.idGenerator)) _ _
  · exact ⟨Nat.lt_succ_self _, first⟩

theorem linked_taken (state : State) (kind : Kind) (descriptor : DescriptorId)
    (strand : StrandId) {object : AsyncObject} (owns : object.evt = some state.idGenerator)
    (described : object.descriptor = some descriptor) :
    Linked (takeEvents state kind descriptor strand) object := by
  obtain ⟨known, first⟩ := takeEvents_first state kind descriptor strand
  intro _ evt own
  rw [owns] at own
  cases own
  refine ⟨known, fun event found => ?_⟩
  rw [first] at found
  cases found
  exact described.symm

theorem linked_constructed (state : State) (kind : Kind) (strand : StrandId)
    (fd : Option Fd) :
    Linked (construct state kind strand fd) (constructed state kind strand) :=
  linked_taken _ kind state.nextDescriptor strand rfl rfl

theorem EventsLinked.assign {state : State} (held : EventsLinked state) (var : Var)
    {value : Option AsyncObject} (linked : ∀ object, value = some object → Linked state object) :
    EventsLinked (assign state var value) := by
  intro other object found
  rcases update_eq_some found with ⟨_, new⟩ | ⟨_, old⟩
  · exact linked object new
  · exact held other object old

theorem EventsLinked.declare {state : State} (held : EventsLinked state)
    {object : AsyncObject} (linked : Linked state object) :
    EventsLinked (declare state object) := by
  intro other isObject found
  rcases update_eq_some found with ⟨_, new⟩ | ⟨_, old⟩
  · cases new
    exact linked
  · exact held other isObject old

theorem EventsLinked.later {state next : State} (held : EventsLinked state)
    (grown : Extends state next) (objects : next.objects = state.objects) :
    EventsLinked next := by
  intro var object found
  rw [objects] at found
  exact (held var object found).later grown

theorem EventsLinked.construct {state : State} (held : EventsLinked state) (kind : Kind)
    (strand : StrandId) (fd : Option Fd) : EventsLinked (construct state kind strand fd) :=
  held.later (extends_construct state kind strand fd) (construct_same state kind strand fd).1

theorem EventsLinked.moved {state : State} (held : EventsLinked state) (source : Var)
    (object : AsyncObject) : EventsLinked (Objects.assign state source (some object.moved)) := by
  apply held.assign source
  intro other same
  cases same
  exact linked_unused state rfl

theorem destroy_objects {state next : State} {var : Var} {object : AsyncObject}
    (ran : destroy state var object = some next) :
    next.objects = Function.update state.objects var none := by
  rcases destroy_cases ran with ⟨rfl, _⟩ | ⟨descriptor, disposed, _, _, _, first, second⟩
  · rfl
  · rw [(dispose_same second).1, (dispose_same first).1]
    unfold leaveScope closeFile
    split <;> rfl

theorem eventsLinked_step {state next : State} {action : Action}
    (held : EventsLinked state) (stepped : step state action = some next) :
    EventsLinked next := by
  have grown := step_extends stepped
  cases step_moves stepped with
  | default kind => exact held.declare (linked_unused state rfl)
  | create kind strand fd free =>
      have made : ∀ opened : State, EventsLinked opened →
          EventsLinked (declare (construct opened kind strand fd)
            (constructed opened kind strand)) :=
        fun opened before => (before.construct kind strand fd).declare
          (linked_constructed opened kind strand fd)
      cases fd with
      | none => exact made state held
      | some fd => exact made (openFile state fd) held
  | moveConstruct source object found may =>
      exact (held.moved source object).declare (held source object found)
  | moveAssign target source overwritten object foundTarget found sameKind may =>
      unfold moveAssign
      split
      · apply held.assign target
        intro other same
        cases same
        exact linked_unused state rfl
      · apply (held.moved source object).assign target
        intro other same
        cases same
        exact held source object found
  | convert connector object strand descriptor found kind forUser described =>
      refine EventsLinked.declare ?_ (linked_constructed state .tcp strand _)
      apply (held.construct .tcp strand _).assign connector
      intro other same
      cases same
      exact linked_unused _ rfl
  | convertAssign target connector socket object strand descriptor foundTarget found
      socketKind kind stranded described =>
      have taken := held.later (extends_takeEvents state .tcp descriptor strand)
        (takeEvents_same state .tcp descriptor strand).1
      refine EventsLinked.assign ?_ target ?_
      · apply taken.assign connector
        intro other same
        cases same
        exact linked_unused _ rfl
      · intro other same
        cases same
        exact linked_taken state .tcp descriptor strand rfl rfl
  | destroy var object next found ran =>
      intro other isObject isFound
      rw [destroy_objects ran] at isFound
      rcases update_eq_some isFound with ⟨_, impossible⟩ | ⟨_, old⟩
      · cases impossible
      · exact (held other isObject old).later grown
  | initiate var sender armed object evt event found kind owns idle =>
      refine held.later grown ?_
      unfold initiate
      split <;> rfl
  | accept acceptor peer peerStrand armed object evt event found kind stranded owns idle =>
      refine held.later grown ?_
      unfold initiate
      split <;> rfl
  | dispatch evt event found reacts => exact held.later grown rfl
  | react evt ok answer event operation reacted outcome found reacts before active ran =>
      rcases doReact_cases ran with ⟨rfl, _, _⟩ |
        ⟨acceptor, peer, strand, object, _, _, _, foundAcceptor, _, rfl, _⟩
      · exact held.later grown rfl
      · have answered : EventsLinked (Objects.assign state acceptor
            (some { object with peerFd := answer })) := by
          apply held.assign acceptor
          intro other same
          cases same
          exact held acceptor object foundAcceptor
        intro var other isFound
        refine Linked.later ?_ grown
        refine answered var other ?_
        rw [← isFound]
        exact (congrFun (fin_accept_same state acceptor object answer).1 var).symm
  | forCompletion evt event operation outcome found reacts reacted => exact held.later grown rfl
  | processDeletionQueue => exact held.later grown rfl
  | runTask final event member found => exact held.later grown rfl
  | completeCallback strand evt rest event operation outcome next queued found complete ran =>
      rcases completeCallback_cases ran with ⟨rfl, _⟩ |
        ⟨acceptor, peer, peerStrand, object, socket, taken, _, _, _, foundPeer, _, rfl⟩
      · exact held.later grown rfl
      · intro other isObject isFound
        rcases update_eq_some isFound with ⟨_, new⟩ | ⟨_, old⟩
        · cases new
          exact linked_constructed _ .tcp taken object.peerFd
        · rw [(construct_same _ .tcp taken object.peerFd).1] at old
          exact (held other isObject old).later grown
  | completeFinal strand final rest event evt next queued found complete ran =>
      obtain ⟨owner, _, rfl⟩ := Option.map_eq_some_iff.mp ran
      refine held.later grown ?_
      split <;> rfl

/-! ### Outstanding accepts -/

/-- The acceptor to which an outstanding accept may still write or deliver. -/
def acceptorOf (event : ReactorEvent) : Option Var :=
  match event.react, event.complete with
  | some (.accept acceptor _ _), _ => some acceptor
  | none, some (.callback (.accept acceptor _ _) ⟨true, _⟩) => some acceptor
  | _, _ => none

def answeredWith (event : ReactorEvent) : Option (Option Fd) :=
  match event.reacting, event.complete with
  | some ⟨true, accepted⟩, _ => some accepted
  | none, some (.callback _ ⟨true, accepted⟩) => some accepted
  | _, _ => none

structure TiedTo (state : State) (evt : EventId) (event : ReactorEvent)
    (object : AsyncObject) : Prop where
  kind : object.kind = .acceptor
  stranded : object.strand.isSome = true
  owns : object.evt = some evt
  described : object.descriptor = event.descriptor
  armable : armable state event = true
  answered : ∀ fd, answeredWith event = some fd → object.peerFd = fd

structure EventTied (state : State) (evt : EventId) (event : ReactorEvent) : Prop where
  described : ∀ descriptor, event.descriptor = some descriptor →
    descriptor < state.nextDescriptor
  active : waitingFile (some event) ≠ [] → event.hasActiveEvent = true
  tied : ∀ acceptor, acceptorOf event = some acceptor → inScope state event = true →
    ∃ object, state.objects acceptor = some object ∧ TiedTo state evt event object

def AcceptsTied (state : State) : Prop :=
  ∀ evt event, state.register evt = some event → EventTied state evt event

structure Accepting (state : State) (evt : EventId) (event : ReactorEvent)
    (acceptor : Var) (object : AsyncObject) : Prop where
  registered : state.register evt = some event
  refers : acceptorOf event = some acceptor
  inScope : inScope state event = true
  found : state.objects acceptor = some object
  tied : TiedTo state evt event object

theorem eventTied_quiet {state : State} {evt : EventId} {event : ReactorEvent}
    (described : ∀ descriptor, event.descriptor = some descriptor →
      descriptor < state.nextDescriptor)
    (waiting : waitingFile (some event) = []) (nobody : acceptorOf event = none) :
    EventTied state evt event := by
  refine ⟨described, fun some => absurd waiting some, fun acceptor refers => ?_⟩
  rw [nobody] at refers
  cases refers

theorem Accepting.ownsFile {state : State} {evt : EventId} {event : ReactorEvent}
    {acceptor : Var} {object : AsyncObject}
    (accepting : Accepting state evt event acceptor object) :
    ownsFile state acceptor = true := by
  have scope := accepting.inScope
  have files := accepting.tied.armable
  unfold Objects.inScope at scope
  unfold Objects.armable at files
  have described := accepting.tied.described
  unfold Objects.ownsFile ownedFile ownedDescriptor
  rw [accepting.found]
  dsimp only
  rw [if_pos accepting.tied.stranded, described]
  cases isDescriptor : event.descriptor with
  | none =>
      rw [isDescriptor] at scope
      cases scope
  | some descriptor =>
      rw [isDescriptor] at scope files
      obtain ⟨fd, isFd⟩ := Option.isSome_iff_exists.mp files
      dsimp only at scope
      simp [scope, isFd]

theorem busy_of_acceptorOf {event : ReactorEvent} {acceptor : Var}
    (refers : acceptorOf event = some acceptor) : event.busy = true := by
  unfold acceptorOf at refers
  unfold ReactorEvent.busy
  split at refers
  · rename_i reacts
    rw [reacts]
    rfl
  · rename_i complete
    rw [complete, Option.isSome_some, Bool.or_true]
  · cases refers

theorem Accepting.mayMove {state : State} {evt : EventId} {event : ReactorEvent}
    {acceptor : Var} {object : AsyncObject}
    (accepting : Accepting state evt event acceptor object) :
    mayMove state object = false := by
  unfold Objects.mayMove
  rw [accepting.tied.kind, accepting.tied.owns, Option.bind_some, accepting.registered]
  dsimp only
  rw [busy_of_acceptorOf accepting.refers]
  rfl

theorem notAccepting_of_ownsFile {state : State} {var : Var}
    (unowned : ownsFile state var = false) (evt : EventId) (event : ReactorEvent)
    (object : AsyncObject) : ¬ Accepting state evt event var object := by
  intro accepting
  rw [accepting.ownsFile] at unowned
  cases unowned

theorem notAccepting_of_mayMove {state : State} {var : Var} {object : AsyncObject}
    (found : state.objects var = some object) (may : mayMove state object = true)
    (evt : EventId) (event : ReactorEvent) (other : AsyncObject) :
    ¬ Accepting state evt event var other := by
  intro accepting
  have same := found.symm.trans accepting.found
  cases same
  rw [accepting.mayMove] at may
  cases may

theorem notAccepting_of_kind {state : State} {var : Var} {object : AsyncObject}
    (found : state.objects var = some object) (kind : object.kind ≠ .acceptor)
    (evt : EventId) (event : ReactorEvent) (other : AsyncObject) :
    ¬ Accepting state evt event var other := by
  intro accepting
  have same := found.symm.trans accepting.found
  cases same
  exact kind accepting.tied.kind

theorem Accepting.ne {state : State} {evt : EventId} {event : ReactorEvent}
    {acceptor var : Var} {object : AsyncObject}
    (accepting : Accepting state evt event acceptor object)
    (free : ∀ evt event object, ¬ Accepting state evt event var object) :
    acceptor ≠ var := by
  intro same
  subst same
  exact free evt event object accepting

/-- A step that keeps the acceptors of the accepts whose descriptors stay in scope. -/
theorem AcceptsTied.later {state next : State} (held : AcceptsTied state)
    (grown : Extends state next)
    (register : ∀ evt event, next.register evt = some event →
      state.register evt = some event ∨ EventTied next evt event)
    (objects : ∀ evt event acceptor object, Accepting state evt event acceptor object →
      inScope next event = true →
        ∃ fd, next.objects acceptor = some { object with peerFd := fd } ∧
          (fd = object.peerFd ∨ answeredWith event = none)) : AcceptsTied next := by
  intro evt event found
  rcases register evt event found with old | new
  · have before := held evt event old
    refine ⟨?_, before.active, ?_⟩
    · intro descriptor described
      exact (before.described descriptor described).trans_le grown.nextDescriptor
    · intro acceptor refers scope
      have wasInScope := grown.inScope before.described scope
      obtain ⟨object, isObject, tied⟩ := before.tied acceptor refers wasInScope
      obtain ⟨fd, isChanged, peerFd⟩ := objects evt event acceptor object
        ⟨old, refers, wasInScope, isObject, tied⟩ scope
      refine ⟨_, isChanged, tied.kind, tied.stranded, tied.owns, tied.described, ?_, ?_⟩
      · rw [grown.armable before.described]
        exact tied.armable
      · intro answer answered
        rcases peerFd with kept | unanswered
        · rw [← tied.answered answer answered]
          exact kept
        · rw [unanswered] at answered
          cases answered
  · exact new

theorem AcceptsTied.later_same {state next : State} (held : AcceptsTied state)
    (grown : Extends state next)
    (register : ∀ evt event, next.register evt = some event →
      state.register evt = some event ∨ EventTied next evt event)
    (objects : ∀ evt event acceptor object, Accepting state evt event acceptor object →
      inScope next event = true → next.objects acceptor = state.objects acceptor) :
    AcceptsTied next := by
  apply held.later grown register
  intro evt event acceptor object accepting scope
  refine ⟨object.peerFd, ?_, Or.inl rfl⟩
  rw [objects evt event acceptor object accepting scope]
  exact accepting.found

/-! ### Accepts under one step -/

theorem takeEvents_entry {state : State} {kind : Kind} {descriptor : DescriptorId}
    {strand : StrandId} {evt : EventId} {event : ReactorEvent}
    (found : (takeEvents state kind descriptor strand).register evt = some event) :
    state.register evt = some event ∨ event = newEvent descriptor strand := by
  have taken : ∀ before : State,
      (take before (newEvent descriptor strand)).register evt = some event →
        before.register evt = some event ∨ event = newEvent descriptor strand := by
    intro before isFound
    rcases update_eq_some isFound with ⟨_, new⟩ | ⟨_, old⟩
    · exact Or.inr (Option.some.inj new).symm
    · exact Or.inl old
  unfold takeEvents at found
  dsimp only at found
  split at found
  · rcases taken _ found with first | second
    · exact taken _ first
    · exact Or.inr second
  · exact taken _ found

theorem dispose_entry {state next : State} {target : Option EventId} {evt : EventId}
    {event : ReactorEvent} (disposed : dispose state target = some next)
    (found : next.register evt = some event) :
    state.register evt = some event ∨ ∃ owner strand, event = finalEvent owner strand := by
  cases target with
  | none =>
      cases disposed
      exact Or.inl found
  | some target =>
      obtain ⟨owner, _, rfl⟩ := Option.map_eq_some_iff.mp disposed
      rcases update_eq_some found with ⟨_, new⟩ | ⟨_, old⟩
      · exact Or.inr ⟨target, owner.strand, (Option.some.inj new).symm⟩
      · exact Or.inl old

theorem eventTied_new {state : State} (evt : EventId) {descriptor : DescriptorId}
    (known : descriptor < state.nextDescriptor) (strand : StrandId) :
    EventTied state evt (newEvent descriptor strand) := by
  apply eventTied_quiet _ rfl rfl
  intro other described
  cases described
  exact known

theorem eventTied_final (state : State) (evt target : EventId) (strand : StrandId) :
    EventTied state evt (finalEvent target strand) := by
  apply eventTied_quiet _ rfl rfl
  intro other impossible
  cases impossible

theorem EventTied.changed {state : State} {evt : EventId} {event changed : ReactorEvent}
    (tied : EventTied state evt event) (described : changed.descriptor = event.descriptor)
    (active : waitingFile (some changed) ≠ [] → changed.hasActiveEvent = true)
    (refers : ∀ acceptor, acceptorOf changed = some acceptor →
      acceptorOf event = some acceptor)
    (answered : ∀ fd, answeredWith changed = some fd → answeredWith event = some fd) :
    EventTied state evt changed := by
  refine ⟨fun descriptor same => tied.described descriptor (described ▸ same), active, ?_⟩
  intro acceptor isAcceptor scope
  have wasInScope : inScope state event = true := by
    unfold inScope at scope ⊢
    rw [← described]
    exact scope
  obtain ⟨object, found, before⟩ := tied.tied acceptor (refers acceptor isAcceptor) wasInScope
  refine ⟨object, found, before.kind, before.stranded, before.owns,
    before.described.trans described.symm, ?_, ?_⟩
  · have armed := before.armable
    unfold armable at armed ⊢
    rw [described]
    exact armed
  · exact fun fd isAnswer => before.answered fd (answered fd isAnswer)

theorem EventTied.of_same {state next : State} {evt : EventId} {event : ReactorEvent}
    (tied : EventTied state evt event) (objects : next.objects = state.objects)
    (descriptors : next.descriptors = state.descriptors)
    (nextDescriptor : next.nextDescriptor = state.nextDescriptor) :
    EventTied next evt event := by
  have scope : inScope next event = inScope state event := by
    unfold inScope
    rw [descriptors]
  have armed : armable next event = armable state event := by
    unfold armable
    rw [descriptors]
  refine ⟨nextDescriptor ▸ tied.described, tied.active, ?_⟩
  rw [scope, objects]
  intro acceptor refers within
  obtain ⟨object, found, before⟩ := tied.tied acceptor refers within
  exact ⟨object, found, before.kind, before.stranded, before.owns, before.described,
    armed.trans before.armable, before.answered⟩

theorem AcceptsTied.setEvent {state : State} (held : AcceptsTied state) {evt : EventId}
    {event : ReactorEvent} (tied : EventTied state evt event) :
    AcceptsTied (setEvent state evt event) := by
  intro id other found
  rcases update_eq_some found with ⟨rfl, new⟩ | ⟨_, old⟩
  · cases new
    exact tied.of_same rfl rfl rfl
  · exact (held id other old).of_same rfl rfl rfl

theorem AcceptsTied.of_same {state next : State} (held : AcceptsTied state)
    (objects : next.objects = state.objects) (register : next.register = state.register)
    (idGenerator : next.idGenerator = state.idGenerator)
    (descriptors : next.descriptors = state.descriptors)
    (nextDescriptor : next.nextDescriptor = state.nextDescriptor) : AcceptsTied next := by
  apply held.later_same (extends_of_same idGenerator register nextDescriptor descriptors)
  · intro evt event found
    exact Or.inl (register ▸ found)
  · intro evt event acceptor object _ _
    rw [objects]

theorem AcceptsTied.give {state : State} (held : AcceptsTied state) (evt : EventId) :
    AcceptsTied (give state evt) := by
  refine held.later_same (extends_give state evt) ?_ fun _ _ _ _ _ _ => rfl
  intro id event found
  rcases update_eq_some found with ⟨_, impossible⟩ | ⟨_, old⟩
  · cases impossible
  · exact Or.inl old

/-- A variable to which no accept refers gets another object. -/
theorem AcceptsTied.assign {state : State} (held : AcceptsTied state) {var : Var}
    (value : Option AsyncObject)
    (free : ∀ evt event object, ¬ Accepting state evt event var object) :
    AcceptsTied (assign state var value) := by
  refine held.later_same (extends_of_same rfl rfl rfl rfl) (fun _ _ found => Or.inl found) ?_
  intro evt event acceptor object accepting _
  exact Function.update_of_ne (accepting.ne free) _ _

theorem AcceptsTied.declare {state : State} (held : AcceptsTied state)
    (free : state.objects state.nextVar = none) (object : AsyncObject) :
    AcceptsTied (declare state object) := by
  refine held.later_same (extends_of_same rfl rfl rfl rfl) (fun _ _ found => Or.inl found) ?_
  intro evt event acceptor other accepting _
  apply Function.update_of_ne
  intro same
  subst same
  have impossible := free.symm.trans accepting.found
  cases impossible

theorem assign_free {state : State} (objects : ObjectsOk state) {var : Var}
    {object : AsyncObject} (found : state.objects var = some object)
    (value : Option AsyncObject) : (assign state var value).objects state.nextVar = none := by
  rw [← objects.unused state.nextVar (Nat.le_refl _)]
  exact Function.update_of_ne (Nat.ne_of_gt (objects.known found)) _ _

theorem AcceptsTied.takeEvents {state : State} (held : AcceptsTied state) (kind : Kind)
    {descriptor : DescriptorId} (known : descriptor < state.nextDescriptor)
    (strand : StrandId) : AcceptsTied (takeEvents state kind descriptor strand) := by
  obtain ⟨objects, _, nextDescriptor, _⟩ := takeEvents_same state kind descriptor strand
  apply held.later_same (extends_takeEvents state kind descriptor strand)
  · intro evt event found
    rcases takeEvents_entry found with old | rfl
    · exact Or.inl old
    · exact Or.inr (eventTied_new evt (nextDescriptor ▸ known) strand)
  · intro evt event acceptor object _ _
    rw [objects]

theorem AcceptsTied.construct {state : State} (held : AcceptsTied state) (kind : Kind)
    (strand : StrandId) (fd : Option Fd) : AcceptsTied (construct state kind strand fd) := by
  obtain ⟨objects, _, nextDescriptor, _⟩ := construct_same state kind strand fd
  apply held.later_same (extends_construct state kind strand fd)
  · intro evt event found
    rcases takeEvents_entry found with old | rfl
    · exact Or.inl old
    · exact Or.inr (eventTied_new evt (nextDescriptor ▸ Nat.lt_succ_self _) strand)
  · intro evt event acceptor object _ _
    rw [objects]

theorem AcceptsTied.moveAssign {state : State} (held : AcceptsTied state)
    {target source : Var} (object : AsyncObject)
    (freeTarget : ∀ evt event other, ¬ Accepting state evt event target other)
    (freeSource : ∀ evt event other, ¬ Accepting state evt event source other) :
    AcceptsTied (moveAssign state target source object) := by
  unfold Objects.moveAssign
  split
  · exact held.assign _ freeTarget
  · refine held.later_same (extends_of_same rfl rfl rfl rfl)
      (fun _ _ found => Or.inl found) ?_
    intro evt event acceptor other accepting _
    exact (Function.update_of_ne (accepting.ne freeTarget) _ _).trans
      (Function.update_of_ne (accepting.ne freeSource) _ _)

theorem AcceptsTied.convertAssign {state : State} (held : AcceptsTied state)
    {target connector : Var} (socket object : AsyncObject) (strand : StrandId)
    {descriptor : DescriptorId} (known : descriptor < state.nextDescriptor)
    (freeTarget : ∀ evt event other, ¬ Accepting state evt event target other)
    (freeConnector : ∀ evt event other, ¬ Accepting state evt event connector other) :
    AcceptsTied (convertAssign state target connector socket object strand descriptor) := by
  obtain ⟨objects, _, nextDescriptor, _⟩ := takeEvents_same state .tcp descriptor strand
  have grown : Extends state
      (Objects.convertAssign state target connector socket object strand descriptor) :=
    (extends_takeEvents state .tcp descriptor strand).trans (extends_of_same rfl rfl rfl rfl)
  refine held.later_same grown ?_ ?_
  · intro evt event found
    change (Objects.takeEvents state .tcp descriptor strand).register evt = some event
      at found
    rcases takeEvents_entry found with old | rfl
    · exact Or.inl old
    · have after : descriptor < (Objects.convertAssign state target connector socket object
          strand descriptor).nextDescriptor := nextDescriptor ▸ known
      exact Or.inr (eventTied_new evt after strand)
  · intro evt event acceptor other accepting _
    rw [← objects]
    exact (Function.update_of_ne (accepting.ne freeTarget) _ _).trans
      (Function.update_of_ne (accepting.ne freeConnector) _ _)

theorem AcceptsTied.destroy {state next : State} (held : AcceptsTied state)
    (objects : ObjectsOk state) {var : Var} {object : AsyncObject}
    (found : state.objects var = some object)
    (ran : destroy state var object = some next) : AcceptsTied next := by
  have isGone := destroy_objects ran
  have grown := extends_destroy ran
  rcases destroy_cases ran with ⟨rfl, outside⟩ |
    ⟨descriptor, disposed, stranded, described, _, first, second⟩
  · apply held.assign none
    intro evt event other accepting
    have tied := accepting.tied.stranded
    have same := found.symm.trans accepting.found
    cases same
    rw [(objects.each var object found).unused_of_outside outside] at tied
    cases tied
  · have descriptors : next.descriptors =
        (leaveScope (Objects.assign state var none) descriptor).descriptors :=
      (dispose_same second).2.2.1.trans (dispose_same first).2.2.1
    apply held.later_same grown
    · intro evt event isFound
      rcases dispose_entry second isFound with before | ⟨owner, taken, rfl⟩
      · rcases dispose_entry first before with old | ⟨owner, taken, rfl⟩
        · refine Or.inl ?_
          rw [← old]
          unfold leaveScope closeFile
          split <;> rfl
        · exact Or.inr (eventTied_final next evt owner taken)
      · exact Or.inr (eventTied_final next evt owner taken)
    · intro evt event acceptor other accepting stays
      rw [isGone]
      apply Function.update_of_ne
      intro isVar
      subst isVar
      -- The destroyed acceptor takes the accept's descriptor out of scope.
      have same := found.symm.trans accepting.found
      cases same
      unfold Objects.inScope at stays
      rw [← accepting.tied.described, described, descriptors] at stays
      dsimp only at stays
      rw [leaveScope_outside] at stays
      cases stays

theorem AcceptsTied.initiate {state : State} (held : AcceptsTied state) {evt : EventId}
    {event : ReactorEvent} {armed : Bool}
    (idle : ready state (some evt) armed = some (evt, event)) (operation : Operation)
    (tied : ∀ acceptor peer strand, operation = .accept acceptor peer strand →
      ∃ object, state.objects acceptor = some object ∧ object.kind = .acceptor ∧
        object.strand.isSome = true ∧ object.evt = some evt ∧
        object.descriptor = event.descriptor) :
    AcceptsTied (initiate state evt event operation armed) := by
  obtain ⟨found, react, reacting, complete, canArm⟩ := ready_idle idle
  have before := held evt event found
  unfold Objects.initiate
  split
  · rename_i arms
    apply held.setEvent
    have waiting : waitingFile (some { event with react := some operation }) = [] := by
      simp only [waitingFile, reacting, complete]
      rfl
    refine ⟨before.described, fun some => absurd waiting some, ?_⟩
    intro acceptor refers _
    cases operation with
    | plain =>
        simp only [acceptorOf] at refers
        cases refers
    | accept own peer strand =>
        cases refers
        obtain ⟨object, isObject, kind, stranded, owns, described⟩ :=
          tied acceptor peer strand rfl
        refine ⟨object, isObject, kind, stranded, owns, described, canArm arms, ?_⟩
        intro fd answered
        simp only [answeredWith, reacting, complete] at answered
        cases answered
  · refine (held.setEvent (eventTied_quiet ?_ ?_ ?_)).of_same rfl rfl rfl rfl rfl
    · exact before.described
    · simp only [waitingFile, reacting]
      rfl
    · simp only [acceptorOf, react]

/-- `_peer_fd` is written for the one accept that refers to the acceptor. -/
theorem AcceptsTied.fin_accept {state : State} (held : AcceptsTied state) {evt : EventId}
    {event : ReactorEvent} {acceptor : Var} {object : AsyncObject}
    (own : Accepting state evt event acceptor object)
    (notAnswered : answeredWith event = none) (answer : Option Fd) :
    AcceptsTied (fin_accept state acceptor object answer) := by
  obtain ⟨objects, _, _, _, register, _⟩ := fin_accept_same state acceptor object answer
  apply held.later (extends_fin_accept state acceptor object answer)
  · intro id other isFound
    exact Or.inl (register ▸ isFound)
  · intro id other var owner accepting _
    rw [objects]
    by_cases isAcceptor : var = acceptor
    · subst var
      -- No other accept refers to this acceptor: it owns one event.
      have isOwner := own.found.symm.trans accepting.found
      cases isOwner
      have isEvt := own.tied.owns.symm.trans accepting.tied.owns
      cases isEvt
      have isEvent := own.registered.symm.trans accepting.registered
      cases isEvent
      exact ⟨answer, Function.update_self .., Or.inr notAnswered⟩
    · refine ⟨owner.peerFd, ?_, Or.inl rfl⟩
      rw [Function.update_of_ne isAcceptor]
      exact accepting.found

theorem AcceptsTied.react {state reacted : State} (held : AcceptsTied state)
    (registered : RegisterOk state) {evt : EventId} {event : ReactorEvent}
    {operation : Operation} {ok : Bool} {answer : Option Fd} {outcome : Outcome}
    (found : state.register evt = some event) (reacts : event.react = some operation)
    (unanswered : event.reacting = none) (active : event.hasActiveEvent = true)
    (ran : doReact state event operation ok answer = some (reacted, outcome)) :
    AcceptsTied (Objects.setEvent reacted evt { event with reacting := some outcome }) := by
  have before := held evt event found
  have complete : event.complete = none :=
    (registered.each evt event found).stages (by rw [reacts]; rfl)
  rcases doReact_cases ran with ⟨rfl, rfl, outside⟩ |
    ⟨acceptor, peer, strand, object, rfl, isOk, within, foundAcceptor, _, rfl, rfl⟩
  · apply held.setEvent
    refine ⟨before.described, fun _ => active, ?_⟩
    intro acceptor refers scope
    have stillRefers : acceptorOf event = some acceptor := refers
    obtain ⟨object, isObject, tied⟩ := before.tied acceptor stillRefers scope
    refine ⟨object, isObject, tied.kind, tied.stranded, tied.owns, tied.described,
      tied.armable, ?_⟩
    intro fd answered
    cases ok with
    | false =>
        simp only [answeredWith] at answered
        cases answered
    | true =>
        -- An accept that could answer is outside its scope here.
        cases operation with
        | plain =>
            simp only [acceptorOf, reacts, complete] at refers
            cases refers
        | accept own peer strand =>
            have gone := outside own peer strand rfl rfl
            change inScope reacted event = true at scope
            rw [gone] at scope
            cases scope
  · have refers : acceptorOf event = some acceptor := by
      simp only [acceptorOf, reacts]
    have notAnswered : answeredWith event = none := by
      simp only [answeredWith, unanswered, complete]
    obtain ⟨same, isSame, tied⟩ := before.tied acceptor refers within
    rw [foundAcceptor] at isSame
    cases isSame
    obtain ⟨objects, _, _, _, register, _⟩ := fin_accept_same state acceptor object answer
    have answered := held.fin_accept ⟨found, refers, within, foundAcceptor, tied⟩
      notAnswered answer
    apply answered.setEvent
    have after := answered evt event (register ▸ found)
    refine ⟨after.described, fun _ => active, ?_⟩
    intro var isVar scope
    have same : acceptor = var := Option.some.inj (refers.symm.trans isVar)
    subst var
    obtain ⟨changed, isChanged, still⟩ := after.tied acceptor refers scope
    refine ⟨changed, isChanged, still.kind, still.stranded, still.owns, still.described,
      still.armable, ?_⟩
    intro fd isAnswer
    rw [objects, Function.update_self] at isChanged
    cases isChanged
    cases answer with
    | none =>
        simp only [answeredWith, complete, Option.isSome_none] at isAnswer
        cases isAnswer
    | some answer => exact Option.some.inj isAnswer

theorem AcceptsTied.forCompletion {state : State} (held : AcceptsTied state)
    (registered : RegisterOk state) {evt : EventId} {event : ReactorEvent}
    {operation : Operation} {outcome : Outcome}
    (found : state.register evt = some event) (reacts : event.react = some operation)
    (reacted : event.reacting = some outcome) :
    AcceptsTied (forCompletion state evt event operation outcome) := by
  have before := held evt event found
  have complete : event.complete = none :=
    (registered.each evt event found).stages (by rw [reacts]; rfl)
  have tied : EventTied state evt { event with
      react := none
      reacting := none
      complete := some (.callback operation outcome) } := by
    refine before.changed rfl ?_ ?_ ?_
    · intro some
      apply before.active
      intro none
      apply some
      simp only [waitingFile, reacted, complete, Option.bind_some, List.append_nil] at none
      simp only [waitingFile, none, Option.bind_none]
      rfl
    · intro acceptor refers
      simp only [acceptorOf, reacts]
      simp only [acceptorOf] at refers
      split at refers
      · rename_i impossible
        cases impossible
      · rename_i isComplete
        cases isComplete
        exact refers
      · cases refers
    · intro fd answered
      simp only [answeredWith, reacted]
      simp only [answeredWith] at answered
      split at answered
      · rename_i impossible
        cases impossible
      · rename_i isComplete
        cases isComplete
        exact answered
      · cases answered
  exact (held.setEvent tied).of_same rfl rfl rfl rfl rfl

theorem RegisterOk.completing {state : State} (registered : RegisterOk state)
    {evt : EventId} {event : ReactorEvent} (found : state.register evt = some event)
    (completes : event.complete.isSome = true) :
    event.react = none ∧ event.reacting = none := by
  have ok := registered.each evt event found
  have react : event.react = none := by
    cases reacts : event.react with
    | none => rfl
    | some operation =>
        rw [ok.stages (by rw [reacts]; rfl)] at completes
        cases completes
  refine ⟨react, ?_⟩
  cases reacted : event.reacting with
  | none => rfl
  | some outcome =>
      have impossible := ok.reacting (by rw [reacted]; rfl)
      rw [react] at impossible
      cases impossible

theorem eventTied_completed {state : State} (registered : RegisterOk state)
    {evt : EventId} {event : ReactorEvent} (found : state.register evt = some event)
    (tied : EventTied state evt event) (completes : event.complete.isSome = true) :
    EventTied state evt { event with complete := none, hasActiveEvent := false } := by
  obtain ⟨react, reacting⟩ := registered.completing found completes
  refine eventTied_quiet ?_ ?_ ?_
  · exact tied.described
  · simp only [waitingFile, reacting, Option.bind_none]
    rfl
  · simp only [acceptorOf, react]

theorem acceptsTied_step {state next : State} {action : Action} (held : AcceptsTied state)
    (objects : ObjectsOk state) (linked : EventsLinked state)
    (registered : RegisterOk state) (keeps : keepsFiles state action = true)
    (stepped : step state action = some next) : AcceptsTied next := by
  cases step_moves stepped with
  | default kind => exact held.declare (objects.unused _ (Nat.le_refl _)) _
  | create kind strand fd free =>
      have made : ∀ opened : State, AcceptsTied opened → ObjectsOk opened →
          AcceptsTied (declare (construct opened kind strand fd)
            (constructed opened kind strand)) :=
        fun opened before ok => (before.construct kind strand fd).declare
          ((ok.construct kind strand fd).unused _ (Nat.le_refl _)) _
      cases fd with
      | none => exact made state held objects
      | some fd =>
          exact made (openFile state fd) (held.of_same rfl rfl rfl rfl rfl)
            (objects.of_same rfl rfl rfl rfl)
  | moveConstruct source object found may =>
      exact (held.assign (some object.moved) (notAccepting_of_mayMove found may)).declare
        (assign_free objects found _) _
  | moveAssign target source overwritten object foundTarget found sameKind may =>
      exact held.moveAssign object
        (notAccepting_of_ownsFile (by simpa [keepsFiles] using keeps))
        (notAccepting_of_mayMove found may)
  | convert connector object strand descriptor found kind forUser described =>
      have made := held.construct .tcp strand (state.descriptors descriptor).fd
      have still := found
      rw [← (construct_same state .tcp strand (state.descriptors descriptor).fd).1] at still
      refine (made.assign (some object.converted) ?_).declare ?_ _
      · exact notAccepting_of_kind still (by rw [kind]; decide)
      · exact assign_free (objects.construct .tcp strand _) still _
  | convertAssign target connector socket object strand descriptor foundTarget found
      socketKind kind stranded described =>
      have owned : descriptor ∈ ownedDescriptor (some object) := by
        simp [ownedDescriptor, stranded, described]
      exact held.convertAssign socket object strand (objects.owned_lt found owned)
        (notAccepting_of_kind foundTarget (by rw [socketKind]; decide))
        (notAccepting_of_kind found (by rw [kind]; decide))
  | destroy var object next found ran => exact held.destroy objects found ran
  | initiate var sender armed object evt event found kind owns idle =>
      apply held.initiate idle
      intro acceptor peer strand impossible
      cases impossible
  | accept acceptor peer peerStrand armed object evt event found kind stranded owns idle =>
      apply held.initiate idle
      intro _ _ _ same
      cases same
      refine ⟨object, found, kind, stranded, owns, ?_⟩
      exact ((linked acceptor object found stranded evt owns).2 event
        (ready_eq_some idle).2.1).symm
  | dispatch evt event found reacts =>
      exact held.setEvent ((held evt event found).changed rfl (fun _ => rfl)
        (fun _ refers => refers) fun _ answered => answered)
  | react evt ok answer event operation reacted outcome found reacts before active ran =>
      exact held.react registered found reacts before active ran
  | forCompletion evt event operation outcome found reacts reacted =>
      exact held.forCompletion registered found reacts reacted
  | processDeletionQueue => exact held.of_same rfl rfl rfl rfl rfl
  | runTask final event member found => exact held.of_same rfl rfl rfl rfl rfl
  | completeCallback strand evt rest event operation outcome next queued found complete ran =>
      have tied := eventTied_completed registered found (held evt event found)
        (by rw [complete]; rfl)
      have completed : AcceptsTied (setEvent { state with
          strandQueue := Function.update state.strandQueue strand rest } evt
            { event with complete := none, hasActiveEvent := false }) :=
        (held.setEvent tied).of_same rfl rfl rfl rfl rfl
      rcases completeCallback_cases ran with ⟨rfl, _⟩ |
        ⟨acceptor, peer, peerStrand, object, socket, taken, _, _, _, foundPeer, socketKind,
          rfl⟩
      · exact completed
      · refine (completed.construct .tcp taken object.peerFd).assign _ ?_
        apply notAccepting_of_kind _ (by rw [socketKind]; decide)
        rw [(construct_same _ .tcp taken object.peerFd).1]
        exact foundPeer
  | completeFinal strand final rest event evt next queued found complete ran =>
      obtain ⟨owner, foundOwner, rfl⟩ := Option.map_eq_some_iff.mp ran
      split
      · exact held.of_same rfl rfl rfl rfl rfl
      · exact ((held.give evt).give final).of_same rfl rfl rfl rfl rfl

end BabaIo.Objects
