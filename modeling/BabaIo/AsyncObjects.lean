import BabaIo.Library.Runs
import BabaIo.Library.Tally

/-
The life of `async_timer`, `async_acceptor`, `async_connector` and `async_tcp`
objects in the variables of a program.

Constructors open a file and take events from the registrar; moves and the two
conversions of a connector into a socket hand raw event pointers and the shared
descriptor on; only a destructor with a `_strand` disposes.  An accepted file
waits in `_peer_fd` between the reaction on a task thread and the completion on
the strand, which makes a socket of it and moves it into the peer variable.

A destructor and a completion run under `in_scope_mtx`, as one step each.  What
the language leaves undefined is no step: a null or dangling pointer, a failing
assertion, a second operation on an event, a moved acceptor whose accept is
still outstanding.
-/

set_option autoImplicit false

namespace BabaIo.Objects

abbrev EventId := Nat
abbrev StrandId := Nat
abbrev Fd := Nat
abbrev DescriptorId := Nat
abbrev Var := Nat

inductive Kind where
  | timer
  | acceptor
  | connector
  | tcp
  deriving DecidableEq

/-- `reactor_io_descriptor`; no `fd` is `INVALID_HANDLE_VALUE`. -/
structure Descriptor where
  fd : Option Fd
  inScope : Bool
  deriving DecidableEq

/-- The members of the four classes.  `evt` is the `_evt` of `_timer`,
`_acceptor`, `_connector` or `_recver`, `senderEvt` that of `_sender`; only an
acceptor has a `_peer_fd`. -/
structure AsyncObject where
  kind : Kind
  strandForUser : Option StrandId
  strand : Option StrandId
  descriptor : Option DescriptorId
  evt : Option EventId
  senderEvt : Option EventId
  peerFd : Option Fd
  deriving DecidableEq

/-- What `react` captures of the operation that it completes. -/
inductive Operation where
  | plain
  | accept (acceptor peer : Var) (peerStrand : Option StrandId)
  deriving DecidableEq

structure Outcome where
  ok : Bool
  accepted : Option Fd
  deriving DecidableEq

inductive Complete where
  | callback (operation : Operation) (outcome : Outcome)
  | final (evt : EventId)
  deriving DecidableEq

structure ReactorEvent where
  descriptor : Option DescriptorId
  strand : StrandId
  react : Option Operation
  /-- The outcome held by a task thread between `do_react` and `for_completion`. -/
  reacting : Option Outcome
  complete : Option Complete
  hasActiveEvent : Bool
  deriving DecidableEq

structure State where
  /-- The files the process has open. -/
  opened : Fd → Bool
  /-- A file was closed that was not open. -/
  closedTwice : Bool
  descriptors : DescriptorId → Descriptor
  nextDescriptor : DescriptorId
  register : EventId → Option ReactorEvent
  idGenerator : EventId
  deletionQueue : List EventId
  /-- The reactor tasks that enqueue final events. -/
  taskQueue : List EventId
  strandQueue : StrandId → List EventId
  objects : Var → Option AsyncObject
  nextVar : Var
  /-- The events given back, in order. -/
  given : List EventId

def init : State :=
  { opened := fun _ => false
    closedTwice := false
    descriptors := fun _ => ⟨none, false⟩
    nextDescriptor := 0
    register := fun _ => none
    idGenerator := 0
    deletionQueue := []
    taskQueue := []
    strandQueue := fun _ => []
    objects := fun _ => none
    nextVar := 0
    given := [] }

/-! ### Files, events, variables -/

def openFile (state : State) (fd : Fd) : State :=
  { state with opened := Function.update state.opened fd true }

def closeFile (state : State) : Option Fd → State
  | none => state
  | some fd =>
      { state with
        opened := Function.update state.opened fd false
        closedTwice := state.closedTwice || !state.opened fd }

def take (state : State) (event : ReactorEvent) : State :=
  { state with
    register := Function.update state.register state.idGenerator (some event)
    idGenerator := state.idGenerator + 1 }

def setEvent (state : State) (evt : EventId) (event : ReactorEvent) : State :=
  { state with register := Function.update state.register evt (some event) }

def give (state : State) (evt : EventId) : State :=
  { state with
    register := Function.update state.register evt none
    given := state.given ++ [evt] }

def enqueue (state : State) (strand : StrandId) (evt : EventId) : State :=
  { state with
    strandQueue := Function.update state.strandQueue strand
      (state.strandQueue strand ++ [evt]) }

def declare (state : State) (object : AsyncObject) : State :=
  { state with
    objects := Function.update state.objects state.nextVar (some object)
    nextVar := state.nextVar + 1 }

def assign (state : State) (var : Var) (object : Option AsyncObject) : State :=
  { state with objects := Function.update state.objects var object }

/-! ### Constructors -/

def AsyncObject.default (kind : Kind) : AsyncObject :=
  { kind := kind
    strandForUser := none
    strand := none
    descriptor := none
    evt := none
    senderEvt := none
    peerFd := none }

/-- The event that `epoll_timer`, `epoll_accept`, `epoll_connect`, `epoll_recv`
and `epoll_send` take in their constructors. -/
def newEvent (descriptor : DescriptorId) (strand : StrandId) : ReactorEvent :=
  { descriptor := some descriptor
    strand := strand
    react := none
    reacting := none
    complete := none
    hasActiveEvent := false }

def takeEvents (state : State) (kind : Kind) (descriptor : DescriptorId)
    (strand : StrandId) : State :=
  let first := take state (newEvent descriptor strand)
  if kind = .tcp then take first (newEvent descriptor strand) else first

def construct (state : State) (kind : Kind) (strand : StrandId) (fd : Option Fd) : State :=
  takeEvents
    { state with
      descriptors := Function.update state.descriptors state.nextDescriptor ⟨fd, true⟩
      nextDescriptor := state.nextDescriptor + 1 }
    kind state.nextDescriptor strand

def constructed (state : State) (kind : Kind) (strand : StrandId) : AsyncObject :=
  { kind := kind
    strandForUser := some strand
    strand := some strand
    descriptor := some state.nextDescriptor
    evt := some state.idGenerator
    senderEvt := if kind = .tcp then some (state.idGenerator + 1) else none
    peerFd := none }

def create (state : State) (kind : Kind) (strand : StrandId) (fd : Option Fd) : State :=
  let opened := match fd with
    | none => state
    | some fd => openFile state fd
  declare (construct opened kind strand fd) (constructed opened kind strand)

/-! ### Moves and conversions -/

def AsyncObject.moved (object : AsyncObject) : AsyncObject := .default object.kind

/-- What a move onto itself leaves: a `shared_ptr` keeps its object. -/
def AsyncObject.selfMoved (object : AsyncObject) : AsyncObject :=
  { AsyncObject.default object.kind with descriptor := object.descriptor }

def moveConstruct (state : State) (source : Var) (object : AsyncObject) : State :=
  declare (assign state source (some object.moved)) object

def moveAssign (state : State) (target source : Var) (object : AsyncObject) : State :=
  if target = source then assign state target (some object.selfMoved)
  else assign (assign state source (some object.moved)) target (some object)

/-- What the conversions leave of a connector: its event pointer stays. -/
def AsyncObject.converted (connector : AsyncObject) : AsyncObject :=
  { connector with strand := none, descriptor := none }

/-- `async_tcp(async_connector &&)`: a new descriptor for the same file. -/
def convert (state : State) (connector : Var) (object : AsyncObject)
    (strand : StrandId) (fd : Option Fd) : State :=
  declare (assign (construct state .tcp strand fd) connector (some object.converted))
    (constructed state .tcp strand)

/-- `async_tcp::operator=(async_connector &&)`: the connector's strand and
descriptor with new events; `_strand_for_user` stays as it is. -/
def convertAssign (state : State) (target connector : Var)
    (socket object : AsyncObject) (strand : StrandId) (descriptor : DescriptorId) : State :=
  assign (assign (takeEvents state .tcp descriptor strand) connector (some object.converted))
    target (some { socket with
      strand := some strand
      descriptor := some descriptor
      evt := some state.idGenerator
      senderEvt := some (state.idGenerator + 1) })

/-! ### Destructors -/

def finalEvent (evt : EventId) (strand : StrandId) : ReactorEvent :=
  { descriptor := none
    strand := strand
    react := none
    reacting := none
    complete := some (.final evt)
    hasActiveEvent := false }

def dispose (state : State) : Option EventId → Option State
  | none => some state
  | some evt =>
      (state.register evt).map fun event =>
        { take state (finalEvent evt event.strand) with
          deletionQueue := state.deletionQueue ++ [state.idGenerator] }

def leaveScope (state : State) (descriptor : DescriptorId) : State :=
  closeFile
    { state with
      descriptors := Function.update state.descriptors descriptor
        { state.descriptors descriptor with inScope := false } }
    (state.descriptors descriptor).fd

/-- Without a `_strand` nothing is done: the object is default constructed or has
been moved. -/
def destroy (state : State) (var : Var) (object : AsyncObject) : Option State :=
  let gone := assign state var none
  match object.strand, object.descriptor with
  | none, _ => some gone
  | some _, none => none
  | some _, some descriptor =>
      if (state.descriptors descriptor).inScope then
        (dispose (leaveScope gone descriptor) object.evt).bind fun disposed =>
          dispose disposed object.senderEvt
      else some gone

/-! ### Operations -/

def inScope (state : State) (event : ReactorEvent) : Bool :=
  match event.descriptor with
  | none => false
  | some descriptor => (state.descriptors descriptor).inScope

def ReactorEvent.busy (event : ReactorEvent) : Bool :=
  event.react.isSome || event.reacting.isSome || event.complete.isSome

/-- Store `react` and arm; where arming fails its error is completed instead. -/
def initiate (state : State) (evt : EventId) (event : ReactorEvent)
    (operation : Operation) (armed : Bool) : State :=
  if armed then setEvent state evt { event with react := some operation }
  else
    enqueue
      (setEvent state evt { event with complete := some (.callback operation ⟨false, none⟩) })
      event.strand evt

def fin_accept (state : State) (acceptor : Var) (object : AsyncObject) :
    Option Fd → State
  | none => assign state acceptor (some { object with peerFd := none })
  | some fd => openFile (assign state acceptor (some { object with peerFd := some fd })) fd

def forCompletion (state : State) (evt : EventId) (event : ReactorEvent)
    (operation : Operation) (outcome : Outcome) : State :=
  enqueue
    (setEvent state evt
      { event with
        react := none
        reacting := none
        complete := some (.callback operation outcome) })
    event.strand evt

/-- The closure of `async_acceptor::accept`: `peer = async_tcp(..)`. -/
def deliver (state : State) (acceptor : AsyncObject) (peer : Var)
    (strand : StrandId) : State :=
  assign (construct state .tcp strand acceptor.peerFd) peer
    (some (constructed state .tcp strand))

/-- `complete` of an event: user callbacks other than a delivery are further
steps. -/
def completeCallback (state : State) (evt : EventId) (event : ReactorEvent)
    (operation : Operation) (outcome : Outcome) : Option State :=
  let completed := setEvent state evt
    { event with complete := none, hasActiveEvent := false }
  match operation with
  | .plain => some completed
  | .accept acceptor peer peerStrand =>
      if inScope state event && outcome.ok then
        match state.objects acceptor, state.objects peer with
        | some object, some socket =>
            if socket.kind = .tcp then
              (peerStrand.or object.strandForUser).map fun strand =>
                deliver completed object peer strand
            else none
        | _, _ => none
      else some completed

def completeFinal (state : State) (final : EventId) (strand : StrandId)
    (evt : EventId) : Option State :=
  (state.register evt).map fun event =>
    if event.hasActiveEvent then enqueue state strand final
    else give (give state evt) final

/-! ### Steps -/

inductive Action where
  | default (kind : Kind)
  | create (kind : Kind) (strand : StrandId) (fd : Option Fd)
  | moveConstruct (source : Var)
  | moveAssign (target source : Var)
  | convert (connector : Var)
  | convertAssign (target connector : Var)
  | destroy (var : Var)
  | initiate (var : Var) (sender armed : Bool)
  | accept (acceptor peer : Var) (peerStrand : Option StrandId) (armed : Bool)
  | dispatch (evt : EventId)
  | react (evt : EventId) (ok : Bool) (answer : Option Fd)
  | forCompletion (evt : EventId)
  | processDeletionQueue
  | runTask (final : EventId)
  | strandStep (strand : StrandId)

def fresh (state : State) : Option Fd → Bool
  | none => true
  | some fd => !state.opened fd

/-- The reaction and the completion of an accept refer to the acceptor. -/
def mayMove (state : State) (object : AsyncObject) : Bool :=
  object.kind ≠ .acceptor ||
    match object.evt.bind state.register with
    | none => true
    | some event => !event.busy

/-- `epoll_ctl` fails on `INVALID_HANDLE_VALUE`. -/
def armable (state : State) (event : ReactorEvent) : Bool :=
  match event.descriptor with
  | none => false
  | some descriptor => (state.descriptors descriptor).fd.isSome

def ready (state : State) (evt : Option EventId) (armed : Bool) :
    Option (EventId × ReactorEvent) :=
  match evt with
  | none => none
  | some evt =>
      match state.register evt with
      | none => none
      | some event =>
          if event.busy || (armed && !armable state event) then none
          else some (evt, event)

def doReact (state : State) (event : ReactorEvent) (operation : Operation) (ok : Bool)
    (answer : Option Fd) : Option (State × Outcome) :=
  match operation with
  | .plain => some (state, ⟨ok, none⟩)
  | .accept acceptor _ _ =>
      if ok && inScope state event then
        match state.objects acceptor with
        | none => none
        | some object =>
            if fresh state answer then
              some (fin_accept state acceptor object answer, ⟨answer.isSome, answer⟩)
            else none
      else some (state, ⟨ok, none⟩)

def step (state : State) : Action → Option State
  | .default kind => some (declare state (.default kind))
  | .create kind strand fd =>
      if fresh state fd then some (create state kind strand fd) else none
  | .moveConstruct source =>
      match state.objects source with
      | none => none
      | some object =>
          if mayMove state object then some (moveConstruct state source object) else none
  | .moveAssign target source =>
      match state.objects target, state.objects source with
      | some overwritten, some object =>
          if overwritten.kind = object.kind ∧ mayMove state object = true then
            some (moveAssign state target source object)
          else none
      | _, _ => none
  | .convert connector =>
      match state.objects connector with
      | none => none
      | some object =>
          match object.kind, object.strandForUser, object.descriptor with
          | .connector, some strand, some descriptor =>
              some (convert state connector object strand (state.descriptors descriptor).fd)
          | _, _, _ => none
  | .convertAssign target connector =>
      match state.objects target, state.objects connector with
      | some socket, some object =>
          match socket.kind, object.kind, object.strand, object.descriptor with
          | .tcp, .connector, some strand, some descriptor =>
              some (convertAssign state target connector socket object strand descriptor)
          | _, _, _, _ => none
      | _, _ => none
  | .destroy var =>
      (state.objects var).bind fun object => destroy state var object
  | .initiate var sender armed =>
      match state.objects var with
      | none => none
      | some object =>
          if object.kind ≠ .acceptor ∧ object.strand.isSome = true then
            (ready state (if sender then object.senderEvt else object.evt) armed).map
              fun idle => initiate state idle.1 idle.2 .plain armed
          else none
  | .accept acceptor peer peerStrand armed =>
      match state.objects acceptor with
      | none => none
      | some object =>
          if object.kind = .acceptor ∧ object.strand.isSome = true then
            (ready state object.evt armed).map
              fun idle => initiate state idle.1 idle.2 (.accept acceptor peer peerStrand) armed
          else none
  | .dispatch evt =>
      match state.register evt with
      | none => none
      | some event =>
          if event.react.isSome ∧ event.hasActiveEvent = false then
            some (setEvent state evt { event with hasActiveEvent := true })
          else none
  | .react evt ok answer =>
      match state.register evt with
      | none => none
      | some event =>
          match event.react, event.reacting, event.hasActiveEvent with
          | some operation, none, true =>
              (doReact state event operation ok answer).map fun reacted =>
                setEvent reacted.1 evt { event with reacting := some reacted.2 }
          | _, _, _ => none
  | .forCompletion evt =>
      match state.register evt with
      | none => none
      | some event =>
          match event.react, event.reacting with
          | some operation, some outcome =>
              some (forCompletion state evt event operation outcome)
          | _, _ => none
  | .processDeletionQueue =>
      some { state with
        deletionQueue := []
        taskQueue := state.taskQueue ++ state.deletionQueue }
  | .runTask final =>
      if final ∈ state.taskQueue then
        (state.register final).map fun event =>
          enqueue { state with taskQueue := state.taskQueue.erase final } event.strand final
      else none
  | .strandStep strand =>
      match state.strandQueue strand with
      | [] => none
      | evt :: rest =>
          let popped := { state with
            strandQueue := Function.update state.strandQueue strand rest }
          match state.register evt with
          | none => none
          | some event =>
              match event.complete with
              | none => none
              | some (.callback operation outcome) =>
                  completeCallback popped evt event operation outcome
              | some (.final owner) => completeFinal popped evt event.strand owner

end BabaIo.Objects
