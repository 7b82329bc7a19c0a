import BabaIo.Library.Runs
import BabaIo.EpollKernel

/-
An `epoll_service` with any number of async objects.

The reactor thread harvests a batch of reports, handles each of them in three
steps (clear the reported bits, re-arm, dispatch) and then moves the deletion
queue to the reactor task queue.  Task threads take reactor tasks in order and
finish them later.  Each object completes its events on one strand.  User
threads construct objects, initiate operations in two steps (store `react`, set
the mask and read it; then arm with the value read) and run destructors.

A callback starts in the strand step that takes `complete` out of its event;
what it does are further steps of user threads.  Setting `in_scope` to false
and removing the descriptor from epoll are one step: the flag is only read under
the mutex that the destructor holds.

An object opens the file it works on, or is given one that no other object has.
The conversion of a connector into a socket, which gives a second descriptor to a
registered file, is no step here; it is one in `BabaIo.AsyncObjects`.
-/

set_option autoImplicit false

namespace BabaIo.Service

abbrev StrandId := Nat

structure EventRef where
  object : ObjectId
  direction : Direction
  deriving DecidableEq

/-- The fields of `reactor_event` that decide its lifetime: whether `react` and
`complete` hold a closure, and `has_active_event`.  An operation is outstanding
from its initiation until its callback starts. -/
structure Event where
  react : Bool
  complete : Bool
  hasActiveEvent : Bool
  outstanding : Bool
  deriving DecidableEq

def Event.init : Event :=
  { react := false, complete := false, hasActiveEvent := false, outstanding := false }

inductive Phase where
  | absent
  | inScope
  | removed
  | closed
  deriving DecidableEq

structure AsyncObject where
  phase : Phase
  present : Direction → Bool
  fd : Fd
  strand : StrandId
  eventMask : EventMask
  /-- The unfinished initiations, each with the mask it is going to arm. -/
  initiating : List (Direction × EventMask)
  event : Direction → Event
  disposed : Direction → Bool

def AsyncObject.absent : AsyncObject :=
  { phase := .absent
    present := fun _ => false
    fd := 0
    strand := 0
    eventMask := EventMask.empty
    initiating := []
    event := fun _ => Event.init
    disposed := fun _ => false }

/-- An entry of `_event_list`; `source` is the object whose file it is about. -/
structure Report where
  ptr : ObjectId
  source : Option ObjectId
  events : Events
  deriving DecidableEq

inductive ReactorTask where
  /-- `io_desc->read_event->react(..)` or `io_desc->write_event->react(..)`. -/
  | react (event : EventRef)
  /-- `evt->strand->enqueue(evt)` for the final event of `event`. -/
  | enqueueFinal (event : EventRef)
  deriving DecidableEq

inductive StrandTask where
  | complete (event : EventRef)
  | final (event : EventRef)
  deriving DecidableEq

inductive RegisteredEvent where
  | operation (event : EventRef)
  | final (event : EventRef)
  deriving DecidableEq

inductive ReactorThread where
  | waiting
  | handling (pending : List Report)
  | rearming (report : Report) (mask : EventMask) (pending : List Report)
  | dispatching (report : Report) (mask : EventMask) (result : ErrorCode)
      (pending : List Report)
  deriving DecidableEq

structure State where
  threads : Nat
  kernel : Kernel
  created : Nat
  object : ObjectId → AsyncObject
  reactor : ReactorThread
  deletionQueue : List EventRef
  taskQueue : List ReactorTask
  running : List ReactorTask
  strandQueue : StrandId → List StrandTask
  given : List RegisteredEvent
  terminated : Bool

def init (threads : Nat) : State :=
  { threads := threads
    kernel := Kernel.init
    created := 0
    object := fun _ => AsyncObject.absent
    reactor := .waiting
    deletionQueue := []
    taskQueue := []
    running := []
    strandQueue := fun _ => []
    given := []
    terminated := false }

def State.event (state : State) (event : EventRef) : Event :=
  (state.object event.object).event event.direction

def State.setObject (state : State) (object : ObjectId) (value : AsyncObject) : State :=
  { state with object := Function.update state.object object value }

def State.setEvent (state : State) (event : EventRef) (value : Event) : State :=
  let owner := state.object event.object
  state.setObject event.object
    { owner with event := Function.update owner.event event.direction value }

def State.enqueue (state : State) (object : ObjectId) (task : StrandTask) : State :=
  let strand := (state.object object).strand
  { state with
    strandQueue := Function.update state.strandQueue strand
      (state.strandQueue strand ++ [task]) }

def forCompletion (state : State) (event : EventRef) : State :=
  let stored := state.setEvent event
    { state.event event with react := false, complete := true }
  stored.enqueue event.object (.complete event)

/-! ### User threads -/

def create (state : State) (present : Direction → Bool) (fd : Fd)
    (strand : StrandId) : State :=
  let object := state.created
  { state with
    created := state.created + 1
    kernel := state.kernel.openFile fd object
    object := Function.update state.object object
      { AsyncObject.absent with
        phase := .inScope
        present := present
        fd := fd
        strand := strand } }

/-- The first half of `recv`, `send`, `accept`, `connect` or `timeout`. -/
def beginInitiation (state : State) (event : EventRef) : State :=
  let owner := state.object event.object
  let mask := owner.eventMask.setMask event.direction
  state.setObject event.object
    { owner with
      eventMask := mask
      initiating := owner.initiating ++ [(event.direction, mask)]
      event := Function.update owner.event event.direction
        { owner.event event.direction with react := true, outstanding := true } }

/-- The second half: `epoll_impl::arm` with the mask read before. -/
def armInitiation (state : State) (object : ObjectId) (index : Nat)
    (direction : Direction) (mask : EventMask) : State :=
  let owner := state.object object
  let armed := state.kernel.arm owner.fd mask object
  let next := { state with kernel := armed.1 }.setObject object
    { owner with initiating := owner.initiating.eraseIdx index }
  if armed.2 = ec.OK then next else forCompletion next ⟨object, direction⟩

/-- The destructor sets `in_scope` to false and calls `epoll_impl::remove`. -/
def leaveScope (state : State) (object : ObjectId) : State :=
  let owner := state.object object
  { state with kernel := state.kernel.remove owner.fd }.setObject object
    { owner with phase := .removed }

def closeDescriptor (state : State) (object : ObjectId) : State :=
  let owner := state.object object
  { state with kernel := state.kernel.close owner.fd }.setObject object
    { owner with phase := .closed }

/-- The destructor disposes one of its events: a final event is taken from the
registrar and enqueued for deletion. -/
def dispose (state : State) (event : EventRef) : State :=
  let owner := state.object event.object
  { state with deletionQueue := state.deletionQueue ++ [event] }.setObject event.object
    { owner with disposed := Function.update owner.disposed event.direction true }

def mayDispose (owner : AsyncObject) (direction : Direction) : Bool :=
  owner.phase = .closed && owner.present direction && !owner.disposed direction &&
    (direction = .read || !owner.present .read || owner.disposed .read)

/-! ### The reactor thread -/

/-- What the kernel may report for a registration: armed EPOLLIN and EPOLLOUT
bits with any of EPOLLERR and EPOLLHUP. -/
def reportable (interest : EventMask) (events : Events) : Bool :=
  interest.nonzero &&
    (!has events EPOLLIN || interest.has .read) &&
    (!has events EPOLLOUT || interest.has .write) &&
    (events &&& ~~~(EPOLLIN ||| EPOLLOUT ||| EPOLLERR ||| EPOLLHUP) == 0#32)

def reportOf (kernel : Kernel) (ready : Fd × Events) : Option Report :=
  match kernel.epoll ready.1 with
  | none => none
  | some registration =>
      if reportable registration.interest ready.2 then
        some { ptr := registration.ptr
               source := kernel.owner ready.1
               events := ready.2 }
      else none

def eventList (kernel : Kernel) : List (Fd × Events) → Option (List Report)
  | [] => some []
  | ready :: rest =>
      (reportOf kernel ready).bind fun report =>
        (eventList kernel rest).map fun batch => report :: batch

/-- `epoll_impl::wait` returns a batch; the interrupter alone returns none. -/
def harvest (state : State) (ready : List (Fd × Events)) (batch : List Report) : State :=
  { state with
    kernel := state.kernel.disarm (ready.map Prod.fst)
    reactor := .handling batch }

def clearMasks (state : State) (report : Report) (pending : List Report) : State :=
  let owner := state.object report.ptr
  let mask := clearReported owner.eventMask report.events
  { state with reactor := .rearming report mask pending }.setObject report.ptr
    { owner with eventMask := mask }

def rearm (state : State) (report : Report) (mask : EventMask)
    (pending : List Report) : State :=
  if mask.nonzero then
    let armed := state.kernel.arm (state.object report.ptr).fd mask report.ptr
    { state with
      kernel := armed.1
      reactor := .dispatching report mask armed.2 pending }
  else { state with reactor := .dispatching report mask ec.OK pending }

def dispatch (state : State) (report : Report) (mask : EventMask)
    (result : ErrorCode) (pending : List Report) : State :=
  let owner := state.object report.ptr
  let tasks := dispatches owner.present mask report.events result
  let enqueued : State := { state with
    reactor := .handling pending
    taskQueue := state.taskQueue ++
      tasks.map fun task => .react ⟨report.ptr, task.direction⟩ }
  enqueued.setObject report.ptr
    { owner with
      event := fun direction =>
        if tasksFor tasks direction = 0 then owner.event direction
        else { owner.event direction with hasActiveEvent := true } }

def processDeletionQueue (state : State) : State :=
  { state with
    reactor := .waiting
    deletionQueue := []
    taskQueue := state.taskQueue ++ state.deletionQueue.map .enqueueFinal }

/-! ### Task threads and strands -/

def startTask (state : State) (task : ReactorTask) (rest : List ReactorTask) : State :=
  { state with
    taskQueue := rest
    running := state.running ++ [task] }

def finishTask (state : State) (index : Nat) (task : ReactorTask) : State :=
  let finished := { state with running := state.running.eraseIdx index }
  match task with
  | .react event =>
      if (state.event event).react then forCompletion finished event
      else { finished with terminated := true }
  | .enqueueFinal event => finished.enqueue event.object (.final event)

/-- A strand runs its first task.  A final event puts itself back as long as
its event is active, otherwise both are given to the registrar. -/
def runStrandTask (state : State) (strand : StrandId) (task : StrandTask)
    (rest : List StrandTask) : State :=
  let popped := { state with
    strandQueue := Function.update state.strandQueue strand rest }
  match task with
  | .complete event =>
      if (state.event event).complete then
        popped.setEvent event
          { state.event event with
            complete := false
            hasActiveEvent := false
            outstanding := false }
      else { popped with terminated := true }
  | .final event =>
      if (state.event event).hasActiveEvent then
        popped.enqueue event.object (.final event)
      else { popped with given := state.given ++ [.operation event, .final event] }

/-! ### Steps -/

inductive Action where
  | create (present : Direction → Bool) (fd : Fd) (strand : StrandId)
  | beginInitiation (event : EventRef)
  | armInitiation (object : ObjectId) (index : Nat)
  | leaveScope (object : ObjectId)
  | closeDescriptor (object : ObjectId)
  | dispose (event : EventRef)
  | harvest (ready : List (Fd × Events))
  | clearMasks
  | rearm
  | dispatch
  | processDeletionQueue
  | startTask
  | finishTask (index : Nat)
  | strandStep (strand : StrandId)

def step (state : State) (action : Action) : Option State :=
  if state.terminated then none
  else
    match action with
    | .create present fd strand =>
        if state.kernel.owner fd = none then some (create state present fd strand)
        else none
    | .beginInitiation event =>
        let owner := state.object event.object
        if owner.phase = .inScope ∧ owner.present event.direction = true ∧
            (state.event event).outstanding = false then
          some (beginInitiation state event)
        else none
    | .armInitiation object index =>
        match (state.object object).initiating[index]? with
        | none => none
        | some (direction, mask) =>
            some (armInitiation state object index direction mask)
    | .leaveScope object =>
        let owner := state.object object
        if owner.phase = .inScope ∧ owner.initiating.length = 0 then
          some (leaveScope state object)
        else none
    | .closeDescriptor object =>
        if (state.object object).phase = .removed then
          some (closeDescriptor state object)
        else none
    | .dispose event =>
        if mayDispose (state.object event.object) event.direction then
          some (dispose state event)
        else none
    | .harvest ready =>
        match state.reactor, eventList state.kernel ready with
        | .waiting, some batch =>
            if (ready.map Prod.fst).Nodup then some (harvest state ready batch)
            else none
        | _, _ => none
    | .clearMasks =>
        match state.reactor with
        | .handling (report :: pending) => some (clearMasks state report pending)
        | _ => none
    | .rearm =>
        match state.reactor with
        | .rearming report mask pending => some (rearm state report mask pending)
        | _ => none
    | .dispatch =>
        match state.reactor with
        | .dispatching report mask result pending =>
            some (dispatch state report mask result pending)
        | _ => none
    | .processDeletionQueue =>
        match state.reactor with
        | .handling [] => some (processDeletionQueue state)
        | _ => none
    | .startTask =>
        match state.taskQueue with
        | [] => none
        | task :: rest =>
            if state.running.length < state.threads then
              some (startTask state task rest)
            else none
    | .finishTask index =>
        match state.running[index]? with
        | none => none
        | some task => some (finishTask state index task)
    | .strandStep strand =>
        match state.strandQueue strand with
        | [] => none
        | task :: rest => some (runStrandTask state strand task rest)

end BabaIo.Service
