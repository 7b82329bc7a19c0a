import BabaIo.Library.Runs
import BabaIo.ReactorWait

/-
One `reactor_io_descriptor` with its read event and its write event, driven by
user threads, the reactor thread, the reactor task threads and the completion
strands, while the owning object is alive.

An initiation is one step, and so are the handling of one harvested report, one
`react` call on a task thread and one task of a strand.  The result of every
system call is part of the action.  An operation is numbered by its position in
`initiated`; `outstanding` names the one whose callback has not started yet.
-/

set_option autoImplicit false

namespace BabaIo.Descriptor

abbrev StrandId := Nat

/-- The event classes whose `react` passes on the code that it is called with.  The one
of a connector ignores it. -/
inductive EventKind where
  | recv
  | send
  | accept
  | timer
  deriving DecidableEq

def EventKind.direction : EventKind → Direction
  | .send => .write
  | _ => .read

def streamKind : Direction → EventKind
  | .read => .recv
  | .write => .send

/-- What `for_completion` stores in `evt->complete`; an accept and a timer leave the
byte count out. -/
structure Completion where
  operation : Nat
  ec : ErrorCode
  bytes : Int
  deriving DecidableEq

/-- The fields of `reactor_event` that the operations of a live object use.
A closure is represented by the number of the operation that stored it. -/
structure ReactorEvent where
  react : Option Nat
  complete : Option Completion
  hasActiveEvent : Bool

structure ReactCall where
  direction : Direction
  operation : Nat
  code : ErrorCode
  fin : Option (ErrorCode × Int)
  deriving DecidableEq

def ReactCall.result (call : ReactCall) : ErrorCode × Int :=
  match call.fin with
  | some fin => fin
  | none => (call.code, 0)

structure Callback where
  direction : Direction
  operation : Nat
  ec : ErrorCode
  bytes : Int
  strand : StrandId
  deriving DecidableEq

structure State where
  present : Direction → Bool
  kind : Direction → EventKind
  strand : StrandId
  eventMask : EventMask
  interest : EventMask
  report : Option Events
  event : Direction → ReactorEvent
  outstanding : Direction → Option Nat
  initiated : List Direction
  tasks : List Dispatch
  strandQueue : StrandId → List Direction
  reactCalls : List ReactCall
  callbacks : List Callback
  terminated : Bool

def init (present : Direction → Bool) (strand : StrandId) : State :=
  { present := present
    kind := streamKind
    strand := strand
    eventMask := EventMask.empty
    interest := EventMask.empty
    report := none
    event := fun _ => { react := none, complete := none, hasActiveEvent := false }
    outstanding := fun _ => none
    initiated := []
    tasks := []
    strandQueue := fun _ => []
    reactCalls := []
    callbacks := []
    terminated := false }

def forCompletion (state : State) (direction : Direction) (operation : Nat)
    (code : ErrorCode) (bytes : Int) : State :=
  { state with
    event := Function.update state.event direction
      { state.event direction with
        react := none
        complete := some { operation := operation, ec := code, bytes := bytes } }
    strandQueue := Function.update state.strandQueue state.strand
      (state.strandQueue state.strand ++ [direction]) }

def arm (state : State) (result : ErrorCode) : State :=
  if result = ec.OK then { state with interest := state.eventMask } else state

def initiate (state : State) (direction : Direction) (result : ErrorCode) : State :=
  let operation := state.initiated.length
  let stored := { state with
    initiated := state.initiated ++ [direction]
    outstanding := Function.update state.outstanding direction (some operation)
    event := Function.update state.event direction
      { state.event direction with react := some operation }
    eventMask := state.eventMask.setMask direction }
  let armed := arm stored result
  if result = ec.OK then armed
  else forCompletion armed direction operation result 0

/-- `epoll_wait` returns one report: armed EPOLLIN and EPOLLOUT bits and any of
EPOLLERR and EPOLLHUP.  EPOLLONESHOT disarms the descriptor. -/
def reportable (interest : EventMask) (events : Events) : Bool :=
  interest.nonzero &&
    (!has events EPOLLIN || interest.has .read) &&
    (!has events EPOLLOUT || interest.has .write) &&
    (events &&& ~~~(EPOLLIN ||| EPOLLOUT ||| EPOLLERR ||| EPOLLHUP) == 0#32)

/-- The body of the loop in `epoll_reactor::wait`. -/
def handle (state : State) (events : Events) (result : ErrorCode) : State :=
  let mask := clearReported state.eventMask events
  let cleared := { state with eventMask := mask, report := none }
  let rearmed := if mask.nonzero then arm cleared result else cleared
  let tasks := dispatches state.present mask events result
  { rearmed with
    tasks := state.tasks ++ tasks
    event := fun direction =>
      if tasksFor tasks direction = 0 then state.event direction
      else { state.event direction with hasActiveEvent := true } }

/-- The `react` closure: an error code of the reactor is passed on, otherwise `do_react`
makes the fin call. -/
def reactCall (task : Dispatch) (operation : Nat) (fin : ErrorCode × Int) : ReactCall :=
  { direction := task.direction
    operation := operation
    code := task.code
    fin := if task.code = ec.OK then some fin else none }

/-- A task thread runs one reactor task; calling an empty `react` throws out of
a `noexcept` function. -/
def runTask (state : State) (index : Nat) (task : Dispatch)
    (fin : ErrorCode × Int) : State :=
  let popped := { state with tasks := state.tasks.eraseIdx index }
  match (state.event task.direction).react with
  | none => { popped with terminated := true }
  | some operation =>
      let call := reactCall task operation fin
      let called := { popped with reactCalls := state.reactCalls ++ [call] }
      forCompletion called task.direction operation call.result.1 call.result.2

/-- The error code and byte count that `complete` calls the user callback with; an accept
and a timer have no count. -/
def callbackArguments (kind : EventKind) (code : ErrorCode) (bytes : Int) :
    ErrorCode × Int :=
  match kind with
  | .recv =>
      if code = ec.OK ∧ bytes = 0 then (ec.EC_PEER_SOCKET_CLOSED, bytes)
      else (code, bytes)
  | .send => (code, bytes)
  | .accept => (code, 0)
  | .timer => (code, 0)

def runComplete (state : State) (strand : StrandId) (direction : Direction)
    (rest : List Direction) : State :=
  let popped := { state with
    strandQueue := Function.update state.strandQueue strand rest }
  match (state.event direction).complete with
  | none => { popped with terminated := true }
  | some completion =>
      let arguments := callbackArguments (state.kind direction) completion.ec completion.bytes
      { popped with
        event := Function.update state.event direction
          { state.event direction with complete := none, hasActiveEvent := false }
        outstanding := Function.update state.outstanding direction none
        callbacks := state.callbacks ++
          [{ direction := direction
             operation := completion.operation
             ec := arguments.1
             bytes := arguments.2
             strand := strand }] }

inductive Action where
  | initiate (direction : Direction) (result : ErrorCode)
  | harvest (events : Events)
  | handle (result : ErrorCode)
  | runTask (index : Nat) (fin : ErrorCode × Int)
  | strandStep (strand : StrandId)
  deriving DecidableEq

def step (state : State) (action : Action) : Option State :=
  if state.terminated then none
  else
    match action with
    | .initiate direction result =>
        if state.present direction && (state.outstanding direction).isNone then
          some (initiate state direction result)
        else none
    | .harvest events =>
        if state.report.isNone && reportable state.interest events then
          some { state with report := some events, interest := EventMask.empty }
        else none
    | .handle result =>
        match state.report with
        | none => none
        | some events => some (handle state events result)
    | .runTask index fin =>
        match state.tasks[index]? with
        | none => none
        | some task => some (runTask state index task fin)
    | .strandStep strand =>
        match state.strandQueue strand with
        | [] => none
        | direction :: rest => some (runComplete state strand direction rest)

theorem reportable_bit {interest : EventMask} {events : Events}
    (allowed : reportable interest events = true) {direction : Direction}
    (reported : has events direction.bit = true) : interest.has direction = true := by
  simp only [reportable, Bool.and_eq_true, Bool.or_eq_true, Bool.not_eq_eq_eq_not,
    Bool.not_true] at allowed
  cases direction with
  | read =>
      change has events EPOLLIN = true at reported
      simpa [reported] using allowed.1.1.2
  | write =>
      change has events EPOLLOUT = true at reported
      simpa [reported] using allowed.1.2

/-- An error is handed over as it is. -/
theorem callbackArguments_failed {code : ErrorCode} (failed : code ≠ ec.OK) (kind : EventKind)
    (bytes : Int) : (callbackArguments kind code bytes).1 = code := by
  cases kind with
  | recv => rw [callbackArguments, if_neg (fun both => failed both.1)]
  | send => rfl
  | accept => rfl
  | timer => rfl

theorem callbackArguments_none (kind : EventKind) (code : ErrorCode) :
    (callbackArguments kind code 0).2 = 0 := by
  cases kind with
  | recv =>
      simp only [callbackArguments]
      split <;> rfl
  | send => rfl
  | accept => rfl
  | timer => rfl

end BabaIo.Descriptor
