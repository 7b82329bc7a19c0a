import BabaIo.ConnectCallback
import BabaIo.Library.Channel
import BabaIo.ReceiveStream

/-
A connection with an `async_tcp` at both ends.

Each end is the descriptor and the receiving socket of `BabaIo.ReceiveStream`; what the
`::send` of one end takes from its buffer is on the wire until it arrives, in pieces of any
size, at the socket of the other.  Each direction of the connection is a channel: the bytes
that `::send` took go in, the bytes that the callbacks of `recv` are handed come out.
-/

set_option autoImplicit false

namespace BabaIo.Connection

open Descriptor (StrandId)
open ReceiveStream (Flow armResult callbackBytes)

inductive Side where
  | client
  | server
  deriving DecidableEq, Repr

def Side.other : Side → Side
  | .client => .server
  | .server => .client

@[simp] theorem Side.other_other (side : Side) : side.other.other = side := by
  cases side <;> rfl

theorem Side.other_ne (side : Side) : side.other ≠ side := by
  cases side <;> decide

theorem Side.eq_or_other (side other : Side) : other = side ∨ other = side.other := by
  cases other <;> cases side <;> simp [Side.other]

structure Endpoint where
  receive : ReceiveStream.State
  /-- The buffer of the latest send. -/
  outgoing : List UInt8
  /-- All bytes that `::send` has taken. -/
  sent : List UInt8
  /-- The bytes that the callbacks of send have reported with `ec::OK`. -/
  reported : List UInt8
  /-- What was sent and has not arrived at the other end. -/
  wire : List UInt8
  /-- The writing end is shut down. -/
  finished : Bool

structure State where
  endpoint : Side → Endpoint

def Endpoint.init (strand : StrandId) : Endpoint :=
  { receive := ReceiveStream.init strand
    outgoing := []
    sent := []
    reported := []
    wire := []
    finished := false }

def init (strand : Side → StrandId) : State :=
  { endpoint := fun side => Endpoint.init (strand side) }

inductive Action where
  | recv (side : Side) (size : Nat) (result : ErrorCode)
  | send (side : Side) (buffer : List UInt8) (result : ErrorCode)
  /-- `socket_impl::shutdown` of the writing end. -/
  | shutdown (side : Side)
  /-- The next bytes on the wire of `side` arrive at the other end. -/
  | arrive (side : Side) (count : Nat)
  /-- The end of the stream of `side` arrives, behind its last byte. -/
  | arriveEnd (side : Side)
  | harvest (side : Side) (events : Events)
  | handle (side : Side) (result : ErrorCode)
  /-- A reactor task, with what `::send` returns should it be a send's. -/
  | runTask (side : Side) (index : Nat) (system : Except Errno Nat)
  | strandStep (side : Side) (strand : StrandId)

def sendResult : Except Errno Nat → ErrorCode × Int
  | .error errno => (errno.code, -1)
  | .ok count => (ec.OK, count)

/-- What `::send` may return: it takes a part of the buffer that is not empty unless the
buffer is, and fails behind a shutdown. -/
def maySend (buffer : List UInt8) (finished : Bool) : Except Errno Nat → Bool
  | .error _ => true
  | .ok count => !finished && count ≤ buffer.length && (0 < count || buffer.isEmpty)

def sentBytes (buffer : List UInt8) : Except Errno Nat → List UInt8
  | .error _ => []
  | .ok count => buffer.take count

def State.setEndpoint (state : State) (side : Side) (endpoint : Endpoint) : State :=
  { endpoint := Function.update state.endpoint side endpoint }

@[simp] theorem State.setEndpoint_self (state : State) (side : Side) (endpoint : Endpoint) :
    (state.setEndpoint side endpoint).endpoint side = endpoint := by
  exact Function.update_self side endpoint state.endpoint

theorem State.setEndpoint_ne (state : State) {side other : Side} (endpoint : Endpoint)
    (different : other ≠ side) :
    (state.setEndpoint side endpoint).endpoint other = state.endpoint other := by
  exact Function.update_of_ne different endpoint state.endpoint

def onSide (state : State) (side : Side) (action : ReceiveStream.Action)
    (change : Endpoint → Endpoint) : Option State :=
  (ReceiveStream.step (state.endpoint side).receive action).map fun receive =>
    state.setEndpoint side (change { state.endpoint side with receive := receive })

def sends (descriptor : Descriptor.State) (task : Dispatch) : Bool :=
  task.direction = .write && task.code = ec.OK && (descriptor.event .write).react.isSome

def runSend (state : State) (side : Side) (index : Nat) (system : Except Errno Nat) :
    Option State :=
  if maySend (state.endpoint side).outgoing (state.endpoint side).finished system then
    onSide state side (.runTask index (sendResult system)) fun endpoint =>
      { endpoint with
        sent := endpoint.sent ++ sentBytes endpoint.outgoing system
        wire := endpoint.wire ++ sentBytes endpoint.outgoing system }
  else none

def arrive (state : State) (side : Side) (count : Nat) : Option State :=
  (onSide state side.other (.write ((state.endpoint side).wire.take count)) id).map
    fun next => next.setEndpoint side
      { state.endpoint side with wire := (state.endpoint side).wire.drop count }

def reportedBytes (endpoint : Endpoint) (strand : StrandId) : List UInt8 :=
  match endpoint.receive.descriptor.strandQueue strand with
  | .write :: _ =>
      match (endpoint.receive.descriptor.event .write).complete with
      | some completion =>
          if completion.ec = ec.OK then endpoint.outgoing.take completion.bytes.toNat else []
      | none => []
  | _ => []

def step (state : State) : Action → Option State
  | .recv side size result => onSide state side (.recv size result) id
  | .send side buffer result =>
      onSide state side (.send result) fun endpoint => { endpoint with outgoing := buffer }
  | .shutdown side =>
      some (state.setEndpoint side { state.endpoint side with finished := true })
  | .arrive side count => arrive state side count
  | .arriveEnd side =>
      if (state.endpoint side).finished && (state.endpoint side).wire.isEmpty then
        onSide state side.other .closePeer id
      else none
  | .harvest side events => onSide state side (.harvest events) id
  | .handle side result => onSide state side (.handle result) id
  | .runTask side index system =>
      (state.endpoint side).receive.descriptor.tasks[index]?.bind fun task =>
        if sends (state.endpoint side).receive.descriptor task then
          runSend state side index system
        else onSide state side (.runTask index (ec.OK, 0)) id
  | .strandStep side strand =>
      onSide state side (.strandStep strand) fun endpoint =>
        { endpoint with
          reported := endpoint.reported ++ reportedBytes (state.endpoint side) strand }

/-! ### Who acts in a step -/

/-- One end acts on what it receives, and the other receives as before. -/
structure Acts (state next : State) (side : Side) (action : ReceiveStream.Action) :
    Prop where
  stepped : ReceiveStream.step (state.endpoint side).receive action =
    some (next.endpoint side).receive
  same : ∀ other, other ≠ side →
    (next.endpoint other).receive = (state.endpoint other).receive

section Acting

variable {state next : State} {side : Side}

theorem acts_onSide {action : ReceiveStream.Action} {change : Endpoint → Endpoint}
    (stepped : onSide state side action change = some next)
    (receive : ∀ endpoint, (change endpoint).receive = endpoint.receive) :
    Acts state next side action := by
  obtain ⟨received, acted, rfl⟩ := Option.map_eq_some_iff.mp stepped
  constructor
  · rw [State.setEndpoint_self, receive]
    exact acted
  · intro other different
    rw [State.setEndpoint_ne state _ different]

theorem acts_recv {size : Nat} {result : ErrorCode}
    (stepped : step state (.recv side size result) = some next) :
    Acts state next side (.recv size result) :=
  acts_onSide stepped (fun _ => rfl)

theorem acts_send {buffer : List UInt8} {result : ErrorCode}
    (stepped : step state (.send side buffer result) = some next) :
    Acts state next side (.send result) := by
  have moved : onSide state side (.send result)
    (fun endpoint => { endpoint with outgoing := buffer }) = some next := stepped
  exact acts_onSide moved (fun _ => rfl)

theorem acts_harvest {events : Events}
    (stepped : step state (.harvest side events) = some next) :
    Acts state next side (.harvest events) :=
  acts_onSide stepped (fun _ => rfl)

theorem acts_handle {result : ErrorCode}
    (stepped : step state (.handle side result) = some next) :
    Acts state next side (.handle result) :=
  acts_onSide stepped (fun _ => rfl)

theorem acts_strandStep {strand : StrandId}
    (stepped : step state (.strandStep side strand) = some next) :
    Acts state next side (.strandStep strand) := by
  have moved : onSide state side (.strandStep strand) (fun endpoint =>
    { endpoint with
      reported := endpoint.reported ++ reportedBytes (state.endpoint side) strand }) =
    some next := stepped
  exact acts_onSide moved (fun _ => rfl)

theorem acts_runTask {index : Nat} {system : Except Errno Nat}
    (stepped : step state (.runTask side index system) = some next) :
    ∃ sent, Acts state next side (.runTask index sent) := by
  obtain ⟨task, _, ran⟩ := Option.bind_eq_some_iff.mp stepped
  split at ran
  · unfold runSend at ran
    split at ran
    · exact ⟨_, acts_onSide ran (fun _ => rfl)⟩
    · cases ran
  · exact ⟨_, acts_onSide ran (fun _ => rfl)⟩

theorem acts_arrive {count : Nat} (stepped : step state (.arrive side count) = some next) :
    Acts state next side.other (.write ((state.endpoint side).wire.take count)) := by
  obtain ⟨middle, first, rfl⟩ := Option.map_eq_some_iff.mp stepped
  obtain ⟨written, same⟩ := acts_onSide first (fun _ => rfl)
  constructor
  · rw [State.setEndpoint_ne _ _ side.other_ne]
    exact written
  · intro other different
    by_cases own : other = side
    · subst other
      rw [State.setEndpoint_self]
    · rw [State.setEndpoint_ne _ _ own]
      exact same other different

theorem acts_arriveEnd (stepped : step state (.arriveEnd side) = some next) :
    Acts state next side.other .closePeer := by
  simp only [step] at stepped
  split at stepped
  · exact acts_onSide stepped (fun _ => rfl)
  · cases stepped

theorem receive_shutdown (stepped : step state (.shutdown side) = some next) (other : Side) :
    (next.endpoint other).receive = (state.endpoint other).receive := by
  cases stepped
  by_cases own : other = side
  · subst other
    rw [State.setEndpoint_self]
  · rw [State.setEndpoint_ne _ _ own]

end Acting

/-! ### The books of a direction -/

def Endpoint.sending (endpoint : Endpoint) : Option Descriptor.Completion :=
  (endpoint.receive.descriptor.event .write).complete

def Endpoint.unreported (endpoint : Endpoint) : List UInt8 :=
  match endpoint.sending with
  | some completion =>
      if completion.ec = ec.OK then endpoint.outgoing.take completion.bytes.toNat else []
  | none => []

/-- Every byte of a direction is counted once at both of its ends: reported by a callback
of send or on its way there; handed to a callback of recv, on its way there, unread or on
the wire. -/
structure Reliable (state : State) : Prop where
  received : ∀ side, (state.endpoint side.other).receive.delivered <+:
    (state.endpoint side).sent
  reported : ∀ side, (state.endpoint side).reported <+: (state.endpoint side).sent
  books : ∀ side,
    (state.endpoint side).reported ++ (state.endpoint side).unreported =
      (state.endpoint side.other).receive.delivered ++
        (state.endpoint side.other).receive.underway ++
          (state.endpoint side.other).receive.socket.unread ++ (state.endpoint side).wire

structure EndpointKept (endpoint : Endpoint) : Prop where
  flow : Flow endpoint.receive
  sends : endpoint.sent = endpoint.reported ++ endpoint.unreported

structure Link (near far : Endpoint) : Prop where
  stream : near.sent = far.receive.socket.sent ++ near.wire
  ended : far.receive.socket.peerClosed = true → near.finished = true ∧ near.wire = []

structure Linked (state : State) : Prop where
  kept : ∀ side, EndpointKept (state.endpoint side)
  link : ∀ side, Link (state.endpoint side) (state.endpoint side.other)

theorem linked_init (strand : Side → StrandId) : Linked (init strand) := by
  constructor
  · intro side
    exact ⟨ReceiveStream.flow_init (strand side), rfl⟩
  · intro side
    refine ⟨rfl, ?_⟩
    intro impossible
    cases impossible

theorem Linked.reliable {state : State} (linked : Linked state) : Reliable state := by
  constructor
  · intro side
    have flow := (linked.kept side.other).flow
    rw [(linked.link side).stream]
    exact flow.deliversPrefix.trans (List.prefix_append _ _)
  · intro side
    rw [(linked.kept side).sends]
    exact List.prefix_append _ _
  · intro side
    rw [← (linked.kept side).sends, (linked.link side).stream,
      (linked.kept side.other).flow.account]

def channel (state : State) (linked : Linked state) (side : Side) : Channel UInt8 :=
  { put := (state.endpoint side).sent
    taken := (state.endpoint side.other).receive.delivered
    ended := (state.endpoint side).finished
    inOrder := linked.reliable.received side }

/-! ### What the step of one end does to its send -/

structure Frame (before after : ReceiveStream.State) : Prop where
  sent : after.socket.sent = before.socket.sent
  closed : after.socket.peerClosed = before.socket.peerClosed
  delivered : before.delivered <+: after.delivered

def ownAction : ReceiveStream.Action → Bool
  | .write _ => false
  | .closePeer => false
  | _ => true

theorem frame_step {before after : ReceiveStream.State} {action : ReceiveStream.Action}
    (own : ownAction action = true)
    (stepped : ReceiveStream.step before action = some after) : Frame before after := by
  cases action with
  | write bytes => cases own
  | closePeer => cases own
  | recv size result =>
      obtain ⟨_, descriptor, _, rfl⟩ := ReceiveStream.step_recv.mp stepped
      exact ⟨rfl, rfl, List.prefix_rfl⟩
  | send result =>
      obtain ⟨_, descriptor, _, rfl⟩ := ReceiveStream.step_send.mp stepped
      exact ⟨rfl, rfl, List.prefix_rfl⟩
  | harvest events =>
      obtain ⟨_, descriptor, _, rfl⟩ := ReceiveStream.step_harvest.mp stepped
      exact ⟨rfl, rfl, List.prefix_rfl⟩
  | handle result =>
      obtain ⟨_, descriptor, _, rfl⟩ := ReceiveStream.step_handle.mp stepped
      exact ⟨rfl, rfl, List.prefix_rfl⟩
  | runTask index sent =>
      obtain ⟨_, task, _, rfl⟩ := ReceiveStream.step_runTask.mp stepped
      unfold ReceiveStream.runTask
      split
      · have received := ReceiveStream.received_recv before.socket before.size
        exact ⟨received.sent, received.closed, List.prefix_rfl⟩
      · exact ⟨rfl, rfl, List.prefix_rfl⟩
  | strandStep strand =>
      obtain ⟨descriptor, _, rfl⟩ := Option.map_eq_some_iff.mp stepped
      exact ⟨rfl, rfl, List.prefix_append _ _⟩

theorem sending_runTask {descriptor : Descriptor.State} {index : Nat} {task : Dispatch}
    {fin : ErrorCode × Int} {operation : Nat}
    (found : (descriptor.event task.direction).react = some operation) :
    ((Descriptor.runTask descriptor index task fin).event .write).complete =
      if task.direction = .write then
        some ⟨operation, (Descriptor.reactCall task operation fin).result.1,
          (Descriptor.reactCall task operation fin).result.2⟩
      else (descriptor.event .write).complete := by
  rw [Descriptor.runTask_some found]
  by_cases writes : task.direction = .write
  · rw [if_pos writes]
    simp [Descriptor.forCompletion, writes]
  · rw [if_neg writes]
    simp [Descriptor.forCompletion, Function.update_of_ne (Ne.symm writes)]

theorem sending_of_react {endpoint : Endpoint} (flow : Flow endpoint.receive)
    {operation : Nat}
    (found : (endpoint.receive.descriptor.event .write).react = some operation) :
    endpoint.sending = none := by
  obtain ⟨stages, staged⟩ := flow.staged
  have stage := staged.stage .write
  rw [staged.pending_of_react found] at stage
  exact stage.complete

theorem sending_of_free {endpoint : Endpoint} (flow : Flow endpoint.receive)
    (free : endpoint.receive.descriptor.outstanding .write = none) :
    endpoint.sending = none := by
  obtain ⟨stages, staged⟩ := flow.staged
  have stage := staged.stage .write
  rw [staged.idle_of_outstanding free] at stage
  exact stage.complete

theorem unreported_of_none {endpoint : Endpoint} (free : endpoint.sending = none) :
    endpoint.unreported = [] := by
  simp only [Endpoint.unreported, free]

/-- A completion with an error has nothing to report. -/
theorem unreported_of_failed {endpoint : Endpoint}
    (failed : ∀ completion, endpoint.sending = some completion → completion.ec ≠ ec.OK) :
    endpoint.unreported = [] := by
  unfold Endpoint.unreported
  split
  · rename_i completion stored
    rw [if_neg (failed completion stored)]
  · rfl

theorem EndpointKept.of_same {endpoint next : Endpoint} (kept : EndpointKept endpoint)
    (flow : Flow next.receive) (outgoing : next.outgoing = endpoint.outgoing)
    (sent : next.sent = endpoint.sent) (reported : next.reported = endpoint.reported)
    (sending : next.sending = endpoint.sending) : EndpointKept next := by
  refine ⟨flow, ?_⟩
  unfold Endpoint.unreported
  rw [sent, reported, sending, outgoing]
  exact kept.sends

theorem EndpointKept.of_none {endpoint next : Endpoint} (kept : EndpointKept endpoint)
    (flow : Flow next.receive) (before : endpoint.unreported = [])
    (after : next.unreported = []) (sent : next.sent = endpoint.sent)
    (reported : next.reported = endpoint.reported) : EndpointKept next := by
  refine ⟨flow, ?_⟩
  have books := kept.sends
  rw [before] at books
  rw [after, sent, reported]
  exact books

section OneEnd

variable {endpoint : Endpoint} {receive : ReceiveStream.State}

theorem kept_recv (kept : EndpointKept endpoint) {size : Nat} {result : ErrorCode}
    (stepped : ReceiveStream.step endpoint.receive (.recv size result) = some receive) :
    EndpointKept { endpoint with receive := receive } := by
  have flow := ReceiveStream.flow_step kept.flow stepped
  obtain ⟨_, descriptor, initiated, rfl⟩ := ReceiveStream.step_recv.mp stepped
  obtain ⟨_, _, _, rfl⟩ := Descriptor.step_initiate.mp initiated
  refine kept.of_same flow rfl rfl rfl ?_
  have complete := ReceiveStream.complete_initiate endpoint.receive.descriptor .read .write result
  rw [if_neg (fun failed => by cases failed.2)] at complete
  exact complete

theorem kept_send (kept : EndpointKept endpoint) {result : ErrorCode} (buffer : List UInt8)
    (stepped : ReceiveStream.step endpoint.receive (.send result) = some receive) :
    EndpointKept { endpoint with receive := receive, outgoing := buffer } := by
  have flow := ReceiveStream.flow_step kept.flow stepped
  obtain ⟨_, descriptor, initiated, rfl⟩ := ReceiveStream.step_send.mp stepped
  obtain ⟨_, _, free, rfl⟩ := Descriptor.step_initiate.mp initiated
  have none := sending_of_free kept.flow free
  refine kept.of_none flow (unreported_of_none none) (unreported_of_failed ?_) rfl rfl
  intro completion stored
  have complete := ReceiveStream.complete_initiate endpoint.receive.descriptor .write .write result
  change ((Descriptor.initiate _ _ _).event .write).complete = some completion at stored
  rw [complete] at stored
  split at stored
  · rename_i failed
    cases stored
    exact failed.1
  · change endpoint.sending = some completion at stored
    rw [none] at stored
    cases stored

theorem kept_harvest (kept : EndpointKept endpoint) {events : Events}
    (stepped : ReceiveStream.step endpoint.receive (.harvest events) = some receive) :
    EndpointKept { endpoint with receive := receive } := by
  have flow := ReceiveStream.flow_step kept.flow stepped
  obtain ⟨_, descriptor, harvested, rfl⟩ := ReceiveStream.step_harvest.mp stepped
  obtain ⟨_, _, _, rfl⟩ := Descriptor.step_harvest.mp harvested
  exact kept.of_same flow rfl rfl rfl rfl

theorem kept_handle (kept : EndpointKept endpoint) {result : ErrorCode}
    (stepped : ReceiveStream.step endpoint.receive (.handle result) = some receive) :
    EndpointKept { endpoint with receive := receive } := by
  have flow := ReceiveStream.flow_step kept.flow stepped
  obtain ⟨_, descriptor, handled, rfl⟩ := ReceiveStream.step_handle.mp stepped
  obtain ⟨_, events, _, rfl⟩ := Descriptor.step_handle.mp handled
  refine kept.of_same flow rfl rfl rfl ?_
  exact (Descriptor.handle_event endpoint.receive.descriptor events result .write).2

theorem kept_arrival (kept : EndpointKept endpoint) {action : ReceiveStream.Action}
    (arrives : action = .closePeer ∨ ∃ bytes, action = .write bytes)
    (stepped : ReceiveStream.step endpoint.receive action = some receive) :
    EndpointKept { endpoint with receive := receive } := by
  have flow := ReceiveStream.flow_step kept.flow stepped
  rcases arrives with rfl | ⟨bytes, rfl⟩
  · cases stepped
    exact kept.of_same flow rfl rfl rfl rfl
  · obtain ⟨_, rfl⟩ := ReceiveStream.step_write.mp stepped
    exact kept.of_same flow rfl rfl rfl rfl

/-- What a task thread leaves of the descriptor: that of the task's `react`. -/
theorem descriptor_runTask {before : ReceiveStream.State} {index : Nat}
    {sent : ErrorCode × Int}
    (stepped : ReceiveStream.step before (.runTask index sent) = some receive) :
    ∃ task fin, before.descriptor.tasks[index]? = some task ∧
      (task.direction = .write → fin = sent) ∧
      receive.descriptor = Descriptor.runTask before.descriptor index task fin := by
  obtain ⟨_, task, found, rfl⟩ := ReceiveStream.step_runTask.mp stepped
  unfold ReceiveStream.runTask
  split
  · rename_i reads
    obtain ⟨direction, _⟩ := ReceiveStream.receives_eq reads
    refine ⟨task, _, found, ?_, rfl⟩
    intro writes
    rw [direction] at writes
    cases writes
  · exact ⟨task, sent, found, fun _ => rfl, rfl⟩

theorem kept_otherTask (kept : EndpointKept endpoint) {index : Nat} {task : Dispatch}
    {sent : ErrorCode × Int} (found : endpoint.receive.descriptor.tasks[index]? = some task)
    (other : sends endpoint.receive.descriptor task = false)
    (stepped : ReceiveStream.step endpoint.receive (.runTask index sent) = some receive) :
    EndpointKept { endpoint with receive := receive } := by
  have flow := ReceiveStream.flow_step kept.flow stepped
  obtain ⟨same, fin, foundSame, _, descriptor⟩ := descriptor_runTask stepped
  rw [found] at foundSame
  cases foundSame
  cases react : (endpoint.receive.descriptor.event task.direction).react with
  | none =>
      refine kept.of_same flow rfl rfl rfl ?_
      change (receive.descriptor.event .write).complete = _
      rw [descriptor, Descriptor.runTask_none react]
      rfl
  | some operation =>
      have complete := @sending_runTask endpoint.receive.descriptor index task fin operation
        react
      rw [← descriptor] at complete
      by_cases writes : task.direction = .write
      · rw [if_pos writes] at complete
        rw [writes] at react
        refine kept.of_none flow (unreported_of_none (sending_of_react kept.flow react))
          (unreported_of_failed ?_) rfl rfl
        intro completion stored
        change (receive.descriptor.event .write).complete = some completion at stored
        rw [complete] at stored
        cases stored
        have failed : task.code ≠ ec.OK := by
          intro ok
          simp [sends, writes, ok, react] at other
        simp only [Descriptor.reactCall, if_neg failed, Descriptor.ReactCall.result]
        exact failed
      · rw [if_neg writes] at complete
        exact kept.of_same flow rfl rfl rfl complete

theorem sends_eq {descriptor : Descriptor.State} {task : Dispatch}
    (writing : sends descriptor task = true) :
    task.direction = .write ∧ task.code = ec.OK ∧
      ∃ operation, (descriptor.event .write).react = some operation := by
  simp only [sends, Bool.and_eq_true, decide_eq_true_eq] at writing
  exact ⟨writing.1.1, writing.1.2, Option.isSome_iff_exists.mp writing.2⟩

/-- The bytes that `::send` takes are on their way to the callback. -/
theorem kept_runSend (kept : EndpointKept endpoint) {index : Nat} {task : Dispatch}
    {system : Except Errno Nat}
    (found : endpoint.receive.descriptor.tasks[index]? = some task)
    (writing : sends endpoint.receive.descriptor task = true)
    (stepped : ReceiveStream.step endpoint.receive (.runTask index (sendResult system)) =
      some receive) :
    EndpointKept { endpoint with
      receive := receive
      sent := endpoint.sent ++ sentBytes endpoint.outgoing system
      wire := endpoint.wire ++ sentBytes endpoint.outgoing system } := by
  have flow := ReceiveStream.flow_step kept.flow stepped
  obtain ⟨direction, ok, operation, react⟩ := sends_eq writing
  obtain ⟨same, fin, foundSame, result, descriptor⟩ := descriptor_runTask stepped
  rw [found] at foundSame
  cases foundSame
  obtain rfl := result direction
  have books := kept.sends
  rw [unreported_of_none (sending_of_react kept.flow react), List.append_nil] at books
  have complete : (receive.descriptor.event .write).complete =
      some ⟨operation, (sendResult system).1, (sendResult system).2⟩ := by
    rw [descriptor, sending_runTask (by rw [direction]; exact react), if_pos direction]
    simp only [Descriptor.reactCall, ok, if_true, Descriptor.ReactCall.result]
  refine ⟨flow, ?_⟩
  have underway : Endpoint.unreported { endpoint with
      receive := receive
      sent := endpoint.sent ++ sentBytes endpoint.outgoing system
      wire := endpoint.wire ++ sentBytes endpoint.outgoing system } =
      sentBytes endpoint.outgoing system := by
    unfold Endpoint.unreported Endpoint.sending
    simp only [complete]
    cases system with
    | error errno =>
        change (if errno.code = ec.OK then _ else []) = []
        rw [if_neg errno.nonzero]
    | ok count =>
        change (if ec.OK = ec.OK then endpoint.outgoing.take ((count : Int).toNat) else []) =
          endpoint.outgoing.take count
        rw [if_pos rfl, Int.toNat_natCast]
  rw [underway]
  exact congrArg (fun bytes => bytes ++ sentBytes endpoint.outgoing system) books

/-- The callback of a send reports what was on its way. -/
theorem kept_strandStep (kept : EndpointKept endpoint) {strand : StrandId}
    (stepped : ReceiveStream.step endpoint.receive (.strandStep strand) = some receive) :
    EndpointKept { endpoint with
      receive := receive
      reported := endpoint.reported ++ reportedBytes endpoint strand } := by
  have flow := ReceiveStream.flow_step kept.flow stepped
  obtain ⟨descriptor, ran, rfl⟩ := Option.map_eq_some_iff.mp stepped
  obtain ⟨_, direction, rest, queued, rfl⟩ := Descriptor.step_strandStep.mp ran
  obtain ⟨stages, before⟩ := kept.flow.staged
  obtain ⟨_, completion, _, stored⟩ := before.completing_of_queued queued
  cases direction with
  | read =>
      refine kept.of_same flow rfl rfl ?_ ?_
      · change endpoint.reported ++ reportedBytes endpoint strand = endpoint.reported
        rw [reportedBytes, queued, List.append_nil]
      · change ((Descriptor.runComplete endpoint.receive.descriptor strand .read
          rest).event .write).complete = _
        rw [Descriptor.runComplete_some stored]
        rfl
  | write =>
      refine ⟨flow, ?_⟩
      have free : ((Descriptor.runComplete endpoint.receive.descriptor strand .write
          rest).event .write).complete = none := by
        rw [Descriptor.runComplete_some stored]
        simp only [Function.update_self]
      have told : reportedBytes endpoint strand = endpoint.unreported := by
        unfold reportedBytes Endpoint.unreported Endpoint.sending
        rw [queued, stored]
      have nothing := @unreported_of_none { endpoint with
        receive := { endpoint.receive with
          descriptor := Descriptor.runComplete endpoint.receive.descriptor strand .write rest
          delivered := endpoint.receive.delivered ++ callbackBytes endpoint.receive strand }
        reported := endpoint.reported ++ reportedBytes endpoint strand } free
      rw [nothing, List.append_nil]
      change endpoint.sent = endpoint.reported ++ reportedBytes endpoint strand
      rw [told]
      exact kept.sends

end OneEnd

/-! ### Both ends -/

/-- What a step leaves of an end: the lists grow, and nothing is sent behind a
shutdown. -/
structure Grows (before after : Endpoint) : Prop where
  sent : before.sent <+: after.sent
  delivered : before.receive.delivered <+: after.receive.delivered
  finished : before.finished = true → after.finished = true ∧ after.sent = before.sent

theorem Grows.refl (endpoint : Endpoint) : Grows endpoint endpoint :=
  ⟨List.prefix_rfl, List.prefix_rfl, fun finished => ⟨finished, rfl⟩⟩

structure Moved (state next : State) : Prop where
  linked : Linked next
  grows : ∀ side, Grows (state.endpoint side) (next.endpoint side)

theorem moved_of_ends {state next : State} {side : Side} {near far : Endpoint}
    (here : next.endpoint side = near) (there : next.endpoint side.other = far)
    (keptNear : EndpointKept near) (keptFar : EndpointKept far) (toFar : Link near far)
    (toNear : Link far near) (growsNear : Grows (state.endpoint side) near)
    (growsFar : Grows (state.endpoint side.other) far) : Moved state next := by
  refine ⟨⟨?_, ?_⟩, ?_⟩
  · intro other
    rcases side.eq_or_other other with rfl | rfl
    · exact here.symm ▸ keptNear
    · exact there.symm ▸ keptFar
  · intro other
    rcases side.eq_or_other other with rfl | rfl
    · rw [here, there]
      exact toFar
    · rw [Side.other_other, here, there]
      exact toNear
  · intro other
    rcases side.eq_or_other other with rfl | rfl
    · exact here.symm ▸ growsNear
    · exact there.symm ▸ growsFar

theorem Linked.linkBack {state : State} (linked : Linked state) (side : Side) :
    Link (state.endpoint side.other) (state.endpoint side) := by
  have link := linked.link side.other
  rwa [Side.other_other] at link

structure Puts (before after : Endpoint) (bytes : List UInt8) : Prop where
  receive : after.receive = before.receive
  sent : after.sent = before.sent ++ bytes
  wire : after.wire = before.wire ++ bytes
  finished : after.finished = before.finished
  isOpen : before.finished = true → bytes = []

theorem puts_nil {before after : Endpoint} (receive : after.receive = before.receive)
    (sent : after.sent = before.sent) (wire : after.wire = before.wire)
    (finished : after.finished = before.finished) : Puts before after [] := by
  refine ⟨receive, ?_, ?_, finished, fun _ => rfl⟩
  · rw [sent, List.append_nil]
  · rw [wire, List.append_nil]

theorem moved_onSide {state next : State} {side : Side} {action : ReceiveStream.Action}
    {change : Endpoint → Endpoint} {bytes : List UInt8} (linked : Linked state)
    (stepped : onSide state side action change = some next)
    (own : ownAction action = true)
    (puts : ∀ receive, Puts { state.endpoint side with receive := receive }
      (change { state.endpoint side with receive := receive }) bytes)
    (kept : ∀ receive, ReceiveStream.step (state.endpoint side).receive action =
      some receive → EndpointKept (change { state.endpoint side with receive := receive })) :
    Moved state next := by
  obtain ⟨receive, received, rfl⟩ := Option.map_eq_some_iff.mp stepped
  have frame := frame_step own received
  have added := puts receive
  have link := linked.link side
  have back := linked.linkBack side
  refine moved_of_ends (state.setEndpoint_self side _) (state.setEndpoint_ne _ side.other_ne)
    (kept receive received) (linked.kept side.other) ⟨?_, ?_⟩ ⟨?_, ?_⟩ ⟨?_, ?_, ?_⟩
    (Grows.refl _)
  · rw [added.sent, added.wire, ← List.append_assoc, ← link.stream]
  · intro closed
    obtain ⟨finished, empty⟩ := link.ended closed
    rw [added.finished, added.wire, added.isOpen finished, List.append_nil]
    exact ⟨finished, empty⟩
  · rw [added.receive, frame.sent]
    exact back.stream
  · intro closed
    rw [added.receive, frame.closed] at closed
    exact back.ended closed
  · rw [added.sent]
    exact List.prefix_append _ _
  · rw [added.receive]
    exact frame.delivered
  · intro finished
    rw [added.finished, added.sent, added.isOpen finished, List.append_nil]
    exact ⟨finished, rfl⟩

theorem step_write {before after : ReceiveStream.State} {bytes : List UInt8}
    (stepped : ReceiveStream.step before (.write bytes) = some after) :
    after.socket.peerClosed = false ∧
      after.socket.sent = before.socket.sent ++ bytes ∧
      after.delivered = before.delivered := by
  obtain ⟨closed, rfl⟩ := ReceiveStream.step_write.mp stepped
  exact ⟨closed, rfl, rfl⟩

/-- The next bytes leave the wire and arrive at the other end. -/
theorem moved_arrive {state next : State} {side : Side} {count : Nat}
    (linked : Linked state) (stepped : arrive state side count = some next) :
    Moved state next := by
  obtain ⟨middle, first, rfl⟩ := Option.map_eq_some_iff.mp stepped
  obtain ⟨arrived, written, rfl⟩ := Option.map_eq_some_iff.mp first
  obtain ⟨stillOpen, stream, delivered⟩ := step_write written
  have link := linked.link side
  have back := linked.linkBack side
  have there := (State.setEndpoint_ne (state.setEndpoint side.other
    { state.endpoint side.other with receive := arrived })
    { state.endpoint side with wire := (state.endpoint side).wire.drop count }
    side.other_ne).trans (state.setEndpoint_self side.other _)
  refine moved_of_ends (State.setEndpoint_self _ side _) there ?near ?far ⟨?_, ?_⟩
    ⟨back.stream, back.ended⟩ ⟨List.prefix_rfl, List.prefix_rfl, fun finished => ⟨finished, rfl⟩⟩
    ⟨List.prefix_rfl, ?_, fun finished => ⟨finished, rfl⟩⟩
  case near => exact (linked.kept side).of_same (linked.kept side).flow rfl rfl rfl rfl
  case far => exact kept_arrival (linked.kept side.other) (Or.inr ⟨_, rfl⟩) written
  · change (state.endpoint side).sent = arrived.socket.sent ++ _
    rw [stream, List.append_assoc, List.take_append_drop]
    exact link.stream
  · intro closed
    change arrived.socket.peerClosed = true at closed
    rw [stillOpen] at closed
    cases closed
  · exact delivered.symm ▸ List.prefix_rfl

theorem moved_arriveEnd {state next : State} {side : Side} (linked : Linked state)
    (finished : (state.endpoint side).finished = true)
    (empty : (state.endpoint side).wire = [])
    (stepped : onSide state side.other .closePeer id = some next) : Moved state next := by
  obtain ⟨closed, received, rfl⟩ := Option.map_eq_some_iff.mp stepped
  have receiver := kept_arrival (linked.kept side.other) (Or.inl rfl) received
  cases received
  have link := linked.link side
  have back := linked.linkBack side
  exact moved_of_ends (state.setEndpoint_ne _ side.other_ne.symm)
    (state.setEndpoint_self side.other _) (linked.kept side) receiver
    ⟨link.stream, fun _ => ⟨finished, empty⟩⟩ ⟨back.stream, back.ended⟩ (Grows.refl _)
    ⟨List.prefix_rfl, List.prefix_rfl, fun isFinished => ⟨isFinished, rfl⟩⟩

theorem moved_shutdown {state : State} (linked : Linked state) (side : Side) :
    Moved state
      (state.setEndpoint side { state.endpoint side with finished := true }) := by
  have link := linked.link side
  have back := linked.linkBack side
  refine moved_of_ends (state.setEndpoint_self side _) (state.setEndpoint_ne _ side.other_ne)
    ?_ (linked.kept side.other) ⟨link.stream, ?_⟩ ⟨back.stream, back.ended⟩
    ⟨List.prefix_rfl, List.prefix_rfl, fun _ => ⟨rfl, rfl⟩⟩ (Grows.refl _)
  · exact (linked.kept side).of_same (linked.kept side).flow rfl rfl rfl rfl
  · intro closed
    exact ⟨rfl, (link.ended closed).2⟩

theorem sentBytes_of_finished {buffer : List UInt8} {finished : Bool}
    {system : Except Errno Nat} (allowed : maySend buffer finished system = true)
    (ended : finished = true) : sentBytes buffer system = [] := by
  cases system with
  | error errno => rfl
  | ok count =>
      rw [ended] at allowed
      cases allowed

theorem moved_step {state next : State} {action : Action} (linked : Linked state)
    (stepped : step state action = some next) : Moved state next := by
  cases action with
  | recv side size result =>
      have moved : onSide state side (.recv size result) id = some next := stepped
      exact moved_onSide linked moved rfl (fun _ => puts_nil rfl rfl rfl rfl)
        (fun _ received => kept_recv (linked.kept side) received)
  | send side buffer result =>
      have moved : onSide state side (.send result)
        (fun endpoint => { endpoint with outgoing := buffer }) = some next := stepped
      exact moved_onSide linked moved rfl (fun _ => puts_nil rfl rfl rfl rfl)
        (fun _ received => kept_send (linked.kept side) buffer received)
  | shutdown side =>
      cases stepped
      exact moved_shutdown linked side
  | arrive side count => exact moved_arrive linked stepped
  | arriveEnd side =>
      simp only [step] at stepped
      split at stepped
      · rename_i ended
        rw [Bool.and_eq_true] at ended
        exact moved_arriveEnd linked ended.1 (List.isEmpty_iff.mp ended.2) stepped
      · cases stepped
  | harvest side events =>
      have moved : onSide state side (.harvest events) id = some next := stepped
      exact moved_onSide linked moved rfl (fun _ => puts_nil rfl rfl rfl rfl)
        (fun _ received => kept_harvest (linked.kept side) received)
  | handle side result =>
      have moved : onSide state side (.handle result) id = some next := stepped
      exact moved_onSide linked moved rfl (fun _ => puts_nil rfl rfl rfl rfl)
        (fun _ received => kept_handle (linked.kept side) received)
  | runTask side index system =>
      obtain ⟨task, found, ran⟩ := Option.bind_eq_some_iff.mp stepped
      split at ran
      · rename_i writing
        unfold runSend at ran
        split at ran
        · rename_i allowed
          exact moved_onSide linked ran rfl
            (fun _ => ⟨rfl, rfl, rfl, rfl, sentBytes_of_finished allowed⟩)
            (fun _ received => kept_runSend (linked.kept side) found writing received)
        · cases ran
      · rename_i other
        exact moved_onSide linked ran rfl (fun _ => puts_nil rfl rfl rfl rfl)
          (fun _ received => kept_otherTask (linked.kept side) found
            (Bool.eq_false_iff.mpr other) received)
  | strandStep side strand =>
      have moved : onSide state side (.strandStep strand) (fun endpoint =>
        { endpoint with
          reported := endpoint.reported ++ reportedBytes (state.endpoint side) strand }) =
        some next := stepped
      exact moved_onSide linked moved rfl (fun _ => puts_nil rfl rfl rfl rfl)
        (fun _ received => kept_strandStep (linked.kept side) received)

/-! ### Every run -/

/-- In every run, whatever fails: nothing is lost, doubled or reordered between the
buffers that send took bytes from and the buffers that recv filled. -/
theorem reliable_always (strand : Side → StrandId) (actions : List Action) :
    Runs.StatesMeet step Reliable (init strand) actions := by
  have always : Runs.StatesMeet step Linked (init strand) actions :=
    Runs.statesMeet_of_invariant (fun _ _ _ linked stepped => (moved_step linked stepped).linked)
      actions (linked_init strand)
  exact always.imp (fun state linked => linked.reliable)

theorem Moved.later {before after : State} (moved : Moved before after)
    (first : Linked before) (side : Side) :
    (channel before first side).Later (channel after moved.linked side) := by
  constructor
  · exact (moved.grows side).sent
  · exact (moved.grows side.other).delivered
  · exact (moved.grows side).finished

/-- The channels of a connection only move on. -/
theorem later_exec {before after : State} {actions : List Action} (first : Linked before)
    (executed : Runs.exec step before actions = some after) :
    ∃ second : Linked after, ∀ side,
      (channel before first side).Later (channel after second side) := by
  induction actions generalizing before with
  | nil =>
      cases executed
      exact ⟨first, fun side => Channel.Later.refl _⟩
  | cons action rest ih =>
      obtain ⟨next, stepped, later⟩ := Runs.exec_cons_eq_some.mp executed
      have moved := moved_step first stepped
      obtain ⟨second, further⟩ := ih moved.linked later
      exact ⟨second, fun side => (moved.later first side).trans (further side)⟩

/-! ### The end of a stream -/

/-- A recv's `react` that runs with unread bytes has room for one, and the report it
comes from carried no EPOLLHUP. -/
def ReactsInTime (state : State) : Action → Prop
  | .runTask side index _ =>
      ReceiveStream.ReactsInTime (state.endpoint side).receive (.runTask index (ec.OK, 0))
  | _ => True

/-- Once a callback of recv reports the end of the stream, everything that the other end
has sent has been delivered, and so it stays, whatever the two ends do next. -/
def EndIsFinal (state : State) : Action → Prop
  | .strandStep side strand => ∀ code bytes,
      ReceiveStream.nextCallback (state.endpoint side).receive strand = some (code, bytes) →
        code = ec.EC_PEER_SOCKET_CLOSED → ∀ actions final,
          Runs.exec step state actions = some final →
            (final.endpoint side).receive.delivered =
                (state.endpoint side).receive.delivered ∧
              (final.endpoint side.other).sent = (state.endpoint side).receive.delivered
  | _ => True

structure Candid (state : State) : Prop where
  linked : Linked state
  leads : ∀ side, ¬ ReceiveStream.Misleads (state.endpoint side).receive

theorem candid_init (strand : Side → StrandId) : Candid (init strand) := by
  refine ⟨linked_init strand, ?_⟩
  intro side
  exact (ReceiveStream.honest_init (strand side)).leads

/-- A step in time leaves no recv misleading. -/
theorem Acts.leads {state next : State} {side : Side} {action : ReceiveStream.Action}
    (acts : Acts state next side action) (candid : Candid state)
    (timely : ReceiveStream.ReactsInTime (state.endpoint side).receive action) :
    ∀ side, ¬ ReceiveStream.Misleads (next.endpoint side).receive := by
  have honest := ReceiveStream.honest_step
    ⟨(candid.linked.kept side).flow, candid.leads side⟩ timely acts.stepped
  intro other
  by_cases own : other = side
  · subst other
    exact honest.leads
  · rw [acts.same other own]
    exact candid.leads other

theorem candid_step {state next : State} {action : Action} (candid : Candid state)
    (timely : ReactsInTime state action) (stepped : step state action = some next) :
    Candid next := by
  refine ⟨(moved_step candid.linked stepped).linked, ?_⟩
  cases action with
  | recv side size result => exact (acts_recv stepped).leads candid trivial
  | send side buffer result => exact (acts_send stepped).leads candid trivial
  | shutdown side =>
      intro other
      rw [receive_shutdown stepped other]
      exact candid.leads other
  | arrive side count => exact (acts_arrive stepped).leads candid trivial
  | arriveEnd side => exact (acts_arriveEnd stepped).leads candid trivial
  | harvest side events => exact (acts_harvest stepped).leads candid trivial
  | handle side result => exact (acts_handle stepped).leads candid trivial
  | runTask side index system =>
      obtain ⟨sent, acts⟩ := acts_runTask stepped
      exact acts.leads candid timely
  | strandStep side strand => exact (acts_strandStep stepped).leads candid trivial

theorem Candid.endIsFinal {state : State} (candid : Candid state) (action : Action) :
    EndIsFinal state action := by
  cases action with
  | strandStep side strand =>
      intro code bytes called ended actions final executed
      have honest : ReceiveStream.Honest (state.endpoint side).receive :=
        ⟨(candid.linked.kept side).flow, candid.leads side⟩
      obtain ⟨closed, whole⟩ := (honest.truthful (.strandStep strand) code bytes called).1 ended
      have link := candid.linked.linkBack side
      obtain ⟨finished, empty⟩ := link.ended closed
      have exhausted : (channel state candid.linked side.other).Exhausted := by
        refine ⟨finished, ?_⟩
        change (state.endpoint side.other.other).receive.delivered = _
        rw [Side.other_other, whole]
        change _ = (state.endpoint side.other).sent
        rw [link.stream, empty, List.append_nil]
      obtain ⟨second, later⟩ := later_exec candid.linked executed
      obtain ⟨still, same⟩ := exhausted.later (later side.other)
      have takenAll : (final.endpoint side.other.other).receive.delivered =
          (final.endpoint side.other).sent := still.2
      have takenSame : (final.endpoint side.other.other).receive.delivered =
          (state.endpoint side.other.other).receive.delivered := same
      rw [Side.other_other] at takenAll takenSame
      exact ⟨takenSame, by rw [← takenAll, takenSame]⟩
  | _ => trivial

/-- In a run whose recvs react in time, the end that a recv reports is the end. -/
theorem endIsFinal_always {strand : Side → StrandId} {actions : List Action}
    (timely : Runs.StepsMeet step ReactsInTime (init strand) actions) :
    Runs.StepsMeet step EndIsFinal (init strand) actions := by
  have candid : Runs.StatesMeet step Candid (init strand) actions :=
    Runs.statesMeet_of_preserved
      (fun _ _ _ held inTime stepped => candid_step held inTime stepped)
      (candid_init strand) timely
  exact candid.stepsMeet (fun state action held => held.endIsFinal action)

/-- The client sends three bytes and shuts down; the server reads two, one and the end. -/
def shutdownRun : List Action :=
  [.send .client [1, 2, 3] ec.OK, .harvest .client EPOLLOUT, .handle .client ec.OK,
    .runTask .client 0 (.ok 3), .strandStep .client 0, .shutdown .client,
    .arrive .client 3, .arriveEnd .client] ++
  (List.replicate 3 [.recv .server 2 ec.OK, .harvest .server EPOLLIN,
    .handle .server ec.OK, .runTask .server 0 (.ok 0), .strandStep .server 0]).flatten

def readsWell (state : State) : Action → Bool
  | .runTask side index _ =>
      let receive := (state.endpoint side).receive
      receive.socket.unread.isEmpty || (receive.size ≠ 0 &&
        (receive.descriptor.tasks[index]?.map Dispatch.code) = some ec.OK)
  | _ => true

theorem reactsInTime_of_readsWell {state : State} {action : Action}
    (reads : readsWell state action = true) : ReactsInTime state action := by
  cases action with
  | runTask side index system =>
      intro code found _ unread
      have room : (state.endpoint side).receive.size ≠ 0 ∧ code = ec.OK := by
        simpa [readsWell, unread, found] using reads
      refine ⟨?_, fun _ => room.1⟩
      rw [room.2]
      decide
  | _ => trivial

/-- The last callback of the run reports the end, behind all three bytes. -/
theorem endIsFinal_shutdownRun :
    Runs.StepsMeet step EndIsFinal (init fun _ => 0) shutdownRun ∧
      (Runs.exec step (init fun _ => 0) shutdownRun.dropLast).map (fun state =>
        (ReceiveStream.nextCallback (state.endpoint .server).receive 0,
          (state.endpoint .server).receive.delivered)) =
        some (some (ec.EC_PEER_SOCKET_CLOSED, 0), [1, 2, 3]) := by
  refine ⟨endIsFinal_always ?_, by decide +kernel⟩
  have reads : Runs.StepsMeet step (fun state action => readsWell state action = true)
      (init fun _ => 0) shutdownRun := by
    decide +kernel
  exact reads.imp (fun _ _ => reactsInTime_of_readsWell)

end BabaIo.Connection
