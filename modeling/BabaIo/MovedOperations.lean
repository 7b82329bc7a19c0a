import BabaIo.AsyncObjects
import BabaIo.Library.Runs
import BabaIo.PublicHandles
import BabaIo.ReactorWait

/-
One `async_timer`, `async_connector`, `async_acceptor` or `async_tcp` that is moved
while operations are outstanding on it.

The object has its members in a variable and its descriptor and its events outside
of it.  A move gives the members to a new variable; the closures stored in `react`
and `complete` stay as they are.  All of them hold the event; those of an accept
also hold references to members of the variable that `accept` was called on.

`accesses` names the members that reactions and completions read and write, with
the variable they lie in and the one that the object is in by then.
-/

set_option autoImplicit false

namespace BabaIo.MovedOperations

open Handles (IoHandle StrandId Var noEndpoint)
open Objects (Kind)

def INVALID_HANDLE_VALUE : IoHandle := -1

/-- The members of the four classes.  `descriptor` and `evt` say whether `_descriptor`
and the `_evt` of the event objects are set; a class without endpoints or a
`_peer_fd` leaves them as a default constructor does. -/
structure AsyncObject where
  kind : Kind
  strandForUser : Option StrandId
  strand : Option StrandId
  descriptor : Bool
  evt : Bool
  /-- `_connector_ep`, `_acceptor_ep` or `_ep`. -/
  ep : IpEndpoint
  peerFd : IoHandle
  peerEp : IpEndpoint
  deriving DecidableEq

inductive Member where
  | strandForUser
  | acceptorEp
  | peerFd
  | peerEp
  deriving DecidableEq

/-! ### Constructors and moves -/

def AsyncObject.default (kind : Kind) : AsyncObject :=
  { kind := kind
    strandForUser := none
    strand := none
    descriptor := false
    evt := false
    ep := noEndpoint
    peerFd := INVALID_HANDLE_VALUE
    peerEp := noEndpoint }

def AsyncObject.constructed (kind : Kind) (strand : StrandId) (ep : IpEndpoint) :
    AsyncObject :=
  { AsyncObject.default kind with
    strandForUser := some strand
    strand := some strand
    descriptor := true
    evt := true
    ep := if kind = .tcp then ep else noEndpoint }

def AsyncObject.moveConstruct (tmp : AsyncObject) : AsyncObject :=
  { kind := tmp.kind
    strandForUser := tmp.strandForUser
    strand := tmp.strand
    descriptor := tmp.descriptor
    evt := tmp.evt
    ep := tmp.ep
    peerFd := tmp.peerFd
    peerEp := tmp.peerEp }

def AsyncObject.moveAssign (object tmp : AsyncObject) : AsyncObject :=
  { object with
    strandForUser := tmp.strandForUser
    strand := tmp.strand
    descriptor := tmp.descriptor
    evt := tmp.evt
    ep := tmp.ep
    peerFd := tmp.peerFd
    peerEp := tmp.peerEp }

def AsyncObject.moved (tmp : AsyncObject) : AsyncObject :=
  { tmp with
    strandForUser := none
    strand := none
    descriptor := false
    evt := false
    ep := noEndpoint
    peerFd := INVALID_HANDLE_VALUE
    peerEp := noEndpoint }

/-! ### Operations -/

inductive Request where
  | timeout
  /-- `result` is what `_fin_connect` returns. -/
  | connect (ep : IpEndpoint) (result : ErrorCode)
  /-- The overload with a strand for the peer, or the one without. -/
  | accept (peerStrand : Option StrandId)
  | recv
  | send
  deriving DecidableEq

def Request.kind : Request → Kind
  | .timeout => .timer
  | .connect _ _ => .connector
  | .accept _ => .acceptor
  | .recv | .send => .tcp

def Request.direction : Request → Direction
  | .timeout | .accept _ | .recv => .read
  | .connect _ _ | .send => .write

def directions : Kind → List Direction
  | .timer | .acceptor => [.read]
  | .connector => [.write]
  | .tcp => [.read, .write]

/-- What the closures capture besides the event, the fin function, the buffer and
the user callback.  The `acceptor` of an accept is `this`, and the object with the
`acceptor_ep`, `peer_fd` and `peer_ep` that `react` refers to. -/
inductive Call where
  | timeout
  | connect (result : ErrorCode)
  | accept (acceptor : Var) (peerStrand : Option StrandId)
  | recv
  | send
  deriving DecidableEq

def Request.call (this : Var) : Request → Call
  | .timeout => .timeout
  | .connect _ result => .connect result
  | .accept peerStrand => .accept this peerStrand
  | .recv => .recv
  | .send => .send

/-- Operations are numbered in the order of their calls. -/
structure Operation where
  number : Nat
  call : Call
  deriving DecidableEq

structure Outcome where
  ec : ErrorCode
  bytes : Int
  deriving DecidableEq

structure Answer where
  ec : ErrorCode
  bytes : Int
  peerFd : IoHandle
  peerEp : IpEndpoint
  deriving DecidableEq

/-- A fin function: of the file and, for an accept, of the acceptor's endpoint. -/
abbrev Fin := IoHandle → Option IpEndpoint → Answer

inductive Stage where
  | idle
  | armed (operation : Operation)
  /-- The reactor task that calls `react(code)` is enqueued. -/
  | harvested (operation : Operation) (code : ErrorCode)
  /-- `do_react` has returned. -/
  | reacted (operation : Operation) (outcome : Outcome)
  /-- `complete` is in the queue of the strand. -/
  | queued (operation : Operation) (outcome : Outcome)
  deriving DecidableEq

structure Peer where
  strand : StrandId
  fd : IoHandle
  ep : IpEndpoint
  deriving DecidableEq

structure Callback where
  number : Nat
  ec : ErrorCode
  bytes : Int
  peer : Option Peer
  deriving DecidableEq

structure Access where
  member : Member
  object : Var
  /-- Where the object was by then. -/
  owner : Var
  deriving DecidableEq

structure State where
  /-- The variables that exist. -/
  storage : Var → Option AsyncObject
  nextVar : Var
  /-- The variable that the object is in. -/
  owner : Var
  fd : IoHandle
  fdOpen : Bool
  inScope : Bool
  stage : Direction → Stage
  /-- The number of operations called. -/
  started : Nat
  callbacks : List Callback
  /-- The events whose final event is enqueued for deletion. -/
  disposed : List Direction
  accesses : List Access
  /-- A null or dangling pointer was dereferenced. -/
  undefined : Bool

def init (kind : Kind) (strand : StrandId) (fd : IoHandle) (ep : IpEndpoint) : State :=
  { storage := Function.update (fun _ => none) 0 (some (.constructed kind strand ep))
    nextVar := 1
    owner := 0
    fd := fd
    fdOpen := true
    inScope := true
    stage := fun _ => .idle
    started := 0
    callbacks := []
    disposed := []
    accesses := []
    undefined := false }

namespace State

def setObject (state : State) (var : Var) (object : AsyncObject) : State :=
  { state with storage := Function.update state.storage var (some object) }

def setStage (state : State) (direction : Direction) (stage : Stage) : State :=
  { state with stage := Function.update state.stage direction stage }

def access (state : State) (object : Var) (members : List Member) : State :=
  { state with
    accesses := state.accesses ++
      members.map fun member => ⟨member, object, state.owner⟩ }

def crash (state : State) : State := { state with undefined := true }

def count (state : State) : State := { state with started := state.started + 1 }

def call (state : State) (number : Nat) (ec : ErrorCode) (bytes : Int)
    (peer : Option Peer) : State :=
  { state with callbacks := state.callbacks ++ [⟨number, ec, bytes, peer⟩] }

end State

def store (state : State) (object : AsyncObject) : Request → State
  | .connect ep _ => state.setObject state.owner { object with ep := ep }
  | _ => state

/-- `_fin_connect` is called at once, `react` is stored and the event armed; where
arming fails its error is completed instead. -/
def start (state : State) (object : AsyncObject) (request : Request)
    (armed : ErrorCode) : State :=
  let operation := { number := state.started, call := request.call state.owner }
  (store state object request).count.setStage request.direction
    (if armed = ec.OK then .armed operation else .queued operation ⟨armed, 0⟩)

/-- The fin function in `do_react`; that of an accept writes `peer_fd` and `peer_ep`,
also where it fails. -/
def callFin (state : State) (direction : Direction) (operation : Operation)
    (fin : Fin) : State :=
  match operation.call with
  | .accept acceptor _ =>
      let read := state.access acceptor [.acceptorEp, .peerFd, .peerEp]
      match state.storage acceptor with
      | none => read.crash
      | some object =>
          let answer := fin state.fd (some object.ep)
          (read.setObject acceptor
            { object with peerFd := answer.peerFd, peerEp := answer.peerEp }).setStage
            direction (.reacted operation ⟨answer.ec, 0⟩)
  | .recv | .send =>
      let answer := fin state.fd none
      state.setStage direction (.reacted operation ⟨answer.ec, answer.bytes⟩)
  | _ => state.setStage direction (.reacted operation ⟨(fin state.fd none).ec, 0⟩)

/-- The closure in `react`.  That of a connect passes on what `_fin_connect`
returned. -/
def react (state : State) (direction : Direction) (operation : Operation)
    (code : ErrorCode) (fin : Fin) : State :=
  match operation.call with
  | .connect result => state.setStage direction (.reacted operation ⟨result, 0⟩)
  | _ =>
      if code = ec.OK then
        if state.inScope then callFin state direction operation fin
        else state.setStage direction (.reacted operation ⟨ec.OK, 0⟩)
      else state.setStage direction (.reacted operation ⟨code, 0⟩)

/-- `peer = async_tcp(.., _peer_fd, _peer_ep)` and the callback of an accept. -/
def deliver (state : State) (number : Nat) (acceptor : Var)
    (peerStrand : Option StrandId) : State :=
  let read := state.access acceptor
    (if peerStrand = none then [.strandForUser, .peerFd, .peerEp] else [.peerFd, .peerEp])
  match state.storage acceptor with
  | none => read.crash
  | some object =>
      match peerStrand.or object.strandForUser with
      | none => read.crash
      | some strand => read.call number ec.OK 0 (some ⟨strand, object.peerFd, object.peerEp⟩)

def complete (state : State) (direction : Direction) (operation : Operation)
    (outcome : Outcome) : State :=
  let done := state.setStage direction .idle
  if state.inScope then
    match operation.call with
    | .accept acceptor peerStrand =>
        if outcome.ec = ec.OK then deliver done operation.number acceptor peerStrand
        else done.call operation.number outcome.ec outcome.bytes none
    | .recv =>
        done.call operation.number
          (if outcome.ec = ec.OK ∧ outcome.bytes = 0 then ec.EC_PEER_SOCKET_CLOSED
            else outcome.ec) outcome.bytes none
    | _ => done.call operation.number outcome.ec outcome.bytes none
  else done

def destroy (state : State) (var : Var) (object : AsyncObject) : State :=
  let gone := { state with storage := Function.update state.storage var none }
  if object.strand.isSome && state.inScope then
    { gone with
      inScope := false
      fdOpen := false
      disposed := state.disposed ++ if object.evt then directions object.kind else [] }
  else gone

/-! ### Steps -/

/-- A new variable that is constructed from the object, or a default constructed one
that the object is assigned to. -/
inductive Way where
  | construct
  | assign
  deriving DecidableEq

def Way.target (object : AsyncObject) : Way → AsyncObject
  | .construct => object.moveConstruct
  | .assign => (AsyncObject.default object.kind).moveAssign object

def move (state : State) (way : Way) (object : AsyncObject) : State :=
  let left := state.setObject state.owner object.moved
  { left.setObject state.nextVar (way.target object) with
    nextVar := state.nextVar + 1
    owner := state.nextVar }

inductive Action where
  | bind (ep : IpEndpoint)
  | start (request : Request) (armed : ErrorCode)
  | harvest (direction : Direction) (code : ErrorCode)
  | react (direction : Direction) (fin : Fin)
  | forCompletion (direction : Direction)
  | complete (direction : Direction)
  | move (way : Way)
  /-- The destructor of what a move left. -/
  | destroyMoved (var : Var)
  | destroy

/-- The assertions in front of an operation, and its event is idle. -/
def mayStart (state : State) (object : AsyncObject) (request : Request) : Bool :=
  object.kind = request.kind && (request.kind = .timer || object.strand.isSome) &&
    object.evt && state.stage request.direction = .idle

def act (state : State) : Action → Option State
  | .bind ep =>
      match state.storage state.owner with
      | none => none
      | some object =>
          if object.kind = .acceptor then
            some (state.setObject state.owner { object with ep := ep })
          else none
  | .start request armed =>
      match state.storage state.owner with
      | none => none
      | some object =>
          if mayStart state object request then some (start state object request armed)
          else none
  | .harvest direction code =>
      match state.stage direction with
      | .armed operation => some (state.setStage direction (.harvested operation code))
      | _ => none
  | .react direction fin =>
      match state.stage direction with
      | .harvested operation code => some (react state direction operation code fin)
      | _ => none
  | .forCompletion direction =>
      match state.stage direction with
      | .reacted operation outcome =>
          some (state.setStage direction (.queued operation outcome))
      | _ => none
  | .complete direction =>
      match state.stage direction with
      | .queued operation outcome => some (complete state direction operation outcome)
      | _ => none
  | .move way => (state.storage state.owner).map (move state way)
  | .destroyMoved var =>
      if var = state.owner then none else (state.storage var).map (destroy state var)
  | .destroy => (state.storage state.owner).map (destroy state state.owner)

/-- A run ends where its behaviour becomes undefined. -/
def step (state : State) (action : Action) : Option State :=
  if state.undefined then none else act state action

/-! ### The run without the moves -/

def Action.kept : Action → Bool
  | .move _ => false
  | .destroyMoved _ => false
  | _ => true

def State.calls (state : State) (number : Nat) : Nat :=
  state.callbacks.countP fun callback => decide (callback.number = number)

def Stage.operation : Stage → Option Operation
  | .idle => none
  | .armed operation => some operation
  | .harvested operation _ => some operation
  | .reacted operation _ => some operation
  | .queued operation _ => some operation

def Stage.holds (stage : Stage) (number : Nat) : Nat :=
  if stage.operation.map Operation.number = some number then 1 else 0

def State.outstanding (state : State) (number : Nat) : Nat :=
  (state.stage .read).holds number + (state.stage .write).holds number

/-- The moves in a run from a new object to `moved` disturb no operation. -/
structure Undisturbed (start : State) (actions : List Action) (moved : State) : Prop where
  /-- Without them the run is possible too, makes the same callbacks with the same
  arguments and ends with the same object. -/
  sameResults : ∃ unmoved,
    Runs.exec step start (actions.filter Action.kept) = some unmoved ∧
      moved.callbacks = unmoved.callbacks ∧
      moved.disposed = unmoved.disposed ∧
      moved.fdOpen = unmoved.fdOpen ∧ moved.inScope = unmoved.inScope ∧
      moved.storage moved.owner = unmoved.storage unmoved.owner ∧
      ∀ number, moved.outstanding number = unmoved.outstanding number
  /-- An operation that is over was called back once, unless the object was destroyed
  before, and no operation is called back more often. -/
  once : ∀ number, number < moved.started →
    moved.calls number + moved.outstanding number ≤ 1 ∧
      (moved.inScope = true → moved.calls number + moved.outstanding number = 1)
  defined : moved.undefined = false
  onlyOwner : ∀ access, access ∈ moved.accesses → access.object = access.owner

def Operation.refersTo (operation : Operation) (var : Var) : Bool :=
  match operation.call with
  | .accept acceptor _ => acceptor = var
  | _ => true

/-- A reaction or completion that has succeeded so far, in scope, is not that of an
accept called on a variable that the acceptor has left since. -/
def current (state : State) : Action → Bool
  | .react direction _ =>
      match state.stage direction with
      | .harvested operation code =>
          code ≠ ec.OK || !state.inScope || operation.refersTo state.owner
      | _ => true
  | .complete direction =>
      match state.stage direction with
      | .queued operation outcome =>
          outcome.ec ≠ ec.OK || !state.inScope || operation.refersTo state.owner
      | _ => true
  | _ => true

def Current (state : State) (action : Action) : Prop := current state action = true

instance (state : State) (action : Action) : Decidable (Current state action) :=
  inferInstanceAs (Decidable (current state action = true))

/-! ### Inversion of the step function -/

inductive Moves (state : State) : Action → State → Prop where
  | bind (ep : IpEndpoint) (object : AsyncObject)
      (held : state.storage state.owner = some object) (acceptor : object.kind = .acceptor) :
      Moves state (.bind ep) (state.setObject state.owner { object with ep := ep })
  | start (request : Request) (armed : ErrorCode) (object : AsyncObject)
      (held : state.storage state.owner = some object)
      (may : mayStart state object request = true) :
      Moves state (.start request armed) (start state object request armed)
  | harvest (direction : Direction) (code : ErrorCode) (operation : Operation)
      (stage : state.stage direction = .armed operation) :
      Moves state (.harvest direction code)
        (state.setStage direction (.harvested operation code))
  | react (direction : Direction) (fin : Fin) (operation : Operation) (code : ErrorCode)
      (stage : state.stage direction = .harvested operation code) :
      Moves state (.react direction fin) (react state direction operation code fin)
  | forCompletion (direction : Direction) (operation : Operation) (outcome : Outcome)
      (stage : state.stage direction = .reacted operation outcome) :
      Moves state (.forCompletion direction)
        (state.setStage direction (.queued operation outcome))
  | complete (direction : Direction) (operation : Operation) (outcome : Outcome)
      (stage : state.stage direction = .queued operation outcome) :
      Moves state (.complete direction) (complete state direction operation outcome)
  | move (way : Way) (object : AsyncObject)
      (held : state.storage state.owner = some object) :
      Moves state (.move way) (move state way object)
  | destroyMoved (var : Var) (object : AsyncObject) (left : var ≠ state.owner)
      (held : state.storage var = some object) :
      Moves state (.destroyMoved var) (destroy state var object)
  | destroy (object : AsyncObject) (held : state.storage state.owner = some object) :
      Moves state .destroy (destroy state state.owner object)

theorem act_moves {state next : State} {action : Action}
    (acted : act state action = some next) : Moves state action next := by
  cases action with
  | bind ep =>
      simp only [act] at acted
      split at acted
      · cases acted
      · split at acted
        · cases acted
          exact .bind ep _ ‹_› ‹_›
        · cases acted
  | start request armed =>
      simp only [act] at acted
      split at acted
      · cases acted
      · split at acted
        · cases acted
          exact .start request armed _ ‹_› ‹_›
        · cases acted
  | harvest direction code =>
      simp only [act] at acted
      split at acted
      · cases acted
        exact .harvest direction code _ ‹_›
      · cases acted
  | react direction fin =>
      simp only [act] at acted
      split at acted
      · cases acted
        exact .react direction fin _ _ ‹_›
      · cases acted
  | forCompletion direction =>
      simp only [act] at acted
      split at acted
      · cases acted
        exact .forCompletion direction _ _ ‹_›
      · cases acted
  | complete direction =>
      simp only [act] at acted
      split at acted
      · cases acted
        exact .complete direction _ _ ‹_›
      · cases acted
  | move way =>
      obtain ⟨object, held, same⟩ := Option.map_eq_some_iff.mp acted
      cases same
      exact .move way object held
  | destroyMoved var =>
      simp only [act] at acted
      split at acted
      · cases acted
      · obtain ⟨object, held, same⟩ := Option.map_eq_some_iff.mp acted
        cases same
        exact .destroyMoved var object ‹_› held
  | destroy =>
      obtain ⟨object, held, same⟩ := Option.map_eq_some_iff.mp acted
      cases same
      exact .destroy object held

theorem step_some {state next : State} {action : Action}
    (stepped : step state action = some next) :
    state.undefined = false ∧ Moves state action next := by
  by_cases crashed : state.undefined = true
  · rw [step, if_pos crashed] at stepped
    cases stepped
  · rw [step, if_neg crashed] at stepped
    exact ⟨Bool.eq_false_iff.mpr crashed, act_moves stepped⟩

/-! ### What a reaction and a completion come to -/

theorem react_cases (property : State → Prop) {state : State} {direction : Direction}
    {operation : Operation} {code : ErrorCode} {fin : Fin}
    (called : code = ec.OK → state.inScope = true →
      property (callFin state direction operation fin))
    (skipped : ∀ outcome,
      property (state.setStage direction (.reacted operation outcome))) :
    property (react state direction operation code fin) := by
  unfold react
  split
  · exact skipped _
  · by_cases ok : code = ec.OK
    · by_cases inside : state.inScope = true
      · rw [if_pos ok, if_pos inside]
        exact called ok inside
      · rw [if_pos ok, if_neg inside]
        exact skipped _
    · rw [if_neg ok]
      exact skipped _

theorem complete_cases (property : State → Prop) {state : State} {direction : Direction}
    {operation : Operation} {outcome : Outcome}
    (delivered : ∀ acceptor peerStrand, operation.call = .accept acceptor peerStrand →
      outcome.ec = ec.OK → state.inScope = true →
      property (deliver (state.setStage direction .idle) operation.number acceptor
        peerStrand))
    (called : ∀ code bytes,
      property ((state.setStage direction .idle).call operation.number code bytes none))
    (dropped : state.inScope = false → property (state.setStage direction .idle)) :
    property (complete state direction operation outcome) := by
  by_cases inside : state.inScope = true
  · rw [complete, if_pos inside]
    split
    · rename_i acceptor peerStrand accepts
      by_cases ok : outcome.ec = ec.OK
      · rw [if_pos ok]
        exact delivered acceptor peerStrand accepts ok inside
      · rw [if_neg ok]
        exact called _ _
    · exact called _ _
    · exact called _ _
  · rw [complete, if_neg inside]
    exact dropped (Bool.eq_false_iff.mpr inside)

/-! ### What the condition says of one step -/

theorem current_react {state : State} {direction : Direction} {fin : Fin}
    {operation : Operation} {code : ErrorCode}
    (stage : state.stage direction = .harvested operation code)
    (here : Current state (.react direction fin)) :
    code = ec.OK → state.inScope = true → operation.refersTo state.owner = true := by
  intro ok inside
  simpa [Current, current, stage, ok, inside] using here

theorem current_complete {state : State} {direction : Direction} {operation : Operation}
    {outcome : Outcome} (stage : state.stage direction = .queued operation outcome)
    (here : Current state (.complete direction)) :
    outcome.ec = ec.OK → state.inScope = true → operation.refersTo state.owner = true := by
  intro ok inside
  simpa [Current, current, stage, ok, inside] using here

/-! ### The state had the object stayed -/

def Call.inPlace : Call → Call
  | .accept _ peerStrand => .accept 0 peerStrand
  | call => call

def Operation.inPlace (operation : Operation) : Operation :=
  { operation with call := operation.call.inPlace }

def Stage.inPlace : Stage → Stage
  | .idle => .idle
  | .armed operation => .armed operation.inPlace
  | .harvested operation code => .harvested operation.inPlace code
  | .reacted operation outcome => .reacted operation.inPlace outcome
  | .queued operation outcome => .queued operation.inPlace outcome

/-- The object is put back into the variable it was made in, together with every
reference that an accept holds. -/
def State.inPlace (state : State) : State :=
  { state with
    storage := fun var => if var = 0 then state.storage state.owner else none
    nextVar := 1
    owner := 0
    stage := fun direction => (state.stage direction).inPlace
    accesses := state.accesses.map fun access => ⟨access.member, 0, 0⟩ }

theorem inPlace_init (kind : Kind) (strand : StrandId) (fd : IoHandle) (ep : IpEndpoint) :
    (init kind strand fd ep).inPlace = init kind strand fd ep := by
  simp only [State.inPlace, init, Function.update_self, Stage.inPlace, List.map_nil,
    State.mk.injEq, and_true]
  funext var
  by_cases first : var = 0
  · subst var
    rw [if_pos rfl, Function.update_self]
  · rw [if_neg first, Function.update_of_ne first]

theorem inPlace_setObject (state : State) (object : AsyncObject) :
    (state.setObject state.owner object).inPlace = state.inPlace.setObject 0 object := by
  simp only [State.inPlace, State.setObject, Function.update_self, State.mk.injEq, and_true]
  funext var
  by_cases first : var = 0
  · subst var
    rw [if_pos rfl, Function.update_self]
  · rw [if_neg first, Function.update_of_ne first, if_neg first]

theorem inPlace_setStage (state : State) (direction : Direction) (stage : Stage) :
    (state.setStage direction stage).inPlace =
      state.inPlace.setStage direction stage.inPlace := by
  simp only [State.inPlace, State.setStage, State.mk.injEq, and_true, true_and]
  funext other
  by_cases same : other = direction
  · subst other
    rw [Function.update_self, Function.update_self]
  · rw [Function.update_of_ne same, Function.update_of_ne same]

theorem inPlace_access (state : State) (object : Var) (members : List Member) :
    (state.access object members).inPlace = state.inPlace.access 0 members := by
  simp only [State.inPlace, State.access, List.map_append, List.map_map, State.mk.injEq,
    and_true, true_and]
  rfl

@[simp] theorem inPlace_storage (state : State) :
    state.inPlace.storage 0 = state.storage state.owner := rfl

theorem operation_inPlace (stage : Stage) :
    stage.inPlace.operation = stage.operation.map Operation.inPlace := by
  cases stage <;> rfl

theorem holds_inPlace (stage : Stage) (number : Nat) :
    stage.inPlace.holds number = stage.holds number := by
  rw [Stage.holds, operation_inPlace, Option.map_map]
  rfl

theorem inPlace_outstanding (state : State) (number : Nat) :
    state.inPlace.outstanding number = state.outstanding number := by
  have same : ∀ direction, (state.inPlace.stage direction).holds number =
      (state.stage direction).holds number :=
    fun direction => holds_inPlace (state.stage direction) number
  rw [State.outstanding, same, same, State.outstanding]

/-! ### A step in place -/

theorem request_call_inPlace (request : Request) (this : Var) :
    (request.call this).inPlace = request.call 0 := by
  cases request <;> rfl

theorem start_inPlace (state : State) (object : AsyncObject) (request : Request)
    (armed : ErrorCode) :
    (start state object request armed).inPlace =
      start state.inPlace object request armed := by
  have stage : ∀ operation : Operation,
      (if armed = ec.OK then Stage.armed operation
        else .queued operation ⟨armed, 0⟩).inPlace =
      if armed = ec.OK then Stage.armed operation.inPlace
        else .queued operation.inPlace ⟨armed, 0⟩ := by
    intro operation
    by_cases ok : armed = ec.OK
    · rw [if_pos ok, if_pos ok]
      rfl
    · rw [if_neg ok, if_neg ok]
      rfl
  have stored : (store state object request).count.inPlace =
      (store state.inPlace object request).count := by
    cases request with
    | connect ep result =>
        exact congrArg State.count (inPlace_setObject state { object with ep := ep })
    | _ => rfl
  simp only [start, inPlace_setStage, stored, stage, Operation.inPlace,
    request_call_inPlace]
  rfl

theorem callFin_inPlace {state : State} {operation : Operation}
    (refers : operation.refersTo state.owner = true) (direction : Direction) (fin : Fin) :
    (callFin state direction operation fin).inPlace =
      callFin state.inPlace direction operation.inPlace fin := by
  obtain ⟨number, call⟩ := operation
  cases call with
  | accept acceptor peerStrand =>
      have here : acceptor = state.owner := of_decide_eq_true refers
      subst acceptor
      simp only [callFin, Operation.inPlace, Call.inPlace, inPlace_storage]
      cases state.storage state.owner with
      | none =>
          exact congrArg State.crash
            (inPlace_access state state.owner [.acceptorEp, .peerFd, .peerEp])
      | some object =>
          simp only [inPlace_setStage]
          rw [← inPlace_access state state.owner]
          exact congrArg (fun before : State => before.setStage direction _)
            (inPlace_setObject (state.access state.owner _) _)
  | _ => exact inPlace_setStage state direction _

theorem react_inPlace {state : State} {operation : Operation} {code : ErrorCode}
    (refers : code = ec.OK → state.inScope = true →
      operation.refersTo state.owner = true) (direction : Direction) (fin : Fin) :
    (react state direction operation code fin).inPlace =
      react state.inPlace direction operation.inPlace code fin := by
  have plain : ∀ outcome, (state.setStage direction (.reacted operation outcome)).inPlace =
      state.inPlace.setStage direction (.reacted operation.inPlace outcome) :=
    fun outcome => inPlace_setStage state direction _
  have other :
      (if code = ec.OK then
          if state.inScope = true then callFin state direction operation fin
          else state.setStage direction (.reacted operation ⟨ec.OK, 0⟩)
        else state.setStage direction (.reacted operation ⟨code, 0⟩)).inPlace =
      if code = ec.OK then
          if state.inScope = true then callFin state.inPlace direction operation.inPlace fin
          else state.inPlace.setStage direction (.reacted operation.inPlace ⟨ec.OK, 0⟩)
        else state.inPlace.setStage direction (.reacted operation.inPlace ⟨code, 0⟩) := by
    by_cases ok : code = ec.OK
    · by_cases inside : state.inScope = true
      · rw [if_pos ok, if_pos inside, if_pos ok, if_pos inside]
        exact callFin_inPlace (refers ok inside) direction fin
      · rw [if_pos ok, if_neg inside, if_pos ok, if_neg inside]
        exact plain _
    · rw [if_neg ok, if_neg ok]
      exact plain _
  obtain ⟨number, call⟩ := operation
  cases call with
  | connect result => exact plain _
  | _ => exact other

theorem deliver_inPlace (state : State) (number : Nat) (peerStrand : Option StrandId) :
    (deliver state number state.owner peerStrand).inPlace =
      deliver state.inPlace number 0 peerStrand := by
  simp only [deliver, inPlace_storage]
  cases state.storage state.owner with
  | none => exact congrArg State.crash (inPlace_access state state.owner _)
  | some object =>
      dsimp only
      cases peerStrand.or object.strandForUser with
      | none => exact congrArg State.crash (inPlace_access state state.owner _)
      | some strand =>
          exact congrArg (fun before : State => before.call number ec.OK 0 _)
            (inPlace_access state state.owner _)

theorem complete_inPlace {state : State} {operation : Operation} {outcome : Outcome}
    (refers : outcome.ec = ec.OK → state.inScope = true →
      operation.refersTo state.owner = true) (direction : Direction) :
    (complete state direction operation outcome).inPlace =
      complete state.inPlace direction operation.inPlace outcome := by
  have idle : (state.setStage direction .idle).inPlace =
      state.inPlace.setStage direction .idle := inPlace_setStage state direction .idle
  have inScope : state.inPlace.inScope = state.inScope := rfl
  obtain ⟨number, call⟩ := operation
  by_cases inside : state.inScope = true
  · cases call with
    | accept acceptor peerStrand =>
        simp only [complete, inScope, inside, if_true, Operation.inPlace, Call.inPlace]
        by_cases ok : outcome.ec = ec.OK
        · have here : acceptor = state.owner := of_decide_eq_true (refers ok inside)
          subst acceptor
          rw [if_pos ok, if_pos ok, ← idle]
          exact deliver_inPlace (state.setStage direction .idle) number peerStrand
        · rw [if_neg ok, if_neg ok]
          exact congrArg (fun before : State => before.call number _ _ _) idle
    | _ =>
        simp only [complete, inScope, inside, if_true, Operation.inPlace, Call.inPlace]
        exact congrArg (fun before : State => before.call number _ _ _) idle
  · simp only [complete, inScope, inside]
    exact idle

theorem destroy_inPlace (state : State) (object : AsyncObject) :
    (destroy state state.owner object).inPlace = destroy state.inPlace 0 object := by
  have gone : (fun var => if var = 0 then
        Function.update state.storage state.owner none state.owner else none) =
      Function.update state.inPlace.storage 0 none := by
    funext var
    by_cases first : var = 0
    · subst var
      rw [if_pos rfl, Function.update_self, Function.update_self]
    · rw [if_neg first, Function.update_of_ne first]
      exact (if_neg first).symm
  have inScope : state.inPlace.inScope = state.inScope := rfl
  by_cases disposes : (object.strand.isSome && state.inScope) = true
  · rw [destroy, if_pos disposes, destroy, inScope, if_pos disposes]
    simp only [State.inPlace, gone]
  · rw [destroy, if_neg disposes, destroy, inScope, if_neg disposes]
    simp only [State.inPlace, gone]

/-- A step that is neither a move nor the destructor of what a move left is the same
step of the object in place. -/
theorem step_inPlace {state next : State} {action : Action}
    (here : Current state action) (kept : action.kept = true)
    (stepped : step state action = some next) :
    step state.inPlace action = some next.inPlace := by
  obtain ⟨defined, moves⟩ := step_some stepped
  have runs : step state.inPlace action = act state.inPlace action := by
    rw [step, if_neg]
    exact Bool.eq_false_iff.mp defined
  rw [runs]
  cases moves with
  | bind ep object held acceptor =>
      have object' : state.inPlace.storage state.inPlace.owner = some object := held
      simp only [act, object', acceptor, if_true]
      exact congrArg some (inPlace_setObject state _).symm
  | start request armed object held may =>
      have object' : state.inPlace.storage state.inPlace.owner = some object := held
      have may' : mayStart state.inPlace object request = true := by
        simp only [mayStart, Bool.and_eq_true, decide_eq_true_eq] at may ⊢
        exact ⟨may.1, congrArg Stage.inPlace may.2⟩
      simp only [act, object', may', if_true]
      exact congrArg some (start_inPlace state object request armed).symm
  | harvest direction code operation stage =>
      have stage' : state.inPlace.stage direction = .armed operation.inPlace :=
        congrArg Stage.inPlace stage
      simp only [act, stage']
      exact congrArg some
        (inPlace_setStage state direction (.harvested operation code)).symm
  | react direction fin operation code stage =>
      have stage' : state.inPlace.stage direction = .harvested operation.inPlace code :=
        congrArg Stage.inPlace stage
      have refers := current_react stage here
      simp only [act, stage']
      exact congrArg some (react_inPlace refers direction fin).symm
  | forCompletion direction operation outcome stage =>
      have stage' : state.inPlace.stage direction = .reacted operation.inPlace outcome :=
        congrArg Stage.inPlace stage
      simp only [act, stage']
      exact congrArg some
        (inPlace_setStage state direction (.queued operation outcome)).symm
  | complete direction operation outcome stage =>
      have stage' : state.inPlace.stage direction = .queued operation.inPlace outcome :=
        congrArg Stage.inPlace stage
      have refers := current_complete stage here
      simp only [act, stage']
      exact congrArg some (complete_inPlace refers direction).symm
  | move way object held => cases kept
  | destroyMoved var object left held => cases kept
  | destroy object held =>
      have object' : state.inPlace.storage state.inPlace.owner = some object := held
      simp only [act, object', Option.map_some]
      exact congrArg some (destroy_inPlace state object).symm

/-! ### The invariant -/

structure Sound (state : State) : Prop where
  inside : state.inScope = true → ∃ object, state.storage state.owner = some object ∧
    object.strandForUser.isSome = true ∧ object.strand.isSome = true
  /-- The destructor of what a move left does nothing. -/
  left : ∀ var object, var ≠ state.owner → state.storage var = some object →
    object.strand = none
  defined : state.undefined = false
  onlyOwner : ∀ access, access ∈ state.accesses → access.object = access.owner
  atMost : ∀ number, state.calls number + state.outstanding number ≤
    if number < state.started then 1 else 0
  heard : state.inScope = true → ∀ number, number < state.started →
    state.calls number + state.outstanding number = 1

theorem holds_operation {stage : Stage} {operation : Operation}
    (held : stage.operation = some operation) (number : Nat) :
    stage.holds number = if operation.number = number then 1 else 0 := by
  simp only [Stage.holds, held, Option.map_some, Option.some_inj]

theorem outstanding_setStage (state : State) (direction : Direction) (stage : Stage)
    (number : Nat) :
    (state.setStage direction stage).outstanding number +
        (state.stage direction).holds number =
      state.outstanding number + stage.holds number := by
  cases direction with
  | read =>
      simp only [State.outstanding, State.setStage, Function.update_self, ne_eq,
        reduceCtorEq, not_false_eq_true, Function.update_of_ne]
      omega
  | write =>
      simp only [State.outstanding, State.setStage, Function.update_self, ne_eq,
        reduceCtorEq, not_false_eq_true, Function.update_of_ne]
      omega

theorem calls_call (state : State) (called : Nat) (code : ErrorCode) (bytes : Int)
    (peer : Option Peer) (number : Nat) :
    (state.call called code bytes peer).calls number =
      state.calls number + if called = number then 1 else 0 := by
  simp only [State.calls, State.call, List.countP_append, List.countP_singleton,
    decide_eq_true_eq]

theorem sound_init (kind : Kind) (strand : StrandId) (fd : IoHandle) (ep : IpEndpoint) :
    Sound (init kind strand fd ep) where
  inside := fun _ => ⟨_, rfl, rfl, rfl⟩
  left := by
    intro var object away held
    have other : var ≠ 0 := away
    change Function.update (fun _ => none) 0 _ var = _ at held
    rw [Function.update_of_ne other] at held
    cases held
  defined := rfl
  onlyOwner := fun access member => absurd member List.not_mem_nil
  atMost := fun number => Nat.zero_le _
  heard := fun _ number early => absurd early (Nat.not_lt_zero number)

namespace Sound

variable {state : State}

theorem setStage (sound : Sound state) {direction : Direction} {stage : Stage}
    (same : stage.operation = (state.stage direction).operation) :
    Sound (state.setStage direction stage) where
  inside := sound.inside
  left := sound.left
  defined := sound.defined
  onlyOwner := sound.onlyOwner
  atMost := by
    intro number
    have moved := outstanding_setStage state direction stage number
    rw [Stage.holds, Stage.holds, same] at moved
    have before := sound.atMost number
    change state.calls number + _ ≤ if number < state.started then 1 else 0
    omega
  heard := by
    intro inside number early
    have moved := outstanding_setStage state direction stage number
    rw [Stage.holds, Stage.holds, same] at moved
    have before := sound.heard inside number early
    change state.calls number + _ = 1
    omega

theorem setObject (sound : Sound state) {object next : AsyncObject}
    (held : state.storage state.owner = some object)
    (user : next.strandForUser = object.strandForUser)
    (strand : next.strand = object.strand) :
    Sound (state.setObject state.owner next) where
  inside := by
    intro inside
    obtain ⟨owned, found, owns⟩ := sound.inside inside
    rw [held] at found
    cases found
    rw [← user, ← strand] at owns
    exact ⟨next, Function.update_self .., owns⟩
  left := by
    intro var other away found
    have elsewhere : var ≠ state.owner := away
    change Function.update state.storage state.owner (some next) var = _ at found
    rw [Function.update_of_ne elsewhere] at found
    exact sound.left var other elsewhere found
  defined := sound.defined
  onlyOwner := sound.onlyOwner
  atMost := sound.atMost
  heard := sound.heard

theorem access (sound : Sound state) (members : List Member) :
    Sound (state.access state.owner members) where
  inside := sound.inside
  left := sound.left
  defined := sound.defined
  onlyOwner := by
    intro access member
    rcases List.mem_append.mp member with before | new
    · exact sound.onlyOwner access before
    · obtain ⟨name, _, made⟩ := List.mem_map.mp new
      rw [← made]
  atMost := sound.atMost
  heard := sound.heard

theorem begin (sound : Sound state) {direction : Direction} {stage : Stage}
    {operation : Operation} (idle : state.stage direction = .idle)
    (begun : stage.operation = some operation) (number : operation.number = state.started) :
    Sound (state.count.setStage direction stage) := by
  have account : ∀ other,
      (state.count.setStage direction stage).calls other +
          (state.count.setStage direction stage).outstanding other =
        state.calls other + state.outstanding other +
          if state.started = other then 1 else 0 := by
    intro other
    have moved := outstanding_setStage state.count direction stage other
    have none : (state.count.stage direction).holds other = 0 := by
      change (state.stage direction).holds other = 0
      rw [idle]
      rfl
    rw [none, holds_operation begun, number] at moved
    change state.calls other + _ = _
    change _ + 0 = state.outstanding other + _ at moved
    omega
  refine ⟨sound.inside, sound.left, sound.defined, sound.onlyOwner, ?_, ?_⟩
  · intro other
    rw [account other]
    have before := sound.atMost other
    change _ ≤ if other < state.started + 1 then 1 else 0
    by_cases new : state.started = other
    · rw [if_neg (by omega)] at before
      rw [if_pos new, if_pos (by omega)]
      omega
    · by_cases early : other < state.started
      · rw [if_pos early] at before
        rw [if_neg new, if_pos (by omega)]
        omega
      · rw [if_neg early] at before
        rw [if_neg new, if_neg (by omega)]
        omega
  · intro inside other early
    rw [account other]
    have soon : other < state.started + 1 := early
    by_cases new : state.started = other
    · have before := sound.atMost other
      rw [if_neg (by omega)] at before
      rw [if_pos new]
      omega
    · have before := sound.heard inside other (by omega)
      rw [if_neg new]
      omega

theorem finish (sound : Sound state) {direction : Direction} {operation : Operation}
    (held : (state.stage direction).operation = some operation) (code : ErrorCode)
    (bytes : Int) (peer : Option Peer) :
    Sound ((state.setStage direction .idle).call operation.number code bytes peer) := by
  have account : ∀ other,
      ((state.setStage direction .idle).call operation.number code bytes peer).calls other +
          (state.setStage direction .idle).outstanding other =
        state.calls other + state.outstanding other := by
    intro other
    have moved := outstanding_setStage state direction .idle other
    rw [holds_operation held] at moved
    rw [calls_call]
    change state.calls other + _ + _ = _
    change _ = state.outstanding other + 0 at moved
    omega
  refine ⟨sound.inside, sound.left, sound.defined, sound.onlyOwner, ?_, ?_⟩
  · intro other
    exact (account other).trans_le (sound.atMost other)
  · intro inside other early
    exact (account other).trans (sound.heard inside other early)

theorem drop (sound : Sound state) (out : state.inScope = false) (direction : Direction) :
    Sound (state.setStage direction .idle) := by
  refine ⟨sound.inside, sound.left, sound.defined, sound.onlyOwner, ?_, ?_⟩
  · intro number
    have moved := outstanding_setStage state direction .idle number
    have before := sound.atMost number
    change _ = state.outstanding number + 0 at moved
    change state.calls number + _ ≤ if number < state.started then 1 else 0
    omega
  · intro inside
    have stillInside : state.inScope = true := inside
    rw [out] at stillInside
    cases stillInside

theorem destroyMoved (sound : Sound state) {var : Var} {object : AsyncObject}
    (away : var ≠ state.owner) (held : state.storage var = some object) :
    destroy state var object =
      { state with storage := Function.update state.storage var none } := by
  have empty := sound.left var object away held
  rw [destroy, empty]
  rfl

theorem destroy_moved (sound : Sound state) {var : Var} {object : AsyncObject}
    (away : var ≠ state.owner) (held : state.storage var = some object) :
    Sound (destroy state var object) := by
  rw [sound.destroyMoved away held]
  refine ⟨?_, ?_, sound.defined, sound.onlyOwner, sound.atMost, sound.heard⟩
  · intro inside
    obtain ⟨owned, found, owns⟩ := sound.inside inside
    refine ⟨owned, ?_, owns⟩
    rw [← found]
    exact Function.update_of_ne away.symm ..
  · intro other left elsewhere found
    by_cases same : other = var
    · subst other
      simp at found
    · simp only [Function.update_of_ne same] at found
      exact sound.left other left elsewhere found

theorem destroy_owner (sound : Sound state) {object : AsyncObject}
    (held : state.storage state.owner = some object) :
    Sound (destroy state state.owner object) := by
  have left : ∀ var other, var ≠ state.owner →
      Function.update state.storage state.owner none var = some other →
        other.strand = none := by
    intro var other away found
    rw [Function.update_of_ne away] at found
    exact sound.left var other away found
  by_cases disposes : (object.strand.isSome && state.inScope) = true
  · rw [destroy, if_pos disposes]
    exact ⟨(fun inside => nomatch inside), left, sound.defined, sound.onlyOwner,
      sound.atMost, (fun inside => nomatch inside)⟩
  · rw [destroy, if_neg disposes]
    have out : state.inScope = false := by
      by_contra inside
      obtain ⟨owned, found, owns⟩ := sound.inside (by simpa using inside)
      rw [held] at found
      cases found
      simp [owns, inside] at disposes
    refine ⟨?_, left, sound.defined, sound.onlyOwner, sound.atMost, sound.heard⟩
    intro inside
    rw [out] at inside
    cases inside

theorem move (sound : Sound state) (way : Way) {object : AsyncObject}
    (held : state.storage state.owner = some object) :
    Sound (move state way object) := by
  refine ⟨?_, ?_, sound.defined, sound.onlyOwner, sound.atMost, sound.heard⟩
  · intro inside
    obtain ⟨owned, found, owns⟩ := sound.inside inside
    rw [held] at found
    cases found
    refine ⟨way.target object, Function.update_self .., ?_⟩
    cases way <;> exact owns
  · intro var other away found
    have elsewhere : var ≠ state.nextVar := away
    change Function.update (Function.update state.storage state.owner _) _ _ var = _ at found
    rw [Function.update_of_ne elsewhere] at found
    by_cases emptied : var = state.owner
    · subst var
      rw [Function.update_self] at found
      cases found
      rfl
    · rw [Function.update_of_ne emptied] at found
      exact sound.left var other emptied found

theorem start (sound : Sound state) {object : AsyncObject} {request : Request}
    (held : state.storage state.owner = some object)
    (may : mayStart state object request = true) (armed : ErrorCode) :
    Sound (start state object request armed) := by
  have idle : state.stage request.direction = .idle := by
    simp only [mayStart, Bool.and_eq_true, decide_eq_true_eq] at may
    exact may.2
  have stored : Sound (store state object request) ∧
      (store state object request).stage request.direction = .idle ∧
      (store state object request).started = state.started := by
    cases request with
    | connect ep result => exact ⟨sound.setObject held rfl rfl, idle, rfl⟩
    | _ => exact ⟨sound, idle, rfl⟩
  by_cases ok : armed = ec.OK
  · rw [MovedOperations.start, if_pos ok]
    exact stored.1.begin stored.2.1 rfl stored.2.2.symm
  · rw [MovedOperations.start, if_neg ok]
    exact stored.1.begin stored.2.1 rfl stored.2.2.symm

theorem callFin (sound : Sound state) {direction : Direction} {operation : Operation}
    {fin : Fin} (held : (state.stage direction).operation = some operation)
    (inside : state.inScope = true) (refers : operation.refersTo state.owner = true) :
    Sound (callFin state direction operation fin) := by
  obtain ⟨number, call⟩ := operation
  cases call with
  | accept acceptor peerStrand =>
      have here : acceptor = state.owner := of_decide_eq_true refers
      subst acceptor
      obtain ⟨object, found, owns⟩ := sound.inside inside
      simp only [MovedOperations.callFin, found]
      have read := sound.access [.acceptorEp, .peerFd, .peerEp]
      refine Sound.setStage ?_ held.symm
      exact read.setObject found rfl rfl
  | _ => exact sound.setStage held.symm

theorem react (sound : Sound state) {direction : Direction} {operation : Operation}
    {code : ErrorCode} {fin : Fin}
    (held : (state.stage direction).operation = some operation)
    (refers : code = ec.OK → state.inScope = true →
      operation.refersTo state.owner = true) :
    Sound (react state direction operation code fin) := by
  apply react_cases Sound
  · intro ok inside
    exact sound.callFin held inside (refers ok inside)
  · intro outcome
    exact sound.setStage held.symm

theorem deliver (sound : Sound state) {direction : Direction} {operation : Operation}
    (held : (state.stage direction).operation = some operation)
    (inside : state.inScope = true) (peerStrand : Option StrandId) :
    Sound (deliver (state.setStage direction .idle) operation.number state.owner
      peerStrand) := by
  obtain ⟨object, found, user, _⟩ := sound.inside inside
  obtain ⟨strand, chosen⟩ : ∃ strand, peerStrand.or object.strandForUser = some strand := by
    cases peerStrand with
    | none => exact Option.isSome_iff_exists.mp user
    | some strand => exact ⟨strand, rfl⟩
  have found' : (state.setStage direction .idle).storage state.owner = some object := found
  simp only [MovedOperations.deliver, found', chosen]
  exact (sound.access _).finish held _ _ _

theorem complete (sound : Sound state) {direction : Direction} {operation : Operation}
    {outcome : Outcome} (held : (state.stage direction).operation = some operation)
    (refers : outcome.ec = ec.OK → state.inScope = true →
      operation.refersTo state.owner = true) :
    Sound (complete state direction operation outcome) := by
  apply complete_cases Sound
  · intro acceptor peerStrand accepts ok inside
    have here := refers ok inside
    rw [Operation.refersTo, accepts] at here
    rw [of_decide_eq_true here]
    exact sound.deliver held inside peerStrand
  · intro code bytes
    exact sound.finish held code bytes none
  · intro out
    exact sound.drop out direction

end Sound

theorem sound_step {state next : State} {action : Action} (sound : Sound state)
    (here : Current state action) (stepped : step state action = some next) :
    Sound next := by
  cases (step_some stepped).2 with
  | bind ep object held acceptor => exact sound.setObject held rfl rfl
  | start request armed object held may => exact sound.start held may armed
  | harvest direction code operation stage =>
      exact sound.setStage (congrArg Stage.operation stage).symm
  | react direction fin operation code stage =>
      exact sound.react (congrArg Stage.operation stage) (current_react stage here)
  | forCompletion direction operation outcome stage =>
      exact sound.setStage (congrArg Stage.operation stage).symm
  | complete direction operation outcome stage =>
      exact sound.complete (congrArg Stage.operation stage) (current_complete stage here)
  | move way object held => exact sound.move way held
  | destroyMoved var object away held => exact sound.destroy_moved away held
  | destroy object held => exact sound.destroy_owner held

/-! ### Steps that are not seen in place -/

theorem target_eq (way : Way) (object : AsyncObject) : way.target object = object := by
  cases way <;> rfl

theorem move_inPlace (state : State) (way : Way) {object : AsyncObject}
    (held : state.storage state.owner = some object) :
    (move state way object).inPlace = state.inPlace := by
  have here : (move state way object).storage (move state way object).owner =
      state.storage state.owner := by
    change Function.update (Function.update state.storage state.owner (some object.moved))
      state.nextVar (some (way.target object)) state.nextVar = _
    rw [Function.update_self, target_eq, held]
  simp only [State.inPlace, here]
  rfl

theorem unseen_inPlace {state next : State} {action : Action} (sound : Sound state)
    (dropped : action.kept = false) (stepped : step state action = some next) :
    next.inPlace = state.inPlace := by
  cases (step_some stepped).2 with
  | move way object held => exact move_inPlace state way held
  | destroyMoved var object away held =>
      rw [sound.destroyMoved away held]
      simp only [State.inPlace, Function.update_of_ne away.symm]
  | _ => cases dropped

/-! ### What is accessed -/

theorem callFin_accesses {operation : Operation} {acceptor : Var}
    {peerStrand : Option StrandId} (accepts : operation.call = .accept acceptor peerStrand)
    (state : State) (direction : Direction) (fin : Fin) :
    (callFin state direction operation fin).accesses =
      (state.access acceptor [.acceptorEp, .peerFd, .peerEp]).accesses := by
  simp only [callFin, accepts]
  cases state.storage acceptor with
  | none => rfl
  | some object => rfl

theorem deliver_accesses (state : State) (number : Nat) (acceptor : Var)
    (peerStrand : Option StrandId) :
    (deliver state number acceptor peerStrand).accesses =
      (state.access acceptor (if peerStrand = none then [.strandForUser, .peerFd, .peerEp]
        else [.peerFd, .peerEp])).accesses := by
  simp only [deliver]
  cases state.storage acceptor with
  | none => rfl
  | some object =>
      dsimp only
      cases peerStrand.or object.strandForUser with
      | none => rfl
      | some strand => rfl

theorem callFin_grows (state : State) (direction : Direction) (operation : Operation)
    (fin : Fin) : state.accesses ⊆ (callFin state direction operation fin).accesses := by
  obtain ⟨number, call⟩ := operation
  cases call with
  | accept acceptor peerStrand =>
      rw [callFin_accesses rfl]
      exact List.subset_append_left _ _
  | _ => exact List.Subset.refl _

theorem react_grows (state : State) (direction : Direction) (operation : Operation)
    (code : ErrorCode) (fin : Fin) :
    state.accesses ⊆ (react state direction operation code fin).accesses := by
  apply react_cases fun next => state.accesses ⊆ next.accesses
  · intro _ok _inside
    exact callFin_grows state direction operation fin
  · intro outcome
    exact List.Subset.refl _

theorem complete_grows (state : State) (direction : Direction) (operation : Operation)
    (outcome : Outcome) :
    state.accesses ⊆ (complete state direction operation outcome).accesses := by
  apply complete_cases fun next => state.accesses ⊆ next.accesses
  · intro acceptor peerStrand _accepts _ok _inside
    rw [deliver_accesses]
    exact List.subset_append_left _ _
  · intro code bytes
    exact List.Subset.refl _
  · intro _out
    exact List.Subset.refl _

theorem destroy_accesses (state : State) (var : Var) (object : AsyncObject) :
    (destroy state var object).accesses = state.accesses := by
  unfold destroy
  split <;> rfl

theorem step_accesses {state next : State} {action : Action}
    (stepped : step state action = some next) : state.accesses ⊆ next.accesses := by
  cases (step_some stepped).2 with
  | react direction fin operation code stage =>
      exact react_grows state direction operation code fin
  | complete direction operation outcome stage =>
      exact complete_grows state direction operation outcome
  | start request armed object held may =>
      cases request <;> exact List.Subset.refl _
  | destroyMoved var object away held =>
      rw [destroy_accesses]
      exact List.Subset.refl _
  | destroy object held =>
      rw [destroy_accesses]
      exact List.Subset.refl _
  | _ => exact List.Subset.refl _

theorem run_accesses {state final : State} {actions : List Action}
    (executed : Runs.exec step state actions = some final) :
    state.accesses ⊆ final.accesses := by
  have grown : ∀ before action after, state.accesses ⊆ before.accesses →
      step before action = some after → state.accesses ⊆ after.accesses := by
    intro before action after earlier stepped
    exact List.Subset.trans earlier (step_accesses stepped)
  exact Runs.exec_invariant grown (List.Subset.refl state.accesses) executed

theorem refersTo_false {operation : Operation} {owner : Var}
    (stray : operation.refersTo owner = false) :
    ∃ acceptor peerStrand, operation.call = .accept acceptor peerStrand ∧
      acceptor ≠ owner := by
  obtain ⟨number, call⟩ := operation
  cases call with
  | accept acceptor peerStrand =>
      exact ⟨acceptor, peerStrand, rfl, of_decide_eq_false stray⟩
  | _ => cases stray

/-- A step that does not meet the condition touches a variable the object has left. -/
theorem stray_access {state next : State} {action : Action}
    (stray : ¬ Current state action) (stepped : step state action = some next) :
    ∃ access, access ∈ next.accesses ∧ access.object ≠ access.owner := by
  cases (step_some stepped).2 with
  | react direction fin operation code stage =>
      simp only [Current, current, stage, Bool.or_eq_true, not_or, Bool.not_eq_true,
        decide_eq_false_iff_not, not_not, Bool.not_eq_false'] at stray
      obtain ⟨⟨ok, inside⟩, refers⟩ := stray
      obtain ⟨acceptor, peerStrand, accepts, elsewhere⟩ := refersTo_false refers
      refine ⟨⟨.acceptorEp, acceptor, state.owner⟩, ?_, elsewhere⟩
      simp only [react, accepts, if_pos ok, if_pos inside, callFin_accesses accepts]
      exact List.mem_append_right _ List.mem_cons_self
  | complete direction operation outcome stage =>
      simp only [Current, current, stage, Bool.or_eq_true, not_or, Bool.not_eq_true,
        decide_eq_false_iff_not, not_not, Bool.not_eq_false'] at stray
      obtain ⟨⟨ok, inside⟩, refers⟩ := stray
      obtain ⟨acceptor, peerStrand, accepts, elsewhere⟩ := refersTo_false refers
      refine ⟨⟨.peerFd, acceptor, state.owner⟩, ?_, elsewhere⟩
      simp only [complete, accepts, if_pos ok, if_pos inside, deliver_accesses]
      cases peerStrand with
      | none => simp [State.access, State.setStage]
      | some strand => simp [State.access, State.setStage]
  | _ => exact absurd rfl stray

theorem stepsMeet_of_onlyOwner {state final : State} {actions : List Action}
    (executed : Runs.exec step state actions = some final)
    (clean : ∀ access, access ∈ final.accesses → access.object = access.owner) :
    Runs.StepsMeet step Current state actions := by
  induction actions generalizing state with
  | nil => trivial
  | cons action rest ih =>
      obtain ⟨next, stepped, later⟩ := Runs.exec_cons_eq_some.mp executed
      refine ⟨?_, ?_⟩
      · by_contra stray
        obtain ⟨access, member, elsewhere⟩ := stray_access stray stepped
        exact elsewhere (clean access (run_accesses later member))
      · intro other same
        rw [stepped] at same
        cases same
        exact ih later

/-! ### Whole runs -/

theorem undisturbed_of_current {start moved : State} {actions : List Action}
    (sound : Sound start) (fresh : start.inPlace = start)
    (meets : Runs.StepsMeet step Current start actions)
    (executed : Runs.exec step start actions = some moved) :
    Undisturbed start actions moved := by
  have soundStates : Runs.StatesMeet step Sound start actions :=
    Runs.statesMeet_of_preserved
      (fun _ _ _ holds here stepped => sound_step holds here stepped) sound meets
  have ending := soundStates.final executed
  have unmoved : Runs.exec step start (actions.filter Action.kept) = some moved.inPlace := by
    rw [← fresh]
    refine Runs.exec_filter ?_ ?_ ((soundStates.stepsMeet fun _ _ holds => holds).and meets)
      executed
    · intro state action next holds dropped stepped
      exact unseen_inPlace holds.1 dropped stepped
    · intro state action next holds kept stepped
      exact step_inPlace holds.2 kept stepped
  refine ⟨⟨moved.inPlace, unmoved, rfl, rfl, rfl, rfl, rfl, ?_⟩, ?_, ending.defined,
    ending.onlyOwner⟩
  · intro number
    exact (inPlace_outstanding moved number).symm
  · intro number early
    have most := ending.atMost number
    rw [if_pos early] at most
    exact ⟨most, fun inside => ending.heard inside number early⟩

/-- The moves of an object disturb none of its operations exactly where no accept
succeeds on a variable that the acceptor has left. -/
theorem undisturbed_iff_current (kind : Kind) (strand : StrandId) (fd : IoHandle)
    (ep : IpEndpoint) {actions : List Action} {moved : State}
    (executed : Runs.exec step (init kind strand fd ep) actions = some moved) :
    Undisturbed (init kind strand fd ep) actions moved ↔
      Runs.StepsMeet step Current (init kind strand fd ep) actions := by
  constructor
  · intro undisturbed
    exact stepsMeet_of_onlyOwner executed undisturbed.onlyOwner
  · intro meets
    exact undisturbed_of_current (sound_init kind strand fd ep)
      (inPlace_init kind strand fd ep) meets executed

/-- Another process connects to an acceptor whose `accept` is outstanding while it is
moved. -/
def movedAccept : List Action :=
  [.start (.accept none) ec.OK, .move .construct, .harvest .read ec.OK,
    .react .read fun _ _ => ⟨ec.OK, 0, 7, noEndpoint⟩, .forCompletion .read,
    .complete .read]

/-- The file is accepted into the old variable, whose `_strand_for_user` is null. -/
theorem movedAccept_disturbed :
    ∃ moved, Runs.exec step (init .acceptor 0 5 noEndpoint) movedAccept = some moved ∧
      ¬ Undisturbed (init .acceptor 0 5 noEndpoint) movedAccept moved := by
  refine ⟨_, rfl, ?_⟩
  intro undisturbed
  exact absurd undisturbed.defined (by decide)

/-- An accept that is reported an error survives the move, and the next one, called on
the new variable, delivers its peer. -/
def refusedAccept : List Action :=
  [.start (.accept none) ec.OK, .move .assign, .destroyMoved 0, .harvest .read 16,
    .react .read fun _ _ => ⟨ec.OK, 0, 7, noEndpoint⟩, .forCompletion .read,
    .complete .read, .start (.accept none) ec.OK, .harvest .read ec.OK,
    .react .read fun _ _ => ⟨ec.OK, 0, 9, noEndpoint⟩, .forCompletion .read,
    .complete .read]

theorem refusedAccept_undisturbed :
    ∃ moved, Runs.exec step (init .acceptor 0 5 noEndpoint) refusedAccept = some moved ∧
      Undisturbed (init .acceptor 0 5 noEndpoint) refusedAccept moved ∧
      moved.callbacks = [⟨0, 16, 0, none⟩, ⟨1, ec.OK, 0, some ⟨0, 9, noEndpoint⟩⟩] := by
  refine ⟨_, rfl, ?_, ?_⟩
  · exact (undisturbed_iff_current .acceptor 0 5 noEndpoint rfl).mpr (by decide +kernel)
  · decide +kernel

/-! ### The classes whose operations hold the event alone -/

/-- No operation of the object refers to a variable. -/
structure Detached (kind : Kind) (state : State) : Prop where
  kinds : ∀ var object, state.storage var = some object → object.kind = kind
  detached : ∀ direction operation, (state.stage direction).operation = some operation →
    ∀ var, operation.refersTo var = true

namespace Detached

variable {kind : Kind} {state : State}

theorem setStage (holds : Detached kind state) {direction : Direction} {stage : Stage}
    (detached : ∀ operation, stage.operation = some operation →
      ∀ var, operation.refersTo var = true) :
    Detached kind (state.setStage direction stage) where
  kinds := holds.kinds
  detached := by
    intro other operation held
    by_cases same : other = direction
    · subst other
      simp only [State.setStage, Function.update_self] at held
      exact detached operation held
    · simp only [State.setStage, Function.update_of_ne same] at held
      exact holds.detached other operation held

theorem setObject (holds : Detached kind state) {object : AsyncObject}
    (same : object.kind = kind) (var : Var) :
    Detached kind (state.setObject var object) where
  kinds := by
    intro other found held
    by_cases here : other = var
    · subst other
      simp only [State.setObject, Function.update_self, Option.some_inj] at held
      rw [← held]
      exact same
    · simp only [State.setObject, Function.update_of_ne here] at held
      exact holds.kinds other found held
  detached := holds.detached

theorem start (holds : Detached kind state) (other : kind ≠ .acceptor)
    {object : AsyncObject} {request : Request}
    (held : state.storage state.owner = some object)
    (may : mayStart state object request = true) (armed : ErrorCode) :
    Detached kind (start state object request armed) := by
  have called : request.kind = kind := by
    simp only [mayStart, Bool.and_eq_true, decide_eq_true_eq] at may
    rw [← may.1.1.1]
    exact holds.kinds state.owner object held
  have plain : ∀ number var,
      ({ number := number, call := request.call state.owner } : Operation).refersTo var =
        true := by
    intro number var
    cases request with
    | accept peerStrand => exact absurd called.symm other
    | _ => rfl
  have stored : Detached kind (store state object request) := by
    cases request with
    | connect ep result =>
        refine holds.setObject ?_ state.owner
        exact holds.kinds state.owner object held
    | _ => exact holds
  have counted : Detached kind (store state object request).count :=
    ⟨stored.kinds, stored.detached⟩
  apply counted.setStage
  intro operation begun var
  by_cases ok : armed = ec.OK
  · rw [if_pos ok] at begun
    cases begun
    exact plain _ var
  · rw [if_neg ok] at begun
    cases begun
    exact plain _ var

theorem not_accept (holds : Detached kind state) {direction : Direction}
    {operation : Operation} (held : (state.stage direction).operation = some operation)
    (acceptor : Var) (peerStrand : Option StrandId) :
    operation.call ≠ .accept acceptor peerStrand := by
  intro accepts
  have refers := holds.detached direction operation held (acceptor + 1)
  rw [Operation.refersTo, accepts] at refers
  have both : acceptor = acceptor + 1 := of_decide_eq_true refers
  exact absurd both.symm (Nat.succ_ne_self acceptor)

theorem react (holds : Detached kind state) {direction : Direction} {operation : Operation}
    (held : (state.stage direction).operation = some operation) (code : ErrorCode)
    (fin : Fin) : Detached kind (react state direction operation code fin) := by
  have reacted : ∀ outcome,
      Detached kind (state.setStage direction (.reacted operation outcome)) := by
    intro outcome
    apply holds.setStage
    intro same found
    cases found
    exact holds.detached direction operation held
  apply react_cases (Detached kind)
  · intro _ok _inside
    have other := holds.not_accept held
    obtain ⟨number, call⟩ := operation
    cases call with
    | accept acceptor peerStrand => exact absurd rfl (other acceptor peerStrand)
    | _ => exact reacted _
  · exact reacted

theorem complete (holds : Detached kind state) {direction : Direction}
    {operation : Operation} (held : (state.stage direction).operation = some operation)
    (outcome : Outcome) : Detached kind (complete state direction operation outcome) := by
  have idle : Detached kind (state.setStage direction .idle) :=
    holds.setStage fun _ impossible => nomatch impossible
  apply complete_cases (Detached kind)
  · intro acceptor peerStrand accepts _ok _inside
    exact absurd accepts (holds.not_accept held acceptor peerStrand)
  · intro code bytes
    exact ⟨idle.kinds, idle.detached⟩
  · intro _out
    exact idle

theorem destroy (holds : Detached kind state) (var : Var) (object : AsyncObject) :
    Detached kind (destroy state var object) := by
  have kinds : ∀ other found,
      Function.update state.storage var none other = some found → found.kind = kind := by
    intro other found held
    by_cases same : other = var
    · subst other
      simp at held
    · rw [Function.update_of_ne same] at held
      exact holds.kinds other found held
  unfold MovedOperations.destroy
  split
  · exact ⟨kinds, holds.detached⟩
  · exact ⟨kinds, holds.detached⟩

theorem current (holds : Detached kind state) (action : Action) : Current state action := by
  unfold Current MovedOperations.current
  split
  · split
    · rename_i stage
      rw [holds.detached _ _ (congrArg Stage.operation stage) state.owner, Bool.or_true]
    · rfl
  · split
    · rename_i stage
      rw [holds.detached _ _ (congrArg Stage.operation stage) state.owner, Bool.or_true]
    · rfl
  · rfl

end Detached

theorem detached_init (kind : Kind) (strand : StrandId) (fd : IoHandle) (ep : IpEndpoint) :
    Detached kind (init kind strand fd ep) where
  kinds := by
    intro var object held
    by_cases first : var = 0
    · subst var
      cases held
      rfl
    · simp [init, first] at held
  detached := fun _ _ impossible => nomatch impossible

theorem detached_step {kind : Kind} (other : kind ≠ .acceptor) {state next : State}
    {action : Action} (holds : Detached kind state)
    (stepped : step state action = some next) : Detached kind next := by
  have same : ∀ direction stage, stage.operation = (state.stage direction).operation →
      Detached kind (state.setStage direction stage) := by
    intro direction stage same
    apply holds.setStage
    intro operation held
    rw [same] at held
    exact holds.detached direction operation held
  cases (step_some stepped).2 with
  | bind ep object held acceptor =>
      refine holds.setObject ?_ state.owner
      exact holds.kinds state.owner object held
  | start request armed object held may => exact holds.start other held may armed
  | harvest direction code operation stage =>
      exact same direction _ (congrArg Stage.operation stage).symm
  | react direction fin operation code stage =>
      exact holds.react (congrArg Stage.operation stage) code fin
  | forCompletion direction operation outcome stage =>
      exact same direction _ (congrArg Stage.operation stage).symm
  | complete direction operation outcome stage =>
      exact holds.complete (congrArg Stage.operation stage) outcome
  | move way object held =>
      have kept := holds.kinds state.owner object held
      have left : Detached kind (state.setObject state.owner object.moved) := by
        refine holds.setObject ?_ state.owner
        exact kept
      have given : Detached kind
          ((state.setObject state.owner object.moved).setObject state.nextVar
            (way.target object)) := by
        rw [target_eq]
        exact left.setObject kept state.nextVar
      exact ⟨given.kinds, given.detached⟩
  | destroyMoved var object away held => exact holds.destroy var object
  | destroy object held => exact holds.destroy state.owner object

/-- A timer, a connector and a socket can be moved at any point. -/
theorem undisturbed_of_detached {kind : Kind} (other : kind ≠ .acceptor)
    (strand : StrandId) (fd : IoHandle) (ep : IpEndpoint) {actions : List Action}
    {moved : State}
    (executed : Runs.exec step (init kind strand fd ep) actions = some moved) :
    Undisturbed (init kind strand fd ep) actions moved := by
  have preserved : ∀ state action next, Detached kind state →
      step state action = some next → Detached kind next :=
    fun _ _ _ holds stepped => detached_step other holds stepped
  have detached := Runs.statesMeet_of_invariant preserved actions
    (detached_init kind strand fd ep)
  have meets : Runs.StepsMeet step Current (init kind strand fd ep) actions := by
    apply detached.stepsMeet
    intro state action holds
    exact holds.current action
  exact undisturbed_of_current (sound_init kind strand fd ep)
    (inPlace_init kind strand fd ep) meets executed

end BabaIo.MovedOperations
