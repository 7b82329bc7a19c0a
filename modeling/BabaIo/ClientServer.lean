import BabaIo.Connection

/-
The client and the server that exchange requests and replies over one connection.

The client's `active_socket` sends, receives, and sends again until enough requests are
completed; the server's `peer_socket` receives and sends for ever.  Each callback starts the
next operation or lets the last reference to its object go, and with it the socket.  What
the callbacks do is decided here; everything between two callbacks is that of
`BabaIo.Connection`.
-/

set_option autoImplicit false

namespace BabaIo.ClientServer

open Connection (Side)
open Descriptor (StrandId)

inductive Phase where
  | idle
  | sending
  | receiving
  | ended
  deriving DecidableEq, Repr

def Phase.waits : Phase → Option Direction
  | .sending => some .write
  | .receiving => some .read
  | _ => none

structure State where
  connection : Connection.State
  phase : Side → Phase
  /-- `_num_completed_requests` of the client. -/
  completed : Nat
  /-- `_completed_request_limit` of the client. -/
  limit : Nat

def getCompletedRequestLimit (random maxRequestLimit : Nat) : Nat :=
  random % maxRequestLimit + 1

def text (characters : String) : List UInt8 :=
  characters.toList.map fun character => character.toNat.toUInt8

def message : Side → List UInt8
  | .client => text "Hello from client!"
  | .server => text "Hello from server!"

def recvBufferSize : Nat := 100

def init (strand : Side → StrandId) (random maxRequestLimit : Nat) : State :=
  { connection := Connection.init strand
    phase := fun _ => .idle
    completed := 0
    limit := getCompletedRequestLimit random maxRequestLimit }

/-- The connection makes a step, and `side` waits for what `phase` says. -/
def State.proceed (state : State) (side : Side) (phase : Phase)
    (action : Connection.Action) : Option State :=
  (Connection.step state.connection action).map fun connection =>
    { state with
      connection := connection
      phase := Function.update state.phase side phase }

def doSend (state : State) (side : Side) (result : ErrorCode) : Option State :=
  state.proceed side .sending (.send side (message side) result)

def doRecv (state : State) (side : Side) (result : ErrorCode) : Option State :=
  state.proceed side .receiving (.recv side recvBufferSize result)

def destroy (state : State) (side : Side) : Option State :=
  state.proceed side .ended (.shutdown side)

def State.shouldStop (state : State) : Bool := state.limit ≤ state.completed

def onRecv (state : State) (code result : ErrorCode) : Option State :=
  let counted := { state with completed := state.completed + 1 }
  if code = ec.OK then
    if counted.shouldStop then destroy counted .client
    else doSend counted .client result
  else destroy counted .client

/-- `active_socket::on_send`, and the callback of send of `peer_socket`. -/
def onSend (state : State) (side : Side) (code result : ErrorCode) : Option State :=
  if code = ec.OK then doRecv state side result else destroy state side

def onRequest (state : State) (code result : ErrorCode) : Option State :=
  if code = ec.OK then doSend state .server result else destroy state .server

def onCallback (state : State) (side : Side) (direction : Direction)
    (code result : ErrorCode) : Option State :=
  match direction, side with
  | .write, side => onSend state side code result
  | .read, .client => onRecv state code result
  | .read, .server => onRequest state code result

def nextCallback (descriptor : Descriptor.State) (strand : StrandId) :
    Option (Direction × ErrorCode) :=
  match descriptor.strandQueue strand with
  | [] => none
  | direction :: _ => (descriptor.event direction).complete.map fun completion =>
      (direction, (Descriptor.callbackArguments (Descriptor.streamKind direction)
        completion.ec completion.bytes).1)

inductive Action where
  /-- `on_connect` of the client, `start` of the server. -/
  | start (side : Side) (result : ErrorCode)
  | arrive (side : Side) (count : Nat)
  | arriveEnd (side : Side)
  | harvest (side : Side) (events : Events)
  | handle (side : Side) (result : ErrorCode)
  | runTask (side : Side) (index : Nat) (system : Except Errno Nat)
  /-- A task of a strand, with the result of `epoll_impl::arm` should its callback start
  an operation. -/
  | strandStep (side : Side) (strand : StrandId) (result : ErrorCode)

def State.lift (state : State) (action : Connection.Action) : Option State :=
  (Connection.step state.connection action).map fun connection =>
    { state with connection := connection }

def State.own (state : State) (side : Side) (action : Connection.Action) : Option State :=
  if state.phase side = .ended then none else state.lift action

def strandStep (state : State) (side : Side) (strand : StrandId) (result : ErrorCode) :
    Option State :=
  (state.own side (.strandStep side strand)).bind fun next =>
    match nextCallback (state.connection.endpoint side).receive.descriptor strand with
    | none => some next
    | some (direction, code) => onCallback next side direction code result

def step (state : State) : Action → Option State
  | .start side result =>
      if state.phase side = .idle then
        match side with
        | .client => doSend state .client result
        | .server => doRecv state .server result
      else none
  | .arrive side count => state.lift (.arrive side count)
  | .arriveEnd side => state.lift (.arriveEnd side)
  | .harvest side events => state.own side (.harvest side events)
  | .handle side result => state.own side (.handle side result)
  | .runTask side index system => state.own side (.runTask side index system)
  | .strandStep side strand result => strandStep state side strand result

/-! ### One operation at a time -/

abbrev descriptor (connection : Connection.State) (side : Side) : Descriptor.State :=
  (connection.endpoint side).receive.descriptor

/-- Each end has one operation outstanding at most, which is the one it waits for, every
operation that a callback starts is accepted, and the client never overshoots. -/
structure HalfDuplex (state : State) : Prop where
  outstanding : ∀ side direction,
    (descriptor state.connection side).outstanding direction = none ↔
      (state.phase side).waits ≠ some direction
  accepted : ∀ side strand result, ReceiveStream.armResult result = true →
    (state.own side (.strandStep side strand)).isSome = true →
      (step state (.strandStep side strand result)).isSome = true
  bounded : state.completed ≤ state.limit

structure Duty (descriptor : Descriptor.State) (phase : Phase) : Prop where
  present : ∀ direction, descriptor.present direction = true
  outstanding : ∀ direction,
    descriptor.outstanding direction = none ↔ phase.waits ≠ some direction

structure Kept (state : State) : Prop where
  linked : Connection.Linked state.connection
  duty : ∀ side, Duty (descriptor state.connection side) (state.phase side)
  bounded : state.completed ≤ state.limit
  running : state.phase .client ≠ .ended → state.completed < state.limit

theorem kept_init (strand : Side → StrandId) (random maxRequestLimit : Nat) :
    Kept (init strand random maxRequestLimit) := by
  constructor
  · exact Connection.linked_init strand
  · intro side
    refine ⟨fun _ => rfl, ?_⟩
    intro direction
    exact iff_of_true rfl (by intro impossible; cases impossible)
  · exact Nat.zero_le _
  · intro _running
    exact Nat.succ_pos _

/-! ### What a step does to the outstanding operations -/

section Descriptors

variable {before after : ReceiveStream.State}

def starts : ReceiveStream.Action → Option (Direction × ErrorCode)
  | .recv _ result => some (.read, result)
  | .send result => some (.write, result)
  | _ => none

theorem receive_starts {action : ReceiveStream.Action} {direction : Direction}
    {result : ErrorCode} (begins : starts action = some (direction, result))
    (stepped : ReceiveStream.step before action = some after) :
    after.descriptor = Descriptor.initiate before.descriptor direction result ∧
      after.socket = before.socket := by
  cases action with
  | recv size armed =>
      cases begins
      obtain ⟨_, descriptor, initiated, rfl⟩ := ReceiveStream.step_recv.mp stepped
      obtain ⟨_, _, _, rfl⟩ := Descriptor.step_initiate.mp initiated
      exact ⟨rfl, rfl⟩
  | send armed =>
      cases begins
      obtain ⟨_, descriptor, initiated, rfl⟩ := ReceiveStream.step_send.mp stepped
      obtain ⟨_, _, _, rfl⟩ := Descriptor.step_initiate.mp initiated
      exact ⟨rfl, rfl⟩
  | write bytes => cases begins
  | closePeer => cases begins
  | harvest events => cases begins
  | handle armed => cases begins
  | runTask index sent => cases begins
  | strandStep strand => cases begins

def arms : ReceiveStream.Action → Bool
  | .recv _ result => result = ec.OK
  | .send result => result = ec.OK
  | .handle result => result = ec.OK
  | _ => true

/-- An action of an end is one of its descriptor, or leaves the descriptor alone. -/
theorem descriptor_step {action : ReceiveStream.Action}
    (stepped : ReceiveStream.step before action = some after) :
    after.descriptor = before.descriptor ∨
      ∃ own, Descriptor.step before.descriptor own = some after.descriptor ∧
        (arms action = true → Descriptor.armSucceeds before.descriptor own = true) := by
  cases action with
  | write bytes =>
      obtain ⟨_, rfl⟩ := ReceiveStream.step_write.mp stepped
      exact Or.inl rfl
  | closePeer =>
      cases stepped
      exact Or.inl rfl
  | runTask index sent =>
      right
      have running := (ReceiveStream.step_runTask.mp stepped).1
      obtain ⟨task, fin, found, _, ran⟩ := Connection.descriptor_runTask stepped
      refine ⟨.runTask index fin, ?_, fun _ => rfl⟩
      exact Descriptor.step_runTask.mpr ⟨running, task, found, ran.symm⟩
  | strandStep strand =>
      obtain ⟨descriptor, moved, rfl⟩ := Option.map_eq_some_iff.mp stepped
      exact Or.inr ⟨_, moved, fun _ => rfl⟩
  | recv size result =>
      obtain ⟨_, descriptor, moved, rfl⟩ := ReceiveStream.step_recv.mp stepped
      exact Or.inr ⟨_, moved, fun succeeds => succeeds⟩
  | send result =>
      obtain ⟨_, descriptor, moved, rfl⟩ := ReceiveStream.step_send.mp stepped
      exact Or.inr ⟨_, moved, fun succeeds => succeeds⟩
  | harvest events =>
      obtain ⟨_, descriptor, moved, rfl⟩ := ReceiveStream.step_harvest.mp stepped
      exact Or.inr ⟨_, moved, fun _ => rfl⟩
  | handle result =>
      obtain ⟨_, descriptor, moved, rfl⟩ := ReceiveStream.step_handle.mp stepped
      refine Or.inr ⟨_, moved, ?_⟩
      intro succeeds
      obtain rfl : result = ec.OK := of_decide_eq_true succeeds
      unfold Descriptor.armSucceeds rearmFails
      cases before.descriptor.report <;> simp

theorem present_receive {action : ReceiveStream.Action}
    (stepped : ReceiveStream.step before action = some after) :
    after.descriptor.present = before.descriptor.present := by
  rcases descriptor_step stepped with same | ⟨own, moved, _⟩
  · rw [same]
  · exact Descriptor.present_step moved

/-- Actions that neither start an operation nor run a callback. -/
def quiet : ReceiveStream.Action → Bool
  | .recv _ _ => false
  | .send _ => false
  | .strandStep _ => false
  | _ => true

theorem outstanding_quiet {action : ReceiveStream.Action} (still : quiet action = true)
    (stepped : ReceiveStream.step before action = some after) :
    after.descriptor.outstanding = before.descriptor.outstanding := by
  cases action with
  | recv size result => cases still
  | send result => cases still
  | strandStep strand => cases still
  | write bytes =>
      obtain ⟨_, rfl⟩ := ReceiveStream.step_write.mp stepped
      rfl
  | closePeer =>
      cases stepped
      rfl
  | harvest events =>
      obtain ⟨_, descriptor, moved, rfl⟩ := ReceiveStream.step_harvest.mp stepped
      obtain ⟨_, _, _, rfl⟩ := Descriptor.step_harvest.mp moved
      rfl
  | handle result =>
      obtain ⟨_, descriptor, moved, rfl⟩ := ReceiveStream.step_handle.mp stepped
      obtain ⟨_, events, _, rfl⟩ := Descriptor.step_handle.mp moved
      exact (Descriptor.handle_frame before.descriptor events result).1
  | runTask index sent =>
      obtain ⟨_, task, _, rfl⟩ := ReceiveStream.step_runTask.mp stepped
      unfold ReceiveStream.runTask Descriptor.runTask
      split <;> split <;> rfl

theorem outstanding_initiate (descriptor : Descriptor.State) (direction : Direction)
    (result : ErrorCode) :
    (Descriptor.initiate descriptor direction result).outstanding =
      Function.update descriptor.outstanding direction
        (some descriptor.initiated.length) := by
  unfold Descriptor.initiate Descriptor.arm
  split <;> rfl

theorem duty_initiate {descriptor : Descriptor.State} {direction : Direction}
    {phase : Phase} {result : ErrorCode} (present : ∀ other, descriptor.present other = true)
    (free : ∀ other, descriptor.outstanding other = none)
    (waits : phase.waits = some direction) :
    Duty (Descriptor.initiate descriptor direction result) phase := by
  constructor
  · intro other
    have kept : (Descriptor.initiate descriptor direction result).present =
        descriptor.present := by
      unfold Descriptor.initiate Descriptor.arm
      split <;> rfl
    rw [kept]
    exact present other
  · intro other
    rw [outstanding_initiate, waits]
    by_cases same : other = direction
    · subst other
      simp
    · simp [same, free other, Ne.symm same]

/-- The callback that a strand task makes was the end's outstanding operation. -/
theorem callback_receive {strand : StrandId} {direction : Direction} {code : ErrorCode}
    (called : nextCallback before.descriptor strand = some (direction, code))
    (stepped : ReceiveStream.step before (.strandStep strand) = some after) :
    ∃ completion rest, before.descriptor.strandQueue strand = direction :: rest ∧
      (before.descriptor.event direction).complete = some completion ∧
      code = (Descriptor.callbackArguments (Descriptor.streamKind direction)
        completion.ec completion.bytes).1 ∧
      before.descriptor.terminated = false ∧
      after = { before with
        descriptor := Descriptor.runComplete before.descriptor strand direction rest
        delivered := before.delivered ++ ReceiveStream.callbackBytes before strand } := by
  obtain ⟨descriptor, moved, rfl⟩ := Option.map_eq_some_iff.mp stepped
  obtain ⟨running, other, rest, queued, rfl⟩ := Descriptor.step_strandStep.mp moved
  unfold nextCallback at called
  rw [queued] at called
  obtain ⟨completion, stored, same⟩ := Option.map_eq_some_iff.mp called
  cases same
  exact ⟨completion, rest, queued, stored, rfl, running, rfl⟩

/-- No operation is outstanding when a callback starts the next one. -/
theorem free_callback {phase : Phase} {strand : StrandId} {direction : Direction}
    {code : ErrorCode} (staged : ∃ stages, Descriptor.Staged before.descriptor stages)
    (duty : Duty before.descriptor phase)
    (called : nextCallback before.descriptor strand = some (direction, code))
    (stepped : ReceiveStream.step before (.strandStep strand) = some after) :
    phase.waits = some direction ∧ after.descriptor.terminated = false ∧
      ∀ other, after.descriptor.outstanding other = none := by
  obtain ⟨completion, rest, queued, stored, _, running, rfl⟩ :=
    callback_receive called stepped
  obtain ⟨stages, before⟩ := staged
  obtain ⟨_, found, completing, _⟩ := before.completing_of_queued queued
  have waited : phase.waits = some direction := by
    by_contra different
    have none := (duty.outstanding direction).mpr different
    rw [before.idle_of_outstanding none] at completing
    cases completing
  rw [Descriptor.runComplete_some stored]
  refine ⟨waited, running, ?_⟩
  intro other
  by_cases same : other = direction
  · subst other
    exact Function.update_self ..
  · change Function.update _ _ _ _ = _
    rw [Function.update_of_ne same]
    apply (duty.outstanding other).mpr
    rw [waited]
    exact fun equal => same (Option.some.inj equal).symm

end Descriptors

/-! ### One step -/

structure Free (state : State) (side : Side) : Prop where
  linked : Connection.Linked state.connection
  present : ∀ direction, (descriptor state.connection side).present direction = true
  outstanding : ∀ direction, (descriptor state.connection side).outstanding direction = none
  others : ∀ other, other ≠ side →
    Duty (descriptor state.connection other) (state.phase other)
  bounded : state.completed ≤ state.limit

theorem Kept.free {state : State} {side : Side} (kept : Kept state)
    (idle : state.phase side = .idle) : Free state side := by
  refine ⟨kept.linked, (kept.duty side).present, ?_, fun other _ => kept.duty other,
    kept.bounded⟩
  intro direction
  apply ((kept.duty side).outstanding direction).mpr
  rw [idle]
  intro impossible
  cases impossible

theorem kept_proceed {state next : State} {side : Side} {phase : Phase}
    {action : Connection.Action} (free : Free state side)
    (running : Function.update state.phase side phase .client ≠ .ended →
      state.completed < state.limit)
    (stepped : state.proceed side phase action = some next)
    (own : Duty (descriptor next.connection side) phase)
    (same : ∀ other, other ≠ side →
      (next.connection.endpoint other).receive =
        (state.connection.endpoint other).receive) : Kept next := by
  obtain ⟨connection, moved, rfl⟩ := Option.map_eq_some_iff.mp stepped
  constructor
  · exact (Connection.moved_step free.linked moved).linked
  · intro other
    by_cases here : other = side
    · subst other
      change Duty _ (Function.update state.phase side phase side)
      rw [Function.update_self]
      exact own
    · change Duty _ (Function.update state.phase side phase other)
      rw [Function.update_of_ne here]
      have duty := free.others other here
      rw [descriptor, ← same other here] at duty
      exact duty
  · exact free.bounded
  · exact running

theorem kept_initiate {state next : State} {side : Side} {phase : Phase}
    {direction : Direction} {action : Connection.Action} {receives : ReceiveStream.Action}
    {result : ErrorCode} (free : Free state side)
    (running : side = .client ∨ state.phase .client ≠ .ended → state.completed < state.limit)
    (stepped : state.proceed side phase action = some next)
    (acts : Connection.Acts state.connection next.connection side receives)
    (begins : starts receives = some (direction, result))
    (waits : phase.waits = some direction) : Kept next := by
  refine kept_proceed free ?_ stepped ?_ acts.same
  · intro notEnded
    by_cases client : side = .client
    · exact running (Or.inl client)
    · rw [Function.update_of_ne (Ne.symm client)] at notEnded
      exact running (Or.inr notEnded)
  · rw [descriptor, (receive_starts begins acts.stepped).1]
    exact duty_initiate free.present free.outstanding waits

theorem kept_doSend {state next : State} {side : Side} {result : ErrorCode}
    (free : Free state side) (running : side = .client ∨ state.phase .client ≠ .ended →
      state.completed < state.limit)
    (stepped : doSend state side result = some next) : Kept next := by
  have proceeded := stepped
  obtain ⟨connection, moved, rfl⟩ := Option.map_eq_some_iff.mp proceeded
  exact kept_initiate free running stepped (Connection.acts_send moved) rfl rfl

theorem kept_doRecv {state next : State} {side : Side} {result : ErrorCode}
    (free : Free state side) (running : side = .client ∨ state.phase .client ≠ .ended →
      state.completed < state.limit)
    (stepped : doRecv state side result = some next) : Kept next := by
  have proceeded := stepped
  obtain ⟨connection, moved, rfl⟩ := Option.map_eq_some_iff.mp proceeded
  exact kept_initiate free running stepped (Connection.acts_recv moved) rfl rfl

theorem kept_destroy {state next : State} {side : Side} (free : Free state side)
    (running : side ≠ .client → state.phase .client ≠ .ended →
      state.completed < state.limit)
    (stepped : destroy state side = some next) : Kept next := by
  have proceeded := stepped
  unfold destroy State.proceed at proceeded
  obtain ⟨connection, moved, rfl⟩ := Option.map_eq_some_iff.mp proceeded
  have same := Connection.receive_shutdown moved
  refine kept_proceed free ?_ stepped ?_ (fun other _ => same other)
  · intro notEnded
    by_cases client : side = .client
    · subst client
      rw [Function.update_self] at notEnded
      exact absurd rfl notEnded
    · rw [Function.update_of_ne (Ne.symm client)] at notEnded
      exact running client notEnded
  · change Duty (connection.endpoint side).receive.descriptor _
    rw [same]
    refine ⟨free.present, ?_⟩
    intro direction
    exact iff_of_true (free.outstanding direction) (by intro impossible; cases impossible)

theorem kept_onCallback {state next : State} {side : Side} {direction : Direction}
    {code result : ErrorCode} (free : Free state side)
    (running : state.phase .client ≠ .ended → state.completed < state.limit)
    (alive : state.phase side ≠ .ended)
    (stepped : onCallback state side direction code result = some next) : Kept next := by
  have asked : side = .client ∨ state.phase .client ≠ .ended →
      state.completed < state.limit := by
    rintro (rfl | notEnded)
    · exact running alive
    · exact running notEnded
  cases direction with
  | write =>
      simp only [onCallback, onSend] at stepped
      split at stepped
      · exact kept_doRecv free asked stepped
      · exact kept_destroy free (fun _ => running) stepped
  | read =>
      cases side with
      | server =>
          simp only [onCallback, onRequest] at stepped
          split at stepped
          · exact kept_doSend free asked stepped
          · exact kept_destroy free (fun _ => running) stepped
      | client =>
          have counted : Free { state with completed := state.completed + 1 } .client :=
            ⟨free.linked, free.present, free.outstanding, free.others, running alive⟩
          simp only [onCallback, onRecv] at stepped
          split at stepped
          · split at stepped
            · exact kept_destroy counted (fun server => absurd rfl server) stepped
            · rename_i goesOn
              refine kept_doSend counted (fun _ => ?_) stepped
              unfold State.shouldStop at goesOn
              rw [decide_eq_true_eq] at goesOn
              exact Nat.lt_of_not_le goesOn
          · exact kept_destroy counted (fun server => absurd rfl server) stepped

theorem kept_lift {state next : State} {side : Side} {action : Connection.Action}
    {acting : ReceiveStream.Action} (kept : Kept state)
    (stepped : state.lift action = some next) (still : quiet acting = true)
    (acts : Connection.Acts state.connection next.connection side acting) : Kept next := by
  obtain ⟨connection, moved, rfl⟩ := Option.map_eq_some_iff.mp stepped
  refine ⟨(Connection.moved_step kept.linked moved).linked, ?_, kept.bounded, kept.running⟩
  intro other
  have duty := kept.duty other
  by_cases here : other = side
  · subst other
    constructor
    · rw [descriptor, present_receive acts.stepped]
      exact duty.present
    · rw [descriptor, outstanding_quiet still acts.stepped]
      exact duty.outstanding
  · rw [descriptor, acts.same other here]
    exact duty

/-- The end whose strand runs a callback is free when the callback starts. -/
theorem free_own {state middle : State} {side : Side} {strand : StrandId}
    {direction : Direction} {code : ErrorCode} (kept : Kept state)
    (called : nextCallback (descriptor state.connection side) strand = some (direction, code))
    (stepped : state.own side (.strandStep side strand) = some middle) :
    Free middle side ∧ middle.phase = state.phase ∧ state.phase side ≠ .ended ∧
      middle.completed = state.completed ∧ middle.limit = state.limit ∧
      (descriptor middle.connection side).terminated = false := by
  unfold State.own at stepped
  split at stepped
  · cases stepped
  · rename_i alive
    obtain ⟨connection, moved, rfl⟩ := Option.map_eq_some_iff.mp stepped
    have acts := Connection.acts_strandStep moved
    obtain ⟨_, running, free⟩ := free_callback (kept.linked.kept side).flow.staged
      (kept.duty side) called acts.stepped
    refine ⟨⟨(Connection.moved_step kept.linked moved).linked, ?_, free, ?_, kept.bounded⟩,
      rfl, alive, rfl, rfl, running⟩
    · rw [descriptor, present_receive acts.stepped]
      exact (kept.duty side).present
    · intro other different
      rw [descriptor, acts.same other different]
      exact kept.duty other

theorem outstanding_uncalled {before after : ReceiveStream.State} {strand : StrandId}
    (staged : ∃ stages, Descriptor.Staged before.descriptor stages)
    (uncalled : nextCallback before.descriptor strand = none) :
    ReceiveStream.step before (.strandStep strand) ≠ some after := by
  intro stepped
  obtain ⟨moved, ran, _⟩ := Option.map_eq_some_iff.mp stepped
  obtain ⟨_, direction, rest, queued, _⟩ := Descriptor.step_strandStep.mp ran
  obtain ⟨stages, before⟩ := staged
  obtain ⟨_, completion, _, stored⟩ := before.completing_of_queued queued
  simp only [nextCallback, queued, stored, Option.map_some] at uncalled
  cases uncalled

theorem kept_step {state next : State} {action : Action} (kept : Kept state)
    (stepped : step state action = some next) : Kept next := by
  cases action with
  | start side result =>
      simp only [step] at stepped
      split at stepped
      · rename_i idle
        have free := kept.free idle
        cases side with
        | client =>
            have running := kept.running (by rw [idle]; decide)
            exact kept_doSend free (fun _ => running) stepped
        | server =>
            refine kept_doRecv free ?_ stepped
            rintro (impossible | notEnded)
            · cases impossible
            · exact kept.running notEnded
      · cases stepped
  | arrive side count =>
      obtain ⟨connection, moved, same⟩ := Option.map_eq_some_iff.mp stepped
      have acts := Connection.acts_arrive moved
      subst same
      exact kept_lift kept stepped rfl acts
  | arriveEnd side =>
      obtain ⟨connection, moved, same⟩ := Option.map_eq_some_iff.mp stepped
      have acts := Connection.acts_arriveEnd moved
      subst same
      exact kept_lift kept stepped rfl acts
  | harvest side events =>
      simp only [step, State.own] at stepped
      split at stepped
      · cases stepped
      · obtain ⟨connection, moved, same⟩ := Option.map_eq_some_iff.mp stepped
        have acts := Connection.acts_harvest moved
        subst same
        exact kept_lift kept stepped rfl acts
  | handle side result =>
      simp only [step, State.own] at stepped
      split at stepped
      · cases stepped
      · obtain ⟨connection, moved, same⟩ := Option.map_eq_some_iff.mp stepped
        have acts := Connection.acts_handle moved
        subst same
        exact kept_lift kept stepped rfl acts
  | runTask side index system =>
      simp only [step, State.own] at stepped
      split at stepped
      · cases stepped
      · obtain ⟨connection, moved, same⟩ := Option.map_eq_some_iff.mp stepped
        obtain ⟨sent, acts⟩ := Connection.acts_runTask moved
        subst same
        exact kept_lift kept stepped rfl acts
  | strandStep side strand result =>
      obtain ⟨middle, own, ran⟩ := Option.bind_eq_some_iff.mp stepped
      cases called : nextCallback (descriptor state.connection side) strand with
      | none =>
          unfold State.own at own
          split at own
          · cases own
          · obtain ⟨connection, moved, _⟩ := Option.map_eq_some_iff.mp own
            have acts := Connection.acts_strandStep moved
            exact absurd acts.stepped
              (outstanding_uncalled (kept.linked.kept side).flow.staged called)
      | some callback =>
          obtain ⟨direction, code⟩ := callback
          rw [called] at ran
          obtain ⟨free, phases, alive, counted, limited, _⟩ := free_own kept called own
          refine kept_onCallback free ?_ (by rw [phases]; exact alive) ran
          rw [phases, counted, limited]
          exact kept.running

/-! ### Every run -/

theorem initiates {descriptor : Descriptor.State} (present : ∀ other, descriptor.present other = true)
    (free : ∀ other, descriptor.outstanding other = none)
    (running : descriptor.terminated = false) (direction : Direction) (result : ErrorCode) :
    Descriptor.step descriptor (.initiate direction result) =
      some (Descriptor.initiate descriptor direction result) :=
  Descriptor.step_initiate.mpr ⟨running, present direction, free direction, rfl⟩

theorem doSend_isSome {state : State} {side : Side} {result : ErrorCode}
    (free : Free state side) (running : (descriptor state.connection side).terminated = false)
    (allowed : ReceiveStream.armResult result = true) :
    (doSend state side result).isSome = true := by
  have initiated := initiates free.present free.outstanding running .write result
  simp only [doSend, State.proceed, Connection.step, Connection.onSide, ReceiveStream.step,
    allowed, if_true, initiated, Option.map_some, Option.isSome_some]

theorem doRecv_isSome {state : State} {side : Side} {result : ErrorCode}
    (free : Free state side) (running : (descriptor state.connection side).terminated = false)
    (allowed : ReceiveStream.armResult result = true) :
    (doRecv state side result).isSome = true := by
  have initiated := initiates free.present free.outstanding running .read result
  simp only [doRecv, State.proceed, Connection.step, Connection.onSide, ReceiveStream.step,
    allowed, if_true, initiated, Option.map_some, Option.isSome_some]

theorem onCallback_isSome {state : State} {side : Side} {direction : Direction}
    {code result : ErrorCode} (free : Free state side)
    (running : (descriptor state.connection side).terminated = false)
    (allowed : ReceiveStream.armResult result = true)
    (bounded : side = .client → state.completed < state.limit) :
    (onCallback state side direction code result).isSome = true := by
  cases direction with
  | write =>
      simp only [onCallback, onSend]
      split
      · exact doRecv_isSome free running allowed
      · rfl
  | read =>
      cases side with
      | server =>
          simp only [onCallback, onRequest]
          split
          · exact doSend_isSome free running allowed
          · rfl
      | client =>
          have counted : Free { state with completed := state.completed + 1 } .client :=
            ⟨free.linked, free.present, free.outstanding, free.others, bounded rfl⟩
          simp only [onCallback, onRecv]
          split
          · split
            · rfl
            · exact doSend_isSome counted running allowed
          · rfl

theorem Kept.halfDuplex {state : State} (kept : Kept state) : HalfDuplex state := by
  refine ⟨fun side => (kept.duty side).outstanding, ?_, kept.bounded⟩
  intro side strand result allowed enabled
  obtain ⟨middle, own⟩ := Option.isSome_iff_exists.mp enabled
  change ((state.own side (.strandStep side strand)).bind _).isSome = true
  rw [own, Option.bind_some]
  cases called : nextCallback (descriptor state.connection side) strand with
  | none => rfl
  | some callback =>
      obtain ⟨direction, code⟩ := callback
      obtain ⟨free, _, alive, counted, limited, running⟩ := free_own kept called own
      refine onCallback_isSome free running allowed ?_
      intro client
      subst client
      rw [counted, limited]
      exact kept.running alive

/-- Whatever fails on the way, the two programs keep the rules of the library: no end
starts an operation while another of its own is outstanding. -/
theorem halfDuplex_always (strand : Side → StrandId) (random maxRequestLimit : Nat)
    (actions : List Action) :
    Runs.StatesMeet step HalfDuplex (init strand random maxRequestLimit) actions := by
  have always : Runs.StatesMeet step Kept (init strand random maxRequestLimit) actions :=
    Runs.statesMeet_of_invariant (fun _ _ _ kept stepped => kept_step kept stepped)
      actions (kept_init strand random maxRequestLimit)
  exact always.imp (fun state kept => kept.halfDuplex)

end BabaIo.ClientServer
