import BabaIo.ReportProgress
import BabaIo.Library.Progress
import BabaIo.SoundEnd

/-
An exchange of requests and replies on which nothing fails can always be completed.

While `epoll_ctl` and `::send` succeed and no report carries an error, a byte is always in
play: a send waits for its `react`, or bytes are on the wire, unread or on their way to a
callback.  From every state of such a run the two ends can go on until the client has
completed its last request.
-/

set_option autoImplicit false

namespace BabaIo.ClientServer

open Connection (Side Endpoint)
open Descriptor (StrandId Controlled Stage)

/-! ### Both ends -/

/-- Bytes are in play at an end: a send waits for its `react`, or bytes are on the wire,
unread or on their way to the callback. -/
def Plays (endpoint : Endpoint) : Prop :=
  (endpoint.receive.descriptor.event .write).react.isSome = true ∨ endpoint.wire ≠ [] ∨
    endpoint.receive.socket.unread ≠ [] ∨ endpoint.receive.underway ≠ []

def InPlay (connection : Connection.State) : Prop :=
  ∃ side, Plays (connection.endpoint side)

/-- Nothing has failed, as far as the ends other than `side` are concerned. -/
structure Working (state : State) (side : Side) : Prop where
  sound : ∀ other, Sound (state.connection.endpoint other).receive
  isOpen : ∀ other, (state.connection.endpoint other).finished = false
  alive : ∀ other, other ≠ side → state.phase other ≠ .ended
  outgoing : ∀ other, other ≠ side → state.phase other = .sending →
    (state.connection.endpoint other).outgoing = message other

structure Unfailing (state : State) : Prop where
  sound : ∀ side, Sound (state.connection.endpoint side).receive
  isOpen : ∀ side, (state.connection.endpoint side).finished = false
  alive : ∀ side, state.phase side ≠ .ended
  outgoing : ∀ side, state.phase side = .sending →
    (state.connection.endpoint side).outgoing = message side

structure Healthy (state : State) extends Unfailing state where
  kept : Kept state
  inPlay : state.phase .client ≠ .idle → InPlay state.connection

theorem Healthy.working {state : State} (healthy : Healthy state) (side : Side) :
    Working state side :=
  ⟨healthy.sound, healthy.isOpen, fun other _ => healthy.alive other,
    fun other _ => healthy.outgoing other⟩

def Finished (state : State) : Prop :=
  state.phase .client = .ended ∧ state.completed = state.limit

theorem healthy_init (strand : Side → StrandId) (random maxRequestLimit : Nat) :
    Healthy (init strand random maxRequestLimit) := by
  refine ⟨⟨fun side => sound_init (strand side), fun _ => rfl, ?_, ?_⟩,
    kept_init strand random maxRequestLimit, fun started => absurd rfl started⟩
  · intro side impossible
    cases impossible
  · intro side impossible
    cases impossible

theorem message_ne_nil (side : Side) : message side ≠ [] := by
  cases side <;> decide

theorem inPlay_setEndpoint {connection : Connection.State} {side : Side} {endpoint : Endpoint}
    (before : InPlay connection)
    (plays : Plays (connection.endpoint side) → Plays endpoint) :
    InPlay (connection.setEndpoint side endpoint) := by
  obtain ⟨other, playing⟩ := before
  refine ⟨other, ?_⟩
  by_cases same : other = side
  · subst other
    rw [Connection.State.setEndpoint_self]
    exact plays playing
  · rw [Connection.State.setEndpoint_ne _ _ same]
    exact playing

theorem unfailing_setEndpoint {state : State} {side : Side} {endpoint : Endpoint}
    (unfailing : Unfailing state) (sound : Sound endpoint.receive)
    (isOpen : endpoint.finished = false)
    (outgoing : endpoint.outgoing = (state.connection.endpoint side).outgoing) :
    Unfailing { state with connection := state.connection.setEndpoint side endpoint } := by
  refine ⟨?_, ?_, unfailing.alive, ?_⟩
  · intro other
    by_cases same : other = side
    · subst other
      change Sound ((state.connection.setEndpoint side endpoint).endpoint side).receive
      rw [Connection.State.setEndpoint_self]
      exact sound
    · change Sound ((state.connection.setEndpoint side endpoint).endpoint other).receive
      rw [Connection.State.setEndpoint_ne _ _ same]
      exact unfailing.sound other
  · intro other
    by_cases same : other = side
    · subst other
      change ((state.connection.setEndpoint side endpoint).endpoint side).finished = _
      rw [Connection.State.setEndpoint_self]
      exact isOpen
    · change ((state.connection.setEndpoint side endpoint).endpoint other).finished = _
      rw [Connection.State.setEndpoint_ne _ _ same]
      exact unfailing.isOpen other
  · intro other sending
    by_cases same : other = side
    · subst other
      change ((state.connection.setEndpoint side endpoint).endpoint side).outgoing = _
      rw [Connection.State.setEndpoint_self, outgoing]
      exact unfailing.outgoing _ sending
    · change ((state.connection.setEndpoint side endpoint).endpoint other).outgoing = _
      rw [Connection.State.setEndpoint_ne _ _ same]
      exact unfailing.outgoing _ sending

theorem healthy_setEndpoint {state : State} {side : Side} {endpoint : Endpoint}
    (healthy : Healthy state)
    (kept : Kept { state with connection := state.connection.setEndpoint side endpoint })
    (sound : Sound endpoint.receive) (isOpen : endpoint.finished = false)
    (outgoing : endpoint.outgoing = (state.connection.endpoint side).outgoing)
    (plays : Plays (state.connection.endpoint side) → Plays endpoint) :
    Healthy { state with connection := state.connection.setEndpoint side endpoint } :=
  ⟨unfailing_setEndpoint healthy.toUnfailing sound isOpen outgoing, kept,
    fun started => inPlay_setEndpoint (healthy.inPlay started) plays⟩

/-! ### One step on which nothing fails -/

/-- Nothing fails in the step: no `epoll_ctl`, no `::send`, no report of an error. -/
def succeeds : Action → Bool
  | .start _ result => result = ec.OK
  | .harvest _ events => !has events EPOLLERR && !has events EPOLLHUP
  | .handle _ result => result = ec.OK
  | .runTask _ _ (.error _) => false
  | .strandStep _ _ result => result = ec.OK
  | _ => true

section Step

variable {state next : State} {side : Side}

theorem own_eq_some {action : Connection.Action} :
    state.own side action = some next ↔ state.phase side ≠ .ended ∧
      ∃ connection, Connection.step state.connection action = some connection ∧
        { state with connection := connection } = next := by
  unfold State.own State.lift
  by_cases ended : state.phase side = .ended
  · simp [ended]
  · simp [ended]

theorem plays_of_same {endpoint : Endpoint} {receive : ReceiveStream.State}
    (react : (receive.descriptor.event .write).react =
      (endpoint.receive.descriptor.event .write).react)
    (unread : receive.socket.unread = endpoint.receive.socket.unread)
    (underway : receive.underway = endpoint.receive.underway) (plays : Plays endpoint) :
    Plays { endpoint with receive := receive } := by
  unfold Plays at plays ⊢
  rw [react, unread, underway]
  exact plays

theorem healthy_harvest {events : Events} (healthy : Healthy state)
    (fails : succeeds (.harvest side events) = true)
    (stepped : step state (.harvest side events) = some next) : Healthy next := by
  have kept := kept_step healthy.kept stepped
  obtain ⟨_, connection, moved, rfl⟩ := own_eq_some.mp stepped
  obtain ⟨receive, received, rfl⟩ := Option.map_eq_some_iff.mp moved
  have sound := sound_harvest (healthy.sound side) fails received
  refine healthy_setEndpoint healthy kept sound (healthy.isOpen side) rfl ?_
  obtain ⟨_, descriptor, harvested, rfl⟩ := ReceiveStream.step_harvest.mp received
  obtain ⟨_, _, _, rfl⟩ := Descriptor.step_harvest.mp harvested
  exact plays_of_same rfl rfl rfl

theorem healthy_handle {result : ErrorCode} (healthy : Healthy state)
    (fails : succeeds (.handle side result) = true)
    (stepped : step state (.handle side result) = some next) : Healthy next := by
  have kept := kept_step healthy.kept stepped
  obtain ⟨_, connection, moved, rfl⟩ := own_eq_some.mp stepped
  obtain ⟨receive, received, rfl⟩ := Option.map_eq_some_iff.mp moved
  have sound := sound_handle (healthy.sound side) fails received
  refine healthy_setEndpoint healthy kept sound (healthy.isOpen side) rfl ?_
  obtain ⟨_, descriptor, handled, rfl⟩ := ReceiveStream.step_handle.mp received
  obtain ⟨_, events, _, rfl⟩ := Descriptor.step_handle.mp handled
  have event := Descriptor.handle_event (state.connection.endpoint side).receive.descriptor
    events result
  exact plays_of_same (event .write).1 rfl (underway_of_same (event .read).2 rfl)

/-- A send is only outstanding with a message in its buffer. -/
theorem Healthy.sending (healthy : Healthy state) {operation : Nat}
    (react : ((descriptor state.connection side).event .write).react = some operation) :
    (state.connection.endpoint side).outgoing = message side := by
  obtain ⟨stages, staged⟩ := (healthy.kept.linked.kept side).flow.staged
  have outstanding := (staged.stage .write).outstanding
  rw [staged.pending_of_react react] at outstanding
  have waits : (state.phase side).waits = some .write := by
    by_contra different
    have none := ((healthy.kept.duty side).outstanding .write).mpr different
    rw [none] at outstanding
    cases outstanding
  apply healthy.outgoing side
  cases phase : state.phase side with
  | sending => rfl
  | idle => rw [phase] at waits; cases waits
  | receiving => rw [phase] at waits; cases waits
  | ended => rw [phase] at waits; cases waits

theorem sentBytes_ne_nil {buffer : List UInt8} {finished : Bool} {count : Nat}
    (some : buffer ≠ []) (allowed : Connection.maySend buffer finished (.ok count) = true) :
    Connection.sentBytes buffer (.ok count) ≠ [] := by
  simp only [Connection.maySend, Bool.and_eq_true, Bool.or_eq_true, decide_eq_true_eq,
    List.isEmpty_iff] at allowed
  have positive := allowed.2.resolve_right some
  change buffer.take count ≠ []
  intro none
  rcases List.take_eq_nil_iff.mp none with zero | empty
  · rw [zero] at positive
    exact Nat.lt_irrefl 0 positive
  · exact some empty

theorem healthy_runTask {index : Nat} {system : Except Errno Nat} (healthy : Healthy state)
    (fails : succeeds (.runTask side index system) = true)
    (stepped : step state (.runTask side index system) = some next) : Healthy next := by
  have kept := kept_step healthy.kept stepped
  obtain ⟨_, connection, moved, rfl⟩ := own_eq_some.mp stepped
  obtain ⟨task, found, ran⟩ := Option.bind_eq_some_iff.mp moved
  have sound := healthy.sound side
  obtain ⟨ok, stages, operation, _, _, react⟩ := sound.task found
  cases direction : task.direction with
  | write =>
      rw [direction] at react
      have writing : Connection.sends (descriptor state.connection side) task = true := by
        simp [Connection.sends, direction, ok, react]
      rw [if_pos writing] at ran
      unfold Connection.runSend at ran
      cases system with
      | error errno => cases fails
      | ok count =>
          split at ran
          · rename_i allowed
            obtain ⟨receive, received, rfl⟩ := Option.map_eq_some_iff.mp ran
            have some := sentBytes_ne_nil
              (by rw [healthy.sending react]; exact message_ne_nil side) allowed
            have sends : fine (.runTask index (Connection.sendResult (.ok count))) = true := rfl
            refine healthy_setEndpoint healthy kept (sound_step sound sends received)
              (healthy.isOpen side) rfl ?_
            intro _plays
            right
            left
            intro none
            exact some (List.append_eq_nil_iff.mp none).2
          · cases ran
  | read =>
      have reading : ¬ Connection.sends (descriptor state.connection side) task = true := by
        simp [Connection.sends, direction]
      rw [if_neg reading] at ran
      obtain ⟨receive, received, rfl⟩ := Option.map_eq_some_iff.mp ran
      have receives : fine (.runTask index (ec.OK, 0)) = true := rfl
      refine healthy_setEndpoint healthy kept (sound_step sound receives received)
        (healthy.isOpen side) rfl ?_
      intro _plays
      right
      right
      right
      obtain ⟨_, same, foundSame, rfl⟩ := ReceiveStream.step_runTask.mp received
      rw [found] at foundSame
      cases foundSame
      exact (sound_recvTask sound found direction _).2

theorem inPlay_iff (connection : Connection.State) (side : Side) :
    InPlay connection ↔
      Plays (connection.endpoint side) ∨ Plays (connection.endpoint side.other) := by
  constructor
  · rintro ⟨other, plays⟩
    rcases side.eq_or_other other with rfl | rfl
    · exact Or.inl plays
    · exact Or.inr plays
  · rintro (plays | plays)
    · exact ⟨side, plays⟩
    · exact ⟨side.other, plays⟩

theorem plays_arrive {near far : Endpoint} {arrived : ReceiveStream.State} (count : Nat)
    (written : ReceiveStream.step far.receive (.write (near.wire.take count)) = some arrived)
    (plays : Plays near ∨ Plays far) :
    Plays { near with wire := near.wire.drop count } ∨ Plays { far with receive := arrived } := by
  obtain ⟨_, rfl⟩ := ReceiveStream.step_write.mp written
  rcases plays with (react | wire | unread | underway) | (react | wire | unread | underway)
  · exact Or.inl (Or.inl react)
  · by_cases left : near.wire.drop count = []
    · right
      right
      right
      left
      intro none
      have split := List.take_append_drop count near.wire
      rw [left, (List.append_eq_nil_iff.mp none).2] at split
      exact wire split.symm
    · exact Or.inl (Or.inr (Or.inl left))
  · exact Or.inl (Or.inr (Or.inr (Or.inl unread)))
  · exact Or.inl (Or.inr (Or.inr (Or.inr underway)))
  · exact Or.inr (Or.inl react)
  · exact Or.inr (Or.inr (Or.inl wire))
  · exact Or.inr (Or.inr (Or.inr (Or.inl
      (fun none => unread (List.append_eq_nil_iff.mp none).1))))
  · exact Or.inr (Or.inr (Or.inr (Or.inr underway)))

theorem healthy_arrive {count : Nat} (healthy : Healthy state)
    (stepped : step state (.arrive side count) = some next) : Healthy next := by
  have kept := kept_step healthy.kept stepped
  obtain ⟨connection, moved, rfl⟩ := Option.map_eq_some_iff.mp stepped
  obtain ⟨middle, first, rfl⟩ := Option.map_eq_some_iff.mp moved
  obtain ⟨arrived, written, rfl⟩ := Option.map_eq_some_iff.mp first
  have plays := fun started =>
    plays_arrive count written ((inPlay_iff state.connection side).mp (healthy.inPlay started))
  have sound := sound_write (healthy.sound side.other) written
  rw [id] at kept ⊢
  generalize far' : { state.connection.endpoint side.other with receive := arrived } = far at *
  generalize near' : { state.connection.endpoint side with
    wire := (state.connection.endpoint side).wire.drop count } = near at *
  have nearSame : near.receive = (state.connection.endpoint side).receive ∧
      near.finished = (state.connection.endpoint side).finished ∧
      near.outgoing = (state.connection.endpoint side).outgoing := by
    rw [← near']
    exact ⟨rfl, rfl, rfl⟩
  have farSame : far.receive = arrived ∧
      far.finished = (state.connection.endpoint side.other).finished ∧
      far.outgoing = (state.connection.endpoint side.other).outgoing := by
    rw [← far']
    exact ⟨rfl, rfl, rfl⟩
  have opposite := unfailing_setEndpoint healthy.toUnfailing
    (by rw [farSame.1]; exact sound) (farSame.2.1.trans (healthy.isOpen side.other))
    farSame.2.2
  have both := unfailing_setEndpoint opposite
    (by rw [nearSame.1]; exact healthy.sound side) (nearSame.2.1.trans (healthy.isOpen side))
    (nearSame.2.2.trans
      (by rw [Connection.State.setEndpoint_ne _ _ side.other_ne.symm]))
  refine ⟨both, kept, ?_⟩
  intro started
  rw [inPlay_iff _ side, Connection.State.setEndpoint_self,
    Connection.State.setEndpoint_ne _ _ side.other_ne, Connection.State.setEndpoint_self]
  exact plays started

theorem healthy_arriveEnd (healthy : Healthy state) :
    step state (.arriveEnd side) ≠ some next := by
  intro stepped
  obtain ⟨connection, moved, _⟩ := Option.map_eq_some_iff.mp stepped
  simp only [Connection.step, healthy.isOpen side, Bool.false_and, Bool.false_eq_true,
    if_false] at moved
  cases moved

theorem healthy_proceed {endpoint : Endpoint} {phase : Phase} (working : Working state side)
    (kept : Kept { state with
      connection := state.connection.setEndpoint side endpoint
      phase := Function.update state.phase side phase })
    (sound : Sound endpoint.receive) (isOpen : endpoint.finished = false)
    (alive : phase ≠ .ended) (outgoing : phase = .sending → endpoint.outgoing = message side)
    (inPlay : Function.update state.phase side phase .client ≠ .idle →
      InPlay (state.connection.setEndpoint side endpoint)) :
    Healthy { state with
      connection := state.connection.setEndpoint side endpoint
      phase := Function.update state.phase side phase } := by
  refine ⟨⟨?_, ?_, ?_, ?_⟩, kept, inPlay⟩
  · intro other
    change Sound ((state.connection.setEndpoint side endpoint).endpoint other).receive
    by_cases same : other = side
    · subst other
      rw [Connection.State.setEndpoint_self]
      exact sound
    · rw [Connection.State.setEndpoint_ne _ _ same]
      exact working.sound other
  · intro other
    change ((state.connection.setEndpoint side endpoint).endpoint other).finished = _
    by_cases same : other = side
    · subst other
      rw [Connection.State.setEndpoint_self]
      exact isOpen
    · rw [Connection.State.setEndpoint_ne _ _ same]
      exact working.isOpen other
  · intro other
    change Function.update state.phase side phase other ≠ _
    by_cases same : other = side
    · subst other
      rw [Function.update_self]
      exact alive
    · rw [Function.update_of_ne same]
      exact working.alive other same
  · intro other
    change Function.update state.phase side phase other = _ →
      ((state.connection.setEndpoint side endpoint).endpoint other).outgoing = _
    by_cases same : other = side
    · subst other
      rw [Function.update_self, Connection.State.setEndpoint_self]
      exact outgoing
    · rw [Function.update_of_ne same, Connection.State.setEndpoint_ne _ _ same]
      exact working.outgoing other same

theorem healthy_doSend (working : Working state side) (kept : Kept next)
    (stepped : doSend state side ec.OK = some next) : Healthy next := by
  obtain ⟨connection, moved, rfl⟩ := Option.map_eq_some_iff.mp stepped
  have sent : Connection.onSide state.connection side (.send ec.OK)
    (fun endpoint => { endpoint with outgoing := message side }) = some connection := moved
  obtain ⟨receive, received, rfl⟩ := Option.map_eq_some_iff.mp sent
  have sound := sound_send (working.sound side) rfl received
  refine healthy_proceed working kept sound (working.isOpen side) (by decide) (fun _ => rfl) ?_
  intro _started
  refine ⟨side, Or.inl ?_⟩
  rw [Connection.State.setEndpoint_self]
  obtain ⟨_, descriptor, initiated, rfl⟩ := ReceiveStream.step_send.mp received
  obtain ⟨_, _, _, rfl⟩ := Descriptor.step_initiate.mp initiated
  exact (initiated_event .write .write).2

theorem healthy_doRecv (working : Working state side) (kept : Kept next)
    (inPlay : next.phase .client ≠ .idle → InPlay state.connection)
    (stepped : doRecv state side ec.OK = some next) : Healthy next := by
  obtain ⟨connection, moved, rfl⟩ := Option.map_eq_some_iff.mp stepped
  obtain ⟨receive, received, rfl⟩ := Option.map_eq_some_iff.mp moved
  have sound := sound_recv (working.sound side) rfl received
  refine healthy_proceed working kept sound (working.isOpen side) (by decide)
    (by intro impossible; cases impossible) ?_
  intro started
  refine inPlay_setEndpoint (inPlay started) ?_
  obtain ⟨_, descriptor, initiated, rfl⟩ := ReceiveStream.step_recv.mp received
  obtain ⟨_, _, _, rfl⟩ := Descriptor.step_initiate.mp initiated
  refine plays_of_same ?_ rfl (underway_of_same (initiated_event .read .read).1 rfl)
  simp [Descriptor.initiate, Descriptor.arm]

theorem healthy_start {result : ErrorCode} (healthy : Healthy state)
    (fails : succeeds (.start side result) = true)
    (stepped : step state (.start side result) = some next) : Healthy next := by
  have kept := kept_step healthy.kept stepped
  obtain rfl : result = ec.OK := of_decide_eq_true fails
  simp only [step] at stepped
  split at stepped
  · cases side with
    | client => exact healthy_doSend (healthy.working .client) kept stepped
    | server =>
        refine healthy_doRecv (healthy.working .server) kept ?_ stepped
        intro started
        obtain ⟨connection, _, rfl⟩ := Option.map_eq_some_iff.mp stepped
        exact healthy.inPlay started
  · cases stepped

/-- When the callback of a send runs, the bytes in play are elsewhere. -/
theorem plays_sent {before after : ReceiveStream.State} {endpoint : Endpoint}
    {strand : StrandId} {code : ErrorCode} (own : endpoint.receive = before)
    (staged : ∃ stages, Descriptor.Staged before.descriptor stages)
    (called : nextCallback before.descriptor strand = some (.write, code))
    (stepped : ReceiveStream.step before (.strandStep strand) = some after)
    (plays : Plays endpoint) : Plays { endpoint with receive := after } := by
  subst own
  obtain ⟨completion, rest, queued, stored, _, _, rfl⟩ := callback_receive called stepped
  obtain ⟨stages, staged⟩ := staged
  obtain ⟨_, found, completing, _⟩ := staged.completing_of_queued queued
  have idle := (staged.stage .write).react
  rw [completing] at idle
  have complete : ((Descriptor.runComplete endpoint.receive.descriptor strand .write
      rest).event .read).complete = (endpoint.receive.descriptor.event .read).complete := by
    rw [Descriptor.runComplete_some stored]
    rfl
  rcases plays with react | wire | unread | underway
  · rw [idle] at react
    cases react
  · exact Or.inr (Or.inl wire)
  · exact Or.inr (Or.inr (Or.inl unread))
  · right
    right
    right
    rw [@underway_of_same endpoint.receive { endpoint.receive with
      descriptor := Descriptor.runComplete endpoint.receive.descriptor strand .write rest
      delivered := endpoint.receive.delivered ++
        ReceiveStream.callbackBytes endpoint.receive strand } complete rfl]
    exact underway

theorem working_called {connection : Connection.State} {strand : StrandId}
    (healthy : Healthy state)
    (moved : Connection.step state.connection (.strandStep side strand) = some connection) :
    Working { state with connection := connection } side := by
  have acts := Connection.acts_strandStep moved
  have called : Connection.onSide state.connection side (.strandStep strand)
    (fun endpoint => { endpoint with
      reported := endpoint.reported ++
        Connection.reportedBytes (state.connection.endpoint side) strand }) =
      some connection := moved
  obtain ⟨receive, received, rfl⟩ := Option.map_eq_some_iff.mp called
  have sound := sound_strandStep (healthy.sound side) received
  have unfailing := @unfailing_setEndpoint state side { state.connection.endpoint side with
    receive := receive
    reported := (state.connection.endpoint side).reported ++
      Connection.reportedBytes (state.connection.endpoint side) strand } healthy.toUnfailing
    sound (healthy.isOpen side) rfl
  exact ⟨unfailing.sound, unfailing.isOpen, fun other _ => unfailing.alive other,
    fun other _ => unfailing.outgoing other⟩

theorem healthy_onSend {connection : Connection.State} {strand : StrandId} {code : ErrorCode}
    (healthy : Healthy state) (kept : Kept next)
    (called : nextCallback (descriptor state.connection side) strand = some (.write, code))
    (moved : Connection.step state.connection (.strandStep side strand) = some connection)
    (started : next.phase .client ≠ .idle → state.phase .client ≠ .idle)
    (stepped : doRecv { state with connection := connection } side ec.OK = some next) :
    Healthy next := by
  have working := working_called healthy moved
  refine healthy_doRecv working kept ?_ stepped
  intro begun
  have own : Connection.onSide state.connection side (.strandStep strand)
    (fun endpoint => { endpoint with
      reported := endpoint.reported ++
        Connection.reportedBytes (state.connection.endpoint side) strand }) =
      some connection := moved
  obtain ⟨receive, received, rfl⟩ := Option.map_eq_some_iff.mp own
  refine inPlay_setEndpoint (healthy.inPlay (started begun)) ?_
  exact plays_sent rfl (healthy.kept.linked.kept side).flow.staged called received

/-- The client's callback of recv sends the next request, or the client is finished. -/
theorem healthy_onRecv {middle : State} (working : Working middle .client) (kept : Kept next)
    (stepped : onRecv middle ec.OK ec.OK = some next) : Healthy next ∨ Finished next := by
  have counted : Working { middle with completed := middle.completed + 1 } .client :=
    ⟨working.sound, working.isOpen, working.alive, working.outgoing⟩
  simp only [onRecv, if_true] at stepped
  split at stepped
  · rename_i stops
    right
    unfold destroy State.proceed at stepped
    obtain ⟨connection, _, rfl⟩ := Option.map_eq_some_iff.mp stepped
    exact ⟨Function.update_self Side.client Phase.ended middle.phase,
      Nat.le_antisymm kept.bounded (of_decide_eq_true stops)⟩
  · exact Or.inl (healthy_doSend counted kept stepped)

theorem healthy_strandStep {strand : StrandId} {result : ErrorCode} (healthy : Healthy state)
    (fails : succeeds (.strandStep side strand result) = true)
    (stepped : step state (.strandStep side strand result) = some next) :
    Healthy next ∨ Finished next := by
  have kept := kept_step healthy.kept stepped
  obtain rfl : result = ec.OK := of_decide_eq_true fails
  obtain ⟨middle, own, ran⟩ := Option.bind_eq_some_iff.mp stepped
  obtain ⟨_, connection, moved, rfl⟩ := own_eq_some.mp own
  have acts := Connection.acts_strandStep moved
  have staged := (healthy.kept.linked.kept side).flow.staged
  have working := working_called healthy moved
  cases called : nextCallback (descriptor state.connection side) strand with
  | none => exact absurd acts.stepped (outstanding_uncalled staged called)
  | some callback =>
      obtain ⟨direction, code⟩ := callback
      obtain rfl := (healthy.sound side).called called
      obtain ⟨waits, _, _⟩ := free_callback staged (healthy.kept.duty side) called acts.stepped
      rw [called] at ran
      cases direction with
      | write =>
          have sent : doRecv { state with connection := connection } side ec.OK = some next :=
            ran
          refine Or.inl (healthy_onSend healthy kept called moved ?_ sent)
          intro begun idle
          obtain ⟨_, _, rfl⟩ := Option.map_eq_some_iff.mp sent
          by_cases client : side = .client
          · subst client
            rw [idle] at waits
            cases waits
          · change Function.update state.phase side .receiving .client ≠ .idle at begun
            rw [Function.update_of_ne (Ne.symm client)] at begun
            exact begun idle
      | read =>
          cases side with
          | client => exact healthy_onRecv working kept ran
          | server => exact Or.inl (healthy_doSend working kept ran)

theorem healthy_step {action : Action} (healthy : Healthy state)
    (fails : succeeds action = true) (stepped : step state action = some next) :
    Healthy next ∨ Finished next := by
  cases action with
  | start side result => exact Or.inl (healthy_start healthy fails stepped)
  | arrive side count => exact Or.inl (healthy_arrive healthy stepped)
  | arriveEnd side => exact absurd stepped (healthy_arriveEnd healthy)
  | harvest side events => exact Or.inl (healthy_harvest healthy fails stepped)
  | handle side result => exact Or.inl (healthy_handle healthy fails stepped)
  | runTask side index system => exact Or.inl (healthy_runTask healthy fails stepped)
  | strandStep side strand result => exact healthy_strandStep healthy fails stepped

/-! ### A finished client -/

theorem finished_proceed {phase : Phase} {action : Connection.Action}
    (finished : Finished state) (stepped : state.proceed .server phase action = some next) :
    Finished next := by
  obtain ⟨connection, _, rfl⟩ := Option.map_eq_some_iff.mp stepped
  refine ⟨?_, finished.2⟩
  change Function.update state.phase .server phase .client = _
  rw [Function.update_of_ne (by decide)]
  exact finished.1

theorem finished_lift {action : Connection.Action} (finished : Finished state)
    (stepped : state.lift action = some next) : Finished next := by
  obtain ⟨connection, _, rfl⟩ := Option.map_eq_some_iff.mp stepped
  exact finished

theorem finished_own {action : Connection.Action} (finished : Finished state)
    (stepped : state.own side action = some next) : Finished next := by
  obtain ⟨_, connection, _, rfl⟩ := own_eq_some.mp stepped
  exact finished

theorem finished_onCallback {direction : Direction} {code result : ErrorCode}
    (finished : Finished state)
    (stepped : onCallback state .server direction code result = some next) :
    Finished next := by
  cases direction with
  | read =>
      simp only [onCallback, onRequest] at stepped
      split at stepped
      · exact finished_proceed finished stepped
      · exact finished_proceed finished stepped
  | write =>
      simp only [onCallback, onSend] at stepped
      split at stepped
      · exact finished_proceed finished stepped
      · exact finished_proceed finished stepped

/-- Whatever the server does, a finished client stays finished. -/
theorem finished_step {action : Action} (finished : Finished state)
    (stepped : step state action = some next) : Finished next := by
  cases action with
  | start side result =>
      simp only [step] at stepped
      split at stepped
      · rename_i idle
        cases side with
        | client =>
            rw [finished.1] at idle
            cases idle
        | server => exact finished_proceed finished stepped
      · cases stepped
  | arrive side count => exact finished_lift finished stepped
  | arriveEnd side => exact finished_lift finished stepped
  | harvest side events => exact finished_own finished stepped
  | handle side result => exact finished_own finished stepped
  | runTask side index system => exact finished_own finished stepped
  | strandStep side strand result =>
      obtain ⟨middle, own, ran⟩ := Option.bind_eq_some_iff.mp stepped
      have kept := finished_own finished own
      split at ran
      · cases ran
        exact kept
      · cases side with
        | client => exact absurd finished.1 (own_eq_some.mp own).1
        | server => exact finished_onCallback kept ran

/-! ### No closure is called empty -/

/-- Both ends are in the middle of runs whose `epoll_ctl` calls succeeded. -/
def Steady (connection : Connection.State) : Prop :=
  ∀ side, ∃ stages, Controlled (descriptor connection side) stages ∧
    Descriptor.History (descriptor connection side) stages

theorem steady_init (strand : Side → StrandId) : Steady (Connection.init strand) := by
  intro side
  exact ⟨_, Descriptor.controlled_init _ (strand side), Descriptor.history_init _ (strand side)⟩

theorem steady_acts {connection after : Connection.State} {action : ReceiveStream.Action}
    (steady : Steady connection) (armed : arms action = true)
    (acts : Connection.Acts connection after side action) : Steady after := by
  intro other
  by_cases own : other = side
  · subst other
    rcases descriptor_step acts.stepped with same | ⟨taken, moved, succeeds⟩
    · rw [descriptor, same]
      exact steady side
    · exact Descriptor.disciplined_step (steady side) (succeeds armed) moved
  · rw [descriptor, acts.same other own]
    exact steady other

theorem steady_shutdown {connection after : Connection.State} (steady : Steady connection)
    (stepped : Connection.step connection (.shutdown side) = some after) : Steady after := by
  intro other
  rw [descriptor, Connection.receive_shutdown stepped other]
  exact steady other

theorem steady_doSend (steady : Steady state.connection)
    (stepped : doSend state side ec.OK = some next) : Steady next.connection := by
  obtain ⟨connection, moved, rfl⟩ := Option.map_eq_some_iff.mp stepped
  exact steady_acts steady rfl (Connection.acts_send moved)

theorem steady_doRecv (steady : Steady state.connection)
    (stepped : doRecv state side ec.OK = some next) : Steady next.connection := by
  obtain ⟨connection, moved, rfl⟩ := Option.map_eq_some_iff.mp stepped
  exact steady_acts steady rfl (Connection.acts_recv moved)

theorem steady_destroy (steady : Steady state.connection)
    (stepped : destroy state side = some next) : Steady next.connection := by
  unfold destroy State.proceed at stepped
  obtain ⟨connection, moved, rfl⟩ := Option.map_eq_some_iff.mp stepped
  exact steady_shutdown steady moved

theorem steady_onCallback {direction : Direction} {code : ErrorCode}
    (steady : Steady state.connection)
    (stepped : onCallback state side direction code ec.OK = some next) :
    Steady next.connection := by
  cases direction with
  | write =>
      simp only [onCallback, onSend] at stepped
      split at stepped
      · exact steady_doRecv steady stepped
      · exact steady_destroy steady stepped
  | read =>
      cases side with
      | server =>
          simp only [onCallback, onRequest] at stepped
          split at stepped
          · exact steady_doSend steady stepped
          · exact steady_destroy steady stepped
      | client =>
          have counted : Steady
            { state with completed := state.completed + 1 : State }.connection := steady
          simp only [onCallback, onRecv] at stepped
          split at stepped
          · split at stepped
            · exact steady_destroy counted stepped
            · exact steady_doSend counted stepped
          · exact steady_destroy counted stepped

theorem steady_step {action : Action} (steady : Steady state.connection)
    (fails : succeeds action = true) (stepped : step state action = some next) :
    Steady next.connection := by
  cases action with
  | start side result =>
      obtain rfl : result = ec.OK := of_decide_eq_true fails
      simp only [step] at stepped
      split at stepped
      · cases side with
        | client => exact steady_doSend steady stepped
        | server => exact steady_doRecv steady stepped
      · cases stepped
  | arrive side count =>
      obtain ⟨connection, moved, rfl⟩ := Option.map_eq_some_iff.mp stepped
      exact steady_acts steady rfl (Connection.acts_arrive moved)
  | arriveEnd side =>
      obtain ⟨connection, moved, rfl⟩ := Option.map_eq_some_iff.mp stepped
      exact steady_acts steady rfl (Connection.acts_arriveEnd moved)
  | harvest side events =>
      obtain ⟨_, connection, moved, rfl⟩ := own_eq_some.mp stepped
      exact steady_acts steady rfl (Connection.acts_harvest moved)
  | handle side result =>
      obtain rfl : result = ec.OK := of_decide_eq_true fails
      obtain ⟨_, connection, moved, rfl⟩ := own_eq_some.mp stepped
      exact steady_acts steady rfl (Connection.acts_handle moved)
  | runTask side index system =>
      obtain ⟨_, connection, moved, rfl⟩ := own_eq_some.mp stepped
      obtain ⟨_, acts⟩ := Connection.acts_runTask moved
      exact steady_acts steady rfl acts
  | strandStep side strand result =>
      obtain rfl : result = ec.OK := of_decide_eq_true fails
      obtain ⟨middle, own, ran⟩ := Option.bind_eq_some_iff.mp stepped
      obtain ⟨_, connection, moved, rfl⟩ := own_eq_some.mp own
      have called := steady_acts steady rfl (Connection.acts_strandStep moved)
      split at ran
      · cases ran
        exact called
      · exact steady_onCallback called ran

/-! ### Going on -/

abbrev Faultless := { action : Action // succeeds action = true }

def stepFaultless (state : State) (action : Faultless) : Option State :=
  step state action.val

abbrev Reaches (state next : State) : Prop := Runs.Reaches stepFaultless state next

theorem reaches_step (action : Action) (fails : succeeds action = true)
    (stepped : step state action = some next) : Reaches state next :=
  Runs.Reaches.single (show stepFaultless state ⟨action, fails⟩ = some next from stepped)

structure Stays (state next : State) (side : Side) : Prop where
  phase : next.phase = state.phase
  completed : next.completed = state.completed
  limit : next.limit = state.limit
  others : ∀ other, other ≠ side →
    next.connection.endpoint other = state.connection.endpoint other

theorem Stays.trans {last : State} (first : Stays state next side)
    (later : Stays next last side) : Stays state last side :=
  ⟨later.phase.trans first.phase, later.completed.trans first.completed,
    later.limit.trans first.limit,
    fun other different => (later.others other different).trans (first.others other different)⟩

theorem stays_setEndpoint (state : State) (side : Side) (endpoint : Endpoint) :
    Stays state { state with connection := state.connection.setEndpoint side endpoint } side :=
  ⟨rfl, rfl, rfl, fun _ different => Connection.State.setEndpoint_ne _ _ different⟩

theorem own_onSide {action : Connection.Action} {acting : ReceiveStream.Action}
    {change : Endpoint → Endpoint} {receive : ReceiveStream.State}
    (alive : state.phase side ≠ .ended)
    (steps : Connection.step state.connection action =
      Connection.onSide state.connection side acting change)
    (received : ReceiveStream.step (state.connection.endpoint side).receive acting =
      some receive) :
    state.own side action = some { state with
      connection := state.connection.setEndpoint side
        (change { state.connection.endpoint side with receive := receive }) } := by
  refine own_eq_some.mpr ⟨alive, _, ?_, rfl⟩
  rw [steps, Connection.onSide, received]
  rfl

def Completing (state : State) (side : Side) (direction : Direction) : Prop :=
  ∃ completion, ((descriptor state.connection side).event direction).complete =
    some completion

theorem Healthy.goesOn (healthy : Healthy state) (action : Action)
    (fails : succeeds action = true) (stepped : step state action = some next)
    (alive : next.phase .client ≠ .ended) : Reaches state next ∧ Healthy next :=
  ⟨reaches_step action fails stepped, (healthy_step healthy fails stepped).resolve_right
    (fun finished => alive finished.1)⟩

theorem completing_runTask {receive : ReceiveStream.State} (index : Nat) {task : Dispatch}
    {operation : Nat} (react : (receive.descriptor.event task.direction).react = some operation)
    (sent : ErrorCode × Int) :
    ∃ completion, ((ReceiveStream.runTask receive index task sent).descriptor.event
      task.direction).complete = some completion := by
  have runs : ∃ fin, (ReceiveStream.runTask receive index task sent).descriptor =
      Descriptor.runTask receive.descriptor index task fin := by
    unfold ReceiveStream.runTask
    split
    · exact ⟨_, rfl⟩
    · exact ⟨sent, rfl⟩
  obtain ⟨fin, ran⟩ := runs
  rw [ran, Descriptor.runTask_some react]
  simp only [Descriptor.forCompletion, Function.update_self]
  exact ⟨_, rfl⟩

def Completes (state : State) (side : Side) (direction : Direction) : Prop :=
  ∃ next, Reaches state next ∧ Healthy next ∧ Stays state next side ∧
    Completing next side direction ∧
    (direction = .write → (next.connection.endpoint side).wire ≠ [])

theorem Completes.after {direction : Direction} (reaches : Reaches state next)
    (stays : Stays state next side) (completes : Completes next side direction) :
    Completes state side direction := by
  obtain ⟨last, later, healthy, further, completing, wire⟩ := completes
  exact ⟨last, reaches.trans later, healthy, stays.trans further, completing, wire⟩

theorem completes_task {index : Nat} {task : Dispatch} (healthy : Healthy state)
    (found : (descriptor state.connection side).tasks[index]? = some task) :
    Completes state side task.direction := by
  have sound := healthy.sound side
  obtain ⟨ok, stages, operation, controlled, _, react⟩ := sound.task found
  have runs : ∀ sent, ReceiveStream.step (state.connection.endpoint side).receive
      (.runTask index sent) =
        some (ReceiveStream.runTask (state.connection.endpoint side).receive index task sent) := by
    intro sent
    simp only [ReceiveStream.step, controlled.running, Bool.false_eq_true, if_false, found,
      Option.map_some]
  cases direction : task.direction with
  | write =>
      have outgoing := healthy.sending (by rw [direction] at react; exact react)
      have length : 0 < (state.connection.endpoint side).outgoing.length := by
        rw [outgoing]
        exact List.length_pos_iff.mpr (message_ne_nil side)
      generalize taken : (state.connection.endpoint side).outgoing.length = count at length
      have allowed : Connection.maySend (state.connection.endpoint side).outgoing
          (state.connection.endpoint side).finished (.ok count) = true := by
        rw [healthy.isOpen side]
        simp [Connection.maySend, taken, length]
      have writing : Connection.sends (descriptor state.connection side) task = true := by
        rw [direction] at react
        simp [Connection.sends, direction, ok, react]
      have steps : Connection.step state.connection (.runTask side index (.ok count)) =
          Connection.onSide state.connection side
            (.runTask index (Connection.sendResult (.ok count))) fun endpoint =>
              { endpoint with
                sent := endpoint.sent ++ Connection.sentBytes endpoint.outgoing (.ok count)
                wire := endpoint.wire ++
                  Connection.sentBytes endpoint.outgoing (.ok count) } := by
        simp only [Connection.step, found, Option.bind_some, if_pos writing,
          Connection.runSend, if_pos allowed]
      have stepped := own_onSide (healthy.alive side) steps (runs _)
      obtain ⟨reaches, still⟩ := healthy.goesOn (.runTask side index (.ok count)) rfl stepped
        (healthy.alive .client)
      refine ⟨_, reaches, still, stays_setEndpoint state side _, ?_, ?_⟩
      · obtain ⟨completion, stored⟩ := completing_runTask index react
          (Connection.sendResult (.ok count))
        refine ⟨completion, ?_⟩
        rw [descriptor, Connection.State.setEndpoint_self, ← direction]
        exact stored
      · intro _writes
        change ((state.connection.setEndpoint side _).endpoint side).wire ≠ []
        rw [Connection.State.setEndpoint_self]
        intro none
        refine sentBytes_ne_nil ?_ allowed (List.append_eq_nil_iff.mp none).2
        rw [outgoing]
        exact message_ne_nil side
  | read =>
      have reading : ¬ Connection.sends (descriptor state.connection side) task = true := by
        simp [Connection.sends, direction]
      have steps : Connection.step state.connection (.runTask side index (.ok 0)) =
          Connection.onSide state.connection side (.runTask index (ec.OK, 0)) id := by
        simp only [Connection.step, found, Option.bind_some, if_neg reading]
      have stepped := own_onSide (healthy.alive side) steps (runs _)
      obtain ⟨reaches, still⟩ := healthy.goesOn (.runTask side index (.ok 0)) rfl stepped
        (healthy.alive .client)
      refine ⟨_, reaches, still, stays_setEndpoint state side _, ?_, ?_⟩
      · obtain ⟨completion, stored⟩ := completing_runTask index react (ec.OK, 0)
        refine ⟨completion, ?_⟩
        rw [descriptor, Connection.State.setEndpoint_self, ← direction]
        exact stored
      · intro impossible
        cases impossible

theorem enabled_handle {receive : ReceiveStream.State} {events : Events} (sound : Sound receive)
    (reported : receive.descriptor.report = some events) :
    ReceiveStream.step receive (.handle ec.OK) =
      some { receive with
        descriptor := Descriptor.handle receive.descriptor events ec.OK } := by
  obtain ⟨stages, controlled⟩ := sound.controlled
  have allowed : ReceiveStream.armResult ec.OK = true := by decide
  have handled : Descriptor.step receive.descriptor (.handle ec.OK) = _ :=
    Descriptor.step_handle.mpr ⟨controlled.running, events, reported, rfl⟩
  simp only [ReceiveStream.step, allowed, if_true, handled, Option.map_some]

theorem reportable_of_has {interest : EventMask} {direction : Direction}
    (armed : interest.has direction = true) :
    Descriptor.reportable interest direction.bit = true := by
  have nonzero := (EventMask.nonzero_iff interest).mpr ⟨direction, armed⟩
  unfold Descriptor.reportable
  cases direction with
  | read =>
      have other : has (Direction.bit .read) EPOLLOUT = false := by decide
      rw [nonzero, armed, other]
      rfl
  | write =>
      have other : has (Direction.bit .write) EPOLLIN = false := by decide
      rw [nonzero, armed, other]
      rfl

theorem enabled_harvest {receive : ReceiveStream.State} {direction : Direction}
    (sound : Sound receive) (free : receive.descriptor.report = none)
    (armed : receive.descriptor.interest.has direction = true)
    (readable : direction = .read → receive.socket.unread ≠ []) :
    ReceiveStream.step receive (.harvest direction.bit) =
      some { receive with
        descriptor := { receive.descriptor with
          report := some direction.bit, interest := EventMask.empty } } := by
  obtain ⟨stages, controlled⟩ := sound.controlled
  have may : ReceiveStream.mayReport receive.socket direction.bit = true := by
    cases direction with
    | write => rfl
    | read =>
        have unread := List.isEmpty_eq_false_iff.mpr (readable rfl)
        have noHangUp : has (Direction.bit .read) EPOLLHUP = false := by decide
        simp [ReceiveStream.mayReport, ReceiveStream.Socket.readable, unread, noHangUp]
  have harvested : Descriptor.step receive.descriptor (.harvest direction.bit) = _ :=
    Descriptor.step_harvest.mpr ⟨controlled.running, free, reportable_of_has armed, rfl⟩
  simp only [ReceiveStream.step, may, if_true, harvested, Option.map_some]

theorem goesOn_handle {events : Events} (healthy : Healthy state)
    (reported : (descriptor state.connection side).report = some events) :
    ∃ next, Reaches state next ∧ Healthy next ∧ Stays state next side ∧
      (next.connection.endpoint side).receive.socket =
        (state.connection.endpoint side).receive.socket ∧
      descriptor next.connection side =
        Descriptor.handle (descriptor state.connection side) events ec.OK := by
  have steps : Connection.step state.connection (.handle side ec.OK) =
      Connection.onSide state.connection side (.handle ec.OK) id := rfl
  have stepped := own_onSide (healthy.alive side) steps
    (enabled_handle (healthy.sound side) reported)
  obtain ⟨reaches, still⟩ := healthy.goesOn (.handle side ec.OK) rfl stepped
    (healthy.alive .client)
  refine ⟨_, reaches, still, stays_setEndpoint state side _, ?_, ?_⟩
  · rw [Connection.State.setEndpoint_self]
    rfl
  · rw [descriptor, Connection.State.setEndpoint_self]
    rfl

theorem completes_report {events : Events} {direction : Direction} (healthy : Healthy state)
    (reported : (descriptor state.connection side).report = some events)
    (bit : has events direction.bit = true) : Completes state side direction := by
  obtain ⟨next, reaches, still, stays, _, handled⟩ := goesOn_handle healthy reported
  have dispatched : tasksFor (dispatchReport events) direction ≠ 0 := by
    rw [tasksFor_dispatchReport, if_pos bit]
    exact Nat.one_ne_zero
  obtain ⟨task, member, rfl⟩ := (Descriptor.exists_task_iff _ _).mpr dispatched
  have queued : task ∈ (descriptor next.connection side).tasks := by
    rw [handled, Descriptor.handle_tasks, Descriptor.dispatches_ok]
    exact List.mem_append_right _ member
  obtain ⟨index, found⟩ := List.mem_iff_getElem?.mp queued
  exact (completes_task still found).after reaches stays

theorem completes_armed {direction : Direction} (healthy : Healthy state)
    (free : (descriptor state.connection side).report = none)
    (armed : (descriptor state.connection side).interest.has direction = true)
    (readable : direction = .read →
      (state.connection.endpoint side).receive.socket.unread ≠ []) :
    Completes state side direction := by
  have steps : Connection.step state.connection (.harvest side direction.bit) =
      Connection.onSide state.connection side (.harvest direction.bit) id := rfl
  have stepped := own_onSide (healthy.alive side) steps
    (enabled_harvest (healthy.sound side) free armed readable)
  have unfailing : succeeds (.harvest side direction.bit) = true := by
    cases direction <;> rfl
  obtain ⟨reaches, still⟩ := healthy.goesOn (.harvest side direction.bit) unfailing stepped
    (healthy.alive .client)
  have self : has direction.bit direction.bit = true := by
    cases direction <;> decide
  refine (completes_report still ?_ self).after reaches (stays_setEndpoint state side _)
  rw [descriptor, Connection.State.setEndpoint_self]
  rfl

/-- Wherever a pending operation is, it can be brought to its callback. -/
theorem completes_pending {direction : Direction} {operation : Nat} (healthy : Healthy state)
    (react : ((descriptor state.connection side).event direction).react = some operation)
    (readable : direction = .read →
      (state.connection.endpoint side).receive.socket.unread ≠ []) :
    Completes state side direction := by
  obtain ⟨stages, controlled⟩ := (healthy.sound side).controlled
  have counted := controlled.tokens direction
  rw [controlled.staged.pending_of_react react] at counted
  by_cases tasked : tasksFor (descriptor state.connection side).tasks direction = 0
  · have masked : (descriptor state.connection side).eventMask.has direction = true := by
      simp only [Descriptor.tokenCount, Stage.tokens] at counted
      rw [tasked] at counted
      exact Bool.toNat_eq_one.mp counted
    cases reported : (descriptor state.connection side).report with
    | none =>
        exact completes_armed healthy reported (controlled.armed reported direction masked)
          readable
    | some events =>
        cases bit : has events direction.bit with
        | true => exact completes_report healthy reported bit
        | false =>
            obtain ⟨next, reaches, still, stays, socket, handled⟩ :=
              goesOn_handle healthy reported
            obtain ⟨after, again⟩ := (still.sound side).controlled
            have none : (descriptor next.connection side).report = none := by
              rw [handled]
              exact ReceiveStream.report_handle ..
            have left : (descriptor next.connection side).eventMask.has direction = true := by
              rw [handled, Descriptor.handle_eventMask, clearReported_has, masked, bit]
              rfl
            refine (completes_armed still none (again.armed none direction left) ?_).after
              reaches stays
            rw [socket]
            exact readable
  · obtain ⟨task, member, rfl⟩ := (Descriptor.exists_task_iff _ _).mpr tasked
    obtain ⟨index, found⟩ := List.mem_iff_getElem?.mp member
    exact completes_task healthy found

/-! ### From one callback to the next operation -/

structure Turned (state next : State) (side : Side) (turn : Phase) : Prop where
  phase : next.phase = Function.update state.phase side turn
  completed : next.completed = state.completed
  limit : next.limit = state.limit
  others : ∀ other, other ≠ side →
    next.connection.endpoint other = state.connection.endpoint other
  socket : (next.connection.endpoint side).receive.socket =
    (state.connection.endpoint side).receive.socket
  wire : (next.connection.endpoint side).wire = (state.connection.endpoint side).wire
  react : ∀ direction, turn.waits = some direction →
    ((descriptor next.connection side).event direction).react.isSome = true

/-- The end starts the operation that it then waits for. -/
theorem turned_onSide {turn : Phase} {direction : Direction} {receives : ReceiveStream.Action}
    {change : Endpoint → Endpoint} {connection : Connection.State}
    (moved : Connection.onSide state.connection side receives change = some connection)
    (begins : starts receives = some (direction, ec.OK)) (waits : turn.waits = some direction)
    (keeps : ∀ endpoint, (change endpoint).receive = endpoint.receive ∧
      (change endpoint).wire = endpoint.wire) :
    Turned state { state with
      connection := connection
      phase := Function.update state.phase side turn } side turn := by
  obtain ⟨receive, received, rfl⟩ := Option.map_eq_some_iff.mp moved
  obtain ⟨initiated, socket⟩ := receive_starts begins received
  obtain ⟨own, wire⟩ := keeps { state.connection.endpoint side with receive := receive }
  have here := state.connection.setEndpoint_self side
    (change { state.connection.endpoint side with receive := receive })
  refine ⟨rfl, rfl, rfl, fun _ different => Connection.State.setEndpoint_ne _ _ different,
    ?_, ?_, ?_⟩
  · rw [here, own]
    exact socket
  · rw [here, wire]
  · intro other same
    rw [waits] at same
    cases same
    rw [descriptor, here, own, initiated, (initiated_event direction direction).2,
      decide_eq_true rfl, Bool.true_or]

theorem turned_doSend (stepped : doSend state side ec.OK = some next) :
    Turned state next side .sending := by
  obtain ⟨connection, moved, rfl⟩ := Option.map_eq_some_iff.mp stepped
  have sent : Connection.onSide state.connection side (.send ec.OK)
    (fun endpoint => { endpoint with outgoing := message side }) = some connection := moved
  exact turned_onSide sent rfl rfl (fun _ => ⟨rfl, rfl⟩)

theorem turned_doRecv (stepped : doRecv state side ec.OK = some next) :
    Turned state next side .receiving := by
  obtain ⟨connection, moved, rfl⟩ := Option.map_eq_some_iff.mp stepped
  have received : Connection.onSide state.connection side (.recv recvBufferSize ec.OK) id =
    some connection := moved
  exact turned_onSide received rfl rfl (fun _ => ⟨rfl, rfl⟩)

theorem queued_of_completing {descriptor : Descriptor.State} {stages : Direction → Stage}
    {direction : Direction} {completion : Descriptor.Completion}
    (staged : Descriptor.Staged descriptor stages)
    (stored : (descriptor.event direction).complete = some completion)
    (only : ∀ other, other ≠ direction → descriptor.outstanding other = none) :
    ∃ rest, descriptor.strandQueue descriptor.strand = direction :: rest := by
  have stage := (staged.stage direction).complete
  rw [stored] at stage
  have counted := (staged.stage direction).strandTasks
  cases known : stages direction with
  | idle =>
      rw [known] at stage
      cases stage
  | pending operation =>
      rw [known] at stage
      cases stage
  | completing other =>
      rw [known] at counted
      cases queued : descriptor.strandQueue descriptor.strand with
      | nil =>
          rw [queued] at counted
          cases counted
      | cons head rest =>
          by_cases same : head = direction
          · exact ⟨rest, by rw [same]⟩
          · have none := (staged.stage head).strandTasks
            rw [staged.idle_of_outstanding (only head same), queued, List.count_cons_self] at none
            cases none

/-- The callback of a completed operation can run, and is told `ec::OK`. -/
theorem calls {direction : Direction} (healthy : Healthy state)
    (completing : Completing state side direction) :
    ∃ strand endpoint,
      nextCallback (descriptor state.connection side) strand = some (direction, ec.OK) ∧
      state.own side (.strandStep side strand) = some { state with
        connection := state.connection.setEndpoint side endpoint } ∧
      endpoint.receive.socket = (state.connection.endpoint side).receive.socket ∧
      endpoint.wire = (state.connection.endpoint side).wire := by
  obtain ⟨completion, stored⟩ := completing
  obtain ⟨stages, controlled⟩ := (healthy.sound side).controlled
  have stage := (controlled.staged.stage direction).outstanding
  have waits : (state.phase side).waits = some direction := by
    by_contra different
    have none := ((healthy.kept.duty side).outstanding direction).mpr different
    have idle := (controlled.staged.stage direction).complete
    rw [controlled.staged.idle_of_outstanding none] at idle
    rw [idle] at stored
    cases stored
  have only : ∀ other, other ≠ direction →
      (descriptor state.connection side).outstanding other = none := by
    intro other different
    apply ((healthy.kept.duty side).outstanding other).mpr
    rw [waits]
    exact fun same => different (Option.some.inj same).symm
  obtain ⟨rest, queued⟩ := queued_of_completing controlled.staged stored only
  have ran : Descriptor.step (descriptor state.connection side)
      (.strandStep (descriptor state.connection side).strand) = _ :=
    Descriptor.step_strandStep.mpr ⟨controlled.running, direction, rest, queued, rfl⟩
  obtain ⟨receive, received, socket⟩ : ∃ receive,
      ReceiveStream.step (state.connection.endpoint side).receive
        (.strandStep (descriptor state.connection side).strand) = some receive ∧
      receive.socket = (state.connection.endpoint side).receive.socket :=
    ⟨_, Option.map_eq_some_iff.mpr ⟨_, ran, rfl⟩, rfl⟩
  generalize (descriptor state.connection side).strand = strand at queued received
  have steps : Connection.step state.connection (.strandStep side strand) =
      Connection.onSide state.connection side (.strandStep strand) fun endpoint =>
        { endpoint with
          reported := endpoint.reported ++
            Connection.reportedBytes (state.connection.endpoint side) strand } := rfl
  have own := own_onSide (healthy.alive side) steps received
  have called : nextCallback (descriptor state.connection side) strand = some (direction,
      (Descriptor.callbackArguments (Descriptor.streamKind direction)
        completion.ec completion.bytes).1) := by
    simp only [nextCallback, queued, stored, Option.map_some]
  refine ⟨strand, _, ?_, own, socket, rfl⟩
  rw [called, (healthy.sound side).called called]

theorem Turned.of_called {endpoint : Endpoint} {turn : Phase}
    (turned : Turned { state with connection := state.connection.setEndpoint side endpoint }
      next side turn)
    (socket : endpoint.receive.socket = (state.connection.endpoint side).receive.socket)
    (wire : endpoint.wire = (state.connection.endpoint side).wire) :
    Turned state next side turn := by
  have here := state.connection.setEndpoint_self side endpoint
  refine ⟨turned.phase, turned.completed, turned.limit, ?_, ?_, ?_, turned.react⟩
  · intro other different
    exact (turned.others other different).trans
      (Connection.State.setEndpoint_ne _ _ different)
  · rw [turned.socket, here, socket]
  · rw [turned.wire, here, wire]

theorem runs_callback {direction : Direction} (healthy : Healthy state)
    (completing : Completing state side direction) :
    ∃ strand endpoint next, step state (.strandStep side strand ec.OK) = some next ∧
      onCallback { state with connection := state.connection.setEndpoint side endpoint }
        side direction ec.OK ec.OK = some next ∧
      endpoint.receive.socket = (state.connection.endpoint side).receive.socket ∧
      endpoint.wire = (state.connection.endpoint side).wire := by
  obtain ⟨strand, endpoint, called, own, socket, wire⟩ := calls healthy completing
  have accepted := healthy.kept.halfDuplex.accepted side strand ec.OK (by decide)
    (by rw [own]; rfl)
  obtain ⟨next, stepped⟩ := Option.isSome_iff_exists.mp accepted
  refine ⟨strand, endpoint, next, stepped, ?_, socket, wire⟩
  have ran : (state.own side (.strandStep side strand)).bind _ = some next := stepped
  rw [own, Option.bind_some, called] at ran
  exact ran

theorem finishes_send (healthy : Healthy state) (completing : Completing state side .write) :
    ∃ next, Reaches state next ∧ Healthy next ∧ Turned state next side .receiving := by
  obtain ⟨strand, endpoint, next, stepped, ran, socket, wire⟩ :=
    runs_callback healthy completing
  have turned := (turned_doRecv ran).of_called socket wire
  have alive : next.phase .client ≠ .ended := by
    rw [turned.phase]
    by_cases client : Side.client = side
    · rw [← client, Function.update_self]
      decide
    · rw [Function.update_of_ne client]
      exact healthy.alive .client
  obtain ⟨reaches, still⟩ := healthy.goesOn (.strandStep side strand ec.OK) rfl stepped alive
  exact ⟨next, reaches, still, turned⟩

theorem finishes_request (healthy : Healthy state)
    (completing : Completing state .server .read) :
    ∃ next, Reaches state next ∧ Healthy next ∧ Turned state next .server .sending := by
  obtain ⟨strand, endpoint, next, stepped, ran, socket, wire⟩ :=
    runs_callback healthy completing
  have turned := (turned_doSend ran).of_called socket wire
  have alive : next.phase .client ≠ .ended := by
    rw [turned.phase, Function.update_of_ne (by decide)]
    exact healthy.alive .client
  obtain ⟨reaches, still⟩ := healthy.goesOn (.strandStep .server strand ec.OK) rfl stepped alive
  exact ⟨next, reaches, still, turned⟩

theorem finishes_reply (healthy : Healthy state) (completing : Completing state .client .read) :
    ∃ next, Reaches state next ∧ (Finished next ∨ (Healthy next ∧
      next.phase .client = .sending ∧ next.completed = state.completed + 1 ∧
      next.limit = state.limit)) := by
  obtain ⟨strand, endpoint, next, stepped, ran, _, _⟩ := runs_callback healthy completing
  have reaches : Reaches state next :=
    reaches_step (.strandStep .client strand ec.OK) rfl stepped
  have ends := healthy_strandStep healthy rfl stepped
  refine ⟨next, reaches, ?_⟩
  rcases ends with still | finished
  · right
    change onRecv _ ec.OK ec.OK = some next at ran
    simp only [onRecv, if_true] at ran
    split at ran
    · unfold destroy State.proceed at ran
      obtain ⟨connection, _, rfl⟩ := Option.map_eq_some_iff.mp ran
      exact absurd (Function.update_self Side.client Phase.ended state.phase)
        (still.alive .client)
    · have turned := turned_doSend ran
      refine ⟨still, ?_, turned.completed, turned.limit⟩
      rw [turned.phase]
      exact Function.update_self Side.client Phase.sending state.phase
  · exact Or.inl finished

/-- Wherever the outstanding operation is, its callback can be brought about. -/
theorem completes_waiting {direction : Direction} (healthy : Healthy state)
    (waits : (state.phase side).waits = some direction)
    (readable : direction = .read →
      (state.connection.endpoint side).receive.socket.unread ≠ []) :
    Completing state side direction ∨ Completes state side direction := by
  obtain ⟨stages, controlled⟩ := (healthy.sound side).controlled
  have outstanding := (controlled.staged.stage direction).outstanding
  have busy : (descriptor state.connection side).outstanding direction ≠ none := by
    intro none
    exact ((healthy.kept.duty side).outstanding direction).mp none waits
  cases known : stages direction with
  | idle =>
      rw [known] at outstanding
      exact absurd outstanding busy
  | pending operation =>
      have react := (controlled.staged.stage direction).react
      rw [known] at react
      exact Or.inr (completes_pending healthy react readable)
  | completing completion =>
      have stored := (controlled.staged.stage direction).complete
      rw [known] at stored
      exact Or.inl ⟨completion, stored⟩

/-! ### A reply is always due -/

/-- The client can get bytes to read, with as many requests completed as now. -/
def Due (state : State) : Prop :=
  ∃ next, Reaches state next ∧ Healthy next ∧ next.phase .client = .receiving ∧
    next.completed = state.completed ∧ next.limit = state.limit ∧
    ((next.connection.endpoint .client).receive.socket.unread ≠ [] ∨
      Completing next .client .read)

theorem Due.after (reaches : Reaches state next) (completed : next.completed = state.completed)
    (limit : next.limit = state.limit) (due : Due next) : Due state := by
  obtain ⟨last, later, healthy, phase, same, sameLimit, bytes⟩ := due
  exact ⟨last, reaches.trans later, healthy, phase, same.trans completed,
    sameLimit.trans limit, bytes⟩

theorem arrives (healthy : Healthy state) (wire : (state.connection.endpoint side).wire ≠ []) :
    ∃ next, Reaches state next ∧ Healthy next ∧ next.phase = state.phase ∧
      next.completed = state.completed ∧ next.limit = state.limit ∧
      (next.connection.endpoint side.other).receive.socket.unread ≠ [] := by
  generalize length : (state.connection.endpoint side).wire.length = count
  have isOpen := (healthy.sound side.other).isOpen
  have enabled : (step state (.arrive side count)).isSome = true := by
    simp only [step, State.lift, Connection.step, Connection.arrive, Connection.onSide,
      ReceiveStream.step, isOpen, Bool.false_eq_true, if_false, Option.map_some,
      Option.isSome_some]
  obtain ⟨next, stepped⟩ := Option.isSome_iff_exists.mp enabled
  obtain ⟨connection, moved, rfl⟩ := Option.map_eq_some_iff.mp stepped
  have acts := Connection.acts_arrive moved
  have written := (ReceiveStream.step_write.mp acts.stepped).2
  obtain ⟨reaches, still⟩ := healthy.goesOn (.arrive side count) rfl stepped
    (healthy.alive .client)
  refine ⟨_, reaches, still, rfl, rfl, rfl, ?_⟩
  change (connection.endpoint side.other).receive.socket.unread ≠ []
  rw [← written, ← length, List.take_length]
  exact fun none => wire (List.append_eq_nil_iff.mp none).2

theorem due_of_wire (healthy : Healthy state) (waits : state.phase .client = .receiving)
    (wire : (state.connection.endpoint .server).wire ≠ []) : Due state := by
  obtain ⟨next, reaches, still, phase, completed, limit, unread⟩ := arrives healthy wire
  exact ⟨next, reaches, still, by rw [phase]; exact waits, completed, limit, Or.inl unread⟩

theorem due_of_reply {operation : Nat} (healthy : Healthy state)
    (waits : state.phase .client = .receiving)
    (react : ((descriptor state.connection .server).event .write).react = some operation) :
    Due state := by
  obtain ⟨next, reaches, still, stays, _, wire⟩ := completes_pending healthy react
    (by intro impossible; cases impossible)
  refine Due.after reaches stays.completed stays.limit (due_of_wire still ?_ (wire rfl))
  rw [stays.phase]
  exact waits

theorem due_of_request (healthy : Healthy state) (waits : state.phase .client = .receiving)
    (completing : Completing state .server .read) : Due state := by
  obtain ⟨next, reaches, still, turned⟩ := finishes_request healthy completing
  obtain ⟨operation, react⟩ := Option.isSome_iff_exists.mp (turned.react .write rfl)
  refine Due.after reaches turned.completed turned.limit (due_of_reply still ?_ react)
  rw [turned.phase, Function.update_of_ne (by decide)]
  exact waits

theorem due_of_receiving (healthy : Healthy state) (waits : state.phase .client = .receiving)
    (serves : state.phase .server = .receiving)
    (unread : (state.connection.endpoint .server).receive.socket.unread ≠ []) :
    Due state := by
  have waiting : (state.phase .server).waits = some .read := by rw [serves]; rfl
  rcases completes_waiting healthy waiting (fun _ => unread) with completing | completes
  · exact due_of_request healthy waits completing
  · obtain ⟨next, reaches, still, stays, completing, _⟩ := completes
    refine Due.after reaches stays.completed stays.limit (due_of_request still ?_ completing)
    rw [stays.phase]
    exact waits

theorem due_of_turned (turned : Turned state next .server .receiving)
    (reaches : Reaches state next) (still : Healthy next)
    (waits : state.phase .client = .receiving)
    (unread : (state.connection.endpoint .server).receive.socket.unread ≠ []) :
    Due state := by
  refine Due.after reaches turned.completed turned.limit (due_of_receiving still ?_ ?_ ?_)
  · rw [turned.phase, Function.update_of_ne (by decide)]
    exact waits
  · rw [turned.phase, Function.update_self]
  · rw [turned.socket]
    exact unread

/-- A server with bytes to read gets to read them, whatever it is doing. -/
theorem due_of_unread (healthy : Healthy state) (waits : state.phase .client = .receiving)
    (unread : (state.connection.endpoint .server).receive.socket.unread ≠ []) :
    Due state := by
  cases serves : state.phase .server with
  | ended => exact absurd serves (healthy.alive .server)
  | receiving => exact due_of_receiving healthy waits serves unread
  | idle =>
      have free := healthy.kept.free serves
      obtain ⟨stages, controlled⟩ := (healthy.sound .server).controlled
      have allowed : ReceiveStream.armResult ec.OK = true := by decide
      obtain ⟨next, started⟩ := Option.isSome_iff_exists.mp
        (doRecv_isSome free controlled.running allowed)
      have stepped : step state (.start .server ec.OK) = some next := by
        simp only [step, serves, if_true, started]
      have turned := turned_doRecv started
      have alive : next.phase .client ≠ .ended := by
        rw [turned.phase, Function.update_of_ne (by decide), waits]
        decide
      obtain ⟨reaches, still⟩ := healthy.goesOn (.start .server ec.OK) rfl stepped alive
      exact due_of_turned turned reaches still waits unread
  | sending =>
      have waiting : (state.phase .server).waits = some .write := by rw [serves]; rfl
      rcases completes_waiting healthy waiting (by intro impossible; cases impossible) with
        completing | completes
      · obtain ⟨next, reaches, still, turned⟩ := finishes_send healthy completing
        exact due_of_turned turned reaches still waits unread
      · obtain ⟨next, reaches, still, stays, _, wire⟩ := completes
        refine Due.after reaches stays.completed stays.limit (due_of_wire still ?_ (wire rfl))
        rw [stays.phase]
        exact waits

/-- While a byte is in play the client is not left waiting. -/
theorem due_of_receiving_client (healthy : Healthy state)
    (waits : state.phase .client = .receiving) : Due state := by
  obtain ⟨side, plays⟩ := healthy.inPlay (by rw [waits]; decide)
  have completing : ∀ {side : Side},
      (state.connection.endpoint side).receive.underway ≠ [] → Completing state side .read := by
    intro side underway
    cases stored : (state.connection.endpoint side).receive.completion with
    | none => exact absurd (ReceiveStream.underway_of_none stored) underway
    | some completion => exact ⟨completion, stored⟩
  rcases plays with react | wire | unread | underway
  · obtain ⟨operation, react⟩ := Option.isSome_iff_exists.mp react
    cases side with
    | server => exact due_of_reply healthy waits react
    | client =>
        obtain ⟨stages, staged⟩ := (healthy.kept.linked.kept .client).flow.staged
        have outstanding := (staged.stage .write).outstanding
        rw [staged.pending_of_react react,
          ((healthy.kept.duty .client).outstanding .write).mpr (by rw [waits]; decide)]
          at outstanding
        cases outstanding
  · cases side with
    | server => exact due_of_wire healthy waits wire
    | client =>
        obtain ⟨next, reaches, still, phase, completed, limit, unread⟩ := arrives healthy wire
        exact Due.after reaches completed limit
          (due_of_unread still (by rw [phase]; exact waits) unread)
  · cases side with
    | server => exact due_of_unread healthy waits unread
    | client => exact ⟨state, Runs.Reaches.refl state, healthy, waits, rfl, rfl, Or.inl unread⟩
  · cases side with
    | server => exact due_of_request healthy waits (completing underway)
    | client =>
        exact ⟨state, Runs.Reaches.refl state, healthy, waits, rfl, rfl,
          Or.inr (completing underway)⟩

/-! ### The last request -/

def CanFinish (state : State) : Prop := ∃ next, Reaches state next ∧ Finished next

theorem CanFinish.after (reaches : Reaches state next) (finishes : CanFinish next) :
    CanFinish state := by
  obtain ⟨last, later, finished⟩ := finishes
  exact ⟨last, reaches.trans later, finished⟩

/-- A request that is being sent gets out, and the client waits for the reply. -/
theorem turns_to_reply (healthy : Healthy state) (sends : state.phase .client = .sending) :
    ∃ next, Reaches state next ∧ Healthy next ∧ next.phase .client = .receiving ∧
      next.completed = state.completed ∧ next.limit = state.limit := by
  have waits : (state.phase .client).waits = some .write := by rw [sends]; rfl
  rcases completes_waiting healthy waits (by intro impossible; cases impossible) with
    completing | completes
  · obtain ⟨next, reaches, still, turned⟩ := finishes_send healthy completing
    refine ⟨next, reaches, still, ?_, turned.completed, turned.limit⟩
    rw [turned.phase, Function.update_self]
  · obtain ⟨middle, reaches, healthyMiddle, stays, completing, _⟩ := completes
    obtain ⟨next, later, still, turned⟩ := finishes_send healthyMiddle completing
    refine ⟨next, reaches.trans later, still, ?_, turned.completed.trans stays.completed,
      turned.limit.trans stays.limit⟩
    rw [turned.phase, Function.update_self]

/-- The reply that is due completes one more request. -/
theorem completes_request (healthy : Healthy state)
    (waits : state.phase .client = .receiving) :
    ∃ next, Reaches state next ∧ (Finished next ∨ (Healthy next ∧
      next.phase .client = .sending ∧ next.completed = state.completed + 1 ∧
      next.limit = state.limit)) := by
  obtain ⟨middle, reaches, still, phase, completed, limit, bytes⟩ :=
    due_of_receiving_client healthy waits
  have received : ∃ read, Reaches middle read ∧ Healthy read ∧ Completing read .client .read ∧
      read.completed = middle.completed ∧ read.limit = middle.limit := by
    rcases bytes with unread | completing
    · have waiting : (middle.phase .client).waits = some .read := by rw [phase]; rfl
      rcases completes_waiting still waiting (fun _ => unread) with completing | completes
      · exact ⟨middle, Runs.Reaches.refl middle, still, completing, rfl, rfl⟩
      · obtain ⟨read, further, healthyRead, stays, completing, _⟩ := completes
        exact ⟨read, further, healthyRead, completing, stays.completed, stays.limit⟩
    · exact ⟨middle, Runs.Reaches.refl middle, still, completing, rfl, rfl⟩
  obtain ⟨read, further, healthyRead, completing, sameCompleted, sameLimit⟩ := received
  obtain ⟨next, last, ends⟩ := finishes_reply healthyRead completing
  refine ⟨next, (reaches.trans further).trans last, ends.imp_right ?_⟩
  rintro ⟨healthyNext, sends, counted, limited⟩
  refine ⟨healthyNext, sends, ?_, limited.trans (sameLimit.trans limit)⟩
  rw [counted, sameCompleted, completed]

theorem canFinish_of_receiving {missing : Nat} (healthy : Healthy state)
    (waits : state.phase .client = .receiving)
    (left : state.completed + missing = state.limit) : CanFinish state := by
  induction missing generalizing state with
  | zero =>
      have running := healthy.kept.running (healthy.alive .client)
      exact absurd left (Nat.ne_of_lt running)
  | succ missing ih =>
      obtain ⟨middle, reaches, ends⟩ := completes_request healthy waits
      rcases ends with finished | ⟨still, sends, counted, limited⟩
      · exact ⟨middle, reaches, finished⟩
      · obtain ⟨next, later, healthyNext, receives, sameCompleted, sameLimit⟩ :=
          turns_to_reply still sends
        refine CanFinish.after (reaches.trans later) (ih healthyNext receives ?_)
        rw [sameCompleted, sameLimit, counted, limited]
        omega

theorem canFinish_of_sending (healthy : Healthy state)
    (sends : state.phase .client = .sending) : CanFinish state := by
  obtain ⟨next, reaches, still, receives, completed, limit⟩ := turns_to_reply healthy sends
  obtain ⟨missing, left⟩ := Nat.exists_eq_add_of_le still.kept.bounded
  exact CanFinish.after reaches (canFinish_of_receiving still receives left.symm)

theorem Healthy.canFinish (healthy : Healthy state) : CanFinish state := by
  cases phase : state.phase .client with
  | ended => exact absurd phase (healthy.alive .client)
  | sending => exact canFinish_of_sending healthy phase
  | receiving =>
      obtain ⟨missing, left⟩ := Nat.exists_eq_add_of_le healthy.kept.bounded
      exact canFinish_of_receiving healthy phase left.symm
  | idle =>
      have free := healthy.kept.free phase
      obtain ⟨stages, controlled⟩ := (healthy.sound .client).controlled
      have allowed : ReceiveStream.armResult ec.OK = true := by decide
      obtain ⟨next, started⟩ := Option.isSome_iff_exists.mp
        (doSend_isSome free controlled.running allowed)
      have stepped : step state (.start .client ec.OK) = some next := by
        simp only [step, phase, if_true, started]
      have turned := turned_doSend started
      have sends : next.phase .client = .sending := by
        rw [turned.phase, Function.update_self]
      obtain ⟨reaches, still⟩ := healthy.goesOn (.start .client ec.OK) rfl stepped
        (by rw [sends]; decide)
      exact CanFinish.after reaches (canFinish_of_sending still sends)

end Step

/-! ### Every run on which nothing fails -/

/-- No closure has been called empty, until the client has completed its last request both
ends are at work, and in every case they can go on until it has. -/
structure Completable (state : State) : Prop where
  running : ∀ side, (descriptor state.connection side).terminated = false
  working : state.phase .client ≠ .ended → ∀ side, state.phase side ≠ .ended
  finishes : ∃ (actions : List Faultless) (final : State),
    Runs.exec stepFaultless state actions = some final ∧
      final.phase .client = .ended ∧ final.completed = final.limit

theorem completable_of_ends {state : State} (steady : Steady state.connection)
    (ends : Healthy state ∨ Finished state) : Completable state := by
  have running : ∀ side, (descriptor state.connection side).terminated = false := by
    intro side
    obtain ⟨stages, controlled, _⟩ := steady side
    exact controlled.running
  rcases ends with healthy | finished
  · obtain ⟨final, ⟨actions, executed⟩, finished⟩ := healthy.canFinish
    exact ⟨running, fun _ side => healthy.alive side, actions, final, executed, finished⟩
  · exact ⟨running, fun begun => absurd finished.1 begun, [], state, rfl, finished⟩

/-- No run on which nothing fails gets into a state from which the exchange of requests and
replies could not be completed. -/
theorem completable_always (strand : Side → StrandId) (random maxRequestLimit : Nat)
    (actions : List Faultless) :
    Runs.StatesMeet stepFaultless Completable (init strand random maxRequestLimit)
      actions := by
  have always : Runs.StatesMeet stepFaultless
      (fun state => Steady state.connection ∧ (Healthy state ∨ Finished state))
      (init strand random maxRequestLimit) actions := by
    refine Runs.statesMeet_of_invariant ?_ actions
      ⟨steady_init strand, Or.inl (healthy_init strand random maxRequestLimit)⟩
    rintro state action next ⟨steady, ends⟩ stepped
    refine ⟨steady_step steady action.property stepped, ?_⟩
    rcases ends with healthy | finished
    · exact healthy_step healthy action.property stepped
    · exact Or.inr (finished_step finished stepped)
  exact always.imp (fun state held => completable_of_ends held.1 held.2)

end BabaIo.ClientServer
