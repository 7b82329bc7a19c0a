import BabaIo.EmptiedHandles

/-
A server that accepts every connection into one `tcp_socket` and moves it out in
the callback, as `passive_socket::do_accept` of the client and server example
does.
-/

set_option autoImplicit false

namespace BabaIo.Handles

structure Connection where
  strand : StrandId
  accepted : Accepted
  deriving DecidableEq

/-- The members `_acceptor` and `_peer` of `passive_socket`. -/
def acceptorVar : Var := 0
def peerVar : Var := 1

def passiveSocket (strand : StrandId) (fd : IoHandle) : List Op :=
  [.acceptor strand fd, .default .tcpSocket]

def peerSocket (refills : Bool) (k : Nat) : Var := if refills then 2 + 2 * k else 2 + k

def acceptPeer (connection : Connection) : List Op :=
  [.accept acceptorVar (some connection.strand) peerVar, .complete 0 (some connection.accepted)]

/-- `_peer = tcp_socket()`; `temporary` is the variable of the new socket. -/
def refillPeer (temporary : Var) : List Op :=
  [.default .tcpSocket, .moveAssign peerVar temporary, .destroy temporary]

/-- One accept and its callback; the example does not refill `_peer`. -/
def doAccept (refills : Bool) (k : Nat) (connection : Connection) : List Op :=
  acceptPeer connection ++ .moveConstruct peerVar ::
    if refills then refillPeer (peerSocket refills k + 1) else []

def serve (refills : Bool) : Nat → List Connection → List Op
  | _, [] => []
  | k, connection :: rest => doAccept refills k connection ++ serve refills (k + 1) rest

def Connection.observed (connection : Connection) : Observation :=
  .io (some connection.strand) (some connection.accepted.fd) connection.accepted.endpoint

/-- The loop runs, and the `k`-th socket that was moved out has the `k`-th
connection. -/
def Delivers (refills : Bool) (strand : StrandId) (fd : IoHandle)
    (connections : List Connection) : Prop :=
  ∃ final, Runs.exec step init (passiveSocket strand fd ++ serve refills 0 connections) =
      some final ∧ final.crashed = false ∧
    ∀ k connection, connections[k]? = some connection →
      observe final (peerSocket refills k) = some connection.observed

/-! ### One round -/

structure Ready (k : Nat) (state : State) : Prop where
  nextVar : state.nextVar = peerSocket true k
  acceptorClass : state.classes acceptorVar = some .tcpAcceptor
  peerClass : state.classes peerVar = some .tcpSocket
  acceptor : ∃ object, state.cells.read acceptorVar = some (.acceptor object) ∧
    object.strand.isSome = true
  peer : ∃ object, state.cells.read peerVar = some (.tcp object)
  accepts : state.accepts = []
  alive : state.crashed = false

def Connection.tcp (connection : Connection) : Impl :=
  .tcp
    { strandForUser := some connection.strand
      strand := some connection.strand
      descriptor := some connection.accepted.fd
      endpoint := connection.accepted.endpoint }

theorem pointer_of_read {state : State} {var : Var} {impl : Impl}
    (held : state.cells.read var = some impl) :
    ∃ cell, state.cells.pointer var = some cell ∧ state.cells.content cell = some impl :=
  Option.bind_eq_some_iff.mp held

def accepted (state : State) (connection : Connection) : State :=
  write (setStrand state peerVar (some connection.strand)) peerVar connection.tcp

theorem exec_accept {state : State} {connection : Connection} {k : Nat}
    (ready : Ready k state) :
    Runs.exec step state (acceptPeer connection) = some (accepted state connection) := by
  obtain ⟨object, acceptorHeld, usable⟩ := ready.acceptor
  obtain ⟨socket, peerHeld⟩ := ready.peer
  obtain ⟨acceptorCell, acceptorPoints, acceptorContent⟩ := pointer_of_read acceptorHeld
  obtain ⟨peerCell, peerPoints, peerContent⟩ := pointer_of_read peerHeld
  let named := setStrand state peerVar (some connection.strand)
  let pending : PendingAccept :=
    { acceptor := acceptorCell
      peer := peerCell
      peerStrand := some connection.strand
      target := peerVar
      targetStrand := some connection.strand }
  have started : step state (.accept acceptorVar (some connection.strand) peerVar) =
      some { named with accepts := [pending] } := by
    rw [step_alive ready.alive]
    change (if _ ∧ _ then accept state acceptorVar (some connection.strand) peerVar else none) = _
    rw [if_pos ⟨ready.acceptorClass, ready.peerClass⟩]
    unfold accept derefBoth deref
    have acceptorNamed : named.cells.read acceptorVar = some (.acceptor object) := acceptorHeld
    have peerNamed : named.cells.read peerVar = some (.tcp socket) := peerHeld
    simp only [Option.some_or, named] at acceptorNamed peerNamed ⊢
    rw [acceptorNamed]
    dsimp only
    rw [peerNamed]
    dsimp only
    rw [acceptorPoints, peerPoints, ready.accepts]
    simp [usable, pending]
  have completed : step { named with accepts := [pending] } (.complete 0 (some connection.accepted)) =
      some (accepted state connection) := by
    have alive : State.crashed { named with accepts := [pending] } = false :=
      ready.alive
    rw [step_alive alive]
    change complete { named with accepts := [pending] } 0 (some connection.accepted) = _
    unfold complete
    simp only [List.getElem?_cons_zero, named, setStrand, pending, acceptorContent, peerContent]
    unfold accepted write
    rw [show (setStrand state peerVar (some connection.strand)).cells.pointer peerVar =
      some peerCell from peerPoints]
    simp only [setStrand, ready.accepts]
    rfl
  unfold acceptPeer
  rw [Runs.exec_cons, started, Option.bind_some, Runs.exec_cons, completed]
  rfl

def movedOut (state : State) (connection : Connection) : State :=
  declare (accepted state connection) .tcpSocket (some connection.strand)
    ((accepted state connection).cells.move state.nextVar peerVar)

def refilled (state : State) (connection : Connection) : State :=
  destroy
    (moveAssign
      (construct (movedOut state connection) .tcpSocket none (.default .tcpSocket))
      peerVar (state.nextVar + 1))
    (state.nextVar + 1)

section Round

variable {state : State} {k : Nat} (connection : Connection)

theorem Ready.nextVar_gt (ready : Ready k state) : peerVar < state.nextVar := by
  rw [ready.nextVar]
  change 1 < 2 + 2 * k
  omega

theorem Ready.accepted_fields (ready : Ready k state) :
    (accepted state connection).nextVar = state.nextVar ∧
      (accepted state connection).classes = state.classes ∧
      (accepted state connection).strands =
        Function.update state.strands peerVar (some connection.strand) ∧
      (accepted state connection).crashed = false := by
  unfold accepted
  rw [write_nextVar, write_classes, write_strands, write_crashed]
  exact ⟨rfl, rfl, rfl, ready.alive⟩

theorem Ready.accepted_peer (ready : Ready k state) :
    (accepted state connection).cells.read peerVar = some connection.tcp := by
  obtain ⟨socket, peerHeld⟩ := ready.peer
  have held : (setStrand state peerVar (some connection.strand)).cells.read peerVar =
      some (.tcp socket) := peerHeld
  exact read_write_self held connection.tcp

theorem accepted_other {var : Var} (different : var ≠ peerVar) :
    (accepted state connection).cells.read var = state.cells.read var :=
  read_write_other different connection.tcp

theorem step_movedOut (ready : Ready k state) :
    step (accepted state connection) (.moveConstruct peerVar) =
      some (movedOut state connection) := by
  obtain ⟨sameNext, sameClasses, strands, alive⟩ := ready.accepted_fields connection
  rw [step_alive alive]
  change ((accepted state connection).classes peerVar).bind _ = _
  rw [sameClasses, ready.peerClass]
  change some (declare (accepted state connection) .tcpSocket
    ((accepted state connection).strands peerVar)
    ((accepted state connection).cells.move (accepted state connection).nextVar peerVar)) = _
  rw [strands, Function.update_self, sameNext]
  rfl

theorem exec_doAccept (ready : Ready k state) (refills : Bool) :
    Runs.exec step state (doAccept refills k connection) =
      Runs.exec step (movedOut state connection)
        (if refills then refillPeer (peerSocket refills k + 1) else []) := by
  unfold doAccept
  rw [Runs.exec_append, exec_accept ready, Option.bind_some, Runs.exec_cons,
    step_movedOut connection ready, Option.bind_some]

theorem movedOut_other {var : Var} (notPeer : var ≠ peerVar)
    (older : var ≠ state.nextVar) :
    (movedOut state connection).cells.read var = state.cells.read var :=
  ((accepted state connection).cells.read_move_of_ne older notPeer).trans
    (accepted_other connection notPeer)

theorem movedOut_peer (ready : Ready k state) :
    (movedOut state connection).cells.read peerVar = none :=
  (accepted state connection).cells.read_move_source (Nat.ne_of_lt ready.nextVar_gt)

theorem movedOut_new (ready : Ready k state) :
    (movedOut state connection).cells.read state.nextVar = some connection.tcp :=
  ((accepted state connection).cells.read_move_target state.nextVar peerVar).trans
    (ready.accepted_peer connection)

theorem movedOut_nextVar (ready : Ready k state) :
    (movedOut state connection).nextVar = state.nextVar + 1 :=
  congrArg (· + 1) (ready.accepted_fields connection).1

theorem movedOut_alive (ready : Ready k state) :
    (movedOut state connection).crashed = false :=
  (ready.accepted_fields connection).2.2.2

theorem movedOut_classes (ready : Ready k state) {var : Var} (older : var ≠ state.nextVar) :
    (movedOut state connection).classes var = state.classes var := by
  obtain ⟨sameNext, sameClasses, _, _⟩ := ready.accepted_fields connection
  change Function.update (accepted state connection).classes
    (accepted state connection).nextVar _ var = _
  rw [sameNext, sameClasses]
  exact Function.update_of_ne older ..

theorem observe_movedOut_new (ready : Ready k state) :
    observe (movedOut state connection) state.nextVar = some connection.observed := by
  unfold observe
  rw [movedOut_new connection ready]
  have strand : (movedOut state connection).strands state.nextVar = some connection.strand := by
    change Function.update (accepted state connection).strands
      (accepted state connection).nextVar _ state.nextVar = _
    rw [(ready.accepted_fields connection).1, Function.update_self]
  rw [strand]
  rfl

def withTemporary (state : State) (connection : Connection) : State :=
  construct (movedOut state connection) .tcpSocket none (.default .tcpSocket)

theorem withTemporary_read_of_ne (ready : Ready k state) {var : Var}
    (older : var ≠ state.nextVar + 1) :
    (withTemporary state connection).cells.read var =
      (movedOut state connection).cells.read var := by
  refine UniquePointers.read_alloc_of_ne _ ?_ _
  rw [movedOut_nextVar connection ready]
  exact older

theorem withTemporary_read_self (ready : Ready k state) :
    (withTemporary state connection).cells.read (state.nextVar + 1) =
      some (.default .tcpSocket) := by
  rw [← movedOut_nextVar connection ready]
  exact UniquePointers.read_alloc_self ..

theorem withTemporary_classes (ready : Ready k state) (var : Var) :
    (withTemporary state connection).classes var =
      if var = state.nextVar + 1 then some .tcpSocket
      else (movedOut state connection).classes var := by
  change Function.update (movedOut state connection).classes
    (movedOut state connection).nextVar _ var = _
  rw [movedOut_nextVar connection ready]
  exact Function.update_apply ..

theorem Ready.older (ready : Ready k state) {var : Var} (below : var ≤ peerVar) :
    var ≠ state.nextVar ∧ var ≠ state.nextVar + 1 := by
  have above : var < state.nextVar := Nat.lt_of_le_of_lt below ready.nextVar_gt
  exact ⟨Nat.ne_of_lt above, Nat.ne_of_lt (Nat.lt_succ_of_lt above)⟩

theorem exec_refillPeer (ready : Ready k state) :
    Runs.exec step (movedOut state connection) (refillPeer (state.nextVar + 1)) =
      some (refilled state connection) := by
  have made : step (movedOut state connection) (.default .tcpSocket) =
      some (withTemporary state connection) :=
    step_alive (movedOut_alive connection ready) _
  have alive : (withTemporary state connection).crashed = false :=
    movedOut_alive connection ready
  obtain ⟨notNew, notTemporary⟩ := ready.older (Nat.le_refl peerVar)
  have peerClass : (withTemporary state connection).classes peerVar = some .tcpSocket := by
    rw [withTemporary_classes connection ready, if_neg notTemporary,
      movedOut_classes connection ready notNew]
    exact ready.peerClass
  have temporaryClass :
      (withTemporary state connection).classes (state.nextVar + 1) = some .tcpSocket := by
    rw [withTemporary_classes connection ready, if_pos rfl]
  have assigned : step (withTemporary state connection)
      (.moveAssign peerVar (state.nextVar + 1)) =
        some (moveAssign (withTemporary state connection) peerVar (state.nextVar + 1)) := by
    rw [step_alive alive]
    refine if_pos ⟨?_, ?_⟩
    · rw [peerClass]
      rfl
    · rw [peerClass, temporaryClass]
  have stillAlive : (moveAssign (withTemporary state connection) peerVar
      (state.nextVar + 1)).crashed = false :=
    (moveAssign_crashed ..).trans alive
  have destroyed : step (moveAssign (withTemporary state connection) peerVar (state.nextVar + 1))
      (.destroy (state.nextVar + 1)) = some (refilled state connection) := by
    rw [step_alive stillAlive]
    refine if_pos ?_
    unfold moveAssign
    rw [if_neg notTemporary]
    change ((withTemporary state connection).classes (state.nextVar + 1)).isSome = true
    rw [temporaryClass]
    rfl
  unfold refillPeer
  rw [Runs.exec_cons, made, Option.bind_some, Runs.exec_cons, assigned, Option.bind_some,
    Runs.exec_cons, destroyed]
  rfl

theorem refilled_peer (ready : Ready k state) :
    (refilled state connection).cells.read peerVar = some (.default .tcpSocket) := by
  obtain ⟨_, notTemporary⟩ := ready.older (Nat.le_refl peerVar)
  refine (UniquePointers.read_reset_of_ne _ notTemporary).trans ?_
  refine (UniquePointers.read_move_target ..).trans ?_
  exact withTemporary_read_self connection ready

theorem refilled_other (ready : Ready k state) {var : Var} (notPeer : var ≠ peerVar)
    (notTemporary : var ≠ state.nextVar + 1) :
    (refilled state connection).cells.read var = (movedOut state connection).cells.read var := by
  refine (UniquePointers.read_reset_of_ne _ notTemporary).trans ?_
  refine (UniquePointers.read_move_of_ne _ notPeer notTemporary).trans ?_
  exact withTemporary_read_of_ne connection ready notTemporary

theorem moveAssign_of_ne {target source : Var} (different : target ≠ source) :
    moveAssign state target source =
      setStrand { dropAccepts state target with cells := state.cells.move target source }
        target (state.strands source) := by
  unfold moveAssign
  rw [if_neg different]

theorem refilled_classes (ready : Ready k state) {var : Var} (below : var ≤ peerVar) :
    (refilled state connection).classes var = state.classes var := by
  obtain ⟨notNew, notTemporary⟩ := ready.older below
  obtain ⟨_, peerOlder⟩ := ready.older (Nat.le_refl peerVar)
  refine (Function.update_of_ne notTemporary ..).trans ?_
  rw [moveAssign_of_ne peerOlder]
  change (withTemporary state connection).classes var = _
  rw [withTemporary_classes connection ready, if_neg notTemporary,
    movedOut_classes connection ready notNew]

theorem Ready.refilled (ready : Ready k state) : Ready (k + 1) (refilled state connection) := by
  obtain ⟨_, peerOlder⟩ := ready.older (Nat.le_refl peerVar)
  have acceptorBelow : acceptorVar ≤ peerVar := Nat.zero_le _
  have acceptorOther : acceptorVar ≠ peerVar := by decide
  obtain ⟨acceptorNotNew, acceptorNotTemporary⟩ := ready.older acceptorBelow
  constructor
  · unfold Handles.refilled
    rw [moveAssign_of_ne peerOlder]
    change (movedOut state connection).nextVar + 1 = _
    rw [movedOut_nextVar connection ready, ready.nextVar]
    change 2 + 2 * k + 1 + 1 = 2 + 2 * (k + 1)
    omega
  · rw [refilled_classes connection ready acceptorBelow]
    exact ready.acceptorClass
  · rw [refilled_classes connection ready (Nat.le_refl peerVar)]
    exact ready.peerClass
  · rw [refilled_other connection ready acceptorOther acceptorNotTemporary,
      movedOut_other connection acceptorOther acceptorNotNew]
    exact ready.acceptor
  · exact ⟨.default, refilled_peer connection ready⟩
  · unfold Handles.refilled
    rw [moveAssign_of_ne peerOlder]
    have none : (movedOut state connection).accepts = [] := by
      change (accepted state connection).accepts = []
      unfold accepted write
      split
      · exact ready.accepts
      · exact ready.accepts
    change ((movedOut state connection).accepts.filter _).filter _ = []
    rw [none]
    rfl
  · unfold Handles.refilled
    rw [moveAssign_of_ne peerOlder]
    exact movedOut_alive connection ready

theorem refilled_strands (ready : Ready k state) {var : Var} (notPeer : var ≠ peerVar)
    (notTemporary : var ≠ state.nextVar + 1) :
    (refilled state connection).strands var = (movedOut state connection).strands var := by
  obtain ⟨_, peerOlder⟩ := ready.older (Nat.le_refl peerVar)
  unfold refilled
  rw [moveAssign_of_ne peerOlder]
  refine (Function.update_of_ne notPeer ..).trans ?_
  change Function.update (movedOut state connection).strands
    (movedOut state connection).nextVar none var = _
  rw [movedOut_nextVar connection ready]
  exact Function.update_of_ne notTemporary ..

theorem observe_refilled (ready : Ready k state) {var : Var} (notPeer : var ≠ peerVar)
    (notTemporary : var ≠ state.nextVar + 1) :
    observe (refilled state connection) var = observe (movedOut state connection) var := by
  unfold observe
  rw [refilled_other connection ready notPeer notTemporary,
    refilled_strands connection ready notPeer notTemporary]

theorem observe_refilled_older (ready : Ready k state) {var : Var} (notPeer : var ≠ peerVar)
    (older : var < state.nextVar) :
    observe (refilled state connection) var = observe state var := by
  have notNew : var ≠ state.nextVar := Nat.ne_of_lt older
  have notTemporary : var ≠ state.nextVar + 1 := Nat.ne_of_lt (Nat.lt_succ_of_lt older)
  rw [observe_refilled connection ready notPeer notTemporary]
  obtain ⟨sameNext, _, strands, _⟩ := ready.accepted_fields connection
  unfold observe
  rw [movedOut_other connection notPeer notNew]
  have strand : (movedOut state connection).strands var = state.strands var := by
    change Function.update (accepted state connection).strands
      (accepted state connection).nextVar _ var = _
    rw [sameNext, Function.update_of_ne notNew, strands, Function.update_of_ne notPeer]
  rw [strand]

/-- One round of the loop that refills `_peer`. -/
theorem exec_round (ready : Ready k state) :
    Runs.exec step state (doAccept true k connection) = some (refilled state connection) := by
  rw [exec_doAccept connection ready, if_pos rfl, ← ready.nextVar]
  exact exec_refillPeer connection ready

end Round

/-! ### All rounds -/

theorem serve_delivers (connections : List Connection) {k : Nat} {state : State}
    (ready : Ready k state) :
    ∃ final, Runs.exec step state (serve true k connections) = some final ∧
      final.crashed = false ∧
      (∀ var, var ≠ peerVar → var < state.nextVar → observe final var = observe state var) ∧
      ∀ index connection, connections[index]? = some connection →
        observe final (peerSocket true (k + index)) = some connection.observed := by
  induction connections generalizing k state with
  | nil =>
      refine ⟨state, rfl, ready.alive, fun _ _ _ => rfl, ?_⟩
      intro index connection found
      cases found
  | cons connection rest ih =>
      obtain ⟨final, executed, alive, kept, delivered⟩ := ih (ready.refilled connection)
      have grown : state.nextVar + 1 < (refilled state connection).nextVar := by
        rw [(ready.refilled connection).nextVar, ready.nextVar]
        change 2 + 2 * k + 1 < 2 + 2 * (k + 1)
        omega
      refine ⟨final, ?_, alive, ?_, ?_⟩
      · unfold serve
        rw [Runs.exec_append, exec_round connection ready]
        exact executed
      · intro var notPeer older
        rw [kept var notPeer (Nat.lt_trans (Nat.lt_succ_of_lt older) grown)]
        exact observe_refilled_older connection ready notPeer older
      · intro index found present
        cases index with
        | zero =>
            cases present
            have notPeer : state.nextVar ≠ peerVar := Nat.ne_of_gt ready.nextVar_gt
            rw [Nat.add_zero, ← ready.nextVar, kept _ notPeer (Nat.lt_of_succ_lt grown),
              observe_refilled connection ready notPeer (Nat.ne_of_lt (Nat.lt_succ_self _))]
            exact observe_movedOut_new connection ready
        | succ later =>
            have here := delivered later found present
            rw [show k + (later + 1) = k + 1 + later by omega]
            exact here

theorem ready_passiveSocket (strand : StrandId) (fd : IoHandle) :
    ∃ state, Runs.exec step init (passiveSocket strand fd) = some state ∧ Ready 0 state := by
  refine ⟨_, rfl, ?_⟩
  constructor
  · rfl
  · rfl
  · rfl
  · exact ⟨_, rfl, rfl⟩
  · exact ⟨_, rfl⟩
  · rfl
  · rfl

theorem exec_serverLoop {strand : StrandId} {fd : IoHandle} {state : State}
    (prepared : Runs.exec step init (passiveSocket strand fd) = some state) (refills : Bool)
    (connections : List Connection) :
    Runs.exec step init (passiveSocket strand fd ++ serve refills 0 connections) =
      Runs.exec step state (serve refills 0 connections) := by
  rw [Runs.exec_append, prepared, Option.bind_some]

/-- The next accept into the variable reaches for the empty `_pimpl`. -/
theorem acceptPeer_crashes {state : State} {k : Nat} (ready : Ready k state)
    (connection later : Connection) (rest : List Op) :
    Runs.exec step (movedOut state connection) (acceptPeer later ++ rest) = none := by
  have empty := movedOut_peer connection ready
  have alive := movedOut_alive connection ready
  obtain ⟨notNew, _⟩ := ready.older (Nat.le_refl peerVar)
  have acceptorBelow : acceptorVar ≤ peerVar := Nat.zero_le _
  obtain ⟨acceptorNotNew, _⟩ := ready.older acceptorBelow
  have classes : (movedOut state connection).classes acceptorVar = some .tcpAcceptor ∧
      (movedOut state connection).classes peerVar = some .tcpSocket := by
    rw [movedOut_classes connection ready acceptorNotNew,
      movedOut_classes connection ready notNew]
    exact ⟨ready.acceptorClass, ready.peerClass⟩
  have done : ∀ next, step (movedOut state connection)
      (.accept acceptorVar (some later.strand) peerVar) = some next →
        next.crashed = true := by
    intro next stepped
    rw [step_alive alive] at stepped
    have performed := (if_pos classes).symm.trans stepped
    rcases accept_cases performed with ⟨_, crashed⟩ | ⟨_, _, _, _, held, _⟩
    · exact crashed
    · rw [empty] at held
      cases held
  unfold acceptPeer
  rw [List.cons_append, Runs.exec_cons]
  cases stepped : step (movedOut state connection)
      (.accept acceptorVar (some later.strand) peerVar) with
  | none => rfl
  | some next =>
      rw [Option.bind_some, List.cons_append, Runs.exec_cons, step, if_pos (done next stepped)]
      rfl

theorem delivers_one {strand : StrandId} {fd : IoHandle} (connection : Connection) :
    Delivers false strand fd [connection] := by
  obtain ⟨state, prepared, ready⟩ := ready_passiveSocket strand fd
  refine ⟨movedOut state connection, ?_, movedOut_alive connection ready, ?_⟩
  · rw [exec_serverLoop prepared]
    change Runs.exec step state (doAccept false 0 connection ++ []) = _
    rw [List.append_nil, exec_doAccept connection ready, if_neg Bool.false_ne_true]
    rfl
  · intro k found present
    cases k with
    | zero =>
        cases present
        have first : state.nextVar = peerSocket false 0 := ready.nextVar
        rw [← first]
        exact observe_movedOut_new connection ready
    | succ later => cases present

theorem delivers_iff (refills : Bool) (strand : StrandId) (fd : IoHandle)
    (connections : List Connection) :
    Delivers refills strand fd connections ↔ refills = true ∨ connections.length ≤ 1 := by
  obtain ⟨state, prepared, ready⟩ := ready_passiveSocket strand fd
  cases refills with
  | true =>
      refine iff_of_true ?_ (.inl rfl)
      obtain ⟨final, executed, alive, _, delivered⟩ := serve_delivers connections ready
      refine ⟨final, (exec_serverLoop prepared true connections).trans executed, alive, ?_⟩
      intro k connection present
      have here := delivered k connection present
      rw [Nat.zero_add] at here
      exact here
  | false =>
      cases connections with
      | nil =>
          refine iff_of_true ?_ (.inr (Nat.zero_le _))
          refine ⟨state, exec_serverLoop prepared false [], ready.alive, ?_⟩
          intro k connection present
          cases present
      | cons connection others =>
          cases others with
          | nil => exact iff_of_true (delivers_one connection) (.inr (Nat.le_refl 1))
          | cons later rest =>
              refine iff_of_false ?_ ?_
              · intro delivers
                obtain ⟨final, executed, _⟩ := delivers
                rw [exec_serverLoop prepared] at executed
                have second : serve false 0 (connection :: later :: rest) =
                    doAccept false 0 connection ++ (acceptPeer later ++
                      (.moveConstruct peerVar :: serve false 2 rest)) := by
                  simp [serve, doAccept]
                rw [second, Runs.exec_append, exec_doAccept connection ready,
                  if_neg Bool.false_ne_true, Runs.exec_nil, Option.bind_some,
                  acceptPeer_crashes ready] at executed
                cases executed
              · intro enough
                rcases enough with refilled | short
                · cases refilled
                · exact absurd short (by simp)

/-- A run leaves the target of every assignment and every accept as promised
exactly when none of these operations reaches for an emptied handle and no accept
completes that does not find its variable as it left it; the server loop delivers
every connection exactly when it refills its variable or serves no more than one. -/
theorem handlesSurvive_iff_usesFilled {ops : List Op} {final : State}
    (executed : Runs.exec step init ops = some final) (refills : Bool) (strand : StrandId)
    (fd : IoHandle) (connections : List Connection) :
    (HandlesSurvive ops ↔ UsesFilled .start ops ∧ AcceptsFindTargets ops) ∧
      (Delivers refills strand fd connections ↔ refills = true ∨ connections.length ≤ 1) :=
  ⟨survivesFrom_iff agrees_start executed, delivers_iff refills strand fd connections⟩

def twoConnections : List Connection :=
  [{ strand := 0, accepted := { fd := 7, endpoint := noEndpoint } },
    { strand := 1, accepted := { fd := 8, endpoint := noEndpoint } }]

def secondAccept : List Op :=
  passiveSocket 0 3 ++
    doAccept false 0 { strand := 0, accepted := { fd := 7, endpoint := noEndpoint } } ++
    [.accept acceptorVar (some 1) peerVar]

/-- The variable is assigned a new socket while the accept into it is outstanding. -/
def refilledTooEarly : List Op :=
  passiveSocket 0 3 ++ .accept acceptorVar (some 1) peerVar ::
    (refillPeer 2 ++ [.complete 0 (some { fd := 7, endpoint := noEndpoint })])

def acceptRefilled : List Op :=
  passiveSocket 0 3 ++
    doAccept true 0 { strand := 0, accepted := { fd := 7, endpoint := noEndpoint } } ++
    [.accept acceptorVar (some 1) peerVar]

theorem acceptRefilled_survives :
    HandlesSurvive acceptRefilled ∧ Delivers true 0 3 twoConnections := by
  have executed : ∃ final, Runs.exec step init acceptRefilled = some final := ⟨_, rfl⟩
  obtain ⟨final, executed⟩ := executed
  have both := handlesSurvive_iff_usesFilled executed true 0 3 twoConnections
  have filled : UsesFilled .start acceptRefilled :=
    ⟨trivial, trivial, ⟨rfl, rfl⟩, trivial, trivial, trivial, trivial, trivial, ⟨rfl, rfl⟩, trivial⟩
  have found : AcceptsFindTargets acceptRefilled := by decide
  exact ⟨both.1.mpr ⟨filled, found⟩, both.2.mpr (.inl rfl)⟩

/-- Where the example accepts a second client it dereferences the empty `_pimpl` of
`_peer`, and no second connection is delivered; and an accept writes to the pimpl of its
variable when that has been deleted. -/
theorem handlesSurvive_false :
    ¬HandlesSurvive secondAccept ∧ ¬HandlesSurvive refilledTooEarly ∧
      ¬Delivers false 0 3 twoConnections := by
  refine ⟨?_, ?_, ?_⟩
  · intro survives
    have executed : ∃ final, Runs.exec step init secondAccept = some final := ⟨_, rfl⟩
    obtain ⟨final, executed⟩ := executed
    have filled := ((survivesFrom_iff agrees_start executed).mp survives).1
    exact absurd filled.2.2.2.2.2.1.2 (by decide)
  · intro survives
    have executed : ∃ final, Runs.exec step init refilledTooEarly = some final := ⟨_, rfl⟩
    obtain ⟨final, executed⟩ := executed
    have found : AcceptsFindTargets refilledTooEarly :=
      ((survivesFrom_iff agrees_start executed).mp survives).2
    exact absurd found (by decide)
  · intro delivers
    rcases (delivers_iff false 0 3 twoConnections).mp delivers with refilled | short
    · cases refilled
    · exact absurd short (by decide)

end BabaIo.Handles
