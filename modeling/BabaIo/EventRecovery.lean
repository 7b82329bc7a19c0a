import BabaIo.ObjectInvariants

/-
Which events come back to the registrar.

Every registered event of an operation is owned by an object with a strand, is
about to be given back by a final event, or has been lost.  The account is exact:
a step loses the events that an overwritten or converted object still owned, and
no other step loses or duplicates one.
-/

set_option autoImplicit false

namespace BabaIo.Objects

/-! ### The account -/

def AsyncObject.events (object : AsyncObject) : List EventId :=
  if object.strand.isSome then object.evt.toList ++ object.senderEvt.toList else []

def ownedEvents : Option AsyncObject → List EventId
  | none => []
  | some object => object.events

def finalTargets : Option ReactorEvent → List EventId
  | none => []
  | some event =>
      match event.complete with
      | some (.final evt) => [evt]
      | _ => []

def liveOperation : Option ReactorEvent → Nat
  | none => 0
  | some event =>
      match event.complete with
      | some (.final _) => 0
      | _ => 1

/-- Each registered event has one owner, one final event, or is missing. -/
def Accounted (state : State) (missing : List EventId) : Prop :=
  ∀ evt, tally ownedEvents state.objects state.nextVar evt +
      tally finalTargets state.register state.idGenerator evt + missing.count evt =
    liveOperation (state.register evt)

/-! ### What loses events -/

def inUse (state : State) (var : Var) : Bool :=
  match state.objects var with
  | none => false
  | some object => object.strand.isSome

def deliveredTo (state : State) (strand : StrandId) : Option Var :=
  match state.strandQueue strand with
  | [] => none
  | evt :: _ =>
      match state.register evt with
      | none => none
      | some event =>
          match event.complete with
          | some (.callback (.accept _ peer _) outcome) =>
              if inScope state event && outcome.ok then some peer else none
          | _ => none

/-- No connector is converted, and nothing is moved onto an object in use. -/
def keepsEvents (state : State) : Action → Bool
  | .moveAssign target _ => !inUse state target
  | .convert _ => false
  | .convertAssign _ _ => false
  | .strandStep strand => ((deliveredTo state strand).map (inUse state)) != some true
  | _ => true

def overwritten (state : State) : Action → List EventId
  | .moveAssign target _ => ownedEvents (state.objects target)
  | .convert connector => ownedEvents (state.objects connector)
  | .convertAssign target connector =>
      ownedEvents (state.objects target) ++ ownedEvents (state.objects connector)
  | .strandStep strand =>
      match deliveredTo state strand with
      | none => []
      | some peer => ownedEvents (state.objects peer)
  | _ => []

/-! ### The account of one change -/

theorem accounted_init : Accounted init [] := fun _ => rfl

theorem Accounted.of_same {state next : State} {missing : List EventId}
    (held : Accounted state missing) (objects : next.objects = state.objects)
    (nextVar : next.nextVar = state.nextVar) (register : next.register = state.register)
    (idGenerator : next.idGenerator = state.idGenerator) : Accounted next missing := by
  unfold Accounted
  rw [objects, nextVar, register, idGenerator]
  exact held

theorem Accounted.assign {state : State} {missing left : List EventId}
    (held : Accounted state missing) {var : Var} (known : var < state.nextVar)
    (value : Option AsyncObject)
    (same : ∀ evt, left.count evt + (ownedEvents value).count evt =
      missing.count evt + (ownedEvents (state.objects var)).count evt) :
    Accounted (assign state var value) left := by
  intro evt
  have before := held evt
  have changed := tally_update ownedEvents state.objects known value evt
  have moved := same evt
  change tally ownedEvents (Function.update state.objects var value) state.nextVar evt +
    tally finalTargets state.register state.idGenerator evt + left.count evt =
      liveOperation (state.register evt)
  omega

theorem Accounted.declare {state : State} {missing left : List EventId}
    (held : Accounted state missing) (object : AsyncObject)
    (same : ∀ evt, left.count evt + object.events.count evt = missing.count evt) :
    Accounted (declare state object) left := by
  intro evt
  have before := held evt
  have added := tally_add ownedEvents state.objects state.nextVar (some object) evt
  have moved := same evt
  change _ = _ + object.events.count evt at added
  change tally ownedEvents (Function.update state.objects state.nextVar (some object))
    (state.nextVar + 1) evt +
    tally finalTargets state.register state.idGenerator evt + left.count evt =
      liveOperation (state.register evt)
  omega

/-- A taken event is missing until somebody owns it. -/
theorem Accounted.take {state : State} {missing : List EventId}
    (held : Accounted state missing) (registered : RegisterOk state)
    (descriptor : DescriptorId) (strand : StrandId) :
    Accounted (take state (newEvent descriptor strand)) (state.idGenerator :: missing) := by
  intro evt
  have before := held evt
  have added := tally_add finalTargets state.register state.idGenerator
    (some (newEvent descriptor strand)) evt
  change _ = _ + 0 at added
  change tally ownedEvents state.objects state.nextVar evt +
    tally finalTargets (Function.update state.register state.idGenerator _)
      (state.idGenerator + 1) evt + (state.idGenerator :: missing).count evt =
        liveOperation (Function.update state.register state.idGenerator _ evt)
  by_cases same : evt = state.idGenerator
  · subst evt
    rw [registered.unused _ (Nat.le_refl _)] at before
    change _ = 0 at before
    rw [Function.update_self, List.count_cons_self]
    change _ = 1
    omega
  · rw [Function.update_of_ne same, List.count_cons_of_ne (Ne.symm same)]
    omega

theorem Accounted.takeEvents {state : State} {missing : List EventId}
    (held : Accounted state missing) (registered : RegisterOk state) (kind : Kind)
    (descriptor : DescriptorId) (strand : StrandId) :
    Accounted (takeEvents state kind descriptor strand)
      ((constructed state kind strand).events ++ missing) := by
  have first := held.take registered descriptor strand
  unfold Objects.takeEvents
  by_cases socket : kind = .tcp
  · have once : RegisterOk (Objects.take state (newEvent descriptor strand)) := by
      apply registered.take (newEvent_ok _ descriptor strand) (fun _ member => member)
      rintro ⟨evt, impossible⟩
      cases impossible
    have second := first.take once descriptor strand
    rw [if_pos socket]
    intro evt
    have counted := second evt
    simp only [constructed, AsyncObject.events, socket, if_true, Option.isSome_some,
      Option.toList_some, List.count_append, List.count_cons, List.count_nil] at counted ⊢
    change _ + _ + (_ + (if state.idGenerator + 1 == evt then 1 else 0)) = _ at counted
    omega
  · rw [if_neg socket]
    intro evt
    have counted := first evt
    simp only [constructed, AsyncObject.events, socket, if_false, Option.isSome_some,
      if_true, Option.toList_some, Option.toList_none, List.count_append, List.count_cons,
      List.count_nil] at counted ⊢
    omega

theorem Accounted.construct {state : State} {missing : List EventId}
    (held : Accounted state missing) (registered : RegisterOk state) (kind : Kind)
    (strand : StrandId) (fd : Option Fd) :
    Accounted (construct state kind strand fd)
      ((constructed state kind strand).events ++ missing) := by
  have described : Accounted { state with
      descriptors := Function.update state.descriptors state.nextDescriptor ⟨fd, true⟩
      nextDescriptor := state.nextDescriptor + 1 } missing := held
  exact described.takeEvents (registered.of_same rfl rfl rfl rfl rfl rfl) kind _ strand

/-- A disposed event passes from its object to its final event. -/
theorem Accounted.dispose {state next : State} {missing : List EventId}
    {evt : Option EventId} (held : Accounted state (evt.toList ++ missing))
    (registered : RegisterOk state) (disposed : dispose state evt = some next) :
    Accounted next missing := by
  cases evt with
  | none =>
      cases disposed
      exact held
  | some evt =>
      obtain ⟨event, found, rfl⟩ := Option.map_eq_some_iff.mp disposed
      intro other
      have before := held other
      have added := tally_add finalTargets state.register state.idGenerator
        (some (finalEvent evt event.strand)) other
      change _ = _ + [evt].count other at added
      rw [Option.toList_some, List.count_append] at before
      change tally ownedEvents state.objects state.nextVar other +
        tally finalTargets (Function.update state.register state.idGenerator _)
          (state.idGenerator + 1) other + missing.count other =
            liveOperation (Function.update state.register state.idGenerator _ other)
      by_cases same : other = state.idGenerator
      · subst other
        rw [registered.unused _ (Nat.le_refl _)] at before
        rw [Function.update_self]
        change _ = 0
        change _ = 0 at before
        omega
      · rw [Function.update_of_ne same]
        omega

theorem Accounted.setEvent {state : State} {missing : List EventId}
    (held : Accounted state missing) (registered : RegisterOk state) {evt : EventId}
    {old event : ReactorEvent} (found : state.register evt = some old)
    (notFinal : ¬ event.IsFinal) (notOldFinal : ¬ old.IsFinal) :
    Accounted (setEvent state evt event) missing := by
  have targets : ∀ other : ReactorEvent, ¬ other.IsFinal →
      finalTargets (some other) = [] ∧ liveOperation (some other) = 1 := by
    intro other operation
    simp only [finalTargets, liveOperation]
    split
    · rename_i target final
      exact absurd ⟨target, final⟩ operation
    · exact ⟨rfl, rfl⟩
  intro other
  have before := held other
  have changed := tally_update finalTargets state.register (registered.known found)
    (some event) other
  rw [found, (targets event notFinal).1, (targets old notOldFinal).1] at changed
  change tally ownedEvents state.objects state.nextVar other +
    tally finalTargets (Function.update state.register evt (some event)) state.idGenerator
      other + missing.count other =
        liveOperation (Function.update state.register evt (some event) other)
  by_cases same : other = evt
  · subst other
    rw [found, (targets old notOldFinal).2] at before
    rw [Function.update_self, (targets event notFinal).2]
    omega
  · rw [Function.update_of_ne same]
    omega

theorem Accounted.giveBoth {state : State} {missing : List EventId}
    (held : Accounted state missing) (registered : RegisterOk state)
    {final evt : EventId} {event owner : ReactorEvent}
    (found : state.register final = some event)
    (complete : event.complete = some (.final evt))
    (foundOwner : state.register evt = some owner) :
    Accounted (give (give state evt) final) missing := by
  have different : evt ≠ final :=
    Nat.ne_of_lt ((registered.each final event found).older evt complete)
  -- A final event counts for its event, so that event is one of an operation.
  have operation : finalTargets (some owner) = [] ∧ liveOperation (some owner) = 1 := by
    have target : (finalTargets (state.register final)).count evt = 1 := by
      rw [found]
      simp [finalTargets, complete]
    have counted := count_le_tally finalTargets state.register (registered.known found) evt
    have live := held evt
    rw [foundOwner] at live
    simp only [finalTargets, liveOperation] at live ⊢
    split at live
    · omega
    · exact ⟨rfl, rfl⟩
  intro other
  have before := held other
  have first := tally_update finalTargets state.register (registered.known foundOwner)
    none other
  have second := tally_update finalTargets (Function.update state.register evt none)
    (registered.known found) none other
  rw [foundOwner, operation.1] at first
  rw [Function.update_of_ne different.symm, found] at second
  have targets : finalTargets (some event) = [evt] := by
    simp only [finalTargets, complete]
  rw [targets] at second
  change _ + 0 = _ + 0 at first
  change _ + [evt].count other = _ + 0 at second
  change tally ownedEvents state.objects state.nextVar other +
    tally finalTargets (Function.update (Function.update state.register evt none) final none)
      state.idGenerator other + missing.count other =
        liveOperation (Function.update (Function.update state.register evt none) final none other)
  by_cases isFinal : other = final
  · subst other
    have none : [evt].count final = 0 :=
      List.count_eq_zero.mpr fun member => different (List.mem_singleton.mp member).symm
    rw [found] at before
    rw [Function.update_self]
    simp only [liveOperation, complete] at before ⊢
    omega
  · rw [Function.update_of_ne isFinal]
    by_cases isEvt : other = evt
    · subst other
      rw [foundOwner, operation.2] at before
      rw [List.count_singleton_self] at second
      rw [Function.update_self]
      change _ = 0
      omega
    · have none : [evt].count other = 0 :=
        List.count_eq_zero.mpr fun member => isEvt (List.mem_singleton.mp member)
      rw [Function.update_of_ne isEvt]
      omega

/-! ### The account of one step -/

theorem accounted_moveAssign {state : State} {missing : List EventId}
    (held : Accounted state missing) (objects : ObjectsOk state) {target source : Var}
    {overwritten object : AsyncObject}
    (foundTarget : state.objects target = some overwritten)
    (found : state.objects source = some object) :
    Accounted (moveAssign state target source object)
      (ownedEvents (state.objects target) ++ missing) := by
  unfold moveAssign
  by_cases same : target = source
  · rw [if_pos same]
    apply held.assign (objects.known foundTarget)
    intro evt
    rw [List.count_append]
    change _ + _ + 0 = _
    omega
  · rw [if_neg same]
    have left : Accounted (assign state source (some object.moved))
        (object.events ++ missing) := by
      apply held.assign (objects.known found)
      intro evt
      rw [found, List.count_append]
      change _ + _ + 0 = _ + object.events.count evt
      omega
    have known : target < (assign state source (some object.moved)).nextVar :=
      objects.known foundTarget
    apply left.assign known
    intro evt
    have still : (assign state source (some object.moved)).objects target =
        state.objects target := Function.update_of_ne same _ _
    rw [still, List.count_append, List.count_append]
    change _ + object.events.count evt = _
    omega

theorem accounted_destroy {state next : State} {missing : List EventId}
    (held : Accounted state missing) (objects : ObjectsOk state)
    (registered : RegisterOk state) {var : Var} {object : AsyncObject}
    (found : state.objects var = some object)
    (ran : destroy state var object = some next) : Accounted next missing := by
  have gone : Accounted (assign state var none) (object.events ++ missing) := by
    apply held.assign (objects.known found)
    intro evt
    rw [found, List.count_append]
    change _ + _ + 0 = _ + object.events.count evt
    omega
  have goneOk : RegisterOk (assign state var none) :=
    registered.of_same rfl rfl rfl rfl rfl rfl
  rcases destroy_cases ran with ⟨rfl, outside⟩ |
    ⟨descriptor, disposed, stranded, _, _, first, second⟩
  · have stranded := (objects.each var object found).unused_of_outside outside
    rw [AsyncObject.events, stranded] at gone
    exact gone
  · have left : Accounted (leaveScope (assign state var none) descriptor)
        (object.evt.toList ++ (object.senderEvt.toList ++ missing)) := by
      rw [AsyncObject.events, if_pos stranded, List.append_assoc] at gone
      unfold leaveScope closeFile
      split <;> exact gone
    have leftOk : RegisterOk (leaveScope (assign state var none) descriptor) := by
      unfold leaveScope closeFile
      split <;> exact goneOk.of_same rfl rfl rfl rfl rfl rfl
    exact (left.dispose leftOk first).dispose (leftOk.dispose first) second

theorem accounted_convert {state : State} {missing : List EventId}
    (held : Accounted state missing) (objects : ObjectsOk state)
    (registered : RegisterOk state) {connector : Var} {object : AsyncObject}
    (found : state.objects connector = some object) (strand : StrandId) (fd : Option Fd) :
    Accounted (convert state connector object strand fd)
      (ownedEvents (state.objects connector) ++ missing) := by
  have made := held.construct registered .tcp strand fd
  obtain ⟨sameObjects, nextVar, _, _⟩ := construct_same state .tcp strand fd
  have left : Accounted (assign (construct state .tcp strand fd) connector
      (some object.converted))
      (ownedEvents (state.objects connector) ++
        ((constructed state .tcp strand).events ++ missing)) := by
    apply made.assign (nextVar ▸ objects.known found)
    intro evt
    rw [sameObjects]
    simp only [List.count_append]
    change _ + 0 = _
    omega
  apply left.declare
  intro evt
  simp only [List.count_append]
  omega

theorem accounted_convertAssign {state : State} {missing : List EventId}
    (held : Accounted state missing) (objects : ObjectsOk state)
    (registered : RegisterOk state) {target connector : Var} {socket object : AsyncObject}
    {strand : StrandId} {descriptor : DescriptorId}
    (foundTarget : state.objects target = some socket)
    (found : state.objects connector = some object) (different : target ≠ connector) :
    Accounted (convertAssign state target connector socket object strand descriptor)
      (ownedEvents (state.objects target) ++ ownedEvents (state.objects connector) ++
        missing) := by
  have taken := held.takeEvents registered .tcp descriptor strand
  obtain ⟨sameObjects, nextVar, _, _⟩ := takeEvents_same state .tcp descriptor strand
  have left : Accounted (assign (takeEvents state .tcp descriptor strand) connector
      (some object.converted))
      (ownedEvents (state.objects connector) ++
        ((constructed state .tcp strand).events ++ missing)) := by
    apply taken.assign (nextVar ▸ objects.known found)
    intro evt
    rw [sameObjects]
    simp only [List.count_append]
    change _ + 0 = _
    omega
  have known : target < (assign (takeEvents state .tcp descriptor strand) connector
      (some object.converted)).nextVar := nextVar ▸ objects.known foundTarget
  apply left.assign known
  intro evt
  have still : (assign (takeEvents state .tcp descriptor strand) connector
      (some object.converted)).objects target = state.objects target := by
    change Function.update _ _ _ target = _
    rw [Function.update_of_ne different, sameObjects]
  rw [still]
  simp only [List.count_append]
  change _ + (constructed state .tcp strand).events.count evt = _
  omega

theorem accounted_deliver {state : State} {missing : List EventId}
    (held : Accounted state missing) (objects : ObjectsOk state)
    (registered : RegisterOk state) {peer : Var} {socket : AsyncObject}
    (found : state.objects peer = some socket) (acceptor : AsyncObject)
    (strand : StrandId) :
    Accounted (deliver state acceptor peer strand)
      (ownedEvents (state.objects peer) ++ missing) := by
  have made := held.construct registered .tcp strand acceptor.peerFd
  obtain ⟨sameObjects, nextVar, _, _⟩ := construct_same state .tcp strand acceptor.peerFd
  apply made.assign (nextVar ▸ objects.known found)
  intro evt
  rw [sameObjects]
  simp only [List.count_append]
  change _ + (constructed state .tcp strand).events.count evt = _
  omega

theorem accounted_fin_accept {state : State} {missing : List EventId}
    (held : Accounted state missing) (objects : ObjectsOk state) {acceptor : Var}
    {object : AsyncObject} (found : state.objects acceptor = some object)
    (answer : Option Fd) : Accounted (fin_accept state acceptor object answer) missing := by
  have changed : Accounted (assign state acceptor (some { object with peerFd := answer }))
      missing := by
    apply held.assign (objects.known found)
    intro evt
    rw [found]
    rfl
  cases answer <;> exact changed

theorem RegisterOk.notFinal_of_react {state : State} (registered : RegisterOk state)
    {evt : EventId} {event : ReactorEvent} (found : state.register evt = some event)
    (reacts : event.react.isSome = true) : ¬ event.IsFinal := by
  rintro ⟨target, final⟩
  rw [(registered.each evt event found).stages reacts] at final
  cases final

theorem accounted_initiate {state : State} {missing : List EventId}
    (held : Accounted state missing) (registered : RegisterOk state) {evt : EventId}
    {event : ReactorEvent} {armed : Bool}
    (idle : ready state (some evt) armed = some (evt, event)) (operation : Operation) :
    Accounted (initiate state evt event operation armed) missing := by
  obtain ⟨found, _, _, complete, _⟩ := ready_idle idle
  have notOldFinal : ¬ event.IsFinal := by
    rintro ⟨target, final⟩
    rw [complete] at final
    cases final
  unfold initiate
  split
  · exact held.setEvent registered found notOldFinal notOldFinal
  · refine (held.setEvent registered found ?_ notOldFinal).of_same rfl rfl rfl rfl
    rintro ⟨target, final⟩
    cases final

theorem deliveredTo_skipped {state : State} {strand : StrandId} {evt : EventId}
    {rest : List EventId} {event : ReactorEvent} {operation : Operation} {outcome : Outcome}
    (queued : state.strandQueue strand = evt :: rest)
    (found : state.register evt = some event)
    (complete : event.complete = some (.callback operation outcome))
    (skips : ∀ acceptor peer peerStrand, operation = .accept acceptor peer peerStrand →
      (inScope state event && outcome.ok) = false) : deliveredTo state strand = none := by
  simp only [deliveredTo, queued, found, complete]
  cases operation with
  | plain => rfl
  | accept acceptor peer peerStrand =>
      simp only [skips acceptor peer peerStrand rfl, Bool.false_eq_true, if_false]

theorem deliveredTo_delivers {state : State} {strand : StrandId} {evt : EventId}
    {rest : List EventId} {event : ReactorEvent} {acceptor peer : Var}
    {peerStrand : Option StrandId} {outcome : Outcome}
    (queued : state.strandQueue strand = evt :: rest)
    (found : state.register evt = some event)
    (complete : event.complete = some (.callback (.accept acceptor peer peerStrand) outcome))
    (delivers : (inScope state event && outcome.ok) = true) :
    deliveredTo state strand = some peer := by
  simp only [deliveredTo, queued, found, complete, delivers, if_true]

theorem accounted_completeCallback {state next : State} {missing : List EventId}
    (held : Accounted state missing) (objects : ObjectsOk state)
    (registered : RegisterOk state) {strand : StrandId} {evt : EventId}
    {rest : List EventId} {event : ReactorEvent} {operation : Operation} {outcome : Outcome}
    (queued : state.strandQueue strand = evt :: rest)
    (found : state.register evt = some event)
    (complete : event.complete = some (.callback operation outcome))
    (ran : completeCallback { state with
      strandQueue := Function.update state.strandQueue strand rest }
        evt event operation outcome = some next) :
    Accounted next (overwritten state (.strandStep strand) ++ missing) := by
  have completed : Accounted (setEvent { state with
      strandQueue := Function.update state.strandQueue strand rest } evt
        { event with complete := none, hasActiveEvent := false }) missing := by
    refine (held.setEvent registered found ?_ ?_).of_same rfl rfl rfl rfl
    · rintro ⟨target, final⟩
      cases final
    · rintro ⟨target, final⟩
      rw [complete] at final
      cases final
  rcases completeCallback_cases ran with ⟨rfl, skips⟩ |
    ⟨acceptor, peer, peerStrand, object, socket, taken, rfl, delivers, _, foundPeer, _, rfl⟩
  · have skipped := deliveredTo_skipped queued found complete skips
    simp only [overwritten, skipped]
    exact completed
  · have delivered := deliveredTo_delivers queued found complete delivers
    simp only [overwritten, delivered]
    exact accounted_deliver completed (objects.of_same rfl rfl rfl rfl)
      (registered.completed queued found complete) foundPeer object taken

theorem accounted_step {state next : State} {action : Action} {missing : List EventId}
    (held : Accounted state missing) (objects : ObjectsOk state)
    (registered : RegisterOk state) (stepped : step state action = some next) :
    Accounted next (overwritten state action ++ missing) := by
  cases step_moves stepped with
  | default kind => exact held.declare (.default kind) fun _ => rfl
  | create kind strand fd free =>
      have made : ∀ opened : State, Accounted opened missing → RegisterOk opened →
          Accounted (declare (construct opened kind strand fd)
            (constructed opened kind strand)) missing := by
        intro opened before ok
        apply (before.construct ok kind strand fd).declare
        intro evt
        rw [List.count_append]
        omega
      cases fd with
      | none => exact made state held registered
      | some fd =>
          exact made (openFile state fd) held (registered.of_same rfl rfl rfl rfl rfl rfl)
  | moveConstruct source object found may =>
      have left : Accounted (assign state source (some object.moved))
          (object.events ++ missing) := by
        apply held.assign (objects.known found)
        intro evt
        rw [found, List.count_append]
        change _ + _ + 0 = _ + object.events.count evt
        omega
      change Accounted _ missing
      apply left.declare
      intro evt
      rw [List.count_append]
      omega
  | moveAssign target source overwritten object foundTarget found sameKind may =>
      exact accounted_moveAssign held objects foundTarget found
  | convert connector object strand descriptor found kind forUser described =>
      exact accounted_convert held objects registered found strand _
  | convertAssign target connector socket object strand descriptor foundTarget found
      socketKind kind stranded described =>
      apply accounted_convertAssign held objects registered foundTarget found
      intro same
      subst same
      rw [foundTarget] at found
      cases found
      rw [socketKind] at kind
      cases kind
  | destroy var object next found ran =>
      exact accounted_destroy held objects registered found ran
  | initiate var sender armed object evt event found kind owns idle =>
      exact accounted_initiate held registered idle .plain
  | accept acceptor peer peerStrand armed object evt event found kind stranded owns idle =>
      exact accounted_initiate held registered idle _
  | dispatch evt event found reacts =>
      have operation := registered.notFinal_of_react found reacts
      exact held.setEvent registered found operation operation
  | react evt ok answer event operation reacted outcome found reacts before active ran =>
      have notFinal := registered.notFinal_of_react found (by rw [reacts]; rfl)
      rcases doReact_cases ran with ⟨rfl, _, _⟩ |
        ⟨acceptor, peer, strand, object, _, _, _, foundAcceptor, _, rfl, _⟩
      · exact held.setEvent registered found notFinal notFinal
      · have answered : RegisterOk (fin_accept state acceptor object answer) := by
          cases answer <;> exact registered.of_same rfl rfl rfl rfl rfl rfl
        have still : (fin_accept state acceptor object answer).register evt = some event := by
          rw [(fin_accept_same state acceptor object answer).2.2.2.2.1]
          exact found
        exact (accounted_fin_accept held objects foundAcceptor answer).setEvent answered
          still notFinal notFinal
  | forCompletion evt event operation outcome found reacts reacted =>
      refine (held.setEvent registered found ?_
        (registered.notFinal_of_react found (by rw [reacts]; rfl))).of_same rfl rfl rfl rfl
      rintro ⟨target, final⟩
      cases final
  | processDeletionQueue => exact held
  | runTask final event member found => exact held
  | completeCallback strand evt rest event operation outcome next queued found complete ran =>
      exact accounted_completeCallback held objects registered queued found complete ran
  | completeFinal strand final rest event evt next queued found complete ran =>
      obtain ⟨owner, foundOwner, rfl⟩ := Option.map_eq_some_iff.mp ran
      have nothing : overwritten state (.strandStep strand) = [] := by
        simp only [overwritten, deliveredTo, queued, found, complete]
      rw [nothing]
      split
      · exact held
      · exact (held.giveBoth registered found complete foundOwner).of_same rfl rfl rfl rfl

/-! ### Runs -/

theorem ownedEvents_eq_nil_iff {state : State} (objects : ObjectsOk state) (var : Var) :
    ownedEvents (state.objects var) = [] ↔ inUse state var = false := by
  unfold inUse
  cases found : state.objects var with
  | none => exact ⟨fun _ => rfl, fun _ => rfl⟩
  | some object =>
      simp only [ownedEvents, AsyncObject.events]
      cases stranded : object.strand.isSome with
      | false => exact ⟨fun _ => rfl, fun _ => rfl⟩
      | true =>
          have evented := (objects.each var object found).evented stranded
          obtain ⟨evt, isEvt⟩ := Option.isSome_iff_exists.mp evented
          simp [isEvt]

theorem overwritten_eq_nil_iff {state next : State} {action : Action}
    (objects : ObjectsOk state) (stepped : step state action = some next) :
    overwritten state action = [] ↔ keepsEvents state action = true := by
  have inUse_of : ∀ var object, state.objects var = some object →
      object.strand.isSome = true → ownedEvents (state.objects var) ≠ [] := by
    intro var object found stranded none
    have free := (ownedEvents_eq_nil_iff objects var).mp none
    simp only [inUse, found, stranded] at free
    cases free
  cases step_moves stepped with
  | moveAssign target source overwritten object foundTarget found sameKind may =>
      rw [keepsEvents, Bool.not_eq_true']
      exact ownedEvents_eq_nil_iff objects target
  | convert connector object strand descriptor found kind forUser described =>
      have stranded := (objects.each connector object found).linked
        (by rw [forUser]; rfl) (by rw [described]; rfl)
      have owns := inUse_of connector object found stranded
      exact ⟨fun none => absurd none owns, fun impossible => by cases impossible⟩
  | convertAssign target connector socket object strand descriptor foundTarget found
      socketKind kind stranded described =>
      have owns := inUse_of connector object found (by rw [stranded]; rfl)
      refine ⟨fun none => ?_, fun impossible => by cases impossible⟩
      exact absurd (List.append_eq_nil_iff.mp none).2 owns
  | completeCallback strand evt rest event operation outcome next queued found complete ran =>
      cases delivered : deliveredTo state strand with
      | none => simp [overwritten, keepsEvents, delivered]
      | some peer =>
          simp only [overwritten, keepsEvents, delivered, Option.map_some]
          rw [ownedEvents_eq_nil_iff objects peer]
          cases inUse state peer <;> decide
  | completeFinal strand final rest event evt next queued found complete ran =>
      have none : deliveredTo state strand = none := by
        simp only [deliveredTo, queued, found, complete]
      simp [overwritten, keepsEvents, none]
  | default kind => exact ⟨fun _ => rfl, fun _ => rfl⟩
  | create kind strand fd free => exact ⟨fun _ => rfl, fun _ => rfl⟩
  | moveConstruct source object found may => exact ⟨fun _ => rfl, fun _ => rfl⟩
  | destroy var object next found ran => exact ⟨fun _ => rfl, fun _ => rfl⟩
  | initiate var sender armed object evt event found kind owns idle =>
      exact ⟨fun _ => rfl, fun _ => rfl⟩
  | accept acceptor peer peerStrand armed object evt event found kind stranded owns idle =>
      exact ⟨fun _ => rfl, fun _ => rfl⟩
  | dispatch evt event found reacts => exact ⟨fun _ => rfl, fun _ => rfl⟩
  | react evt ok answer event operation reacted outcome found reacts before active ran =>
      exact ⟨fun _ => rfl, fun _ => rfl⟩
  | forCompletion evt event operation outcome found reacts reacted =>
      exact ⟨fun _ => rfl, fun _ => rfl⟩
  | processDeletionQueue => exact ⟨fun _ => rfl, fun _ => rfl⟩
  | runTask final event member found => exact ⟨fun _ => rfl, fun _ => rfl⟩

/-- The account of a run: what is missing at its end is what its steps lost. -/
theorem exec_accounted {state final : State} {actions : List Action}
    {missing : List EventId} (held : Accounted state missing)
    (objects : ObjectsOk state) (registered : RegisterOk state)
    (executed : Runs.exec step state actions = some final) :
    ∃ lost, ObjectsOk final ∧ RegisterOk final ∧ Accounted final (lost ++ missing) ∧
      (lost = [] ↔ Runs.StepsMeet step
        (fun state action => keepsEvents state action = true) state actions) := by
  induction actions generalizing state missing with
  | nil =>
      have same : state = final := Option.some.inj executed
      subst final
      exact ⟨[], objects, registered, held, fun _ => trivial, fun _ => rfl⟩
  | cons action rest ih =>
      obtain ⟨next, stepped, later⟩ := Runs.exec_cons_eq_some.mp executed
      obtain ⟨lost, finalObjects, finalRegistered, account, exact⟩ :=
        ih (accounted_step held objects registered stepped) (objectsOk_step objects stepped)
          (registerOk_step registered stepped) later
      refine ⟨lost ++ overwritten state action, finalObjects, finalRegistered, ?_, ?_⟩
      · rw [List.append_assoc]
        exact account
      · rw [List.append_eq_nil_iff, exact, overwritten_eq_nil_iff objects stepped]
        constructor
        · rintro ⟨kept, keeps⟩
          refine ⟨keeps, fun other same => ?_⟩
          rw [stepped] at same
          cases same
          exact kept
        · rintro ⟨keeps, kept⟩
          exact ⟨kept next stepped, keeps⟩

structure Drained (state : State) : Prop where
  deletionQueue : state.deletionQueue = []
  taskQueue : state.taskQueue = []
  strandQueue : ∀ strand, state.strandQueue strand = []

/-- Every event ever taken was given back, and given back once. -/
def Recovered (state : State) : Prop :=
  (∀ id, state.register id = none) ∧
    ∀ id, id < state.idGenerator → state.given.count id = 1

theorem Drained.notQueued {state : State} (drained : Drained state) (id : EventId) :
    ¬ Queued state id := by
  rintro (deletion | task | ⟨strand, member⟩)
  · rw [drained.deletionQueue] at deletion
    cases deletion
  · rw [drained.taskQueue] at task
    cases task
  · rw [drained.strandQueue strand] at member
    cases member

/-- When all objects are destroyed and all queues are drained, every event has been
given back exactly once if and only if no step converted a connector or moved onto
an object in use. -/
theorem recovered_iff_keepsEvents {actions : List Action} {final : State}
    (executed : Runs.exec step init actions = some final)
    (destroyed : ∀ var, final.objects var = none) (drained : Drained final) :
    Recovered final ↔
      Runs.StepsMeet step (fun state action => keepsEvents state action = true)
        init actions := by
  obtain ⟨lost, _, registered, account, exact⟩ :=
    exec_accounted accounted_init objectsOk_init registerOk_init executed
  rw [← exact]
  have operations : ∀ id event, final.register id = some event → ¬ event.IsFinal :=
    fun id event found isFinal =>
      drained.notQueued id (registered.queued id event found isFinal)
  have counted : ∀ evt, lost.count evt = liveOperation (final.register evt) := by
    intro evt
    have balance := account evt
    have noOwner : tally ownedEvents final.objects final.nextVar evt = 0 := by
      apply tally_eq_zero
      intro var _known
      rw [destroyed var]
      exact List.not_mem_nil
    have noFinal : tally finalTargets final.register final.idGenerator evt = 0 := by
      apply tally_eq_zero
      intro id _known member
      cases found : final.register id with
      | none =>
          rw [found] at member
          cases member
      | some event =>
          rw [found] at member
          simp only [finalTargets] at member
          split at member
          · rename_i target complete
            exact operations id event found ⟨target, complete⟩
          · cases member
    rw [List.append_nil] at balance
    omega
  constructor
  · rintro ⟨empty, _⟩
    apply List.eq_nil_iff_forall_not_mem.mpr
    intro evt member
    have positive := List.count_pos_iff.mpr member
    rw [counted, empty evt] at positive
    cases positive
  · intro same
    subst same
    have empty : ∀ id, final.register id = none := by
      intro id
      cases found : final.register id with
      | none => rfl
      | some event =>
          have live := counted id
          rw [found] at live
          simp only [liveOperation, List.count_nil] at live
          split at live
          · rename_i target complete
            exact absurd ⟨target, complete⟩ (operations id event found)
          · cases live
    refine ⟨empty, fun id known => ?_⟩
    rw [registered.counted id, if_pos ⟨known, empty id⟩]

def movedTimer : List Action :=
  [.create .timer 0 (some 3), .moveConstruct 0, .destroy 0, .destroy 1,
    .processDeletionQueue, .runTask 1, .strandStep 0]

theorem movedTimer_recovered : ∃ final, Runs.exec step init movedTimer = some final ∧
    Recovered final := by
  have objects : ∀ var, (Runs.exec step init movedTimer).bind
      (fun state => state.objects var) = none := by
    rintro (_ | _ | var) <;> rfl
  have strands : ∀ strand, (Runs.exec step init movedTimer).map
      (fun state => state.strandQueue strand) = some [] := by
    rintro (_ | strand) <;> rfl
  have queues : (Runs.exec step init movedTimer).map
      (fun state => (state.deletionQueue, state.taskQueue)) = some ([], []) := rfl
  obtain ⟨final, executed, empty⟩ := Option.map_eq_some_iff.mp queues
  rw [executed] at objects strands
  refine ⟨final, executed, (recovered_iff_keepsEvents executed objects
    ⟨congrArg Prod.fst empty, congrArg Prod.snd empty, ?_⟩).mpr (by decide +kernel)⟩
  exact fun strand => Option.some.inj (strands strand)

def overwrittenTimer : List Action :=
  [.create .timer 0 (some 3), .create .timer 0 (some 4), .moveAssign 0 1, .destroy 0,
    .destroy 1, .processDeletionQueue, .runTask 2, .strandStep 0]

theorem eventsAlwaysRecovered_false :
    ¬ ∀ (actions : List Action) (final : State),
      Runs.exec step init actions = some final → (∀ var, final.objects var = none) →
        Drained final → Recovered final := by
  intro always
  have objects : ∀ var, (Runs.exec step init overwrittenTimer).bind
      (fun state => state.objects var) = none := by
    rintro (_ | _ | var) <;> rfl
  have strands : ∀ strand, (Runs.exec step init overwrittenTimer).map
      (fun state => state.strandQueue strand) = some [] := by
    rintro (_ | strand) <;> rfl
  have queues : (Runs.exec step init overwrittenTimer).map
      (fun state => (state.deletionQueue, state.taskQueue)) = some ([], []) := rfl
  have lost : (Runs.exec step init overwrittenTimer).map
      (fun state => (state.register 0).isSome) = some true := by
    decide +kernel
  obtain ⟨final, executed, empty⟩ := Option.map_eq_some_iff.mp queues
  rw [executed] at objects strands lost
  have recovered := always overwrittenTimer final executed objects
    ⟨congrArg Prod.fst empty, congrArg Prod.snd empty,
      fun strand => Option.some.inj (strands strand)⟩
  have registered : (final.register 0).isSome = true := Option.some.inj lost
  rw [recovered.1 0] at registered
  cases registered

end BabaIo.Objects
