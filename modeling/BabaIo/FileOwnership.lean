import BabaIo.AcceptedFiles

/-
No file is leaked or closed twice, and when.

What a step loses is exactly the file of an object that it overwrites, or the
accepted file of a completion that it skips.  A run whose steps do neither keeps
one owner for every open file, and only such a run does.
-/

set_option autoImplicit false

namespace BabaIo.Objects

/-! ### The account of one step -/

theorem ownedFile_stranded {descriptors : DescriptorId → Descriptor}
    {object : AsyncObject} {descriptor : DescriptorId}
    (stranded : object.strand.isSome = true)
    (described : object.descriptor = some descriptor)
    (scope : (descriptors descriptor).inScope = true) :
    ownedFile descriptors (some object) = (descriptors descriptor).fd.toList := by
  unfold ownedFile ownedDescriptor
  dsimp only
  rw [if_pos stranded, described, Option.toList_some, List.flatMap_singleton, if_pos scope]

theorem FilesHeld.dispose {state next : State} {missing : List Fd}
    (held : FilesHeld state missing) {evt : Option EventId}
    (disposed : dispose state evt = some next) : FilesHeld next missing := by
  cases evt with
  | none =>
      cases disposed
      exact held
  | some evt =>
      obtain ⟨event, _, rfl⟩ := Option.map_eq_some_iff.mp disposed
      exact (held.take (finalEvent evt event.strand) rfl).of_same rfl rfl rfl rfl rfl rfl rfl

theorem FilesHeld.release {state : State} {missing : List Fd}
    (held : FilesHeld state missing) {var : Var} (known : var < state.nextVar)
    {value : Option AsyncObject} (unowned : ownedFile state.descriptors value = []) :
    FilesHeld (Objects.assign state var value)
      (ownedFile state.descriptors (state.objects var) ++ missing) := by
  apply held.assign known
  intro fd
  rw [unowned, List.count_append, List.count_nil]
  omega

theorem filesHeld_create {state : State} (held : FilesHeld state [])
    (objects : ObjectsOk state) (kind : Kind) (strand : StrandId) {fd : Option Fd}
    (free : fresh state fd = true) : FilesHeld (create state kind strand fd) [] := by
  have made : ∀ opened : State, FilesHeld opened fd.toList → ObjectsOk opened →
      FilesHeld (declare (construct opened kind strand fd)
        (constructed opened kind strand)) [] := by
    intro opened before ok
    apply (before.construct ok kind strand fd).declare
    intro other
    rw [ownedFile_constructed, List.count_nil, Nat.zero_add]
  cases fd with
  | none => exact made state held objects
  | some fd =>
      have closed : state.opened fd = false := by simpa [fresh] using free
      exact made (openFile state fd) (held.openFile closed) (objects.of_same rfl rfl rfl rfl)

theorem filesHeld_moveAssign {state : State} (held : FilesHeld state [])
    (objects : ObjectsOk state) {target source : Var} {overwritten object : AsyncObject}
    (foundTarget : state.objects target = some overwritten)
    (found : state.objects source = some object) :
    FilesHeld (moveAssign state target source object)
      (ownedFile state.descriptors (state.objects target)) := by
  unfold moveAssign
  by_cases same : target = source
  · rw [if_pos same]
    have unowned : ownedFile state.descriptors (some object.selfMoved) = [] :=
      ownedFile_unowned rfl
    have lost := held.release (objects.known foundTarget) unowned
    rw [List.append_nil] at lost
    exact lost
  · rw [if_neg same]
    have unowned : ownedFile state.descriptors (some object.moved) = [] :=
      ownedFile_unowned rfl
    have left := held.release (objects.known found) unowned
    have known : target < (assign state source (some object.moved)).nextVar :=
      objects.known foundTarget
    apply left.assign known
    intro fd
    have still : (assign state source (some object.moved)).objects target =
        state.objects target := Function.update_of_ne same _ _
    rw [still, List.append_nil, found]
    exact Nat.add_comm _ _

/-- The connector's file becomes that of the new socket. -/
theorem filesHeld_convert {state : State} (held : FilesHeld state [])
    (objects : ObjectsOk state) {connector : Var} {object : AsyncObject}
    {strand : StrandId} {descriptor : DescriptorId}
    (found : state.objects connector = some object)
    (forUser : object.strandForUser = some strand)
    (described : object.descriptor = some descriptor) :
    FilesHeld (convert state connector object strand (state.descriptors descriptor).fd) [] := by
  have ok := objects.each connector object found
  have stranded := ok.linked (by rw [forUser]; rfl) (by rw [described]; rfl)
  obtain ⟨own, isOwn, scope⟩ := ok.inScope stranded
  rw [described] at isOwn
  cases isOwn
  obtain ⟨sameObjects, nextVar, _, descriptors⟩ :=
    construct_same state .tcp strand (state.descriptors descriptor).fd
  have made := held.construct objects .tcp strand (state.descriptors descriptor).fd
  have unowned : ownedFile (construct state .tcp strand
      (state.descriptors descriptor).fd).descriptors (some object.converted) = [] :=
    ownedFile_unowned rfl
  have left := made.release (nextVar ▸ objects.known found) unowned
  -- A new descriptor does not change the file that the connector owned.
  have file : ownedFile (construct state .tcp strand
      (state.descriptors descriptor).fd).descriptors (some object) =
        (state.descriptors descriptor).fd.toList := by
    rw [← ownedFile_stranded stranded described scope]
    apply ownedFile_congr
    intro other owned
    rw [descriptors]
    exact Function.update_of_ne (Nat.ne_of_lt (objects.owned_lt found owned)) _ _
  rw [sameObjects, found, file] at left
  apply left.declare
  intro fd
  have new := ownedFile_constructed state .tcp strand (state.descriptors descriptor).fd
  change _ + (ownedFile (construct state .tcp strand
    (state.descriptors descriptor).fd).descriptors _).count fd = _
  rw [new, List.append_nil, List.count_nil, Nat.zero_add]

theorem filesHeld_convertAssign {state : State} (held : FilesHeld state [])
    (objects : ObjectsOk state) {target connector : Var} {socket object : AsyncObject}
    {strand : StrandId} {descriptor : DescriptorId}
    (foundTarget : state.objects target = some socket)
    (found : state.objects connector = some object) (different : target ≠ connector)
    (stranded : object.strand = some strand)
    (described : object.descriptor = some descriptor) :
    FilesHeld (convertAssign state target connector socket object strand descriptor)
      (ownedFile state.descriptors (state.objects target)) := by
  have taken := held.takeEvents .tcp descriptor strand
  obtain ⟨sameObjects, nextVar, _, descriptors⟩ :=
    takeEvents_same state .tcp descriptor strand
  have unowned : ownedFile (takeEvents state .tcp descriptor strand).descriptors
      (some object.converted) = [] := ownedFile_unowned rfl
  have left := taken.release (nextVar ▸ objects.known found) unowned
  rw [sameObjects, found, descriptors] at left
  have known : target < (assign (takeEvents state .tcp descriptor strand) connector
      (some object.converted)).nextVar := nextVar ▸ objects.known foundTarget
  apply left.assign known
  intro fd
  have still : (assign (takeEvents state .tcp descriptor strand) connector
      (some object.converted)).objects target = state.objects target := by
    change Function.update _ _ _ target = _
    rw [Function.update_of_ne different, sameObjects]
  have file : ownedFile state.descriptors (some { socket with
      strand := some strand
      descriptor := some descriptor
      evt := some state.idGenerator
      senderEvt := some (state.idGenerator + 1) }) =
        ownedFile state.descriptors (some object) := by
    unfold ownedFile ownedDescriptor
    dsimp only
    rw [stranded, described]
  rw [still]
  change _ + (ownedFile (takeEvents state .tcp descriptor strand).descriptors _).count fd =
    _ + (ownedFile (takeEvents state .tcp descriptor strand).descriptors _).count fd
  rw [descriptors, file, List.append_nil]
  exact Nat.add_comm _ _

theorem filesHeld_destroy {state next : State} (held : FilesHeld state [])
    (objects : ObjectsOk state) {var : Var} {object : AsyncObject}
    (found : state.objects var = some object)
    (ran : destroy state var object = some next) : FilesHeld next [] := by
  have gone := held.release (objects.known found)
    (show ownedFile state.descriptors none = [] from rfl)
  rw [found, List.append_nil] at gone
  rcases destroy_cases ran with ⟨rfl, outside⟩ |
    ⟨descriptor, disposed, stranded, described, scope, first, second⟩
  · have stranded := (objects.each var object found).unused_of_outside outside
    rw [ownedFile_unowned stranded] at gone
    exact gone
  · rw [ownedFile_stranded stranded described scope] at gone
    have owned : descriptor ∈ ownedDescriptor (some object) := by
      simp [ownedDescriptor, stranded, described]
    have left : FilesHeld (leaveScope (assign state var none) descriptor) [] := by
      apply FilesHeld.leaveScope
      · rw [List.append_nil]
        exact gone
      · exact tally_gone objects found owned
    exact (left.dispose first).dispose second

theorem filesHeld_initiate {state : State} (held : FilesHeld state [])
    (registered : RegisterOk state) {evt : EventId} {event : ReactorEvent} {armed : Bool}
    (idle : ready state (some evt) armed = some (evt, event)) (operation : Operation) :
    FilesHeld (initiate state evt event operation armed) [] := by
  obtain ⟨found, _, reacting, complete, _⟩ := ready_idle idle
  unfold initiate
  split
  · exact held.setEvent registered found fun _ => rfl
  · refine (held.setEvent registered found ?_).of_same rfl rfl rfl rfl rfl rfl rfl
    intro fd
    simp only [waitingFile, reacting, complete]
    rfl

theorem filesHeld_react {state reacted : State} (held : FilesHeld state [])
    (objects : ObjectsOk state) (registered : RegisterOk state) {evt : EventId}
    {event : ReactorEvent} {operation : Operation} {ok : Bool} {answer : Option Fd}
    {outcome : Outcome} (found : state.register evt = some event)
    (unanswered : event.reacting = none)
    (ran : doReact state event operation ok answer = some (reacted, outcome)) :
    FilesHeld (setEvent reacted evt { event with reacting := some outcome }) [] := by
  rcases doReact_cases ran with ⟨rfl, rfl, _⟩ |
    ⟨acceptor, peer, strand, object, _, _, _, foundAcceptor, free, rfl, rfl⟩
  · apply held.setEvent registered found
    intro fd
    simp only [waitingFile, unanswered]
    rfl
  · have written : FilesHeld (assign state acceptor (some { object with peerFd := answer }))
        [] := by
      apply held.assign (objects.known foundAcceptor)
      intro fd
      rw [foundAcceptor]
      rfl
    have still : RegisterOk (assign state acceptor (some { object with peerFd := answer })) :=
      registered.of_same rfl rfl rfl rfl rfl rfl
    cases answer with
    | none =>
        apply written.setEvent still found
        intro fd
        simp only [waitingFile, unanswered]
        rfl
    | some fd =>
        have closed : state.opened fd = false := by simpa [fresh] using free
        have opens : FilesHeld (openFile (assign state acceptor
            (some { object with peerFd := some fd })) fd) [fd] := written.openFile closed
        have stillOk : RegisterOk (openFile (assign state acceptor
            (some { object with peerFd := some fd })) fd) :=
          registered.of_same rfl rfl rfl rfl rfl rfl
        apply opens.setEvent stillOk found
        intro other
        simp only [waitingFile, unanswered, Option.bind_some, Option.bind_none,
          Option.toList_some, Option.toList_none, List.count_append, List.count_nil]
        omega

theorem filesHeld_forCompletion {state : State} (held : FilesHeld state [])
    (registered : RegisterOk state) {evt : EventId} {event : ReactorEvent}
    {operation : Operation} {outcome : Outcome} (found : state.register evt = some event)
    (reacts : event.react = some operation) (reacted : event.reacting = some outcome) :
    FilesHeld (forCompletion state evt event operation outcome) [] := by
  have complete : event.complete = none :=
    (registered.each evt event found).stages (by rw [reacts]; rfl)
  refine (held.setEvent registered found ?_).of_same rfl rfl rfl rfl rfl rfl rfl
  intro fd
  simp only [waitingFile, reacted, complete, Option.bind_some, Option.bind_none,
    Option.toList_none, List.nil_append, List.append_nil]

theorem filesHeld_completed {state : State} (held : FilesHeld state [])
    (registered : RegisterOk state) {strand : StrandId} {rest : List EventId}
    {evt : EventId} {event : ReactorEvent} {operation : Operation} {outcome : Outcome}
    (found : state.register evt = some event)
    (complete : event.complete = some (.callback operation outcome)) :
    FilesHeld (setEvent { state with
      strandQueue := Function.update state.strandQueue strand rest } evt
        { event with complete := none, hasActiveEvent := false })
      outcome.accepted.toList := by
  have reacting := (registered.completing found (by rw [complete]; rfl)).2
  refine (held.setEvent registered found ?_).of_same rfl rfl rfl rfl rfl rfl rfl
  intro fd
  simp only [waitingFile, reacting, complete, Option.bind_none, Option.toList_none,
    List.nil_append, List.count_nil, Nat.add_zero, Nat.zero_add]

/-- The delivered socket takes the accepted file, and what the peer owned is lost. -/
theorem filesHeld_deliver {state : State} {acceptor socket : AsyncObject} {peer : Var}
    (held : FilesHeld state acceptor.peerFd.toList) (objects : ObjectsOk state)
    (found : state.objects peer = some socket) (strand : StrandId) :
    FilesHeld (deliver state acceptor peer strand)
      (ownedFile state.descriptors (state.objects peer)) := by
  obtain ⟨sameObjects, nextVar, _, descriptors⟩ :=
    construct_same state .tcp strand acceptor.peerFd
  have made := held.construct objects .tcp strand acceptor.peerFd
  apply made.assign (nextVar ▸ objects.known found)
  intro fd
  have old : ownedFile (construct state .tcp strand acceptor.peerFd).descriptors
      (state.objects peer) = ownedFile state.descriptors (state.objects peer) := by
    apply ownedFile_congr
    intro other owned
    rw [found] at owned
    rw [descriptors]
    exact Function.update_of_ne (Nat.ne_of_lt (objects.owned_lt found owned)) _ _
  rw [ownedFile_constructed, sameObjects, old]
  exact Nat.add_comm _ _

theorem filesHeld_completeCallback {state next : State} (held : FilesHeld state [])
    (objects : ObjectsOk state) (registered : RegisterOk state) (tied : AcceptsTied state)
    {strand : StrandId} {evt : EventId} {rest : List EventId} {event : ReactorEvent}
    {operation : Operation} {outcome : Outcome}
    (queued : state.strandQueue strand = evt :: rest)
    (found : state.register evt = some event)
    (complete : event.complete = some (.callback operation outcome))
    (ran : completeCallback { state with
      strandQueue := Function.update state.strandQueue strand rest }
        evt event operation outcome = some next) :
    FilesHeld next (lostFiles state (.strandStep strand)) := by
  have completed : FilesHeld (setEvent { state with
      strandQueue := Function.update state.strandQueue strand rest } evt
        { event with complete := none, hasActiveEvent := false })
      outcome.accepted.toList := filesHeld_completed held registered found complete
  rcases completeCallback_cases ran with ⟨rfl, skips⟩ |
    ⟨acceptor, peer, peerStrand, object, socket, taken, rfl, delivers, foundAcceptor,
      foundPeer, _, rfl⟩
  · have skipped := deliveredTo_skipped queued found complete skips
    simp only [lostFiles, skipped, skippedFile, queued, found, complete, Option.bind_some,
      Option.isSome_none, Bool.false_eq_true, if_false]
    exact completed
  · have delivered := deliveredTo_delivers queued found complete delivers
    obtain ⟨scope, isOk⟩ := Bool.and_eq_true_iff.mp delivers
    obtain ⟨react, reacting⟩ := registered.completing found (by rw [complete]; rfl)
    -- The acceptor still holds the file that its accept has waited with.
    have holds : object.peerFd = outcome.accepted := by
      obtain ⟨ok, accepted⟩ := outcome
      cases isOk
      obtain ⟨owner, isOwner, ties⟩ := (tied evt event found).tied acceptor
        (by simp only [acceptorOf, react, complete]) scope
      have same := foundAcceptor.symm.trans isOwner
      cases same
      exact ties.answered accepted (by simp only [answeredWith, reacting, complete])
    simp only [lostFiles, delivered]
    rw [← holds] at completed
    exact filesHeld_deliver completed (objects.of_same rfl rfl rfl rfl) foundPeer taken

theorem filesHeld_completeFinal {state next : State} (held : FilesHeld state [])
    (registered : RegisterOk state) (tied : AcceptsTied state) {strand : StrandId}
    {final evt : EventId} {rest : List EventId} {event : ReactorEvent}
    (found : state.register final = some event)
    (complete : event.complete = some (.final evt))
    (ran : completeFinal { state with
      strandQueue := Function.update state.strandQueue strand rest }
        final event.strand evt = some next) : FilesHeld next [] := by
  obtain ⟨owner, foundOwner, rfl⟩ := Option.map_eq_some_iff.mp ran
  change state.register evt = some owner at foundOwner
  split
  · exact held.of_same rfl rfl rfl rfl rfl rfl rfl
  · rename_i inactive
    have idle : waitingFile (some owner) = [] := by
      by_contra some
      exact inactive ((tied evt owner foundOwner).active some)
    have empty : waitingFile (some event) = [] := by
      have reacting := (registered.completing found (by rw [complete]; rfl)).2
      simp only [waitingFile, reacting, complete]
      rfl
    have different : evt ≠ final :=
      Nat.ne_of_lt ((registered.each final event found).older evt complete)
    have first := held.give (registered.known foundOwner) (by rw [foundOwner]; exact idle)
    have still : (give state evt).register final = some event := by
      rw [← found]
      exact Function.update_of_ne different.symm _ _
    have second := first.give (registered.known found) (by rw [still]; exact empty)
    exact second.of_same rfl rfl rfl rfl rfl rfl rfl

theorem filesHeld_step {state next : State} {action : Action} (held : FilesHeld state [])
    (objects : ObjectsOk state) (registered : RegisterOk state) (tied : AcceptsTied state)
    (stepped : step state action = some next) :
    FilesHeld next (lostFiles state action) := by
  cases step_moves stepped with
  | default kind => exact held.declare _ fun _ => rfl
  | create kind strand fd free => exact filesHeld_create held objects kind strand free
  | moveConstruct source object found may =>
      have unowned : ownedFile state.descriptors (some object.moved) = [] :=
        ownedFile_unowned rfl
      have left := held.release (objects.known found) unowned
      rw [found, List.append_nil] at left
      apply left.declare
      intro fd
      exact Nat.zero_add _
  | moveAssign target source overwritten object foundTarget found sameKind may =>
      exact filesHeld_moveAssign held objects foundTarget found
  | convert connector object strand descriptor found kind forUser described =>
      exact filesHeld_convert held objects found forUser described
  | convertAssign target connector socket object strand descriptor foundTarget found
      socketKind kind stranded described =>
      apply filesHeld_convertAssign held objects foundTarget found _ stranded described
      intro same
      subst same
      rw [foundTarget] at found
      cases found
      rw [socketKind] at kind
      cases kind
  | destroy var object next found ran => exact filesHeld_destroy held objects found ran
  | initiate var sender armed object evt event found kind owns idle =>
      exact filesHeld_initiate held registered idle .plain
  | accept acceptor peer peerStrand armed object evt event found kind stranded owns idle =>
      exact filesHeld_initiate held registered idle _
  | dispatch evt event found reacts => exact held.setEvent registered found fun _ => rfl
  | react evt ok answer event operation reacted outcome found reacts before active ran =>
      exact filesHeld_react held objects registered found before ran
  | forCompletion evt event operation outcome found reacts reacted =>
      exact filesHeld_forCompletion held registered found reacts reacted
  | processDeletionQueue => exact held.of_same rfl rfl rfl rfl rfl rfl rfl
  | runTask final event member found => exact held.of_same rfl rfl rfl rfl rfl rfl rfl
  | completeCallback strand evt rest event operation outcome next queued found complete ran =>
      exact filesHeld_completeCallback held objects registered tied queued found complete ran
  | completeFinal strand final rest event evt next queued found complete ran =>
      have nothing : lostFiles state (.strandStep strand) = [] := by
        simp only [lostFiles, deliveredTo, skippedFile, queued, found, complete,
          Option.bind_some]
      rw [nothing]
      exact filesHeld_completeFinal held registered tied found complete ran

/-! ### Runs -/

structure Invariant (state : State) : Prop where
  objects : ObjectsOk state
  linked : EventsLinked state
  registered : RegisterOk state
  tied : AcceptsTied state

theorem invariant_init : Invariant init := by
  refine ⟨objectsOk_init, ?_, registerOk_init, ?_⟩
  · intro var object impossible
    cases impossible
  · intro evt event impossible
    cases impossible

theorem Invariant.step {state next : State} {action : Action} (held : Invariant state)
    (keeps : keepsFiles state action = true) (stepped : step state action = some next) :
    Invariant next := by
  constructor
  · exact objectsOk_step held.objects stepped
  · exact eventsLinked_step held.linked stepped
  · exact registerOk_step held.registered stepped
  · exact acceptsTied_step held.tied held.objects held.linked held.registered keeps stepped

theorem filesOwned_init : FilesOwned init := ⟨fun _ => rfl, rfl⟩

/-- In every state of a run each open file has one owner and no file is closed twice,
if and only if no step moves onto an object that owns a file or skips a completion
that carries one. -/
theorem filesOwned_iff_keepsFiles {actions : List Action} {final : State}
    (executed : Runs.exec step init actions = some final) :
    Runs.StatesMeet step FilesOwned init actions ↔
      Runs.StepsMeet step (fun state action => keepsFiles state action = true)
        init actions := by
  refine Runs.statesMeet_iff_stepsMeet ?_ ?_ invariant_init filesOwned_init executed
  · intro state action next held _ keeps stepped
    exact held.step keeps stepped
  · intro state action next held owned stepped
    have account := filesHeld_step (filesOwned_iff.mp owned) held.objects held.registered
      held.tied stepped
    exact account.filesOwned_iff_nil.trans (lostFiles_eq_nil_iff state action)

/-- A connection is accepted into a default constructed socket, and both objects are
destroyed. -/
def acceptedSocket : List Action :=
  [.create .acceptor 0 (some 3), .default .tcp, .accept 0 1 none true, .dispatch 0,
    .react 0 true (some 4), .forCompletion 0, .strandStep 0, .destroy 1, .destroy 0]

theorem acceptedSocket_owned :
    Runs.StatesMeet step FilesOwned init acceptedSocket := by
  have runs : (Runs.exec step init acceptedSocket).isSome = true := by decide +kernel
  obtain ⟨final, executed⟩ := Option.isSome_iff_exists.mp runs
  exact (filesOwned_iff_keepsFiles executed).mpr (by decide +kernel)

/-- The acceptor is destroyed while the completion of its accept waits on the strand. -/
def acceptorDestroyed : List Action :=
  [.create .acceptor 0 (some 3), .default .tcp, .accept 0 1 none true, .dispatch 0,
    .react 0 true (some 4), .forCompletion 0, .destroy 0, .strandStep 0]

theorem filesAlwaysOwned_false :
    ¬ ∀ (actions : List Action) (final : State),
      Runs.exec step init actions = some final →
        Runs.StatesMeet step FilesOwned init actions := by
  intro always
  have leaked : (Runs.exec step init acceptorDestroyed).map
      (fun state => (owners state 4, state.opened 4)) = some (0, true) := by
    decide +kernel
  obtain ⟨final, executed, ends⟩ := Option.map_eq_some_iff.mp leaked
  have held := Runs.StatesMeet.final (always acceptorDestroyed final executed) executed
  obtain ⟨noOwner, isOpen⟩ := Prod.mk.inj ends
  have owned := held.owned 4
  rw [noOwner, isOpen] at owned
  cases owned

end BabaIo.Objects
