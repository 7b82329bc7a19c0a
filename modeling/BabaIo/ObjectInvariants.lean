import BabaIo.AsyncObjects

/-
What every step keeps of the objects, their descriptors and the register.

Each step is inverted once.  The invariants say that ids are used in order, that
an object with a strand is the only one with its descriptor, which is in scope,
and that a registered final event is in one of the queues.
-/

set_option autoImplicit false

namespace BabaIo.Objects

theorem update_eq_some {α : Type} {entries : Nat → Option α} {index other : Nat}
    {value : Option α} {entry : α}
    (found : Function.update entries index value other = some entry) :
    (other = index ∧ value = some entry) ∨ (other ≠ index ∧ entries other = some entry) := by
  by_cases same : other = index
  · rw [same, Function.update_self] at found
    exact Or.inl ⟨same, found⟩
  · rw [Function.update_of_ne same] at found
    exact Or.inr ⟨same, found⟩

/-! ### Inversion of the step function -/

inductive Moves (state : State) : Action → State → Prop where
  | default (kind : Kind) : Moves state (.default kind) (declare state (.default kind))
  | create (kind : Kind) (strand : StrandId) (fd : Option Fd)
      (free : fresh state fd = true) :
      Moves state (.create kind strand fd) (create state kind strand fd)
  | moveConstruct (source : Var) (object : AsyncObject)
      (found : state.objects source = some object) (may : mayMove state object = true) :
      Moves state (.moveConstruct source) (moveConstruct state source object)
  | moveAssign (target source : Var) (overwritten object : AsyncObject)
      (foundTarget : state.objects target = some overwritten)
      (found : state.objects source = some object)
      (sameKind : overwritten.kind = object.kind) (may : mayMove state object = true) :
      Moves state (.moveAssign target source) (moveAssign state target source object)
  | convert (connector : Var) (object : AsyncObject) (strand : StrandId)
      (descriptor : DescriptorId) (found : state.objects connector = some object)
      (kind : object.kind = .connector) (forUser : object.strandForUser = some strand)
      (described : object.descriptor = some descriptor) :
      Moves state (.convert connector)
        (convert state connector object strand (state.descriptors descriptor).fd)
  | convertAssign (target connector : Var) (socket object : AsyncObject)
      (strand : StrandId) (descriptor : DescriptorId)
      (foundTarget : state.objects target = some socket)
      (found : state.objects connector = some object)
      (socketKind : socket.kind = .tcp) (kind : object.kind = .connector)
      (stranded : object.strand = some strand)
      (described : object.descriptor = some descriptor) :
      Moves state (.convertAssign target connector)
        (convertAssign state target connector socket object strand descriptor)
  | destroy (var : Var) (object : AsyncObject) (next : State)
      (found : state.objects var = some object)
      (ran : destroy state var object = some next) : Moves state (.destroy var) next
  | initiate (var : Var) (sender armed : Bool) (object : AsyncObject) (evt : EventId)
      (event : ReactorEvent) (found : state.objects var = some object)
      (kind : object.kind ≠ .acceptor)
      (owns : (if sender then object.senderEvt else object.evt) = some evt)
      (idle : ready state (some evt) armed = some (evt, event)) :
      Moves state (.initiate var sender armed) (initiate state evt event .plain armed)
  | accept (acceptor peer : Var) (peerStrand : Option StrandId) (armed : Bool)
      (object : AsyncObject) (evt : EventId) (event : ReactorEvent)
      (found : state.objects acceptor = some object) (kind : object.kind = .acceptor)
      (stranded : object.strand.isSome = true) (owns : object.evt = some evt)
      (idle : ready state (some evt) armed = some (evt, event)) :
      Moves state (.accept acceptor peer peerStrand armed)
        (initiate state evt event (.accept acceptor peer peerStrand) armed)
  | dispatch (evt : EventId) (event : ReactorEvent)
      (found : state.register evt = some event) (reacts : event.react.isSome = true) :
      Moves state (.dispatch evt) (setEvent state evt { event with hasActiveEvent := true })
  | react (evt : EventId) (ok : Bool) (answer : Option Fd) (event : ReactorEvent)
      (operation : Operation) (reacted : State) (outcome : Outcome)
      (found : state.register evt = some event)
      (reacts : event.react = some operation) (before : event.reacting = none)
      (active : event.hasActiveEvent = true)
      (ran : doReact state event operation ok answer = some (reacted, outcome)) :
      Moves state (.react evt ok answer)
        (setEvent reacted evt { event with reacting := some outcome })
  | forCompletion (evt : EventId) (event : ReactorEvent) (operation : Operation)
      (outcome : Outcome) (found : state.register evt = some event)
      (reacts : event.react = some operation) (reacted : event.reacting = some outcome) :
      Moves state (.forCompletion evt) (forCompletion state evt event operation outcome)
  | processDeletionQueue :
      Moves state .processDeletionQueue
        { state with
          deletionQueue := []
          taskQueue := state.taskQueue ++ state.deletionQueue }
  | runTask (final : EventId) (event : ReactorEvent) (member : final ∈ state.taskQueue)
      (found : state.register final = some event) :
      Moves state (.runTask final)
        (enqueue { state with taskQueue := state.taskQueue.erase final } event.strand final)
  | completeCallback (strand : StrandId) (evt : EventId) (rest : List EventId)
      (event : ReactorEvent) (operation : Operation) (outcome : Outcome) (next : State)
      (queued : state.strandQueue strand = evt :: rest)
      (found : state.register evt = some event)
      (complete : event.complete = some (.callback operation outcome))
      (ran : completeCallback { state with
        strandQueue := Function.update state.strandQueue strand rest }
          evt event operation outcome = some next) :
      Moves state (.strandStep strand) next
  | completeFinal (strand : StrandId) (final : EventId) (rest : List EventId)
      (event : ReactorEvent) (evt : EventId) (next : State)
      (queued : state.strandQueue strand = final :: rest)
      (found : state.register final = some event)
      (complete : event.complete = some (.final evt))
      (ran : completeFinal { state with
        strandQueue := Function.update state.strandQueue strand rest }
          final event.strand evt = some next) :
      Moves state (.strandStep strand) next

theorem ready_eq_some {state : State} {evt : Option EventId} {armed : Bool}
    {idle : EventId × ReactorEvent} (isReady : ready state evt armed = some idle) :
    evt = some idle.1 ∧ state.register idle.1 = some idle.2 ∧ idle.2.busy = false ∧
      (armed = true → armable state idle.2 = true) := by
  unfold ready at isReady
  split at isReady
  · cases isReady
  · split at isReady
    · cases isReady
    · rename_i found
      split at isReady
      · cases isReady
      · rename_i free
        cases isReady
        simp only [Bool.or_eq_true, Bool.and_eq_true, Bool.not_eq_true', not_or,
          not_and, Bool.not_eq_true, Bool.not_eq_false] at free
        exact ⟨rfl, found, free.1, free.2⟩

theorem ready_idle {state : State} {evt : EventId} {event : ReactorEvent} {armed : Bool}
    (idle : ready state (some evt) armed = some (evt, event)) :
    state.register evt = some event ∧ event.react = none ∧ event.reacting = none ∧
      event.complete = none ∧ (armed = true → armable state event = true) := by
  obtain ⟨_, found, free, canArm⟩ := ready_eq_some idle
  simp only [ReactorEvent.busy, Bool.or_eq_false_iff, Option.isSome_eq_false_iff,
    Option.isNone_iff_eq_none] at free
  exact ⟨found, free.1.1, free.1.2, free.2, canArm⟩

theorem destroy_cases {state next : State} {var : Var} {object : AsyncObject}
    (ran : destroy state var object = some next) :
    (next = assign state var none ∧
      (object.strand.isSome = true → ∀ descriptor, object.descriptor = some descriptor →
        (state.descriptors descriptor).inScope = false)) ∨
    ∃ descriptor disposed, object.strand.isSome = true ∧
      object.descriptor = some descriptor ∧
      (state.descriptors descriptor).inScope = true ∧
      dispose (leaveScope (assign state var none) descriptor) object.evt = some disposed ∧
      dispose disposed object.senderEvt = some next := by
  unfold destroy at ran
  dsimp only at ran
  split at ran
  · rename_i stranded
    cases ran
    refine Or.inl ⟨rfl, fun impossible => ?_⟩
    rw [stranded] at impossible
    cases impossible
  · cases ran
  · rename_i strand descriptor stranded described
    split at ran
    · obtain ⟨disposed, first, second⟩ := Option.bind_eq_some_iff.mp ran
      exact Or.inr ⟨descriptor, disposed, by rw [stranded]; rfl, described, ‹_›, first, second⟩
    · rename_i outside
      cases ran
      refine Or.inl ⟨rfl, fun _ other same => ?_⟩
      rw [described] at same
      cases same
      exact Bool.eq_false_iff.mpr outside

theorem step_moves {state next : State} {action : Action}
    (stepped : step state action = some next) : Moves state action next := by
  cases action with
  | default kind =>
      cases stepped
      exact .default kind
  | create kind strand fd =>
      simp only [step] at stepped
      split at stepped
      · cases stepped
        exact .create kind strand fd ‹_›
      · cases stepped
  | moveConstruct source =>
      simp only [step] at stepped
      split at stepped
      · cases stepped
      · split at stepped
        · cases stepped
          exact .moveConstruct source _ ‹_› ‹_›
        · cases stepped
  | moveAssign target source =>
      simp only [step] at stepped
      split at stepped
      · rename_i overwritten object foundTarget found
        split at stepped
        · rename_i guarded
          cases stepped
          exact .moveAssign target source overwritten object foundTarget found guarded.1
            guarded.2
        · cases stepped
      · cases stepped
  | convert connector =>
      simp only [step] at stepped
      split at stepped
      · cases stepped
      · split at stepped
        · cases stepped
          exact .convert connector _ _ _ ‹_› ‹_› ‹_› ‹_›
        · cases stepped
  | convertAssign target connector =>
      simp only [step] at stepped
      split at stepped
      · rename_i socket object foundTarget found
        split at stepped
        · cases stepped
          exact .convertAssign target connector socket object _ _ foundTarget found
            ‹_› ‹_› ‹_› ‹_›
        · cases stepped
      · cases stepped
  | destroy var =>
      obtain ⟨object, found, ran⟩ := Option.bind_eq_some_iff.mp stepped
      exact .destroy var object next found ran
  | initiate var sender armed =>
      simp only [step] at stepped
      split at stepped
      · cases stepped
      · rename_i object found
        split at stepped
        · rename_i guarded
          obtain ⟨⟨evt, event⟩, idle, rfl⟩ := Option.map_eq_some_iff.mp stepped
          have owns := (ready_eq_some idle).1
          rw [owns] at idle
          exact .initiate var sender armed object evt event found guarded.1 owns idle
        · cases stepped
  | accept acceptor peer peerStrand armed =>
      simp only [step] at stepped
      split at stepped
      · cases stepped
      · rename_i object found
        split at stepped
        · rename_i guarded
          obtain ⟨⟨evt, event⟩, idle, rfl⟩ := Option.map_eq_some_iff.mp stepped
          have owns := (ready_eq_some idle).1
          rw [owns] at idle
          exact .accept acceptor peer peerStrand armed object evt event found guarded.1
            guarded.2 owns idle
        · cases stepped
  | dispatch evt =>
      simp only [step] at stepped
      split at stepped
      · cases stepped
      · rename_i event found
        split at stepped
        · rename_i guarded
          cases stepped
          exact .dispatch evt event found guarded.1
        · cases stepped
  | react evt ok answer =>
      simp only [step] at stepped
      split at stepped
      · cases stepped
      · rename_i event found
        split at stepped
        · rename_i operation reacts before active
          obtain ⟨⟨reacted, outcome⟩, ran, rfl⟩ := Option.map_eq_some_iff.mp stepped
          exact .react evt ok answer event operation reacted outcome found reacts before
            active ran
        · cases stepped
  | forCompletion evt =>
      simp only [step] at stepped
      split at stepped
      · cases stepped
      · split at stepped
        · cases stepped
          exact .forCompletion evt _ _ _ ‹_› ‹_› ‹_›
        · cases stepped
  | processDeletionQueue =>
      cases stepped
      exact .processDeletionQueue
  | runTask final =>
      simp only [step] at stepped
      split at stepped
      · obtain ⟨event, found, rfl⟩ := Option.map_eq_some_iff.mp stepped
        exact .runTask final event ‹_› found
      · cases stepped
  | strandStep strand =>
      simp only [step] at stepped
      split at stepped
      · cases stepped
      · rename_i evt rest queued
        split at stepped
        · cases stepped
        · rename_i event found
          split at stepped
          · cases stepped
          · exact .completeCallback strand evt rest event _ _ next queued found ‹_› stepped
          · exact .completeFinal strand evt rest event _ next queued found ‹_› stepped

/-! ### Objects and their descriptors -/

def ownedDescriptor : Option AsyncObject → List DescriptorId
  | none => []
  | some object => if object.strand.isSome then object.descriptor.toList else []

structure ObjectOk (descriptors : DescriptorId → Descriptor) (object : AsyncObject) :
    Prop where
  inScope : object.strand.isSome = true →
    ∃ descriptor, object.descriptor = some descriptor ∧
      (descriptors descriptor).inScope = true
  linked : object.strandForUser.isSome = true → object.descriptor.isSome = true →
    object.strand.isSome = true
  evented : object.strand.isSome = true → object.evt.isSome = true

structure ObjectsOk (state : State) : Prop where
  unused : ∀ var, state.nextVar ≤ var → state.objects var = none
  described : ∀ descriptor,
    tally ownedDescriptor state.objects state.nextVar descriptor ≤
      if descriptor < state.nextDescriptor then 1 else 0
  each : ∀ var object, state.objects var = some object →
    ObjectOk state.descriptors object

theorem objectsOk_init : ObjectsOk init := by
  refine ⟨fun _ _ => rfl, fun _ => Nat.zero_le _, ?_⟩
  intro var object impossible
  cases impossible

theorem ObjectsOk.known {state : State} (held : ObjectsOk state) {var : Var}
    {object : AsyncObject} (found : state.objects var = some object) :
    var < state.nextVar := by
  by_contra beyond
  rw [held.unused var (Nat.le_of_not_lt beyond)] at found
  cases found

theorem objectOk_unlinked {descriptors : DescriptorId → Descriptor}
    {object : AsyncObject} (strand : object.strand = none)
    (unlinked : object.strandForUser = none ∨ object.descriptor = none) :
    ObjectOk descriptors object := by
  constructor
  · intro impossible
    rw [strand] at impossible
    cases impossible
  · intro forUser described
    rcases unlinked with none | none
    · rw [none] at forUser
      cases forUser
    · rw [none] at described
      cases described
  · intro impossible
    rw [strand] at impossible
    cases impossible

theorem ObjectOk.of_descriptors {before after : DescriptorId → Descriptor}
    {object : AsyncObject} (ok : ObjectOk before object)
    (same : ∀ descriptor, descriptor ∈ ownedDescriptor (some object) →
      after descriptor = before descriptor) : ObjectOk after object := by
  refine ⟨fun stranded => ?_, ok.linked, ok.evented⟩
  obtain ⟨descriptor, described, inScope⟩ := ok.inScope stranded
  refine ⟨descriptor, described, ?_⟩
  rw [same descriptor (by simp [ownedDescriptor, stranded, described])]
  exact inScope

theorem ObjectsOk.assign {state : State} (held : ObjectsOk state) {var : Var}
    (known : var < state.nextVar) {value : Option AsyncObject}
    (ok : ∀ object, value = some object → ObjectOk state.descriptors object)
    (fits : ∀ descriptor, tally ownedDescriptor state.objects state.nextVar descriptor +
        (ownedDescriptor value).count descriptor ≤
      (if descriptor < state.nextDescriptor then 1 else 0) +
        (ownedDescriptor (state.objects var)).count descriptor) :
    ObjectsOk (assign state var value) := by
  constructor
  · intro other beyond
    change state.nextVar ≤ other at beyond
    have different : other ≠ var := by
      intro same
      subst same
      exact Nat.lt_irrefl _ (Nat.lt_of_lt_of_le known beyond)
    change Function.update state.objects var value other = none
    rw [Function.update_of_ne different]
    exact held.unused other beyond
  · intro descriptor
    have changed := tally_update ownedDescriptor state.objects known value descriptor
    have room := fits descriptor
    change tally ownedDescriptor (Function.update state.objects var value) state.nextVar
      descriptor ≤ if descriptor < state.nextDescriptor then 1 else 0
    omega
  · intro other object found
    rcases update_eq_some found with ⟨_, new⟩ | ⟨_, old⟩
    · exact ok object new
    · exact held.each other object old

theorem ObjectsOk.assign_owned {state : State} (held : ObjectsOk state) {var : Var}
    (known : var < state.nextVar) {value : Option AsyncObject}
    (ok : ∀ object, value = some object → ObjectOk state.descriptors object)
    (owned : ownedDescriptor value = [] ∨
      ownedDescriptor value = ownedDescriptor (state.objects var)) :
    ObjectsOk (Objects.assign state var value) := by
  apply held.assign known ok
  intro descriptor
  have described := held.described descriptor
  rcases owned with none | same
  · rw [none, List.count_nil]
    omega
  · rw [same]
    omega

theorem ObjectsOk.declare {state : State} (held : ObjectsOk state)
    {object : AsyncObject} (ok : ObjectOk state.descriptors object)
    (fits : ∀ descriptor, tally ownedDescriptor state.objects state.nextVar descriptor +
        (ownedDescriptor (some object)).count descriptor ≤
      if descriptor < state.nextDescriptor then 1 else 0) :
    ObjectsOk (declare state object) := by
  constructor
  · intro other beyond
    change state.nextVar + 1 ≤ other at beyond
    have different : other ≠ state.nextVar := Nat.ne_of_gt beyond
    change Function.update state.objects state.nextVar (some object) other = none
    rw [Function.update_of_ne different]
    exact held.unused other (Nat.le_of_succ_le beyond)
  · intro descriptor
    have added := tally_add ownedDescriptor state.objects state.nextVar (some object)
      descriptor
    exact added ▸ fits descriptor
  · intro other found isFound
    rcases update_eq_some isFound with ⟨_, new⟩ | ⟨_, old⟩
    · cases new
      exact ok
    · exact held.each other found old

theorem ObjectsOk.owned_lt {state : State} (held : ObjectsOk state) {var : Var}
    {object : AsyncObject} (found : state.objects var = some object)
    {descriptor : DescriptorId} (owned : descriptor ∈ ownedDescriptor (some object)) :
    descriptor < state.nextDescriptor := by
  have counted : (ownedDescriptor (state.objects var)).count descriptor ≤
      tally ownedDescriptor state.objects state.nextVar descriptor :=
    count_le_tally ownedDescriptor state.objects (held.known found) descriptor
  have one : 0 < (ownedDescriptor (state.objects var)).count descriptor := by
    rw [found]
    exact List.count_pos_iff.mpr owned
  have described := held.described descriptor
  by_contra beyond
  rw [if_neg beyond] at described
  omega

theorem ObjectsOk.of_same {state next : State} (held : ObjectsOk state)
    (objects : next.objects = state.objects) (nextVar : next.nextVar = state.nextVar)
    (descriptors : next.descriptors = state.descriptors)
    (nextDescriptor : next.nextDescriptor = state.nextDescriptor) : ObjectsOk next := by
  constructor
  · rw [objects, nextVar]
    exact held.unused
  · rw [objects, nextVar, nextDescriptor]
    exact held.described
  · rw [objects, descriptors]
    exact held.each

theorem ObjectsOk.construct {state : State} (held : ObjectsOk state) (kind : Kind)
    (strand : StrandId) (fd : Option Fd) :
    ObjectsOk (construct state kind strand fd) := by
  have described : ObjectsOk { state with
      descriptors := Function.update state.descriptors state.nextDescriptor ⟨fd, true⟩
      nextDescriptor := state.nextDescriptor + 1 } := by
    refine ⟨held.unused, fun descriptor => ?_, fun var object found => ?_⟩
    · have before := held.described descriptor
      change _ ≤ if descriptor < state.nextDescriptor + 1 then 1 else 0
      split at before
      · rw [if_pos (Nat.lt_succ_of_lt ‹_›)]
        exact before
      · exact before.trans (Nat.zero_le _)
    · apply (held.each var object found).of_descriptors
      intro descriptor owned
      have older := held.owned_lt found owned
      exact Function.update_of_ne (Nat.ne_of_lt older) _ _
  unfold Objects.construct takeEvents
  split <;> exact described.of_same rfl rfl rfl rfl

theorem construct_same (state : State) (kind : Kind) (strand : StrandId)
    (fd : Option Fd) :
    (construct state kind strand fd).objects = state.objects ∧
      (construct state kind strand fd).nextVar = state.nextVar ∧
      (construct state kind strand fd).nextDescriptor = state.nextDescriptor + 1 ∧
      (construct state kind strand fd).descriptors =
        Function.update state.descriptors state.nextDescriptor ⟨fd, true⟩ := by
  unfold construct takeEvents
  split <;> exact ⟨rfl, rfl, rfl, rfl⟩

theorem takeEvents_same (state : State) (kind : Kind) (descriptor : DescriptorId)
    (strand : StrandId) :
    (takeEvents state kind descriptor strand).objects = state.objects ∧
      (takeEvents state kind descriptor strand).nextVar = state.nextVar ∧
      (takeEvents state kind descriptor strand).nextDescriptor = state.nextDescriptor ∧
      (takeEvents state kind descriptor strand).descriptors = state.descriptors := by
  unfold takeEvents
  split <;> exact ⟨rfl, rfl, rfl, rfl⟩

theorem constructed_ok (state : State) (kind : Kind) (strand : StrandId)
    (fd : Option Fd) :
    ObjectOk (construct state kind strand fd).descriptors
      (constructed state kind strand) := by
  refine ⟨fun _ => ⟨state.nextDescriptor, rfl, ?_⟩, fun _ _ => rfl, fun _ => rfl⟩
  rw [(construct_same state kind strand fd).2.2.2, Function.update_self]

/-- The new object fits wherever the old one of the variable owns nothing else. -/
theorem constructed_fits {state : State} (held : ObjectsOk state) (kind : Kind)
    (strand : StrandId) (fd : Option Fd) (descriptor : DescriptorId) :
    tally ownedDescriptor (construct state kind strand fd).objects
        (construct state kind strand fd).nextVar descriptor +
        (ownedDescriptor (some (constructed state kind strand))).count descriptor ≤
      if descriptor < (construct state kind strand fd).nextDescriptor then 1 else 0 := by
  obtain ⟨objects, nextVar, nextDescriptor, _⟩ := construct_same state kind strand fd
  rw [objects, nextVar, nextDescriptor]
  have before := held.described descriptor
  change _ + [state.nextDescriptor].count descriptor ≤ _
  by_cases same : descriptor = state.nextDescriptor
  · subst descriptor
    rw [if_neg (Nat.lt_irrefl _)] at before
    rw [if_pos (Nat.lt_succ_self _), List.count_singleton_self]
    omega
  · rw [List.count_singleton, if_neg (by simpa using Ne.symm same), Nat.add_zero]
    split at before
    · rw [if_pos (Nat.lt_succ_of_lt ‹_›)]
      exact before
    · exact before.trans (Nat.zero_le _)

/-- The destructor's descriptor leaves scope once its variable is gone. -/
theorem ObjectsOk.leaveScope {state : State} (held : ObjectsOk state)
    {descriptor : DescriptorId}
    (free : tally ownedDescriptor state.objects state.nextVar descriptor = 0) :
    ObjectsOk (leaveScope state descriptor) := by
  have left : ObjectsOk { state with
      descriptors := Function.update state.descriptors descriptor
        { state.descriptors descriptor with inScope := false } } := by
    refine ⟨held.unused, held.described, fun var object found => ?_⟩
    apply (held.each var object found).of_descriptors
    intro other owned
    have different : other ≠ descriptor := by
      intro same
      subst same
      exact not_mem_of_tally_eq_zero free (held.known found) (found ▸ owned)
    exact Function.update_of_ne different _ _
  unfold Objects.leaveScope closeFile
  split <;> exact left.of_same rfl rfl rfl rfl

theorem dispose_same {state next : State} {evt : Option EventId}
    (disposed : dispose state evt = some next) :
    next.objects = state.objects ∧ next.nextVar = state.nextVar ∧
      next.descriptors = state.descriptors ∧
      next.nextDescriptor = state.nextDescriptor ∧ next.opened = state.opened ∧
      next.closedTwice = state.closedTwice := by
  cases evt with
  | none =>
      cases disposed
      exact ⟨rfl, rfl, rfl, rfl, rfl, rfl⟩
  | some evt =>
      obtain ⟨event, _, rfl⟩ := Option.map_eq_some_iff.mp disposed
      exact ⟨rfl, rfl, rfl, rfl, rfl, rfl⟩

theorem ObjectsOk.dispose {state next : State} (held : ObjectsOk state)
    {evt : Option EventId} (disposed : dispose state evt = some next) :
    ObjectsOk next := by
  obtain ⟨objects, nextVar, descriptors, nextDescriptor, _⟩ := dispose_same disposed
  exact held.of_same objects nextVar descriptors nextDescriptor

/-- Once its variable is gone, nobody owns the descriptor of an object. -/
theorem tally_gone {state : State} (held : ObjectsOk state) {var : Var}
    {object : AsyncObject} (found : state.objects var = some object)
    {descriptor : DescriptorId} (owned : descriptor ∈ ownedDescriptor (some object)) :
    tally ownedDescriptor (assign state var none).objects state.nextVar descriptor = 0 := by
  have removed := tally_update ownedDescriptor state.objects (held.known found) none
    descriptor
  have one : 0 < (ownedDescriptor (state.objects var)).count descriptor := by
    rw [found]
    exact List.count_pos_iff.mpr owned
  have described := held.described descriptor
  rw [if_pos (held.owned_lt found owned)] at described
  change tally ownedDescriptor (Function.update state.objects var none) _ _ = 0
  change _ + _ = _ + 0 at removed
  omega

/-- A destructor that does nothing more is that of an object without a strand. -/
theorem ObjectOk.unused_of_outside {descriptors : DescriptorId → Descriptor}
    {object : AsyncObject} (ok : ObjectOk descriptors object)
    (outside : object.strand.isSome = true → ∀ descriptor,
      object.descriptor = some descriptor → (descriptors descriptor).inScope = false) :
    object.strand = none := by
  cases stranded : object.strand with
  | none => rfl
  | some strand =>
      have isStranded : object.strand.isSome = true := by
        rw [stranded]
        rfl
      obtain ⟨descriptor, described, scope⟩ := ok.inScope isStranded
      rw [outside isStranded descriptor described] at scope
      cases scope

theorem ObjectsOk.destroy {state next : State} (held : ObjectsOk state) {var : Var}
    {object : AsyncObject} (found : state.objects var = some object)
    (ran : destroy state var object = some next) : ObjectsOk next := by
  have gone : ObjectsOk (Objects.assign state var none) := by
    apply held.assign_owned (held.known found)
    · intro other impossible
      cases impossible
    · exact Or.inl rfl
  rcases destroy_cases ran with ⟨rfl, _⟩ |
    ⟨descriptor, disposed, stranded, described, _, first, second⟩
  · exact gone
  · have owned : descriptor ∈ ownedDescriptor (some object) := by
      simp [ownedDescriptor, stranded, described]
    exact ((gone.leaveScope (tally_gone held found owned)).dispose first).dispose second

theorem ObjectsOk.moveConstruct {state : State} (held : ObjectsOk state) {source : Var}
    {object : AsyncObject} (found : state.objects source = some object) :
    ObjectsOk (moveConstruct state source object) := by
  have known := held.known found
  have left : ObjectsOk (Objects.assign state source (some object.moved)) := by
    apply held.assign_owned known
    · intro other same
      cases same
      exact objectOk_unlinked rfl (Or.inl rfl)
    · exact Or.inl rfl
  refine left.declare (held.each source object found) ?_
  intro descriptor
  have removed := tally_update ownedDescriptor state.objects known (some object.moved)
    descriptor
  rw [found] at removed
  have described := held.described descriptor
  change tally ownedDescriptor (Function.update state.objects source (some object.moved))
    state.nextVar descriptor + _ ≤ if descriptor < state.nextDescriptor then 1 else 0
  change _ + _ = _ + 0 at removed
  omega

theorem ObjectsOk.moveAssign {state : State} (held : ObjectsOk state)
    {target source : Var} {overwritten object : AsyncObject}
    (foundTarget : state.objects target = some overwritten)
    (found : state.objects source = some object) :
    ObjectsOk (moveAssign state target source object) := by
  have known := held.known found
  unfold Objects.moveAssign
  by_cases same : target = source
  · rw [if_pos same]
    apply held.assign_owned (held.known foundTarget)
    · intro other isSelf
      cases isSelf
      exact objectOk_unlinked rfl (Or.inl rfl)
    · exact Or.inl rfl
  · rw [if_neg same]
    have left : ObjectsOk (Objects.assign state source (some object.moved)) := by
      apply held.assign_owned known
      · intro other isMoved
        cases isMoved
        exact objectOk_unlinked rfl (Or.inl rfl)
      · exact Or.inl rfl
    apply left.assign (held.known foundTarget)
    · intro other isObject
      cases isObject
      exact held.each source object found
    · intro descriptor
      have removed := tally_update ownedDescriptor state.objects known (some object.moved)
        descriptor
      rw [found] at removed
      have described := held.described descriptor
      change tally ownedDescriptor (Function.update state.objects source (some object.moved))
        state.nextVar descriptor + _ ≤ (if descriptor < state.nextDescriptor then 1 else 0) + _
      change _ + _ = _ + 0 at removed
      omega

theorem ObjectsOk.convert {state : State} (held : ObjectsOk state) {connector : Var}
    {object : AsyncObject} (found : state.objects connector = some object)
    (strand : StrandId) (fd : Option Fd) :
    ObjectsOk (convert state connector object strand fd) := by
  have made := held.construct .tcp strand fd
  obtain ⟨objects, nextVar, nextDescriptor, _⟩ := construct_same state .tcp strand fd
  have known : connector < (Objects.construct state .tcp strand fd).nextVar :=
    nextVar ▸ held.known found
  have left : ObjectsOk (Objects.assign (Objects.construct state .tcp strand fd) connector
      (some object.converted)) := by
    apply made.assign_owned known
    · intro other same
      cases same
      exact objectOk_unlinked rfl (Or.inr rfl)
    · exact Or.inl rfl
  refine left.declare (constructed_ok state .tcp strand fd) ?_
  intro descriptor
  have fits := constructed_fits held .tcp strand fd descriptor
  have removed := tally_update ownedDescriptor
    (Objects.construct state .tcp strand fd).objects known (some object.converted) descriptor
  change tally ownedDescriptor (Function.update _ connector (some object.converted))
    (Objects.construct state .tcp strand fd).nextVar descriptor + _ ≤
      if descriptor < (Objects.construct state .tcp strand fd).nextDescriptor then 1 else 0
  change _ + _ = _ + 0 at removed
  omega

theorem ObjectsOk.convertAssign {state : State} (held : ObjectsOk state)
    {target connector : Var} {socket object : AsyncObject} {strand : StrandId}
    {descriptor : DescriptorId} (foundTarget : state.objects target = some socket)
    (found : state.objects connector = some object)
    (stranded : object.strand = some strand)
    (described : object.descriptor = some descriptor) :
    ObjectsOk (convertAssign state target connector socket object strand descriptor) := by
  obtain ⟨objects, nextVar, nextDescriptor, descriptors⟩ :=
    takeEvents_same state .tcp descriptor strand
  have taken := held.of_same objects nextVar descriptors nextDescriptor
  have known : connector < (takeEvents state .tcp descriptor strand).nextVar :=
    nextVar ▸ held.known found
  have left : ObjectsOk (Objects.assign (takeEvents state .tcp descriptor strand) connector
      (some object.converted)) := by
    apply taken.assign_owned known
    · intro other same
      cases same
      exact objectOk_unlinked rfl (Or.inr rfl)
    · exact Or.inl rfl
  refine left.assign (nextVar ▸ held.known foundTarget) ?_ ?_
  · intro other same
    cases same
    refine ⟨fun _ => ⟨descriptor, rfl, ?_⟩, fun _ _ => rfl, fun _ => rfl⟩
    obtain ⟨own, isOwn, inScope⟩ := (held.each connector object found).inScope
      (by rw [stranded]; rfl)
    rw [described] at isOwn
    cases isOwn
    change ((takeEvents state .tcp descriptor strand).descriptors descriptor).inScope = true
    rw [descriptors]
    exact inScope
  · intro other
    have removed := tally_update ownedDescriptor
      (takeEvents state .tcp descriptor strand).objects known (some object.converted) other
    have before := taken.described other
    rw [objects, found] at removed
    have owned : ownedDescriptor (some object) = [descriptor] := by
      simp [ownedDescriptor, stranded, described]
    rw [owned] at removed
    rw [objects] at before
    change tally ownedDescriptor (Function.update
        (takeEvents state .tcp descriptor strand).objects connector (some object.converted))
      (takeEvents state .tcp descriptor strand).nextVar other + [descriptor].count other ≤
        (if other < (takeEvents state .tcp descriptor strand).nextDescriptor then 1 else 0) + _
    change _ + _ = _ + 0 at removed
    rw [objects]
    omega

theorem ObjectsOk.deliver {state : State} (held : ObjectsOk state) {peer : Var}
    {socket : AsyncObject} (found : state.objects peer = some socket)
    (acceptor : AsyncObject) (strand : StrandId) :
    ObjectsOk (deliver state acceptor peer strand) := by
  have nextVar := (construct_same state .tcp strand acceptor.peerFd).2.1
  apply (held.construct .tcp strand acceptor.peerFd).assign (nextVar ▸ held.known found)
  · intro other same
    cases same
    exact constructed_ok state .tcp strand acceptor.peerFd
  · intro descriptor
    exact (constructed_fits held .tcp strand acceptor.peerFd descriptor).trans
      (Nat.le_add_right _ _)

theorem ObjectsOk.create {state : State} (held : ObjectsOk state) (kind : Kind)
    (strand : StrandId) (fd : Option Fd) : ObjectsOk (create state kind strand fd) := by
  have made : ∀ opened : State, ObjectsOk opened →
      ObjectsOk (Objects.declare (Objects.construct opened kind strand fd)
        (constructed opened kind strand)) := by
    intro opened ok
    exact (ok.construct kind strand fd).declare (constructed_ok opened kind strand fd)
      (constructed_fits ok kind strand fd)
  cases fd with
  | none => exact made state held
  | some fd => exact made (openFile state fd) (held.of_same rfl rfl rfl rfl)

/-- What a reaction may change: the acceptor's `_peer_fd` and the open files. -/
theorem doReact_cases {state reacted : State} {event : ReactorEvent}
    {operation : Operation} {ok : Bool} {answer : Option Fd} {outcome : Outcome}
    (ran : doReact state event operation ok answer = some (reacted, outcome)) :
    (reacted = state ∧ outcome = ⟨ok, none⟩ ∧
      ∀ acceptor peer strand, operation = .accept acceptor peer strand →
        ok = true → inScope state event = false) ∨
    ∃ acceptor peer strand object, operation = .accept acceptor peer strand ∧
      ok = true ∧ inScope state event = true ∧
      state.objects acceptor = some object ∧ fresh state answer = true ∧
      reacted = fin_accept state acceptor object answer ∧
      outcome = ⟨answer.isSome, answer⟩ := by
  cases operation with
  | plain =>
      cases ran
      refine Or.inl ⟨rfl, rfl, ?_⟩
      intro acceptor peer strand impossible
      cases impossible
  | accept acceptor peer strand =>
      simp only [doReact] at ran
      split at ran
      · rename_i both
        obtain ⟨isOk, within⟩ := Bool.and_eq_true_iff.mp both
        split at ran
        · cases ran
        · rename_i object found
          split at ran
          · cases ran
            exact Or.inr ⟨acceptor, peer, strand, object, rfl, isOk, within, found, ‹_›,
              rfl, rfl⟩
          · cases ran
      · rename_i outside
        cases ran
        refine Or.inl ⟨rfl, rfl, ?_⟩
        intro _ _ _ _ isOk
        rw [isOk, Bool.true_and] at outside
        exact Bool.eq_false_iff.mpr outside

/-- What the completion of an operation does: nothing more, or a delivery. -/
theorem completeCallback_cases {state next : State} {evt : EventId}
    {event : ReactorEvent} {operation : Operation} {outcome : Outcome}
    (ran : completeCallback state evt event operation outcome = some next) :
    (next = setEvent state evt { event with complete := none, hasActiveEvent := false } ∧
      ∀ acceptor peer strand, operation = .accept acceptor peer strand →
        (inScope state event && outcome.ok) = false) ∨
    ∃ acceptor peer peerStrand object socket strand,
      operation = .accept acceptor peer peerStrand ∧
      (inScope state event && outcome.ok) = true ∧
      state.objects acceptor = some object ∧ state.objects peer = some socket ∧
      socket.kind = .tcp ∧
      next = deliver (setEvent state evt
        { event with complete := none, hasActiveEvent := false }) object peer strand := by
  cases operation with
  | plain =>
      cases ran
      refine Or.inl ⟨rfl, ?_⟩
      intro acceptor peer strand impossible
      cases impossible
  | accept acceptor peer peerStrand =>
      simp only [completeCallback] at ran
      split at ran
      · rename_i delivers
        split at ran
        · rename_i object socket foundAcceptor foundPeer
          split at ran
          · obtain ⟨strand, _, rfl⟩ := Option.map_eq_some_iff.mp ran
            exact Or.inr ⟨acceptor, peer, peerStrand, object, socket, strand, rfl, delivers,
              foundAcceptor, foundPeer, ‹_›, rfl⟩
          · cases ran
        · cases ran
      · rename_i skips
        cases ran
        exact Or.inl ⟨rfl, fun _ _ _ _ => Bool.eq_false_iff.mpr skips⟩

theorem fin_accept_same (state : State) (acceptor : Var) (object : AsyncObject)
    (answer : Option Fd) :
    (fin_accept state acceptor object answer).objects =
        Function.update state.objects acceptor (some { object with peerFd := answer }) ∧
      (fin_accept state acceptor object answer).nextVar = state.nextVar ∧
      (fin_accept state acceptor object answer).descriptors = state.descriptors ∧
      (fin_accept state acceptor object answer).nextDescriptor = state.nextDescriptor ∧
      (fin_accept state acceptor object answer).register = state.register ∧
      (fin_accept state acceptor object answer).idGenerator = state.idGenerator := by
  cases answer <;> exact ⟨rfl, rfl, rfl, rfl, rfl, rfl⟩

theorem ObjectsOk.fin_accept {state : State} (held : ObjectsOk state) {acceptor : Var}
    {object : AsyncObject} (found : state.objects acceptor = some object)
    (answer : Option Fd) : ObjectsOk (fin_accept state acceptor object answer) := by
  have changed : ObjectsOk (Objects.assign state acceptor
      (some { object with peerFd := answer })) := by
    apply held.assign_owned (held.known found)
    · intro other same
      cases same
      have ok := held.each acceptor object found
      exact ⟨ok.inScope, ok.linked, ok.evented⟩
    · exact Or.inr (found ▸ rfl)
  cases answer <;> exact changed.of_same rfl rfl rfl rfl

theorem objectsOk_step {state next : State} {action : Action} (held : ObjectsOk state)
    (stepped : step state action = some next) : ObjectsOk next := by
  cases step_moves stepped with
  | default kind =>
      apply held.declare (objectOk_unlinked rfl (Or.inl rfl))
      intro descriptor
      exact held.described descriptor
  | create kind strand fd free => exact held.create kind strand fd
  | moveConstruct source object found may => exact held.moveConstruct found
  | moveAssign target source overwritten object foundTarget found sameKind may =>
      exact held.moveAssign foundTarget found
  | convert connector object strand descriptor found kind forUser described =>
      exact held.convert found strand _
  | convertAssign target connector socket object strand descriptor foundTarget found
      socketKind kind stranded described =>
      exact held.convertAssign foundTarget found stranded described
  | destroy var object next found ran => exact held.destroy found ran
  | initiate var sender armed object evt event found kind owns idle =>
      unfold initiate
      split <;> exact held.of_same rfl rfl rfl rfl
  | accept acceptor peer peerStrand armed object evt event found kind stranded owns idle =>
      unfold initiate
      split <;> exact held.of_same rfl rfl rfl rfl
  | dispatch evt event found reacts => exact held.of_same rfl rfl rfl rfl
  | react evt ok answer event operation reacted outcome found reacts before active ran =>
      rcases doReact_cases ran with ⟨rfl, _, _⟩ |
        ⟨acceptor, peer, strand, object, _, _, _, foundAcceptor, _, rfl, _⟩
      · exact held.of_same rfl rfl rfl rfl
      · exact (held.fin_accept foundAcceptor answer).of_same rfl rfl rfl rfl
  | forCompletion evt event operation outcome found reacts reacted =>
      exact held.of_same rfl rfl rfl rfl
  | processDeletionQueue => exact held.of_same rfl rfl rfl rfl
  | runTask final event member found => exact held.of_same rfl rfl rfl rfl
  | completeCallback strand evt rest event operation outcome next queued found complete ran =>
      rcases completeCallback_cases ran with ⟨rfl, _⟩ |
        ⟨acceptor, peer, peerStrand, object, socket, taken, _, _, _, foundPeer, _, rfl⟩
      · exact held.of_same rfl rfl rfl rfl
      · have completed : ObjectsOk (setEvent { state with
            strandQueue := Function.update state.strandQueue strand rest } evt
              { event with complete := none, hasActiveEvent := false }) :=
          held.of_same rfl rfl rfl rfl
        exact completed.deliver foundPeer object taken
  | completeFinal strand final rest event evt next queued found complete ran =>
      obtain ⟨owner, _, rfl⟩ := Option.map_eq_some_iff.mp ran
      split <;> exact held.of_same rfl rfl rfl rfl

/-! ### The register and the queues -/

def Queued (state : State) (id : EventId) : Prop :=
  id ∈ state.deletionQueue ∨ id ∈ state.taskQueue ∨ ∃ strand, id ∈ state.strandQueue strand

def ReactorEvent.IsFinal (event : ReactorEvent) : Prop :=
  ∃ evt, event.complete = some (.final evt)

structure EventOk (id : EventId) (event : ReactorEvent) : Prop where
  older : ∀ evt, event.complete = some (.final evt) → evt < id
  stages : event.react.isSome = true → event.complete = none
  reacting : event.reacting.isSome = true → event.react.isSome = true

structure RegisterOk (state : State) : Prop where
  unused : ∀ id, state.idGenerator ≤ id → state.register id = none
  each : ∀ id event, state.register id = some event → EventOk id event
  queued : ∀ id event, state.register id = some event → event.IsFinal → Queued state id
  counted : ∀ id, state.given.count id =
    if id < state.idGenerator ∧ state.register id = none then 1 else 0

theorem registerOk_init : RegisterOk init := by
  refine ⟨fun _ _ => rfl, ?_, ?_, fun id => (if_neg ?_).symm⟩
  · intro id event impossible
    cases impossible
  · intro id event impossible
    cases impossible
  · exact fun both => absurd both.1 (Nat.not_lt_zero id)

theorem RegisterOk.known {state : State} (held : RegisterOk state) {id : EventId}
    {event : ReactorEvent} (found : state.register id = some event) :
    id < state.idGenerator := by
  by_contra beyond
  rw [held.unused id (Nat.le_of_not_lt beyond)] at found
  cases found

/-- Only the queues change, and they keep the final events. -/
theorem RegisterOk.of_queues {state next : State} (held : RegisterOk state)
    (register : next.register = state.register)
    (idGenerator : next.idGenerator = state.idGenerator) (given : next.given = state.given)
    (queues : ∀ id event, state.register id = some event → event.IsFinal →
      Queued state id → Queued next id) : RegisterOk next := by
  constructor
  · rw [register, idGenerator]
    exact held.unused
  · rw [register]
    exact held.each
  · rw [register]
    exact fun id event found final => queues id event found final (held.queued id event found final)
  · rw [register, idGenerator, given]
    exact held.counted

theorem RegisterOk.of_same {state next : State} (held : RegisterOk state)
    (register : next.register = state.register)
    (idGenerator : next.idGenerator = state.idGenerator) (given : next.given = state.given)
    (deletionQueue : next.deletionQueue = state.deletionQueue)
    (taskQueue : next.taskQueue = state.taskQueue)
    (strandQueue : next.strandQueue = state.strandQueue) : RegisterOk next := by
  apply held.of_queues register idGenerator given
  intro id event _ _ queued
  unfold Queued
  rw [deletionQueue, taskQueue, strandQueue]
  exact queued

theorem queued_enqueue {state : State} {strand : StrandId} {evt id : EventId}
    (queued : Queued state id) : Queued (enqueue state strand evt) id := by
  rcases queued with deletion | task | ⟨other, member⟩
  · exact Or.inl deletion
  · exact Or.inr (Or.inl task)
  · refine Or.inr (Or.inr ⟨other, ?_⟩)
    change id ∈ Function.update state.strandQueue strand
      (state.strandQueue strand ++ [evt]) other
    by_cases same : other = strand
    · rw [same, Function.update_self]
      exact List.mem_append_left _ (same ▸ member)
    · rw [Function.update_of_ne same]
      exact member

theorem queued_enqueue_self (state : State) (strand : StrandId) (evt : EventId) :
    Queued (enqueue state strand evt) evt := by
  refine Or.inr (Or.inr ⟨strand, ?_⟩)
  change evt ∈ Function.update state.strandQueue strand
    (state.strandQueue strand ++ [evt]) strand
  rw [Function.update_self]
  exact List.mem_append_right _ (List.mem_singleton_self evt)

theorem queued_popped {state : State} {strand : StrandId} {first : EventId}
    {rest : List EventId} (queues : state.strandQueue strand = first :: rest)
    {id : EventId} (different : id ≠ first) (queued : Queued state id) :
    Queued { state with
      strandQueue := Function.update state.strandQueue strand rest } id := by
  rcases queued with deletion | task | ⟨other, member⟩
  · exact Or.inl deletion
  · exact Or.inr (Or.inl task)
  · refine Or.inr (Or.inr ⟨other, ?_⟩)
    change id ∈ Function.update state.strandQueue strand rest other
    by_cases same : other = strand
    · rw [same, Function.update_self]
      rw [same, queues] at member
      rcases List.mem_cons.mp member with isFirst | later
      · exact absurd isFirst different
      · exact later
    · rw [Function.update_of_ne same]
      exact member

theorem RegisterOk.enqueue {state : State} (held : RegisterOk state) (strand : StrandId)
    (evt : EventId) : RegisterOk (enqueue state strand evt) :=
  held.of_queues rfl rfl rfl fun _ _ _ _ queued => queued_enqueue queued

theorem RegisterOk.setEvent {state : State} (held : RegisterOk state) {evt : EventId}
    {old event : ReactorEvent} (found : state.register evt = some old)
    (ok : EventOk evt event) (final : event.IsFinal → old.IsFinal) :
    RegisterOk (setEvent state evt event) := by
  constructor
  · intro id beyond
    have different : id ≠ evt := by
      intro same
      subst same
      exact Nat.lt_irrefl _ (Nat.lt_of_lt_of_le (held.known found) beyond)
    change Function.update state.register evt (some event) id = none
    rw [Function.update_of_ne different]
    exact held.unused id beyond
  · intro id other isFound
    rcases update_eq_some isFound with ⟨rfl, new⟩ | ⟨_, before⟩
    · cases new
      exact ok
    · exact held.each id other before
  · intro id other isFound isFinal
    rcases update_eq_some isFound with ⟨rfl, new⟩ | ⟨_, before⟩
    · cases new
      exact held.queued id old found (final isFinal)
    · exact held.queued id other before isFinal
  · intro id
    rw [show (Objects.setEvent state evt event).given = state.given from rfl, held.counted id]
    change _ = if id < state.idGenerator ∧
      Function.update state.register evt (some event) id = none then 1 else 0
    by_cases same : id = evt
    · subst id
      rw [Function.update_self, if_neg (by rw [found]; simp), if_neg (by simp)]
    · rw [Function.update_of_ne same]

theorem RegisterOk.take {state : State} (held : RegisterOk state) {event : ReactorEvent}
    (ok : EventOk state.idGenerator event) {queue : List EventId}
    (keeps : ∀ id, id ∈ state.deletionQueue → id ∈ queue)
    (queued : event.IsFinal → state.idGenerator ∈ queue) :
    RegisterOk { take state event with deletionQueue := queue } := by
  constructor
  · intro id beyond
    change state.idGenerator + 1 ≤ id at beyond
    change Function.update state.register state.idGenerator (some event) id = none
    rw [Function.update_of_ne (Nat.ne_of_gt beyond)]
    exact held.unused id (Nat.le_of_succ_le beyond)
  · intro id other found
    rcases update_eq_some found with ⟨rfl, new⟩ | ⟨_, old⟩
    · cases new
      exact ok
    · exact held.each id other old
  · intro id other found final
    rcases update_eq_some found with ⟨rfl, new⟩ | ⟨_, old⟩
    · cases new
      exact Or.inl (queued final)
    · rcases held.queued id other old final with deletion | elsewhere
      · exact Or.inl (keeps id deletion)
      · exact Or.inr elsewhere
  · intro id
    change state.given.count id = if id < state.idGenerator + 1 ∧
      Function.update state.register state.idGenerator (some event) id = none then 1 else 0
    rw [held.counted id]
    by_cases same : id = state.idGenerator
    · subst id
      rw [Function.update_self, if_neg (fun both => Nat.lt_irrefl _ both.1),
        if_neg (by simp)]
    · rw [Function.update_of_ne same]
      have sameBound : id < state.idGenerator + 1 ↔ id < state.idGenerator :=
        ⟨fun below => Nat.lt_of_le_of_ne (Nat.le_of_lt_succ below) same, Nat.lt_succ_of_lt⟩
      simp only [sameBound]

theorem newEvent_ok (id : EventId) (descriptor : DescriptorId) (strand : StrandId) :
    EventOk id (newEvent descriptor strand) := by
  constructor <;> intro impossible
  · intro impossible
    cases impossible
  · cases impossible
  · cases impossible

theorem RegisterOk.takeEvents {state : State} (held : RegisterOk state) (kind : Kind)
    (descriptor : DescriptorId) (strand : StrandId) :
    RegisterOk (takeEvents state kind descriptor strand) := by
  have one : ∀ before : State, RegisterOk before →
      RegisterOk (Objects.take before (newEvent descriptor strand)) := by
    intro before ok
    apply ok.take (newEvent_ok _ descriptor strand) (fun _ member => member)
    rintro ⟨evt, impossible⟩
    cases impossible
  unfold Objects.takeEvents
  split
  · exact one _ (one state held)
  · exact one state held

theorem RegisterOk.construct {state : State} (held : RegisterOk state) (kind : Kind)
    (strand : StrandId) (fd : Option Fd) : RegisterOk (construct state kind strand fd) := by
  apply RegisterOk.takeEvents
  exact held.of_same rfl rfl rfl rfl rfl rfl

theorem RegisterOk.dispose {state next : State} (held : RegisterOk state)
    {evt : Option EventId} (disposed : dispose state evt = some next) :
    RegisterOk next := by
  cases evt with
  | none =>
      cases disposed
      exact held
  | some evt =>
      obtain ⟨event, found, rfl⟩ := Option.map_eq_some_iff.mp disposed
      apply held.take
      · constructor
        · intro other same
          cases same
          exact held.known found
        · intro impossible
          cases impossible
        · intro impossible
          cases impossible
      · exact fun id member => List.mem_append_left _ member
      · exact fun _ => List.mem_append_right _ (List.mem_singleton_self _)

/-- A final event gives its event and itself back. -/
theorem RegisterOk.giveBoth {state : State} (held : RegisterOk state)
    {final evt : EventId} {event owner : ReactorEvent}
    (found : state.register final = some event)
    (complete : event.complete = some (.final evt))
    (foundOwner : state.register evt = some owner) {queues : StrandId → List EventId}
    (keeps : ∀ id, id ≠ final → Queued state id →
      Queued { state with strandQueue := queues } id) :
    RegisterOk (give (give { state with strandQueue := queues } evt) final) := by
  have different : evt ≠ final := Nat.ne_of_lt ((held.each final event found).older evt complete)
  have registerAt : ∀ id,
      (give (give { state with strandQueue := queues } evt) final).register id =
        if id = final ∨ id = evt then none else state.register id := by
    intro id
    change Function.update (Function.update state.register evt none) final none id = _
    by_cases isFinal : id = final
    · rw [isFinal, Function.update_self, if_pos (Or.inl rfl)]
    · rw [Function.update_of_ne isFinal]
      by_cases isEvt : id = evt
      · rw [isEvt, Function.update_self, if_pos (Or.inr rfl)]
      · rw [Function.update_of_ne isEvt, if_neg (not_or.mpr ⟨isFinal, isEvt⟩)]
  constructor
  · intro id beyond
    rw [registerAt]
    split
    · rfl
    · exact held.unused id beyond
  · intro id other isFound
    rw [registerAt] at isFound
    split at isFound
    · cases isFound
    · exact held.each id other isFound
  · intro id other isFound isFinal
    rw [registerAt] at isFound
    split at isFound
    · cases isFound
    · rename_i neither
      exact keeps id (fun same => neither (Or.inl same)) (held.queued id other isFound isFinal)
  · intro id
    have before := held.counted id
    rw [registerAt]
    change ((state.given ++ [evt]) ++ [final]).count id =
      if id < state.idGenerator ∧ _ then 1 else 0
    rw [List.count_append, List.count_append, before]
    by_cases isFinal : id = final
    · subst id
      have notEvt : [evt].count final = 0 :=
        List.count_eq_zero.mpr fun member => different (List.mem_singleton.mp member).symm
      rw [notEvt, List.count_singleton_self, if_neg (by rw [found]; simp),
        if_pos (Or.inl rfl)]
      exact (if_pos ⟨held.known found, rfl⟩).symm
    · have notFinal : [final].count id = 0 :=
        List.count_eq_zero.mpr fun member => isFinal (List.mem_singleton.mp member)
      by_cases isEvt : id = evt
      · subst id
        rw [notFinal, List.count_singleton_self, if_neg (by rw [foundOwner]; simp),
          if_pos (Or.inr rfl)]
        exact (if_pos ⟨held.known foundOwner, rfl⟩).symm
      · have notEvt : [evt].count id = 0 :=
          List.count_eq_zero.mpr fun member => isEvt (List.mem_singleton.mp member)
        rw [notFinal, notEvt, if_neg (not_or.mpr ⟨isFinal, isEvt⟩)]
        rfl

theorem RegisterOk.initiate {state : State} (held : RegisterOk state) {evt : EventId}
    {event : ReactorEvent} {armed : Bool}
    (idle : ready state (some evt) armed = some (evt, event)) (operation : Operation) :
    RegisterOk (initiate state evt event operation armed) := by
  obtain ⟨found, react, reacting, complete, _⟩ := ready_idle idle
  unfold Objects.initiate
  split
  · apply held.setEvent found
    · constructor
      · intro other final
        change event.complete = _ at final
        rw [complete] at final
        cases final
      · exact fun _ => complete
      · exact fun _ => rfl
    · exact fun final => final
  · apply RegisterOk.enqueue
    apply held.setEvent found
    · constructor
      · intro other final
        cases final
      · intro impossible
        change event.react.isSome = true at impossible
        rw [react] at impossible
        cases impossible
      · intro impossible
        change event.reacting.isSome = true at impossible
        rw [reacting] at impossible
        cases impossible
    · rintro ⟨other, final⟩
      cases final

theorem RegisterOk.forCompletion {state : State} (held : RegisterOk state)
    {evt : EventId} {event : ReactorEvent} (found : state.register evt = some event)
    (operation : Operation) (outcome : Outcome) :
    RegisterOk (forCompletion state evt event operation outcome) := by
  apply RegisterOk.enqueue
  apply held.setEvent found
  · constructor
    · intro other final
      cases final
    · intro impossible
      cases impossible
    · intro impossible
      cases impossible
  · rintro ⟨other, final⟩
    cases final

theorem RegisterOk.destroy {state next : State} (held : RegisterOk state) {var : Var}
    {object : AsyncObject} (ran : destroy state var object = some next) :
    RegisterOk next := by
  have gone : RegisterOk (assign state var none) := held.of_same rfl rfl rfl rfl rfl rfl
  rcases destroy_cases ran with ⟨rfl, _⟩ | ⟨descriptor, disposed, _, _, _, first, second⟩
  · exact gone
  · have left : RegisterOk (leaveScope (assign state var none) descriptor) := by
      unfold leaveScope closeFile
      split <;> exact gone.of_same rfl rfl rfl rfl rfl rfl
    exact (left.dispose first).dispose second

theorem RegisterOk.completed {state : State} (held : RegisterOk state) {evt : EventId}
    {event : ReactorEvent} {operation : Operation} {outcome : Outcome}
    {strand : StrandId} {rest : List EventId}
    (queues : state.strandQueue strand = evt :: rest)
    (found : state.register evt = some event)
    (complete : event.complete = some (.callback operation outcome)) :
    RegisterOk (Objects.setEvent { state with
      strandQueue := Function.update state.strandQueue strand rest } evt
        { event with complete := none, hasActiveEvent := false }) := by
  have popped : RegisterOk { state with
      strandQueue := Function.update state.strandQueue strand rest } := by
    refine held.of_queues rfl rfl rfl ?_
    rintro id other isFound ⟨owner, final⟩ queued
    refine queued_popped queues ?_ queued
    intro same
    subst same
    rw [found] at isFound
    cases isFound
    rw [complete] at final
    cases final
  have ok := held.each evt event found
  apply popped.setEvent found
  · constructor
    · intro other final
      cases final
    · exact fun _ => rfl
    · exact ok.reacting
  · rintro ⟨other, final⟩
    cases final

theorem registerOk_step {state next : State} {action : Action} (held : RegisterOk state)
    (stepped : step state action = some next) : RegisterOk next := by
  cases step_moves stepped with
  | default kind => exact held.of_same rfl rfl rfl rfl rfl rfl
  | create kind strand fd free =>
      have made : ∀ opened : State, RegisterOk opened →
          RegisterOk (declare (construct opened kind strand fd)
            (constructed opened kind strand)) :=
        fun opened ok => (ok.construct kind strand fd).of_same rfl rfl rfl rfl rfl rfl
      cases fd with
      | none => exact made state held
      | some fd => exact made (openFile state fd) (held.of_same rfl rfl rfl rfl rfl rfl)
  | moveConstruct source object found may => exact held.of_same rfl rfl rfl rfl rfl rfl
  | moveAssign target source overwritten object foundTarget found sameKind may =>
      unfold moveAssign
      split <;> exact held.of_same rfl rfl rfl rfl rfl rfl
  | convert connector object strand descriptor found kind forUser described =>
      exact (held.construct .tcp strand _).of_same rfl rfl rfl rfl rfl rfl
  | convertAssign target connector socket object strand descriptor foundTarget found
      socketKind kind stranded described =>
      exact (held.takeEvents .tcp descriptor strand).of_same rfl rfl rfl rfl rfl rfl
  | destroy var object next found ran => exact held.destroy ran
  | initiate var sender armed object evt event found kind owns idle =>
      exact held.initiate idle .plain
  | accept acceptor peer peerStrand armed object evt event found kind stranded owns idle =>
      exact held.initiate idle _
  | dispatch evt event found reacts =>
      have ok := held.each evt event found
      exact held.setEvent found ⟨ok.older, ok.stages, ok.reacting⟩ fun final => final
  | react evt ok answer event operation reacted outcome found reacts before active ran =>
      have before := held.each evt event found
      have eventOk : EventOk evt { event with reacting := some outcome } :=
        ⟨before.older, before.stages, fun _ => by
          change event.react.isSome = true
          rw [reacts]
          rfl⟩
      rcases doReact_cases ran with ⟨rfl, _, _⟩ |
        ⟨acceptor, peer, strand, object, _, _, _, _, _, rfl, _⟩
      · exact held.setEvent found eventOk fun final => final
      · have answered : RegisterOk (fin_accept state acceptor object answer) := by
          cases answer <;> exact held.of_same rfl rfl rfl rfl rfl rfl
        have still : (fin_accept state acceptor object answer).register evt = some event := by
          rw [(fin_accept_same state acceptor object answer).2.2.2.2.1]
          exact found
        exact answered.setEvent still eventOk fun final => final
  | forCompletion evt event operation outcome found reacts reacted =>
      exact held.forCompletion found operation outcome
  | processDeletionQueue =>
      refine held.of_queues rfl rfl rfl ?_
      rintro id event _ _ (deletion | task | strand)
      · exact Or.inr (Or.inl (List.mem_append_right _ deletion))
      · exact Or.inr (Or.inl (List.mem_append_left _ task))
      · exact Or.inr (Or.inr strand)
  | runTask final event member found =>
      refine held.of_queues rfl rfl rfl ?_
      rintro id other _ _ (deletion | task | strand)
      · exact Or.inl deletion
      · by_cases same : id = final
        · rw [same]
          exact queued_enqueue_self _ _ _
        · exact Or.inr (Or.inl ((List.mem_erase_of_ne same).mpr task))
      · exact queued_enqueue (Or.inr (Or.inr strand))
  | completeCallback strand evt rest event operation outcome next queued found complete ran =>
      have completed := held.completed queued found complete
      rcases completeCallback_cases ran with ⟨rfl, _⟩ |
        ⟨acceptor, peer, peerStrand, object, socket, taken, _, _, _, _, _, rfl⟩
      · exact completed
      · exact (completed.construct .tcp taken object.peerFd).of_same rfl rfl rfl rfl rfl rfl
  | completeFinal strand final rest event evt next queued found complete ran =>
      obtain ⟨owner, foundOwner, rfl⟩ := Option.map_eq_some_iff.mp ran
      have keeps : ∀ id, id ≠ final → Queued state id → Queued { state with
          strandQueue := Function.update state.strandQueue strand rest } id :=
        fun id different waits => queued_popped queued different waits
      split
      · refine held.of_queues rfl rfl rfl ?_
        intro id other _ _ waits
        by_cases same : id = final
        · rw [same]
          exact queued_enqueue_self _ _ _
        · exact queued_enqueue (keeps id same waits)
      · exact held.giveBoth found complete foundOwner keeps

end BabaIo.Objects
