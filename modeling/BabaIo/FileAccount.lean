import BabaIo.EventRecovery

/-
Who owns an open file.

A file belongs to the object whose descriptor carries it, or, between `::accept`
and the completion that makes a socket of it, to the accept that waits.  The
account of files is kept like that of events: a step loses the file of an object
that it overwrites and the accepted file of a completion that is skipped.
-/

set_option autoImplicit false

namespace BabaIo.Objects

/-! ### The account -/

def ownedFile (descriptors : DescriptorId → Descriptor) (entry : Option AsyncObject) :
    List Fd :=
  (ownedDescriptor entry).flatMap fun descriptor =>
    if (descriptors descriptor).inScope then (descriptors descriptor).fd.toList else []

def waitingFile : Option ReactorEvent → List Fd
  | none => []
  | some event =>
      (event.reacting.bind Outcome.accepted).toList ++
        match event.complete with
        | some (.callback _ outcome) => outcome.accepted.toList
        | _ => []

def owners (state : State) (fd : Fd) : Nat :=
  tally (ownedFile state.descriptors) state.objects state.nextVar fd +
    tally waitingFile state.register state.idGenerator fd

/-- Every open file has one owner, a closed one none, and no file was closed that
was not open. -/
structure FilesOwned (state : State) : Prop where
  owned : ∀ fd, owners state fd = if state.opened fd then 1 else 0
  closedOnce : state.closedTwice = false

structure FilesHeld (state : State) (missing : List Fd) : Prop where
  counted : ∀ fd, owners state fd + missing.count fd = (state.opened fd).toNat
  closedOnce : state.closedTwice = false

/-! ### What loses files -/

def ownsFile (state : State) (var : Var) : Bool :=
  !(ownedFile state.descriptors (state.objects var)).isEmpty

def skippedFile (state : State) (strand : StrandId) : List Fd :=
  match state.strandQueue strand with
  | [] => []
  | evt :: _ =>
      match (state.register evt).bind ReactorEvent.complete with
      | some (.callback _ outcome) =>
          if (deliveredTo state strand).isSome then [] else outcome.accepted.toList
      | _ => []

/-- Nothing is moved onto an object that owns a file, and no completion with an
accepted file is skipped. -/
def keepsFiles (state : State) : Action → Bool
  | .moveAssign target _ => !ownsFile state target
  | .convertAssign target _ => !ownsFile state target
  | .strandStep strand =>
      ((deliveredTo state strand).map (ownsFile state)) != some true &&
        (skippedFile state strand).isEmpty
  | _ => true

def lostFiles (state : State) : Action → List Fd
  | .moveAssign target _ => ownedFile state.descriptors (state.objects target)
  | .convertAssign target _ => ownedFile state.descriptors (state.objects target)
  | .strandStep strand =>
      match deliveredTo state strand with
      | none => skippedFile state strand
      | some peer => ownedFile state.descriptors (state.objects peer)
  | _ => []

theorem lostFiles_eq_nil_iff (state : State) (action : Action) :
    lostFiles state action = [] ↔ keepsFiles state action = true := by
  cases action with
  | moveAssign target source =>
      simp [lostFiles, keepsFiles, ownsFile]
  | convertAssign target connector =>
      simp [lostFiles, keepsFiles, ownsFile]
  | strandStep strand =>
      cases delivered : deliveredTo state strand with
      | none => simp [lostFiles, keepsFiles, delivered]
      | some peer =>
          have kept : skippedFile state strand = [] := by
            unfold skippedFile
            split
            · rfl
            · split
              · rw [delivered]
                rfl
              · rfl
          simp [lostFiles, keepsFiles, ownsFile, delivered, kept]
  | _ => exact ⟨fun _ => rfl, fun _ => rfl⟩

theorem filesOwned_iff {state : State} : FilesOwned state ↔ FilesHeld state [] := by
  have same : ∀ fd, (if state.opened fd then 1 else 0) = (state.opened fd).toNat := by
    intro fd
    cases state.opened fd <;> rfl
  constructor
  · intro held
    exact ⟨fun fd => (held.owned fd).trans (same fd), held.closedOnce⟩
  · intro held
    exact ⟨fun fd => (held.counted fd).trans (same fd).symm, held.closedOnce⟩

/-- With files missing the account does not balance. -/
theorem FilesHeld.filesOwned_iff_nil {state : State} {missing : List Fd}
    (held : FilesHeld state missing) : FilesOwned state ↔ missing = [] := by
  rw [filesOwned_iff]
  constructor
  · intro balanced
    apply List.eq_nil_iff_forall_not_mem.mpr
    intro fd member
    have positive := List.count_pos_iff.mpr member
    have exact := balanced.counted fd
    have counted := held.counted fd
    rw [List.count_nil] at exact
    omega
  · intro same
    subst same
    exact held

/-! ### The account of one change -/

theorem FilesHeld.of_same {state next : State} {missing : List Fd}
    (held : FilesHeld state missing) (objects : next.objects = state.objects)
    (nextVar : next.nextVar = state.nextVar)
    (descriptors : next.descriptors = state.descriptors)
    (register : next.register = state.register)
    (idGenerator : next.idGenerator = state.idGenerator)
    (opened : next.opened = state.opened)
    (closedTwice : next.closedTwice = state.closedTwice) : FilesHeld next missing := by
  refine ⟨?_, closedTwice.trans held.closedOnce⟩
  unfold owners
  rw [objects, nextVar, descriptors, register, idGenerator, opened]
  exact held.counted

theorem FilesHeld.assign {state : State} {missing left : List Fd}
    (held : FilesHeld state missing) {var : Var} (known : var < state.nextVar)
    (value : Option AsyncObject)
    (same : ∀ fd, left.count fd + (ownedFile state.descriptors value).count fd =
      missing.count fd + (ownedFile state.descriptors (state.objects var)).count fd) :
    FilesHeld (assign state var value) left := by
  refine ⟨fun fd => ?_, held.closedOnce⟩
  have before := held.counted fd
  have changed := tally_update (ownedFile state.descriptors) state.objects known value fd
  have moved := same fd
  unfold owners at before ⊢
  change tally (ownedFile state.descriptors) (Function.update state.objects var value)
    state.nextVar fd + tally waitingFile state.register state.idGenerator fd +
      left.count fd = (state.opened fd).toNat
  omega

theorem FilesHeld.declare {state : State} {missing left : List Fd}
    (held : FilesHeld state missing) (object : AsyncObject)
    (same : ∀ fd, left.count fd + (ownedFile state.descriptors (some object)).count fd =
      missing.count fd) : FilesHeld (declare state object) left := by
  refine ⟨fun fd => ?_, held.closedOnce⟩
  have before := held.counted fd
  have added := tally_add (ownedFile state.descriptors) state.objects state.nextVar
    (some object) fd
  have moved := same fd
  unfold owners at before ⊢
  change tally (ownedFile state.descriptors)
    (Function.update state.objects state.nextVar (some object)) (state.nextVar + 1) fd +
      tally waitingFile state.register state.idGenerator fd + left.count fd =
        (state.opened fd).toNat
  omega

theorem FilesHeld.take {state : State} {missing : List Fd}
    (held : FilesHeld state missing) (event : ReactorEvent)
    (empty : waitingFile (some event) = []) : FilesHeld (take state event) missing := by
  refine ⟨fun fd => ?_, held.closedOnce⟩
  have before := held.counted fd
  have added := tally_add waitingFile state.register state.idGenerator (some event) fd
  rw [empty, List.count_nil, Nat.add_zero] at added
  unfold owners at before ⊢
  change tally (ownedFile state.descriptors) state.objects state.nextVar fd +
    tally waitingFile (Function.update state.register state.idGenerator (some event))
      (state.idGenerator + 1) fd + missing.count fd = (state.opened fd).toNat
  omega

theorem FilesHeld.takeEvents {state : State} {missing : List Fd}
    (held : FilesHeld state missing) (kind : Kind) (descriptor : DescriptorId)
    (strand : StrandId) : FilesHeld (takeEvents state kind descriptor strand) missing := by
  unfold Objects.takeEvents
  split
  · exact (held.take (newEvent descriptor strand) rfl).take (newEvent descriptor strand) rfl
  · exact held.take (newEvent descriptor strand) rfl

theorem FilesHeld.setEvent {state : State} {missing left : List Fd}
    (held : FilesHeld state missing) (registered : RegisterOk state) {evt : EventId}
    {old event : ReactorEvent} (found : state.register evt = some old)
    (same : ∀ fd, left.count fd + (waitingFile (some event)).count fd =
      missing.count fd + (waitingFile (some old)).count fd) :
    FilesHeld (setEvent state evt event) left := by
  refine ⟨fun fd => ?_, held.closedOnce⟩
  have before := held.counted fd
  have changed := tally_update waitingFile state.register (registered.known found)
    (some event) fd
  rw [found] at changed
  have moved := same fd
  unfold owners at before ⊢
  change tally (ownedFile state.descriptors) state.objects state.nextVar fd +
    tally waitingFile (Function.update state.register evt (some event)) state.idGenerator fd +
      left.count fd = (state.opened fd).toNat
  omega

theorem FilesHeld.give {state : State} {missing : List Fd}
    (held : FilesHeld state missing) {evt : EventId} (known : evt < state.idGenerator)
    (empty : waitingFile (state.register evt) = []) : FilesHeld (give state evt) missing := by
  refine ⟨fun fd => ?_, held.closedOnce⟩
  have before := held.counted fd
  have changed := tally_update waitingFile state.register known none fd
  rw [empty] at changed
  change _ + 0 = _ + 0 at changed
  unfold owners at before ⊢
  change tally (ownedFile state.descriptors) state.objects state.nextVar fd +
    tally waitingFile (Function.update state.register evt none) state.idGenerator fd +
      missing.count fd = (state.opened fd).toNat
  omega

theorem FilesHeld.openFile {state : State} {missing : List Fd}
    (held : FilesHeld state missing) {fd : Fd} (closed : state.opened fd = false) :
    FilesHeld (openFile state fd) (fd :: missing) := by
  refine ⟨fun other => ?_, held.closedOnce⟩
  have before := held.counted other
  change owners state other + _ = (Function.update state.opened fd true other).toNat
  by_cases same : other = fd
  · subst other
    rw [closed, Bool.toNat_false] at before
    rw [Function.update_self, List.count_cons_self, Bool.toNat_true]
    omega
  · rw [Function.update_of_ne same, List.count_cons_of_ne (Ne.symm same)]
    exact before

theorem ownedFile_congr {before after : DescriptorId → Descriptor}
    {entry : Option AsyncObject}
    (same : ∀ descriptor, descriptor ∈ ownedDescriptor entry →
      after descriptor = before descriptor) :
    ownedFile after entry = ownedFile before entry := by
  unfold ownedFile
  apply List.flatMap_congr
  intro descriptor owned
  rw [same descriptor owned]

theorem FilesHeld.construct {state : State} {missing : List Fd}
    (held : FilesHeld state missing) (objects : ObjectsOk state) (kind : Kind)
    (strand : StrandId) (fd : Option Fd) :
    FilesHeld (construct state kind strand fd) missing := by
  apply FilesHeld.takeEvents
  refine ⟨fun other => ?_, held.closedOnce⟩
  have before := held.counted other
  have files : tally (ownedFile (Function.update state.descriptors state.nextDescriptor
        ⟨fd, true⟩)) state.objects state.nextVar other =
      tally (ownedFile state.descriptors) state.objects state.nextVar other := by
    apply tally_congr
    intro var _known
    apply ownedFile_congr
    intro descriptor owned
    cases found : state.objects var with
    | none =>
        rw [found] at owned
        cases owned
    | some object =>
        rw [found] at owned
        exact Function.update_of_ne (Nat.ne_of_lt (objects.owned_lt found owned)) _ _
  unfold owners at before ⊢
  change tally (ownedFile (Function.update state.descriptors state.nextDescriptor
    ⟨fd, true⟩)) state.objects state.nextVar other +
      tally waitingFile state.register state.idGenerator other + missing.count other =
        (state.opened other).toNat
  omega

theorem ownedFile_constructed (state : State) (kind : Kind) (strand : StrandId)
    (fd : Option Fd) :
    ownedFile (construct state kind strand fd).descriptors
      (some (constructed state kind strand)) = fd.toList := by
  rw [(construct_same state kind strand fd).2.2.2]
  change List.flatMap _ [state.nextDescriptor] = _
  rw [List.flatMap_singleton, Function.update_self]
  rfl

theorem ownedFile_unowned {descriptors : DescriptorId → Descriptor}
    {object : AsyncObject} (stranded : object.strand = none) :
    ownedFile descriptors (some object) = [] := by
  simp [ownedFile, ownedDescriptor, stranded]

theorem FilesHeld.closeFile {state : State} {missing : List Fd} {file : Option Fd}
    (held : FilesHeld state (file.toList ++ missing)) :
    FilesHeld (closeFile state file) missing := by
  cases file with
  | none => exact held
  | some fd =>
      have closing := held.counted fd
      rw [Option.toList_some, List.count_append, List.count_singleton_self] at closing
      have isOpen : state.opened fd = true := by
        cases opened : state.opened fd with
        | true => rfl
        | false =>
            rw [opened, Bool.toNat_false] at closing
            omega
      constructor
      · intro other
        have before := held.counted other
        change owners state other + _ = (Function.update state.opened fd false other).toNat
        by_cases same : other = fd
        · subst other
          rw [isOpen, Bool.toNat_true] at closing
          rw [Function.update_self, Bool.toNat_false]
          omega
        · rw [Option.toList_some, List.count_append, List.count_singleton,
            if_neg (by simpa using Ne.symm same)] at before
          rw [Function.update_of_ne same]
          omega
      · change (state.closedTwice || !state.opened fd) = false
        rw [held.closedOnce, isOpen]
        rfl

/-- A descriptor that no object owns may leave scope. -/
theorem FilesHeld.leaveScope {state : State} {missing : List Fd}
    {descriptor : DescriptorId}
    (held : FilesHeld state ((state.descriptors descriptor).fd.toList ++ missing))
    (free : tally ownedDescriptor state.objects state.nextVar descriptor = 0) :
    FilesHeld (leaveScope state descriptor) missing := by
  apply FilesHeld.closeFile
  refine ⟨fun other => ?_, held.closedOnce⟩
  rw [← held.counted other]
  unfold owners
  congr 2
  apply tally_congr
  intro var known
  apply ownedFile_congr
  intro owned member
  have different : owned ≠ descriptor := by
    intro same
    subst same
    exact not_mem_of_tally_eq_zero free known member
  exact Function.update_of_ne different _ _

end BabaIo.Objects
