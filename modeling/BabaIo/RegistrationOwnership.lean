import BabaIo.EventAccounting

/-
Who owns the registrations of the epoll instance.

Closing a descriptor frees its number, and the reactor re-arms a harvested
report with the number its descriptor had.  When the number has been handed out
again, or is not closed yet, that re-arm enters the descriptor of a destroyed
object into epoll.
-/

set_option autoImplicit false

namespace BabaIo.Service

/-- Each registered number is open, carries the descriptor of the object that
owns it, and that object is in scope; a report is for the object it points to,
and no registration points to a descriptor that has been given back. -/
structure RegistrationOwned (state : State) : Prop where
  registered : ∀ fd registration, state.kernel.epoll fd = some registration →
    state.kernel.owner fd = some registration.ptr ∧
      (state.object registration.ptr).fd = fd ∧
      (state.object registration.ptr).phase = .inScope
  reports : ∀ report, report ∈ state.reports → report.source = some report.ptr
  notGiven : ∀ fd registration direction,
    state.kernel.epoll fd = some registration →
      RegisteredEvent.operation ⟨registration.ptr, direction⟩ ∉ state.given

/-- A re-arm for a descriptor that its destructor has removed finds the number
of the descriptor closed. -/
def staleRearmFindsClosed (state : State) : Action → Bool
  | .rearm =>
      match state.reactor with
      | .rearming report mask _ =>
          let owner := state.object report.ptr
          !mask.nonzero || decide (owner.phase = .inScope) ||
            (state.kernel.owner owner.fd).isNone
      | _ => true
  | _ => true

def RegistrationsAlwaysOwned : Prop :=
  ∀ (threads : Nat) (actions : List Action),
    Runs.StatesMeet step RegistrationOwned (init threads) actions

/-! ### Steps that leave the objects alone -/

structure SameObjects (state next : State) : Prop where
  phase : ∀ object, (next.object object).phase = (state.object object).phase
  fd : ∀ object, (next.object object).fd = (state.object object).fd
  initiating : ∀ object,
    (next.object object).initiating = (state.object object).initiating

theorem SameObjects.of_eq {state next : State} (same : next.object = state.object) :
    SameObjects state next := by
  constructor <;> intro object <;> rw [same]

theorem SameObjects.setObject {state next : State} (same : SameObjects state next)
    {object : ObjectId} {value : AsyncObject}
    (phase : value.phase = (state.object object).phase)
    (fd : value.fd = (state.object object).fd)
    (initiating : value.initiating = (state.object object).initiating) :
    SameObjects state (next.setObject object value) := by
  constructor
  · intro other
    rw [next.object_setObject]
    by_cases here : other = object
    · rw [if_pos here, here, phase]
    · rw [if_neg here, same.phase]
  · intro other
    rw [next.object_setObject]
    by_cases here : other = object
    · rw [if_pos here, here, fd]
    · rw [if_neg here, same.fd]
  · intro other
    rw [next.object_setObject]
    by_cases here : other = object
    · rw [if_pos here, here, initiating]
    · rw [if_neg here, same.initiating]

theorem SameObjects.setEvent {state next : State} (same : SameObjects state next)
    (event : EventRef) (value : Event) :
    SameObjects state (next.setEvent event value) :=
  same.setObject (same.phase _) (same.fd _) (same.initiating _)

theorem SameObjects.forCompletion {state next : State} (same : SameObjects state next)
    (event : EventRef) : SameObjects state (forCompletion next event) := by
  have stored := same.setEvent event
    { next.event event with react := false, complete := true }
  exact ⟨stored.phase, stored.fd, stored.initiating⟩

def Action.isUser : Action → Bool
  | .create _ _ _ => true
  | .beginInitiation _ => true
  | .armInitiation _ _ => true
  | .leaveScope _ => true
  | .closeDescriptor _ => true
  | _ => false

theorem sameObjects_step {state next : State} {action : Action}
    (stepped : step state action = some next) (service : action.isUser = false) :
    SameObjects state next := by
  cases step_moves stepped with
  | dispose event closed kept => exact SameObjects.setObject (.of_eq (by rfl)) rfl rfl rfl
  | harvest ready batch waiting reported distinct => exact .of_eq rfl
  | clearMasks report pending handling => exact SameObjects.setObject (.of_eq (by rfl)) rfl rfl rfl
  | rearm report mask pending rearming =>
      apply SameObjects.of_eq
      unfold rearm
      split <;> rfl
  | dispatch report mask result pending dispatching =>
      exact SameObjects.setObject (.of_eq (by rfl)) rfl rfl rfl
  | processDeletionQueue handled => exact .of_eq rfl
  | startTask task rest queued => exact .of_eq rfl
  | finishTask index task runs =>
      cases task with
      | react event =>
          unfold finishTask
          dsimp only
          split
          · exact SameObjects.forCompletion (.of_eq (by rfl)) event
          · exact .of_eq rfl
      | enqueueFinal event => exact .of_eq rfl
  | strandStep strand task rest queued =>
      cases task with
      | complete event =>
          unfold runStrandTask
          dsimp only
          split
          · exact SameObjects.setEvent (.of_eq (by rfl)) event _
          · exact .of_eq rfl
      | final event =>
          unfold runStrandTask
          dsimp only
          split <;> exact .of_eq rfl
  | create | beginInitiation | armInitiation | leaveScope | closeDescriptor =>
      cases service

/-! ### Open descriptors -/

/-- An open number belongs to the one object that opened it and has not closed
it, and only objects in scope have unfinished initiations. -/
structure DescriptorsOpen (state : State) : Prop where
  opened : ∀ fd object, state.kernel.owner fd = some object →
    (state.object object).fd = fd ∧
      ((state.object object).phase = .inScope ∨ (state.object object).phase = .removed)
  holds : ∀ object,
    (state.object object).phase = .inScope ∨ (state.object object).phase = .removed →
      state.kernel.owner (state.object object).fd = some object
  initiating : ∀ object, (state.object object).initiating ≠ [] →
    (state.object object).phase = .inScope

theorem descriptorsOpen_init (threads : Nat) : DescriptorsOpen (init threads) := by
  constructor <;> intros <;> simp_all [init, Kernel.init, AsyncObject.absent]

theorem DescriptorsOpen.of_same {state next : State} (held : DescriptorsOpen state)
    (same : SameObjects state next) (owner : next.kernel.owner = state.kernel.owner) :
    DescriptorsOpen next := by
  constructor
  · intro fd object opened
    rw [owner] at opened
    rw [same.fd, same.phase]
    exact held.opened fd object opened
  · intro object phase
    rw [same.phase] at phase
    rw [owner, same.fd]
    exact held.holds object phase
  · intro object begun
    rw [same.initiating] at begun
    rw [same.phase]
    exact held.initiating object begun

/-- The kernel's table changes by constructors and destructors only. -/
theorem owner_step {state next : State} {action : Action}
    (stepped : step state action = some next) (service : action.isUser = false) :
    next.kernel.owner = state.kernel.owner := by
  cases step_moves stepped with
  | rearm report mask pending rearming =>
      unfold rearm
      split
      · exact Kernel.arm_owner ..
      · rfl
  | finishTask index task runs =>
      cases task with
      | react event =>
          unfold finishTask
          dsimp only
          split <;> rfl
      | enqueueFinal event => rfl
  | strandStep strand task rest queued =>
      cases task with
      | complete event =>
          unfold runStrandTask
          dsimp only
          split <;> rfl
      | final event =>
          unfold runStrandTask
          dsimp only
          split <;> rfl
  | create | beginInitiation | armInitiation | leaveScope | closeDescriptor =>
      cases service
  | _ => rfl

theorem descriptorsOpen_create {state : State} (held : DescriptorsOpen state)
    (accounts : Accounted state) {present : Direction → Bool} {fd : Fd}
    {strand : StrandId} (free : state.kernel.owner fd = none) :
    DescriptorsOpen (create state present fd strand) := by
  have absent : state.object state.created = AsyncObject.absent :=
    accounts.fresh state.created (Nat.le_refl _)
  have newFd : ∀ number, (create state present fd strand).kernel.owner number =
      if number = fd then some state.created else state.kernel.owner number :=
    fun number => Function.update_apply ..
  have newObject : ∀ object, (create state present fd strand).object object =
      if object = state.created then
        { AsyncObject.absent with
          phase := .inScope
          present := present
          fd := fd
          strand := strand }
      else state.object object := fun object => Function.update_apply ..
  constructor
  · intro number object opened
    rw [newFd] at opened
    rw [newObject]
    split at opened
    · rename_i same
      cases opened
      rw [if_pos rfl]
      exact ⟨same.symm, Or.inl rfl⟩
    · have before := held.opened number object opened
      have different : object ≠ state.created := by
        intro same
        subst same
        rw [absent] at before
        rcases before.2 with phase | phase <;> cases phase
      rw [if_neg different]
      exact before
  · intro object
    rw [newObject, newFd]
    by_cases same : object = state.created
    · simp [same]
    · rw [if_neg same]
      intro phase
      have before := held.holds object phase
      have different : (state.object object).fd ≠ fd := by
        intro sameFd
        rw [sameFd, free] at before
        cases before
      rw [if_neg different]
      exact before
  · intro object
    rw [newObject]
    by_cases same : object = state.created
    · rw [if_pos same]
      exact fun _ => rfl
    · rw [if_neg same]
      exact held.initiating object

theorem descriptorsOpen_setInitiating {state : State} (held : DescriptorsOpen state)
    {object : ObjectId} (value : AsyncObject)
    (inScope : (state.object object).phase = .inScope)
    (phase : value.phase = .inScope) (fd : value.fd = (state.object object).fd) :
    DescriptorsOpen (state.setObject object value) := by
  constructor
  · intro number other opened
    rw [state.object_setObject]
    by_cases same : other = object
    · rw [if_pos same, fd, phase, ← same]
      exact ⟨(held.opened number other opened).1, Or.inl rfl⟩
    · rw [if_neg same]
      exact held.opened number other opened
  · intro other
    rw [state.object_setObject]
    by_cases same : other = object
    · rw [if_pos same, fd, same]
      exact fun _ => held.holds object (Or.inl inScope)
    · rw [if_neg same]
      exact held.holds other
  · intro other
    rw [state.object_setObject]
    by_cases same : other = object
    · rw [if_pos same]
      exact fun _ => phase
    · rw [if_neg same]
      exact held.initiating other

theorem descriptorsOpen_armInitiation {state : State} (held : DescriptorsOpen state)
    {object : ObjectId} {index : Nat} {direction : Direction} {mask : EventMask}
    (begun : (state.object object).initiating[index]? = some (direction, mask)) :
    DescriptorsOpen (armInitiation state object index direction mask) := by
  have inScope : (state.object object).phase = .inScope := by
    apply held.initiating
    intro none
    rw [none] at begun
    cases begun
  have armed : DescriptorsOpen
      { state with kernel :=
          (state.kernel.arm (state.object object).fd mask object).1 } :=
    held.of_same (.of_eq rfl) (Kernel.arm_owner ..)
  have next := descriptorsOpen_setInitiating armed
    { state.object object with
      initiating := (state.object object).initiating.eraseIdx index }
    inScope inScope rfl
  unfold armInitiation
  dsimp only
  split
  · exact next
  · exact next.of_same (SameObjects.forCompletion (.of_eq rfl) _) rfl

theorem descriptorsOpen_leaveScope {state : State} (held : DescriptorsOpen state)
    {object : ObjectId} (inScope : (state.object object).phase = .inScope)
    (quiet : (state.object object).initiating = []) :
    DescriptorsOpen (leaveScope state object) := by
  unfold leaveScope
  constructor
  · intro number other opened
    rw [State.object_setObject]
    have before := held.opened number other opened
    by_cases same : other = object
    · rw [if_pos same, ← same]
      exact ⟨before.1, Or.inr rfl⟩
    · rw [if_neg same]
      exact before
  · intro other
    rw [State.object_setObject]
    by_cases same : other = object
    · rw [if_pos same, same]
      exact fun _ => held.holds object (Or.inl inScope)
    · rw [if_neg same]
      exact held.holds other
  · intro other
    rw [State.object_setObject]
    by_cases same : other = object
    · rw [if_pos same]
      exact fun begun => absurd quiet begun
    · rw [if_neg same]
      exact held.initiating other

theorem descriptorsOpen_closeDescriptor {state : State} (held : DescriptorsOpen state)
    {object : ObjectId} (removed : (state.object object).phase = .removed) :
    DescriptorsOpen (closeDescriptor state object) := by
  have holds := held.holds object (Or.inr removed)
  have newFd : ∀ number, (closeDescriptor state object).kernel.owner number =
      if number = (state.object object).fd then none
      else state.kernel.owner number := fun number => Function.update_apply ..
  have newObject : ∀ other, (closeDescriptor state object).object other =
      if other = object then { state.object object with phase := .closed }
      else state.object other := fun other => State.object_setObject ..
  constructor
  · intro number other opened
    rw [newFd] at opened
    split at opened
    · cases opened
    · rename_i different
      have before := held.opened number other opened
      have distinct : other ≠ object := by
        intro same
        subst same
        exact different before.1.symm
      rw [newObject, if_neg distinct]
      exact before
  · intro other
    rw [newObject]
    by_cases same : other = object
    · rw [if_pos same]
      rintro (phase | phase) <;> cases phase
    · rw [if_neg same, newFd]
      intro phase
      have before := held.holds other phase
      have different : (state.object other).fd ≠ (state.object object).fd := by
        intro sameFd
        rw [sameFd, holds] at before
        exact same (Option.some.inj before).symm
      rw [if_neg different]
      exact before
  · intro other
    rw [newObject]
    by_cases same : other = object
    · rw [if_pos same]
      intro begun
      have inScope := held.initiating object begun
      rw [removed] at inScope
      cases inScope
    · rw [if_neg same]
      exact held.initiating other

theorem descriptorsOpen_step {state next : State} {action : Action}
    (accounts : Accounted state) (held : DescriptorsOpen state)
    (stepped : step state action = some next) : DescriptorsOpen next := by
  cases user : action.isUser with
  | false =>
      exact held.of_same (sameObjects_step stepped user) (owner_step stepped user)
  | true =>
      cases step_moves stepped with
      | create present fd strand free =>
          exact descriptorsOpen_create held accounts free
      | beginInitiation event inScope present idle =>
          exact descriptorsOpen_setInitiating held _ inScope inScope rfl
      | armInitiation object index direction mask begun =>
          exact descriptorsOpen_armInitiation held begun
      | leaveScope object inScope quiet =>
          exact descriptorsOpen_leaveScope held inScope quiet
      | closeDescriptor object removed =>
          exact descriptorsOpen_closeDescriptor held removed
      | _ => cases user

/-! ### Who keeps the registrations owned -/

/-- What the kernel and the registrar guarantee in every run. -/
structure ServiceInvariant (state : State) : Prop where
  accounts : Accounted state
  descriptors : DescriptorsOpen state

theorem serviceInvariant_init (threads : Nat) : ServiceInvariant (init threads) :=
  ⟨accounted_init threads, descriptorsOpen_init threads⟩

theorem serviceInvariant_step {state next : State} {action : Action}
    (held : ServiceInvariant state) (stepped : step state action = some next) :
    ServiceInvariant next :=
  ⟨accounted_step held.accounts stepped,
    descriptorsOpen_step held.accounts held.descriptors stepped⟩

/-- An event is given back after the destructor of its object has closed. -/
theorem Accounted.closed_of_given {state : State} (held : Accounted state)
    {event : EventRef} (given : .operation event ∈ state.given) :
    (state.object event.object).phase = .closed := by
  apply held.closed event
  have pairs := held.givenPairs event
  have counted := held.finals event
  have some : 0 < state.given.count (.operation event) := List.count_pos_iff.mpr given
  cases disposed : (state.object event.object).disposed event.direction with
  | true => rfl
  | false =>
      rw [disposed, Bool.toNat_false] at counted
      unfold Service.finals movedFinals at counted
      omega

theorem registrationOwned_init (threads : Nat) :
    RegistrationOwned (init threads) := by
  constructor <;> intros <;> simp_all [init, Kernel.init, State.reports]

theorem RegistrationOwned.of_registered {state : State} (accounts : Accounted state)
    (registered : ∀ fd registration, state.kernel.epoll fd = some registration →
      state.kernel.owner fd = some registration.ptr ∧
        (state.object registration.ptr).fd = fd ∧
        (state.object registration.ptr).phase = .inScope)
    (reports : ∀ report, report ∈ state.reports → report.source = some report.ptr) :
    RegistrationOwned state := by
  refine ⟨registered, reports, ?_⟩
  intro fd registration direction found given
  have closed := accounts.closed_of_given given
  have inScope := (registered fd registration found).2.2
  rw [inScope] at closed
  cases closed

theorem RegistrationOwned.of_same {state next : State} (owned : RegistrationOwned state)
    (accounts : Accounted next) (same : SameObjects state next)
    (kernel : next.kernel = state.kernel)
    (reports : ∀ report, report ∈ next.reports → report ∈ state.reports) :
    RegistrationOwned next := by
  apply RegistrationOwned.of_registered accounts
  · intro fd registration
    rw [kernel, same.fd, same.phase]
    exact owned.registered fd registration
  · intro report member
    exact owned.reports report (reports report member)

theorem registrationOwned_create {state : State} (held : ServiceInvariant state)
    (owned : RegistrationOwned state) {present : Direction → Bool} {fd : Fd}
    {strand : StrandId} (free : state.kernel.owner fd = none)
    (accounts : Accounted (create state present fd strand)) :
    RegistrationOwned (create state present fd strand) := by
  apply RegistrationOwned.of_registered accounts
  · intro number registration found
    obtain ⟨owner, ownFd, inScope⟩ := owned.registered number registration found
    have made := held.accounts.registered number registration found
    have different : number ≠ fd := by
      intro same
      subst same
      rw [free] at owner
      cases owner
    refine ⟨(Function.update_of_ne different _ _).trans owner, ?_⟩
    rw [show (create state present fd strand).object registration.ptr =
      state.object registration.ptr from
        Function.update_of_ne (Nat.ne_of_lt made) _ _]
    exact ⟨ownFd, inScope⟩
  · exact owned.reports

theorem registrationOwned_setInitiating {state : State} (owned : RegistrationOwned state)
    {object : ObjectId} {value : AsyncObject}
    (phase : value.phase = (state.object object).phase)
    (fd : value.fd = (state.object object).fd)
    (accounts : Accounted (state.setObject object value)) :
    RegistrationOwned (state.setObject object value) := by
  have keeps : ∀ other,
      ((state.setObject object value).object other).phase = (state.object other).phase ∧
        ((state.setObject object value).object other).fd = (state.object other).fd := by
    intro other
    rw [state.object_setObject]
    by_cases same : other = object
    · rw [if_pos same, same]
      exact ⟨phase, fd⟩
    · rw [if_neg same]
      exact ⟨rfl, rfl⟩
  apply RegistrationOwned.of_registered accounts
  · intro number registration found
    rw [(keeps _).1, (keeps _).2]
    exact owned.registered number registration found
  · exact owned.reports

/-- An arm for an object in scope registers its own number. -/
theorem RegistrationOwned.armOwn {state : State} (held : ServiceInvariant state)
    (owned : RegistrationOwned state) {object : ObjectId} (mask : EventMask)
    (inScope : (state.object object).phase = .inScope) :
    RegistrationOwned { state with kernel :=
      (state.kernel.arm (state.object object).fd mask object).1 } := by
  have holds := held.descriptors.holds object (Or.inl inScope)
  apply RegistrationOwned.of_registered
  · apply held.accounts.arm
    exact held.accounts.lt_of_phase (by rw [inScope]; exact Phase.noConfusion)
  · intro number registration found
    rw [Kernel.arm_owner]
    rw [Kernel.arm_eq, holds, if_neg (Option.some_ne_none object)] at found
    simp only [Function.update_apply] at found
    split at found
    · rename_i same
      cases found
      exact ⟨by rw [same, holds], same.symm, inScope⟩
    · exact owned.registered number registration found
  · exact owned.reports

theorem registrationOwned_armInitiation {state : State} (held : ServiceInvariant state)
    (owned : RegistrationOwned state) {object : ObjectId} {index : Nat}
    {direction : Direction} {mask : EventMask}
    (begun : (state.object object).initiating[index]? = some (direction, mask)) :
    RegistrationOwned (armInitiation state object index direction mask) := by
  have inScope : (state.object object).phase = .inScope := by
    apply held.descriptors.initiating
    intro none
    rw [none] at begun
    cases begun
  have succeeds : (state.kernel.arm (state.object object).fd mask object).2 = ec.OK := by
    rw [Kernel.arm_succeeds_iff, held.descriptors.holds object (Or.inl inScope)]
    exact Option.some_ne_none object
  have accounts := accounted_armInitiation held.accounts begun
  unfold armInitiation at accounts ⊢
  dsimp only at accounts ⊢
  rw [if_pos succeeds] at accounts ⊢
  exact registrationOwned_setInitiating (owned.armOwn held mask inScope) rfl rfl accounts

theorem registrationOwned_leaveScope {state : State}
    (owned : RegistrationOwned state) {object : ObjectId}
    (accounts : Accounted (leaveScope state object)) :
    RegistrationOwned (leaveScope state object) := by
  unfold leaveScope at accounts ⊢
  apply RegistrationOwned.of_registered accounts
  · intro number registration found
    simp only [State.setObject, Kernel.remove, Function.update_apply] at found ⊢
    split at found
    · cases found
    · rename_i different
      obtain ⟨owner, ownFd, phase⟩ := owned.registered number registration found
      have distinct : registration.ptr ≠ object := by
        intro same
        exact different (by rw [← same, ownFd])
      rw [if_neg distinct]
      exact ⟨owner, ownFd, phase⟩
  · exact owned.reports

theorem registrationOwned_closeDescriptor {state : State}
    (owned : RegistrationOwned state) {object : ObjectId}
    (removed : (state.object object).phase = .removed)
    (accounts : Accounted (closeDescriptor state object)) :
    RegistrationOwned (closeDescriptor state object) := by
  unfold closeDescriptor at accounts ⊢
  apply RegistrationOwned.of_registered accounts
  · intro number registration found
    simp only [State.setObject, Kernel.close, Function.update_apply] at found ⊢
    split at found
    · cases found
    · rename_i different
      obtain ⟨owner, ownFd, phase⟩ := owned.registered number registration found
      have distinct : registration.ptr ≠ object := by
        intro same
        rw [same, removed] at phase
        cases phase
      rw [if_neg different, if_neg distinct]
      exact ⟨owner, ownFd, phase⟩
  · exact owned.reports

theorem registrationOwned_harvest {state : State} (owned : RegistrationOwned state)
    {ready : List (Fd × Events)} {batch : List Report}
    (reported : eventList state.kernel ready = some batch)
    (accounts : Accounted (harvest state ready batch)) :
    RegistrationOwned (harvest state ready batch) := by
  apply RegistrationOwned.of_registered accounts
  · intro number registration found
    obtain ⟨before, registered, same⟩ := Kernel.disarm_epoll found
    rw [← same]
    exact owned.registered number before registered
  · intro report member
    obtain ⟨entry, _, reports⟩ := mem_eventList reported member
    obtain ⟨registration, registered, _, rfl⟩ := reportOf_eq_some.mp reports
    exact (owned.registered entry.1 registration registered).1

/-- The re-arm of a destroyed object's descriptor succeeds on an open number, and
then the number carries the wrong descriptor. -/
theorem registrationOwned_rearm {state : State} (held : ServiceInvariant state)
    (owned : RegistrationOwned state) {report : Report} {mask : EventMask}
    {pending : List Report}
    (rearming : state.reactor = .rearming report mask pending)
    (accounts : Accounted (rearm state report mask pending)) :
    RegistrationOwned (rearm state report mask pending) ↔
      staleRearmFindsClosed state .rearm = true := by
  have reports : state.reports = report :: pending := by
    unfold State.reports
    rw [rearming]
  unfold staleRearmFindsClosed
  simp only [rearming]
  unfold rearm at accounts ⊢
  cases left : mask.nonzero with
  | false =>
      simp only [left, Bool.false_eq_true, if_false] at accounts ⊢
      simp only [Bool.not_false, Bool.true_or, iff_true]
      apply owned.of_same accounts (.of_eq rfl) rfl
      intro other member
      rw [reports]
      exact member
  | true =>
      simp only [left, if_true] at accounts ⊢
      simp only [Bool.not_true, Bool.false_or, Bool.or_eq_true, decide_eq_true_eq,
        Option.isNone_iff_eq_none]
      constructor
      · intro after
        by_contra stale
        rw [not_or] at stale
        have armed : (state.kernel.arm (state.object report.ptr).fd mask
            report.ptr).1.epoll (state.object report.ptr).fd =
            some { ptr := report.ptr, interest := mask } := by
          rw [Kernel.arm_eq, if_neg stale.2]
          exact Function.update_self ..
        exact stale.1 (after.registered _ _ armed).2.2
      · rintro (inScope | closed)
        · have armed := owned.armOwn held mask inScope
          apply armed.of_same accounts (.of_eq rfl) rfl
          intro other member
          change other ∈ state.reports
          rw [reports]
          exact member
        · have unchanged : (state.kernel.arm (state.object report.ptr).fd mask
              report.ptr).1 = state.kernel := by
            rw [Kernel.arm_eq, if_pos closed]
          apply owned.of_same accounts (.of_eq rfl) unchanged
          intro other member
          rw [reports]
          exact member

theorem reports_step {state next : State} {action : Action}
    (stepped : step state action = some next)
    (service : action.isUser = false) (later : ∀ ready, action ≠ .harvest ready)
    {report : Report} (member : report ∈ next.reports) : report ∈ state.reports := by
  cases step_moves stepped with
  | harvest ready batch waiting reported distinct => exact absurd rfl (later ready)
  | clearMasks other pending handling =>
      unfold State.reports
      rw [handling]
      exact member
  | rearm other mask pending rearming =>
      unfold State.reports
      rw [rearming]
      unfold rearm at member
      split at member <;> exact member
  | dispatch other mask result pending dispatching =>
      unfold State.reports
      rw [dispatching]
      exact List.mem_cons_of_mem other member
  | processDeletionQueue handled => cases member
  | finishTask index task runs =>
      cases task with
      | react event =>
          unfold finishTask at member
          dsimp only at member
          split at member <;> exact member
      | enqueueFinal event => exact member
  | strandStep strand task rest queued =>
      cases task with
      | complete event =>
          unfold runStrandTask at member
          dsimp only at member
          split at member <;> exact member
      | final event =>
          unfold runStrandTask at member
          dsimp only at member
          split at member <;> exact member
  | dispose event closed kept => exact member
  | startTask task rest queued => exact member
  | create | beginInitiation | armInitiation | leaveScope | closeDescriptor =>
      cases service

def Action.isKernel : Action → Bool
  | .harvest _ => true
  | .rearm => true
  | action => action.isUser

theorem kernel_step {state next : State} {action : Action}
    (stepped : step state action = some next) (inner : action.isKernel = false) :
    next.kernel = state.kernel := by
  cases step_moves stepped with
  | finishTask index task runs =>
      cases task with
      | react event =>
          unfold finishTask
          dsimp only
          split <;> rfl
      | enqueueFinal event => rfl
  | strandStep strand task rest queued =>
      cases task with
      | complete event =>
          unfold runStrandTask
          dsimp only
          split <;> rfl
      | final event =>
          unfold runStrandTask
          dsimp only
          split <;> rfl
  | create | beginInitiation | armInitiation | leaveScope | closeDescriptor
  | harvest | rearm => cases inner
  | _ => rfl

theorem registrationOwned_step {state next : State} {action : Action}
    (held : ServiceInvariant state) (owned : RegistrationOwned state)
    (stepped : step state action = some next) :
    RegistrationOwned next ↔ staleRearmFindsClosed state action = true := by
  have accounts := accounted_step held.accounts stepped
  cases inner : action.isKernel with
  | false =>
      have user : action.isUser = false := by
        cases action <;> first | rfl | cases inner
      have later : ∀ ready, action ≠ .harvest ready := by
        rintro ready rfl
        cases inner
      have unconditional : staleRearmFindsClosed state action = true := by
        cases action <;> first | rfl | cases inner
      refine ⟨fun _ => unconditional, fun _ => ?_⟩
      exact owned.of_same accounts (sameObjects_step stepped user)
        (kernel_step stepped inner)
        (fun report member => reports_step stepped user later member)
  | true =>
      cases step_moves stepped with
      | create present fd strand free =>
          exact ⟨fun _ => rfl, fun _ =>
            registrationOwned_create held owned free accounts⟩
      | beginInitiation event inScope present idle =>
          exact ⟨fun _ => rfl, fun _ =>
            registrationOwned_setInitiating owned rfl rfl accounts⟩
      | armInitiation object index direction mask begun =>
          exact ⟨fun _ => rfl, fun _ =>
            registrationOwned_armInitiation held owned begun⟩
      | leaveScope object inScope quiet =>
          exact ⟨fun _ => rfl, fun _ => registrationOwned_leaveScope owned accounts⟩
      | closeDescriptor object removed =>
          exact ⟨fun _ => rfl, fun _ =>
            registrationOwned_closeDescriptor owned removed accounts⟩
      | harvest ready batch waiting reported distinct =>
          exact ⟨fun _ => rfl, fun _ =>
            registrationOwned_harvest owned reported accounts⟩
      | rearm report mask pending rearming =>
          exact registrationOwned_rearm held owned rearming accounts
      | _ => cases inner

/-- A run keeps every registration with its owner exactly when each re-arm for a
removed descriptor finds the number closed. -/
theorem registrationOwned_iff_staleRearmFindsClosed (threads : Nat)
    (actions : List Action) (final : State)
    (executed : Runs.exec step (init threads) actions = some final) :
    Runs.StatesMeet step RegistrationOwned (init threads) actions ↔
      Runs.StepsMeet step (fun state action => staleRearmFindsClosed state action = true)
        (init threads) actions :=
  Runs.statesMeet_iff_stepsMeet
    (fun _ _ _ held _ _ stepped => serviceInvariant_step held stepped)
    (fun _ _ _ held owned stepped => registrationOwned_step held owned stepped)
    (serviceInvariant_init threads) (registrationOwned_init threads) executed

/-! ### A number that is handed out again -/

/-- A socket with a recv and a send outstanding is reported readable, and its
destructor removes and closes the descriptor before the report is handled. -/
def destroyedBeforeHandling : List Action :=
  [.create (fun _ => true) 3 0,
    .beginInitiation ⟨0, .read⟩, .armInitiation 0 0,
    .beginInitiation ⟨0, .write⟩, .armInitiation 0 0,
    .harvest [(3, EPOLLIN)], .leaveScope 0, .closeDescriptor 0]

theorem destroyedBeforeHandling_owned :
    Runs.StatesMeet step RegistrationOwned (init 1)
      (destroyedBeforeHandling ++ [.clearMasks, .rearm]) := by
  have executed : (Runs.exec step (init 1)
      (destroyedBeforeHandling ++ [.clearMasks, .rearm])).isSome = true := by
    decide
  obtain ⟨final, reached⟩ := Option.isSome_iff_exists.mp executed
  exact (registrationOwned_iff_staleRearmFindsClosed 1 _ final reached).mpr (by decide)

theorem registrationsAlwaysOwned_false : ¬RegistrationsAlwaysOwned := by
  intro claimed
  have executed : (Runs.exec step (init 1) (destroyedBeforeHandling ++
      [.create (fun _ => true) 3 0, .clearMasks, .rearm])).map
      (fun state => ((state.kernel.epoll 3).map Registration.ptr,
        state.kernel.owner 3)) = some (some 0, some 1) := by
    decide
  obtain ⟨state, reached, values⟩ := Option.map_eq_some_iff.mp executed
  obtain ⟨registered, owner⟩ := Prod.mk.inj values
  obtain ⟨registration, found, ptr⟩ := Option.map_eq_some_iff.mp registered
  have owned := ((claimed 1 _).final reached).registered 3 registration found
  rw [ptr, owner] at owned
  exact absurd (Option.some.inj owned.1) (by decide)

end BabaIo.Service
