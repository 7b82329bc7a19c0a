import BabaIo.Descriptor
import BabaIo.EventRecycling

/-
Objects that are used for one operation at a time.

An operation is initiated only while no other operation of its object is
outstanding.  Then the mask of a descriptor has one bit at most, a report takes
the last one out, and no initiation falls between the harvest and the handling
of a report: no report is stale and none is re-armed, whenever its object is
destroyed.
-/

set_option autoImplicit false

namespace BabaIo.Service

def oneAtATime (state : State) : Action → Bool
  | .beginInitiation event =>
      !(state.event ⟨event.object, .read⟩).outstanding &&
        !(state.event ⟨event.object, .write⟩).outstanding
  | _ => true

def reportsCarry : Action → Bool
  | .harvest ready =>
      ready.all fun entry => has entry.2 EPOLLIN || has entry.2 EPOLLOUT
  | _ => true

/-! ### One outstanding operation -/

def Unarmed (state : State) (object : ObjectId) : Prop :=
  ∀ fd registration, state.kernel.epoll fd = some registration →
    registration.ptr = object → ∀ direction, registration.interest.has direction = false

structure Begun (state : State) (object : ObjectId) (direction : Direction) : Prop where
  initiating : (state.object object).initiating =
    [(direction, (state.object object).eventMask)]
  masked : state.mask ⟨object, direction⟩ = true
  unarmed : Unarmed state object
  unreported : ∀ report, report ∈ state.reactor.uncleared → report.ptr ≠ object

/-- The report whose bits have been cleared and whose tasks are not queued yet. -/
def ReactorThread.current : ReactorThread → Option Report
  | .rearming report _ _ => some report
  | .dispatching report _ _ _ => some report
  | _ => none

def Listened (state : State) (event : EventRef) : Prop :=
  (∃ registration, state.kernel.epoll (state.object event.object).fd = some registration ∧
    registration.interest.has event.direction = true) ∨
  ∃ report, report ∈ state.reactor.uncleared ∧ report.ptr = event.object

structure OneOutstanding (state : State) : Prop where
  single : ∀ object, (state.event ⟨object, .read⟩).outstanding = false ∨
    (state.event ⟨object, .write⟩).outstanding = false
  begun : ∀ object, (state.object object).initiating = [] ∨
    ∃ direction, Begun state object direction
  uncleared : ∀ report, report ∈ state.reactor.uncleared →
    (∀ direction, state.mask ⟨report.ptr, direction⟩ =
      has report.events direction.bit) ∧ Unarmed state report.ptr
  rearming : ∀ report mask pending, state.reactor = .rearming report mask pending →
    mask.nonzero = false
  dispatching : ∀ report mask result pending,
    state.reactor = .dispatching report mask result pending → mask.nonzero = false
  interest : ∀ fd registration, state.kernel.epoll fd = some registration →
    ∀ direction, registration.interest.has direction = true →
      state.mask ⟨registration.ptr, direction⟩ = true
  listened : ∀ event : EventRef, (state.object event.object).phase = .inScope →
    (state.object event.object).initiating = [] → state.mask event = true →
      Listened state event
  awaited : ∀ event, state.event event = Event.waiting → state.mask event = true ∨
    ∃ report, state.reactor.current = some report ∧ report.ptr = event.object ∧
      has report.events event.direction.bit = true

theorem oneOutstanding_init (threads : Nat) : OneOutstanding (init threads) := by
  have unmasked : ∀ event, (init threads).mask event = false := by
    intro event
    simp [State.mask, init, AsyncObject.absent]
  constructor
  · exact fun _ => Or.inl rfl
  · exact fun _ => Or.inl rfl
  · intro report member
    cases member
  · intro report mask pending rearming
    cases rearming
  · intro report mask result pending dispatching
    cases dispatching
  · intro fd registration registered
    cases registered
  · intro event _ _ masked
    rw [unmasked] at masked
    cases masked
  · intro event waiting
    cases waiting

theorem uncleared_reports {state : State} {report : Report}
    (member : report ∈ state.reactor.uncleared) : report ∈ state.reports := by
  unfold State.reports
  cases position : state.reactor with
  | waiting => rw [position] at member; exact member
  | handling pending => rw [position] at member; exact member
  | rearming first mask pending =>
      rw [position] at member
      exact List.mem_cons_of_mem first member
  | dispatching first mask result pending =>
      rw [position] at member
      exact List.mem_cons_of_mem first member

theorem outstanding_of_masked {state : State} (held : Lifetime state) {event : EventRef}
    (live : Tracked state event.object) (masked : state.mask event = true) :
    (state.event event).outstanding = true := by
  rw [held.masked event live masked]
  rfl

theorem OneOutstanding.same_direction {state : State} (one : OneOutstanding state)
    (held : Lifetime state) {object : ObjectId} (live : Tracked state object)
    {first second : Direction} (hasFirst : state.mask ⟨object, first⟩ = true)
    (hasSecond : state.mask ⟨object, second⟩ = true) : first = second := by
  have outstanding : ∀ direction, state.mask ⟨object, direction⟩ = true →
      (state.event ⟨object, direction⟩).outstanding = true := by
    intro direction masked
    have here : Tracked state (EventRef.mk object direction).object := live
    exact outstanding_of_masked held here masked
  have fst := outstanding first hasFirst
  have snd := outstanding second hasSecond
  cases first <;> cases second <;> first
    | rfl
    | rcases one.single object with free | free <;> simp_all

/-! ### Steps that initiate, report and handle nothing -/

theorem OneOutstanding.of_same {state next : State} (one : OneOutstanding state)
    (outstanding : ∀ event, (next.event event).outstanding = true →
      (state.event event).outstanding = true)
    (waiting : ∀ event, next.event event = Event.waiting →
      state.event event = Event.waiting)
    (initiating : ∀ object,
      (next.object object).initiating = (state.object object).initiating)
    (mask : ∀ object, (next.object object).eventMask = (state.object object).eventMask)
    (uncleared : next.reactor.uncleared = state.reactor.uncleared)
    (rearming : ∀ report mask pending, next.reactor = .rearming report mask pending →
      mask.nonzero = false)
    (dispatching : ∀ report mask result pending,
      next.reactor = .dispatching report mask result pending → mask.nonzero = false)
    (current : ∀ event report, next.event event = Event.waiting →
      state.reactor.current = some report → report.ptr = event.object →
        has report.events event.direction.bit = true → next.reactor.current = some report)
    (fewer : ∀ fd registration, next.kernel.epoll fd = some registration →
      state.kernel.epoll fd = some registration)
    (kept : ∀ object, (next.object object).phase = .inScope →
      (state.object object).phase = .inScope ∧
        next.kernel.epoll (next.object object).fd =
          state.kernel.epoll (state.object object).fd) :
    OneOutstanding next := by
  have sameMask : ∀ event, next.mask event = state.mask event := by
    intro event
    unfold State.mask
    rw [mask]
  have unarmed : ∀ object, Unarmed state object → Unarmed next object :=
    fun object before fd registration registered =>
      before fd registration (fewer fd registration registered)
  constructor
  · intro object
    rcases one.single object with free | free
    · left
      rw [← Bool.not_eq_true] at free ⊢
      exact fun busy => free (outstanding _ busy)
    · right
      rw [← Bool.not_eq_true] at free ⊢
      exact fun busy => free (outstanding _ busy)
  · intro object
    rw [initiating]
    rcases one.begun object with none | ⟨direction, begun⟩
    · exact Or.inl none
    · refine Or.inr ⟨direction, ?_, ?_, unarmed object begun.unarmed, ?_⟩
      · rw [initiating, mask]
        exact begun.initiating
      · rw [sameMask]
        exact begun.masked
      · rw [uncleared]
        exact begun.unreported
  · rw [uncleared]
    intro report member
    obtain ⟨bits, disarmed⟩ := one.uncleared report member
    refine ⟨?_, unarmed report.ptr disarmed⟩
    intro direction
    rw [sameMask]
    exact bits direction
  · exact rearming
  · exact dispatching
  · intro fd registration registered direction interested
    rw [sameMask]
    exact one.interest fd registration (fewer fd registration registered) direction interested
  · intro event inScope none masked
    obtain ⟨before, sameEpoll⟩ := kept event.object inScope
    rw [initiating] at none
    rw [sameMask] at masked
    unfold Listened
    rw [sameEpoll, uncleared]
    exact one.listened event before none masked
  · intro event waits
    rw [sameMask]
    rcases one.awaited event (waiting event waits) with masked | ⟨report, handled, ptr, bit⟩
    · exact Or.inl masked
    · exact Or.inr ⟨report, current event report waits handled ptr bit, ptr, bit⟩

theorem outstanding_setObject {state : State} {object : ObjectId} {value : AsyncObject}
    (fewer : ∀ direction, (value.event direction).outstanding = true →
      ((state.object object).event direction).outstanding = true)
    {event : EventRef}
    (busy : ((state.setObject object value).event event).outstanding = true) :
    (state.event event).outstanding = true := by
  rw [state.event_setObject] at busy
  split at busy
  · rename_i same
    have before := fewer event.direction busy
    rw [← same] at before
    exact before
  · exact busy

theorem waiting_setObject {state : State} {object : ObjectId} {value : AsyncObject}
    (fewer : ∀ direction, value.event direction = Event.waiting →
      (state.object object).event direction = Event.waiting)
    {event : EventRef}
    (waits : (state.setObject object value).event event = Event.waiting) :
    state.event event = Event.waiting := by
  rw [state.event_setObject] at waits
  split at waits
  · rename_i same
    have before := fewer event.direction waits
    rw [← same] at before
    exact before
  · exact waits

theorem OneOutstanding.setObject {state : State} (one : OneOutstanding state)
    {object : ObjectId} {value : AsyncObject}
    (fewer : ∀ direction, (value.event direction).outstanding = true →
      ((state.object object).event direction).outstanding = true)
    (waiting : ∀ direction, value.event direction = Event.waiting →
      (state.object object).event direction = Event.waiting)
    (initiating : value.initiating = (state.object object).initiating)
    (mask : value.eventMask = (state.object object).eventMask)
    (fd : value.fd = (state.object object).fd)
    (phase : value.phase = .inScope → (state.object object).phase = .inScope) :
    OneOutstanding (state.setObject object value) := by
  apply one.of_same
  · exact fun event busy => outstanding_setObject fewer busy
  · exact fun event waits => waiting_setObject waiting waits
  · intro other
    rw [state.object_setObject]
    by_cases same : other = object
    · rw [if_pos same, same, initiating]
    · rw [if_neg same]
  · intro other
    rw [state.object_setObject]
    by_cases same : other = object
    · rw [if_pos same, same, mask]
    · rw [if_neg same]
  · rfl
  · exact one.rearming
  · exact one.dispatching
  · exact fun _ _ _ handled _ _ => handled
  · exact fun _ _ registered => registered
  · intro other
    rw [state.object_setObject]
    by_cases same : other = object
    · rw [if_pos same, same, fd]
      exact fun inScope => ⟨phase inScope, rfl⟩
    · rw [if_neg same]
      exact fun inScope => ⟨inScope, rfl⟩

theorem OneOutstanding.of_eq {state next : State} (one : OneOutstanding state)
    (object : next.object = state.object)
    (uncleared : next.reactor.uncleared = state.reactor.uncleared)
    (rearming : ∀ report mask pending, next.reactor = .rearming report mask pending →
      mask.nonzero = false)
    (dispatching : ∀ report mask result pending,
      next.reactor = .dispatching report mask result pending → mask.nonzero = false)
    (current : next.reactor.current = state.reactor.current)
    (kernel : next.kernel = state.kernel) : OneOutstanding next := by
  have sameEvent : ∀ event, next.event event = state.event event := by
    intro event
    unfold State.event
    rw [object]
  apply one.of_same
  · intro event busy
    rw [← sameEvent]
    exact busy
  · intro event waits
    rw [← sameEvent]
    exact waits
  · exact fun other => by rw [object]
  · exact fun other => by rw [object]
  · exact uncleared
  · exact rearming
  · exact dispatching
  · intro event report _ handled _ _
    rw [current]
    exact handled
  · intro fd registration registered
    rw [← kernel]
    exact registered
  · intro other inScope
    rw [object] at inScope
    rw [object, kernel]
    exact ⟨inScope, rfl⟩

theorem OneOutstanding.setEvent {state : State} (one : OneOutstanding state)
    {event : EventRef} {value : Event}
    (fewer : value.outstanding = true → (state.event event).outstanding = true)
    (waiting : value = Event.waiting → state.event event = Event.waiting) :
    OneOutstanding (state.setEvent event value) := by
  apply one.setObject
  · intro direction
    dsimp only
    rw [Function.update_apply]
    split
    · rename_i same
      rw [same]
      exact fewer
    · exact id
  · intro direction
    dsimp only
    rw [Function.update_apply]
    split
    · rename_i same
      rw [same]
      exact waiting
    · exact id
  · rfl
  · rfl
  · rfl
  · exact id

theorem OneOutstanding.forCompletion {state : State} (one : OneOutstanding state)
    (event : EventRef) : OneOutstanding (forCompletion state event) := by
  have stored : OneOutstanding (state.setEvent event
      { state.event event with react := false, complete := true }) :=
    one.setEvent id (fun impossible => by cases impossible)
  exact stored.of_eq rfl rfl stored.rearming stored.dispatching rfl rfl

/-- The destructor takes the file of its object out of the epoll instance. -/
theorem OneOutstanding.giveUp {state : State} (one : OneOutstanding state)
    (descriptors : DescriptorsOpen state) {object : ObjectId}
    (holds : state.kernel.owner (state.object object).fd = some object) {kernel : Kernel}
    (epoll : kernel.epoll =
      Function.update state.kernel.epoll (state.object object).fd none)
    {phase : Phase} (gone : phase ≠ .inScope) :
    OneOutstanding ({ state with kernel := kernel }.setObject object
      { state.object object with phase := phase }) := by
  have left : OneOutstanding (state.setObject object
      { state.object object with phase := phase }) :=
    one.setObject (fun _ => id) (fun _ => id) rfl rfl rfl
      (fun inScope => absurd inScope gone)
  apply left.of_same
  · exact fun _ => id
  · exact fun _ => id
  · exact fun _ => rfl
  · exact fun _ => rfl
  · rfl
  · exact one.rearming
  · exact one.dispatching
  · exact fun _ _ _ handled _ _ => handled
  · intro fd registration registered
    change kernel.epoll fd = some registration at registered
    rw [epoll, Function.update_apply] at registered
    split at registered
    · cases registered
    · exact registered
  · intro other inScope
    refine ⟨inScope, ?_⟩
    rw [State.object_setObject] at inScope ⊢
    rw [State.object_setObject]
    by_cases same : other = object
    · rw [if_pos same] at inScope
      exact absurd inScope gone
    · rw [if_neg same] at inScope ⊢
      have theirs := descriptors.holds other (Or.inl inScope)
      change kernel.epoll (state.object other).fd =
        state.kernel.epoll (state.object other).fd
      rw [epoll]
      apply Function.update_of_ne
      intro sameFd
      rw [sameFd, holds] at theirs
      exact same (Option.some.inj theirs).symm

/-! ### Steps that initiate, report or handle -/

theorem oneOutstanding_create {state : State} (one : OneOutstanding state)
    (accounts : Accounted state) (present : Direction → Bool) (fd : Fd)
    (strand : StrandId) : OneOutstanding (create state present fd strand) := by
  have newObject : ∀ object, (create state present fd strand).object object =
      if object = state.created then
        { AsyncObject.absent with
          phase := .inScope
          present := present
          fd := fd
          strand := strand }
      else state.object object := fun object => Function.update_apply ..
  have newMask : ∀ event : EventRef, (create state present fd strand).mask event =
      if event.object = state.created then false else state.mask event := by
    intro event
    unfold State.mask
    rw [newObject]
    split
    · exact EventMask.has_empty event.direction
    · rfl
  have registered := accounts.registered
  constructor
  · intro object
    by_cases same : object = state.created
    · left
      unfold State.event
      dsimp only
      rw [newObject, if_pos same]
      rfl
    · unfold State.event
      dsimp only
      rw [newObject, if_neg same]
      exact one.single object
  · intro object
    rw [newObject]
    by_cases same : object = state.created
    · rw [if_pos same]
      exact Or.inl rfl
    · rw [if_neg same]
      rcases one.begun object with none | ⟨direction, begun⟩
      · exact Or.inl none
      · refine Or.inr ⟨direction, ?_, ?_, begun.unarmed, begun.unreported⟩
        · rw [newObject, if_neg same]
          exact begun.initiating
        · rw [newMask, if_neg same]
          exact begun.masked
  · intro report member
    have made := accounts.reports report (uncleared_reports member)
    obtain ⟨bits, disarmed⟩ := one.uncleared report member
    refine ⟨?_, disarmed⟩
    intro direction
    rw [newMask, if_neg (Nat.ne_of_lt made)]
    exact bits direction
  · exact one.rearming
  · exact one.dispatching
  · intro number registration found direction interested
    rw [newMask, if_neg (Nat.ne_of_lt (registered number registration found))]
    exact one.interest number registration found direction interested
  · intro event inScope none masked
    rw [newMask] at masked
    by_cases same : event.object = state.created
    · rw [if_pos same] at masked
      cases masked
    · rw [if_neg same] at masked
      unfold Listened
      rw [newObject, if_neg same] at inScope none ⊢
      exact one.listened event inScope none masked
  · intro event waits
    by_cases same : event.object = state.created
    · unfold State.event at waits
      rw [newObject, if_pos same] at waits
      cases waits
    · unfold State.event at waits
      rw [newObject, if_neg same] at waits
      rw [newMask, if_neg same]
      exact one.awaited event waits

/-- Where no operation of an object in scope is outstanding, its mask is empty. -/
theorem unmasked_of_idle {state : State} (held : Lifetime state) {object : ObjectId}
    (live : Tracked state object)
    (idle : ∀ direction, (state.event ⟨object, direction⟩).outstanding = false)
    (direction : Direction) : state.mask ⟨object, direction⟩ = false := by
  cases masked : state.mask ⟨object, direction⟩ with
  | false => rfl
  | true =>
      have here : Tracked state (EventRef.mk object direction).object := live
      have busy := outstanding_of_masked held here masked
      rw [idle direction] at busy
      cases busy

theorem idle_of_oneAtATime {state : State} {event : EventRef}
    (free : oneAtATime state (.beginInitiation event) = true) (direction : Direction) :
    (state.event ⟨event.object, direction⟩).outstanding = false := by
  unfold oneAtATime at free
  simp only [Bool.and_eq_true, Bool.not_eq_true'] at free
  cases direction with
  | read => exact free.1
  | write => exact free.2

theorem OneOutstanding.none_of_unmasked {state : State} (one : OneOutstanding state)
    {object : ObjectId} (unmasked : ∀ direction, state.mask ⟨object, direction⟩ = false) :
    (state.object object).initiating = [] := by
  rcases one.begun object with none | ⟨direction, begun⟩
  · exact none
  · have masked := begun.masked
    rw [unmasked direction] at masked
    cases masked

theorem oneOutstanding_beginInitiation {state : State} (one : OneOutstanding state)
    (held : Lifetime state) {event : EventRef}
    (inScope : (state.object event.object).phase = .inScope)
    (free : oneAtATime state (.beginInitiation event) = true) :
    OneOutstanding (beginInitiation state event) := by
  have idle := idle_of_oneAtATime free
  have unmasked := unmasked_of_idle held (Or.inl inScope) idle
  have none := one.none_of_unmasked unmasked
  have unreported : ∀ report, report ∈ state.reactor.uncleared →
      report.ptr ≠ event.object := by
    intro report member same
    obtain ⟨direction, carried⟩ := held.carries report (uncleared_reports member)
    rw [← (one.uncleared report member).1 direction, same, unmasked] at carried
    cases carried
  have unarmed : Unarmed state event.object := by
    intro fd registration registered same direction
    cases interested : registration.interest.has direction with
    | false => rfl
    | true =>
        have masked := one.interest fd registration registered direction interested
        rw [same, unmasked] at masked
        cases masked
  have newMask : ∀ other : EventRef, (beginInitiation state event).mask other =
      if other.object = event.object then
        decide (other.direction = event.direction) ||
          (state.object event.object).eventMask.has other.direction
      else state.mask other := by
    intro other
    unfold beginInitiation
    rw [State.mask_setObject, EventMask.has_setMask]
  have newObject : ∀ object, object ≠ event.object →
      (beginInitiation state event).object object = state.object object := by
    intro object different
    unfold beginInitiation
    rw [State.object_setObject, if_neg different]
  have here : (beginInitiation state event).object event.object =
      { state.object event.object with
        eventMask := (state.object event.object).eventMask.setMask event.direction
        initiating := [(event.direction,
          (state.object event.object).eventMask.setMask event.direction)]
        event := Function.update (state.object event.object).event event.direction
          { (state.object event.object).event event.direction with
            react := true
            outstanding := true } } := by
    unfold beginInitiation
    rw [State.object_setObject, if_pos rfl]
    dsimp only
    rw [none]
    rfl
  constructor
  · intro object
    by_cases same : object = event.object
    · subst same
      have others : ∀ direction, direction ≠ event.direction →
          ((beginInitiation state event).event ⟨event.object, direction⟩).outstanding =
            false := by
        intro direction different
        unfold State.event
        rw [here]
        dsimp only
        rw [Function.update_of_ne different]
        exact idle direction
      cases chosen : event.direction with
      | read => exact Or.inr (others .write (by rw [chosen]; exact Direction.noConfusion))
      | write => exact Or.inl (others .read (by rw [chosen]; exact Direction.noConfusion))
    · unfold State.event
      dsimp only
      rw [newObject object same]
      exact one.single object
  · intro object
    by_cases same : object = event.object
    · subst same
      refine Or.inr ⟨event.direction, ?_, ?_, unarmed, unreported⟩
      · rw [here]
      · rw [newMask, if_pos rfl, decide_eq_true rfl]
        rfl
    · rw [newObject object same]
      rcases one.begun object with none | ⟨direction, begun⟩
      · exact Or.inl none
      · refine Or.inr ⟨direction, ?_, ?_, begun.unarmed, begun.unreported⟩
        · rw [newObject object same]
          exact begun.initiating
        · rw [newMask, if_neg same]
          exact begun.masked
  · intro report member
    obtain ⟨bits, disarmed⟩ := one.uncleared report member
    refine ⟨?_, disarmed⟩
    intro direction
    rw [newMask, if_neg (unreported report member)]
    exact bits direction
  · exact one.rearming
  · exact one.dispatching
  · intro fd registration registered direction interested
    have masked := one.interest fd registration registered direction interested
    rw [newMask]
    split
    · rename_i same
      have bit : (state.object event.object).eventMask.has direction = true := by
        rw [← same]
        exact masked
      rw [bit, Bool.or_true]
    · exact masked
  · intro other inScope none masked
    by_cases same : other.object = event.object
    · rw [same, here] at none
      cases none
    · rw [newMask, if_neg same] at masked
      unfold Listened
      rw [newObject other.object same] at inScope none ⊢
      exact one.listened other inScope none masked
  · intro other waits
    rw [newMask]
    by_cases same : other.object = event.object
    · rw [if_pos same]
      by_cases chosen : other.direction = event.direction
      · rw [decide_eq_true chosen]
        exact Or.inl rfl
      · unfold State.event at waits
        rw [same, here] at waits
        dsimp only at waits
        rw [Function.update_of_ne chosen] at waits
        have before := idle other.direction
        unfold State.event at before
        rw [waits] at before
        cases before
    · unfold State.event at waits
      rw [newObject other.object same] at waits
      rw [if_neg same]
      exact one.awaited other waits

def armed (state : State) (object : ObjectId) : State :=
  let owner := state.object object
  { state with
    kernel := { state.kernel with
      epoll := Function.update state.kernel.epoll owner.fd
        (some { ptr := object, interest := owner.eventMask }) } }.setObject object
    { owner with initiating := [] }

theorem armed_eq {state : State} (one : OneOutstanding state)
    (descriptors : DescriptorsOpen state) {object : ObjectId} {index : Nat}
    {direction : Direction} {mask : EventMask}
    (begun : (state.object object).initiating[index]? = some (direction, mask)) :
    (∃ started, Begun state object started) ∧
      armInitiation state object index direction mask = armed state object := by
  have busy : (state.object object).initiating ≠ [] := by
    intro none
    rw [none] at begun
    cases begun
  obtain ⟨started, was⟩ := (one.begun object).resolve_left busy
  refine ⟨⟨started, was⟩, ?_⟩
  have first : index = 0 ∧ mask = (state.object object).eventMask := by
    rw [was.initiating] at begun
    cases index with
    | zero => exact ⟨rfl, (Prod.mk.inj (Option.some.inj begun)).2.symm⟩
    | succ index => cases begun
  obtain ⟨rfl, rfl⟩ := first
  have holds := descriptors.holds object (Or.inl (descriptors.initiating object busy))
  have opened : state.kernel.owner (state.object object).fd ≠ none := by
    rw [holds]
    exact Option.some_ne_none object
  unfold armInitiation
  dsimp only
  rw [Kernel.arm_eq, if_neg opened, was.initiating]
  rfl

theorem armed_epoll {state : State} {object : ObjectId} {fd : Fd}
    {registration : Registration}
    (found : (armed state object).kernel.epoll fd = some registration) :
    registration = { ptr := object, interest := (state.object object).eventMask } ∨
      state.kernel.epoll fd = some registration := by
  change Function.update state.kernel.epoll (state.object object).fd _ fd = _ at found
  rw [Function.update_apply] at found
  split at found
  · exact Or.inl (Option.some.inj found).symm
  · exact Or.inr found

theorem armed_mask (state : State) (object : ObjectId) (event : EventRef) :
    (armed state object).mask event = state.mask event := by
  unfold armed
  rw [State.mask_setObject]
  split
  · rename_i same
    rw [← same]
    rfl
  · rfl

theorem armed_event (state : State) (object : ObjectId) (event : EventRef) :
    (armed state object).event event = state.event event := by
  unfold armed
  rw [State.event_setObject]
  split
  · rename_i same
    rw [← same]
    rfl
  · rfl

theorem armed_object (state : State) (object other : ObjectId) :
    (armed state object).object other =
      if other = object then { state.object object with initiating := [] }
      else state.object other := by
  unfold armed
  rw [State.object_setObject]

theorem oneOutstanding_armed {state : State} (one : OneOutstanding state)
    (descriptors : DescriptorsOpen state) {object : ObjectId} {started : Direction}
    (was : Begun state object started) : OneOutstanding (armed state object) := by
  have inScope : (state.object object).phase = .inScope := by
    apply descriptors.initiating
    rw [was.initiating]
    exact List.cons_ne_nil _ _
  have holds := descriptors.holds object (Or.inl inScope)
  have unarmed : ∀ other, other ≠ object → Unarmed state other →
      Unarmed (armed state object) other := by
    intro other different before fd registration found same
    rcases armed_epoll found with here | earlier
    · rw [here] at same
      exact absurd same.symm different
    · exact before fd registration earlier same
  constructor
  · intro other
    rw [armed_event, armed_event]
    exact one.single other
  · intro other
    rw [armed_object]
    by_cases same : other = object
    · rw [if_pos same]
      exact Or.inl rfl
    · rw [if_neg same]
      rcases one.begun other with none | ⟨direction, begun⟩
      · exact Or.inl none
      · refine Or.inr ⟨direction, ?_, ?_, unarmed other same begun.unarmed,
          begun.unreported⟩
        · rw [armed_object, if_neg same]
          exact begun.initiating
        · rw [armed_mask]
          exact begun.masked
  · intro report member
    obtain ⟨bits, disarmed⟩ := one.uncleared report member
    refine ⟨?_, unarmed report.ptr (was.unreported report member) disarmed⟩
    intro direction
    rw [armed_mask]
    exact bits direction
  · exact one.rearming
  · exact one.dispatching
  · intro fd registration found direction interested
    rw [armed_mask]
    rcases armed_epoll found with here | earlier
    · rw [here] at interested ⊢
      exact interested
    · exact one.interest fd registration earlier direction interested
  · intro event eventInScope none masked
    rw [armed_mask] at masked
    by_cases same : event.object = object
    · left
      refine ⟨{ ptr := object, interest := (state.object object).eventMask }, ?_, ?_⟩
      · rw [armed_object, if_pos same]
        exact Function.update_self ..
      · rw [← same]
        exact masked
    · unfold Listened
      rw [armed_object, if_neg same] at eventInScope none ⊢
      have theirs := descriptors.holds event.object (Or.inl eventInScope)
      have otherFd : (state.object event.object).fd ≠ (state.object object).fd := by
        intro sameFd
        rw [sameFd, holds] at theirs
        exact same (Option.some.inj theirs).symm
      rcases one.listened event eventInScope none masked with registered | reported
      · obtain ⟨registration, found, interested⟩ := registered
        exact Or.inl ⟨registration, (Function.update_of_ne otherFd _ _).trans found, interested⟩
      · exact Or.inr reported
  · intro event waits
    rw [armed_event] at waits
    rw [armed_mask]
    exact one.awaited event waits

theorem eventList_of_mem {kernel : Kernel} {ready : List (Fd × Events)}
    {batch : List Report} (reported : eventList kernel ready = some batch)
    {entry : Fd × Events} (member : entry ∈ ready) :
    ∃ report, report ∈ batch ∧ reportOf kernel entry = some report := by
  induction ready generalizing batch with
  | nil => cases member
  | cons first rest ih =>
      simp only [eventList, Option.bind_eq_some_iff, Option.map_eq_some_iff] at reported
      obtain ⟨report, found, later, collected, rfl⟩ := reported
      rcases List.mem_cons.mp member with same | inRest
      · exact ⟨report, List.mem_cons_self, by rw [same, found]⟩
      · obtain ⟨other, present, reports⟩ := ih collected inRest
        exact ⟨other, List.mem_cons_of_mem report present, reports⟩

theorem reportable_bit {interest : EventMask} {events : Events}
    (allowed : reportable interest events = true) {direction : Direction}
    (reported : has events direction.bit = true) : interest.has direction = true :=
  Descriptor.reportable_bit allowed reported

theorem disarm_interest {kernel : Kernel} {fds : List Fd} {fd : Fd}
    {registration : Registration}
    (registered : (kernel.disarm fds).epoll fd = some registration) {direction : Direction}
    (interested : registration.interest.has direction = true) :
    fd ∉ fds ∧ kernel.epoll fd = some registration := by
  unfold Kernel.disarm at registered
  by_cases reported : fd ∈ fds
  · simp only [reported, if_true, Option.map_eq_some_iff] at registered
    obtain ⟨before, _, rfl⟩ := registered
    rw [EventMask.has_empty] at interested
    cases interested
  · simp only [reported, if_false] at registered
    exact ⟨reported, registered⟩

theorem oneOutstanding_harvest {state : State} (one : OneOutstanding state)
    (descriptors : DescriptorsOpen state) (owned : RegistrationOwned state) (held : Lifetime state)
    {ready : List (Fd × Events)} {batch : List Report}
    (waiting : state.reactor = .waiting)
    (reported : eventList state.kernel ready = some batch)
    (carries : reportsCarry (.harvest ready) = true) :
    OneOutstanding (harvest state ready batch) := by
  have before : ∀ report, report ∈ batch → ∃ fd registration,
      fd ∈ ready.map Prod.fst ∧ state.kernel.epoll fd = some registration ∧
        registration.ptr = report.ptr ∧ reportable registration.interest report.events = true ∧
        (has report.events EPOLLIN || has report.events EPOLLOUT) = true := by
    intro report member
    obtain ⟨entry, present, reports⟩ := mem_eventList reported member
    obtain ⟨registration, registered, allowed, rfl⟩ := reportOf_eq_some.mp reports
    exact ⟨entry.1, registration, List.mem_map_of_mem present, registered, rfl, allowed,
      List.all_eq_true.mp carries entry present⟩
  have unarmed : ∀ object, Unarmed state object →
      Unarmed (harvest state ready batch) object := by
    intro object none fd registration registered same direction
    cases interested : registration.interest.has direction with
    | false => rfl
    | true =>
        obtain ⟨_, earlier⟩ := disarm_interest registered interested
        rw [none fd registration earlier same direction] at interested
        cases interested
  constructor
  · exact one.single
  · intro object
    rcases one.begun object with none | ⟨direction, begun⟩
    · exact Or.inl none
    · refine Or.inr ⟨direction, begun.initiating, begun.masked,
        unarmed object begun.unarmed, ?_⟩
      intro report member same
      obtain ⟨fd, registration, _, registered, ptr, allowed, _⟩ := before report member
      have nonzero : registration.interest.nonzero = true := by
        unfold reportable at allowed
        simp only [Bool.and_eq_true] at allowed
        exact allowed.1.1.1
      obtain ⟨armedFor, interested⟩ := registration.interest.nonzero_iff.mp nonzero
      rw [begun.unarmed fd registration registered (ptr.trans same)] at interested
      cases interested
  · intro report member
    obtain ⟨fd, registration, reportedFd, registered, ptr, allowed, carried⟩ :=
      before report member
    obtain ⟨_, ownFd, inScope⟩ := owned.registered fd registration registered
    have bit : ∀ direction : Direction, has report.events direction.bit = true →
        state.mask ⟨report.ptr, direction⟩ = true := by
      intro direction present
      rw [← ptr]
      exact one.interest fd registration registered direction
        (reportable_bit allowed present)
    obtain ⟨only, present⟩ : ∃ direction : Direction,
        has report.events direction.bit = true := by
      rw [Bool.or_eq_true] at carried
      rcases carried with readable | writable
      · exact ⟨.read, readable⟩
      · exact ⟨.write, writable⟩
    constructor
    · intro direction
      change state.mask ⟨report.ptr, direction⟩ = _
      cases masked : state.mask ⟨report.ptr, direction⟩ with
      | true =>
          have live : Tracked state report.ptr := Or.inl (by rw [← ptr]; exact inScope)
          have same := one.same_direction held live masked (bit only present)
          rw [same, present]
      | false =>
          cases unexpected : has report.events direction.bit with
          | false => rfl
          | true =>
              rw [bit direction unexpected] at masked
              cases masked
    · intro number other found same direction
      cases interested : other.interest.has direction with
      | false => rfl
      | true =>
          obtain ⟨unreported, earlier⟩ := disarm_interest found interested
          have otherFd := (owned.registered number other earlier).2.1
          rw [same, ← ptr, ownFd] at otherFd
          rw [← otherFd] at unreported
          exact absurd reportedFd unreported
  · intro report mask pending impossible
    cases impossible
  · intro report mask result pending impossible
    cases impossible
  · intro fd registration registered direction interested
    obtain ⟨_, earlier⟩ := disarm_interest registered interested
    exact one.interest fd registration earlier direction interested
  · intro event inScope none masked
    rcases one.listened event inScope none masked with registered | reportedBefore
    · obtain ⟨registration, found, interested⟩ := registered
      by_cases harvested : (state.object event.object).fd ∈ ready.map Prod.fst
      · right
        obtain ⟨entry, present, sameFd⟩ := List.mem_map.mp harvested
        obtain ⟨report, member, reports⟩ := eventList_of_mem reported present
        obtain ⟨other, registered, _, rfl⟩ := reportOf_eq_some.mp reports
        rw [sameFd, found] at registered
        cases registered
        refine ⟨_, member, ?_⟩
        have owner := (owned.registered _ registration found).1
        rw [descriptors.holds event.object (Or.inl inScope)] at owner
        exact (Option.some.inj owner).symm
      · left
        refine ⟨registration, ?_, interested⟩
        change (state.kernel.disarm (ready.map Prod.fst)).epoll
          (state.object event.object).fd = some registration
        unfold Kernel.disarm
        dsimp only
        rw [if_neg harvested]
        exact found
    · obtain ⟨report, member, _⟩ := reportedBefore
      rw [waiting] at member
      cases member
  · intro event waits
    rcases one.awaited event waits with masked | ⟨report, handled, _⟩
    · exact Or.inl masked
    · rw [waiting] at handled
      cases handled

theorem oneOutstanding_clearMasks {state : State} (one : OneOutstanding state)
    (held : Lifetime state) {report : Report} {pending : List Report}
    (handling : state.reactor = .handling (report :: pending)) :
    OneOutstanding (clearMasks state report pending) := by
  have distinct := held.distinct
  unfold State.reports at distinct
  rw [handling] at distinct
  have later : ∀ other, other ∈ pending → other.ptr ≠ report.ptr :=
    fun other member => Ne.symm ((List.pairwise_cons.mp distinct).1 other member)
  have uncleared : state.reactor.uncleared = report :: pending := by
    rw [handling]
    rfl
  obtain ⟨bits, disarmed⟩ := one.uncleared report (by rw [uncleared]; exact List.mem_cons_self)
  have empty : ∀ direction, (clearReported (state.object report.ptr).eventMask
      report.events).has direction = false := by
    intro direction
    have bit : (state.object report.ptr).eventMask.has direction =
        has report.events direction.bit := bits direction
    rw [clearReported_has, bit]
    cases has report.events direction.bit <;> rfl
  have newMask : ∀ event : EventRef, (clearMasks state report pending).mask event =
      if event.object = report.ptr then false else state.mask event := by
    intro event
    unfold clearMasks
    rw [State.mask_setObject, empty]
    rfl
  have newObject : ∀ object, object ≠ report.ptr →
      (clearMasks state report pending).object object = state.object object := by
    intro object different
    unfold clearMasks
    rw [State.object_setObject, if_neg different]
  have sameInitiating : ∀ object, ((clearMasks state report pending).object
      object).initiating = (state.object object).initiating := by
    intro object
    unfold clearMasks
    rw [State.object_setObject]
    split
    · rename_i same
      rw [same]
    · rfl
  have sameEvent : ∀ event, (clearMasks state report pending).event event =
      state.event event := by
    intro event
    unfold clearMasks
    rw [State.event_setObject]
    split
    · rename_i same
      rw [← same]
      rfl
    · rfl
  constructor
  · intro object
    rw [sameEvent, sameEvent]
    exact one.single object
  · intro object
    rw [sameInitiating]
    rcases one.begun object with none | ⟨direction, begun⟩
    · exact Or.inl none
    · have different : object ≠ report.ptr := by
        intro same
        exact begun.unreported report (by rw [uncleared]; exact List.mem_cons_self) same.symm
      refine Or.inr ⟨direction, ?_, ?_, begun.unarmed, ?_⟩
      · rw [newObject object different]
        exact begun.initiating
      · rw [newMask, if_neg different]
        exact begun.masked
      · intro other member
        exact begun.unreported other (by rw [uncleared]; exact List.mem_cons_of_mem report member)
  · intro other member
    obtain ⟨otherBits, otherDisarmed⟩ :=
      one.uncleared other (by rw [uncleared]; exact List.mem_cons_of_mem report member)
    refine ⟨?_, otherDisarmed⟩
    intro direction
    rw [newMask, if_neg (later other member)]
    exact otherBits direction
  · intro other mask rest rearming
    cases rearming
    exact (EventMask.nonzero_eq_false_iff _).mpr empty
  · intro other mask result rest impossible
    cases impossible
  · intro fd registration registered direction interested
    rw [newMask]
    split
    · rename_i same
      rw [disarmed fd registration registered same direction] at interested
      exact interested
    · exact one.interest fd registration registered direction interested
  · intro event inScope none masked
    by_cases same : event.object = report.ptr
    · rw [newMask, if_pos same] at masked
      cases masked
    · rw [newMask, if_neg same] at masked
      unfold Listened
      rw [newObject event.object same] at inScope none ⊢
      rcases one.listened event inScope none masked with registered | ⟨other, member, ptr⟩
      · exact Or.inl registered
      · rw [uncleared] at member
        rcases List.mem_cons.mp member with first | inRest
        · rw [first] at ptr
          exact absurd ptr.symm same
        · exact Or.inr ⟨other, inRest, ptr⟩
  · intro event waits
    rw [sameEvent] at waits
    rw [newMask]
    rcases one.awaited event waits with masked | ⟨other, handled, _⟩
    · by_cases same : event.object = report.ptr
      · refine Or.inr ⟨report, rfl, same.symm, ?_⟩
        rw [← bits, ← same]
        exact masked
      · rw [if_neg same]
        exact Or.inl masked
    · rw [handling] at handled
      cases handled

theorem oneOutstanding_rearm {state : State} (one : OneOutstanding state)
    {report : Report} {mask : EventMask} {pending : List Report}
    (rearming : state.reactor = .rearming report mask pending) :
    OneOutstanding (rearm state report mask pending) := by
  have zero := one.rearming report mask pending rearming
  unfold rearm
  rw [zero, if_neg Bool.false_ne_true]
  refine one.of_eq rfl ?_ ?_ ?_ ?_ rfl
  · rw [rearming]
    rfl
  · intro other left rest impossible
    cases impossible
  · intro other left result rest same
    cases same
    exact zero
  · rw [rearming]
    rfl

theorem oneOutstanding_dispatch {state : State} (one : OneOutstanding state)
    {report : Report} {mask : EventMask} {result : ErrorCode} {pending : List Report}
    (dispatching : state.reactor = .dispatching report mask result pending) :
    OneOutstanding (dispatch state report mask result pending) := by
  have tasksEq : dispatches (state.object report.ptr).present mask report.events result =
      dispatchReport report.events := by
    unfold dispatches rearmFails
    rw [one.dispatching report mask result pending dispatching]
    rfl
  have activated : OneOutstanding (state.setObject report.ptr
      { state.object report.ptr with
        event := fun direction =>
          if tasksFor (dispatches (state.object report.ptr).present mask report.events result)
              direction = 0 then (state.object report.ptr).event direction
          else { (state.object report.ptr).event direction with
            hasActiveEvent := true } }) := by
    refine one.setObject ?_ ?_ rfl rfl rfl id
    · intro direction busy
      dsimp only at busy
      split at busy <;> exact busy
    · intro direction waits
      dsimp only at waits
      split at waits
      · exact waits
      · cases congrArg Event.hasActiveEvent waits
  apply activated.of_same
  · exact fun _ => id
  · exact fun _ => id
  · exact fun _ => rfl
  · exact fun _ => rfl
  · change pending = state.reactor.uncleared
    rw [dispatching]
    rfl
  · intro other left rest impossible
    cases impossible
  · intro other left answer rest impossible
    cases impossible
  · -- the events of the report have become active
    intro event other waits handled ptr bit
    change state.reactor.current = some other at handled
    rw [dispatching] at handled
    cases handled
    unfold dispatch at waits
    rw [State.event_setObject, if_pos ptr.symm] at waits
    dsimp only at waits
    rw [tasksEq, tasksFor_dispatchReport, if_pos bit, if_neg Nat.one_ne_zero] at waits
    cases congrArg Event.hasActiveEvent waits
  · exact fun _ _ registered => registered
  · exact fun _ inScope => ⟨inScope, rfl⟩

/-- The invariant is kept, and no report turns stale, where operations are initiated one at
a time. -/
theorem oneOutstanding_step {state next : State} {action : Action}
    (invariant : LifetimeInvariant state) (one : OneOutstanding state)
    (user : oneAtATime state action = true) (carries : reportsCarry action = true)
    (stepped : step state action = some next) : OneOutstanding next := by
  have held := invariant.lifetime
  have descriptors := invariant.service.descriptors
  cases step_moves stepped with
  | create present fd strand free =>
      exact oneOutstanding_create one invariant.service.accounts present fd strand
  | beginInitiation event inScope present idle =>
      exact oneOutstanding_beginInitiation one held inScope user
  | armInitiation object index direction mask begun =>
      obtain ⟨⟨started, was⟩, nextEq⟩ := armed_eq one descriptors begun
      rw [nextEq]
      exact oneOutstanding_armed one descriptors was
  | leaveScope object inScope quiet =>
      exact one.giveUp descriptors (descriptors.holds object (Or.inl inScope)) rfl
        Phase.noConfusion
  | closeDescriptor object removed =>
      exact one.giveUp descriptors (descriptors.holds object (Or.inr removed)) rfl
        Phase.noConfusion
  | dispose event closed kept =>
      have queued : OneOutstanding
          { state with deletionQueue := state.deletionQueue ++ [event] } :=
        one.of_eq rfl rfl one.rearming one.dispatching rfl rfl
      exact queued.setObject (fun _ => id) (fun _ => id) rfl rfl rfl id
  | harvest ready batch waiting reported distinct =>
      exact oneOutstanding_harvest one descriptors invariant.owned held waiting reported carries
  | clearMasks report pending handling => exact oneOutstanding_clearMasks one held handling
  | rearm report mask pending rearming => exact oneOutstanding_rearm one rearming
  | dispatch report mask result pending dispatching =>
      exact oneOutstanding_dispatch one dispatching
  | processDeletionQueue handled =>
      refine one.of_eq rfl ?_ ?_ ?_ ?_ rfl
      · rw [handled]
        rfl
      · intro report mask pending impossible
        cases impossible
      · intro report mask result pending impossible
        cases impossible
      · rw [handled]
        rfl
  | startTask task rest queued => exact one.of_eq rfl rfl one.rearming one.dispatching rfl rfl
  | finishTask index task runs =>
      have finished : OneOutstanding
          { state with running := state.running.eraseIdx index } :=
        one.of_eq rfl rfl one.rearming one.dispatching rfl rfl
      cases task with
      | react event =>
          unfold finishTask
          dsimp only
          split
          · exact finished.forCompletion event
          · exact finished.of_eq rfl rfl one.rearming one.dispatching rfl rfl
      | enqueueFinal event => exact finished.of_eq rfl rfl one.rearming one.dispatching rfl rfl
  | strandStep strand task rest queued =>
      have popped : OneOutstanding
          { state with strandQueue := Function.update state.strandQueue strand rest } :=
        one.of_eq rfl rfl one.rearming one.dispatching rfl rfl
      cases task with
      | complete event =>
          unfold runStrandTask
          dsimp only
          split
          · exact popped.setEvent (fun impossible => by cases impossible)
              (fun impossible => by cases congrArg Event.outstanding impossible)
          · exact popped.of_eq rfl rfl one.rearming one.dispatching rfl rfl
      | final event =>
          unfold runStrandTask
          dsimp only
          split
          · exact popped.of_eq rfl rfl one.rearming one.dispatching rfl rfl
          · exact popped.of_eq rfl rfl one.rearming one.dispatching rfl rfl

/-! ### What such runs keep -/

theorem staleRearmFindsClosed_of_one {state : State} {action : Action}
    (one : OneOutstanding state) : staleRearmFindsClosed state action = true := by
  cases action with
  | rearm =>
      unfold staleRearmFindsClosed
      dsimp only
      split
      · rename_i report mask pending rearming
        rw [one.rearming report mask pending rearming]
        rfl
      · rfl
  | _ => rfl

theorem kernelAssumption_of_one {state : State} {action : Action}
    (one : OneOutstanding state) (carries : reportsCarry action = true) :
    kernelAssumption state action = true := by
  cases action with
  | harvest ready => exact carries
  | rearm =>
      have closed : staleRearmFindsClosed state .rearm = true :=
        staleRearmFindsClosed_of_one one
      exact closed
  | _ => rfl

theorem reportStillMasked_of_one {state : State} {action : Action}
    (one : OneOutstanding state) : reportStillMasked state action = true := by
  cases action with
  | clearMasks =>
      unfold reportStillMasked
      dsimp only
      split
      · rename_i report pending handling
        have member : report ∈ state.reactor.uncleared := by
          rw [handling]
          exact List.mem_cons_self
        have masked : ∀ direction : Direction, (!has report.events direction.bit ||
            (state.object report.ptr).eventMask.has direction) = true := by
          intro direction
          have bit : (state.object report.ptr).eventMask.has direction =
              has report.events direction.bit :=
            (one.uncleared report member).1 direction
          rw [bit, Bool.not_or_self]
        exact Bool.and_eq_true_iff.mpr ⟨masked .read, masked .write⟩
      · rfl
  | _ => rfl

/-- An operation is between the halves of its initiation, awaited by the kernel, reported,
queued for its `react` call or queued for its callback. -/
def UnderWay (state : State) (event : EventRef) : Prop :=
  (∃ mask, (event.direction, mask) ∈ (state.object event.object).initiating) ∨
  (∃ registration, state.kernel.epoll (state.object event.object).fd = some registration ∧
    registration.interest.has event.direction = true) ∨
  (∃ report, report ∈ state.reports ∧ report.ptr = event.object ∧
    has report.events event.direction.bit = true) ∨
  0 < reactTasks state event ∨ 0 < completeTasks state event

theorem current_reports {reactor : ReactorThread} {report : Report}
    (current : reactor.current = some report) {state : State}
    (here : state.reactor = reactor) : report ∈ state.reports := by
  unfold State.reports
  rw [here]
  cases reactor with
  | waiting => cases current
  | handling pending => cases current
  | rearming first mask pending =>
      cases current
      exact List.mem_cons_self
  | dispatching first mask result pending =>
      cases current
      exact List.mem_cons_self

theorem OneOutstanding.underWay {state : State} (one : OneOutstanding state)
    (held : Lifetime state) {event : EventRef}
    (inScope : (state.object event.object).phase = .inScope)
    (outstanding : (state.event event).outstanding = true) : UnderWay state event := by
  have stage := held.stage event
  generalize reacting : reactTasks state event = reacts at stage
  generalize completing : completeTasks state event = completes at stage
  generalize value : state.event event = current at stage outstanding
  unfold UnderWay
  rw [reacting, completing]
  cases stage with
  | idle => cases outstanding
  | dispatched => exact Or.inr (Or.inr (Or.inr (Or.inl Nat.one_pos)))
  | completing => exact Or.inr (Or.inr (Or.inr (Or.inr Nat.one_pos)))
  | waiting =>
      rcases one.awaited event value with masked | ⟨report, handled, ptr, bit⟩
      · rcases one.begun event.object with none | ⟨direction, begun⟩
        · rcases one.listened event inScope none masked with registered | ⟨report, member, ptr⟩
          · exact Or.inr (Or.inl registered)
          · refine Or.inr (Or.inr (Or.inl ⟨report, uncleared_reports member, ptr, ?_⟩))
            rw [← (one.uncleared report member).1, ptr]
            exact masked
        · have same : direction = event.direction :=
            one.same_direction held (Or.inl inScope) begun.masked masked
          refine Or.inl ⟨(state.object event.object).eventMask, ?_⟩
          rw [begun.initiating, same]
          exact List.mem_singleton.mpr rfl
      · exact Or.inr (Or.inr (Or.inl ⟨report, current_reports handled rfl, ptr, bit⟩))

end BabaIo.Service
