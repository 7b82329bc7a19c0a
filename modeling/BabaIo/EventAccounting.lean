import BabaIo.EpollService
import Mathlib.Data.List.Count
import Mathlib.Tactic.Common

/-
Where the events of a service are.

A disposed event has exactly one final event, and that is in exactly one place:
the deletion queue, the reactor task queue, a task thread, the strand of its
object or the list of events given back.  This holds along every run, whatever
the kernel reports and whatever a re-arm returns.
-/

set_option autoImplicit false

namespace BabaIo.Service

/-! ### Inversion of the step function -/

/-- The enabled actions of a state, each with the state it leads to. -/
inductive Moves (state : State) : Action → State → Prop where
  | create (present : Direction → Bool) (fd : Fd) (strand : StrandId)
      (free : state.kernel.owner fd = none) :
      Moves state (.create present fd strand) (create state present fd strand)
  | beginInitiation (event : EventRef)
      (inScope : (state.object event.object).phase = .inScope)
      (present : (state.object event.object).present event.direction = true)
      (idle : (state.event event).outstanding = false) :
      Moves state (.beginInitiation event) (beginInitiation state event)
  | armInitiation (object : ObjectId) (index : Nat) (direction : Direction)
      (mask : EventMask)
      (begun : (state.object object).initiating[index]? = some (direction, mask)) :
      Moves state (.armInitiation object index)
        (armInitiation state object index direction mask)
  | leaveScope (object : ObjectId)
      (inScope : (state.object object).phase = .inScope)
      (quiet : (state.object object).initiating = []) :
      Moves state (.leaveScope object) (leaveScope state object)
  | closeDescriptor (object : ObjectId)
      (removed : (state.object object).phase = .removed) :
      Moves state (.closeDescriptor object) (closeDescriptor state object)
  | dispose (event : EventRef)
      (closed : (state.object event.object).phase = .closed)
      (kept : (state.object event.object).disposed event.direction = false) :
      Moves state (.dispose event) (dispose state event)
  | harvest (ready : List (Fd × Events)) (batch : List Report)
      (waiting : state.reactor = .waiting)
      (reported : eventList state.kernel ready = some batch)
      (distinct : (ready.map Prod.fst).Nodup) :
      Moves state (.harvest ready) (harvest state ready batch)
  | clearMasks (report : Report) (pending : List Report)
      (handling : state.reactor = .handling (report :: pending)) :
      Moves state .clearMasks (clearMasks state report pending)
  | rearm (report : Report) (mask : EventMask) (pending : List Report)
      (rearming : state.reactor = .rearming report mask pending) :
      Moves state .rearm (rearm state report mask pending)
  | dispatch (report : Report) (mask : EventMask) (result : ErrorCode)
      (pending : List Report)
      (dispatching : state.reactor = .dispatching report mask result pending) :
      Moves state .dispatch (dispatch state report mask result pending)
  | processDeletionQueue (handled : state.reactor = .handling []) :
      Moves state .processDeletionQueue (processDeletionQueue state)
  | startTask (task : ReactorTask) (rest : List ReactorTask)
      (queued : state.taskQueue = task :: rest) :
      Moves state .startTask (startTask state task rest)
  | finishTask (index : Nat) (task : ReactorTask)
      (runs : state.running[index]? = some task) :
      Moves state (.finishTask index) (finishTask state index task)
  | strandStep (strand : StrandId) (task : StrandTask) (rest : List StrandTask)
      (queued : state.strandQueue strand = task :: rest) :
      Moves state (.strandStep strand) (runStrandTask state strand task rest)

theorem step_running {state next : State} {action : Action}
    (stepped : step state action = some next) : state.terminated = false := by
  unfold step at stepped
  cases ended : state.terminated with
  | false => rfl
  | true => simp [ended] at stepped

theorem step_moves {state next : State} {action : Action}
    (stepped : step state action = some next) : Moves state action next := by
  have running := step_running stepped
  cases action with
  | create present fd strand =>
      simp only [step, running, Bool.false_eq_true, if_false] at stepped
      split at stepped
      · cases stepped
        rename_i free
        exact .create present fd strand free
      · cases stepped
  | beginInitiation event =>
      simp only [step, running, Bool.false_eq_true, if_false] at stepped
      split at stepped
      · cases stepped
        rename_i enabled
        exact .beginInitiation event enabled.1 enabled.2.1 enabled.2.2
      · cases stepped
  | armInitiation object index =>
      simp only [step, running, Bool.false_eq_true, if_false] at stepped
      split at stepped
      · cases stepped
      · cases stepped
        rename_i begun
        exact .armInitiation object index _ _ begun
  | leaveScope object =>
      simp only [step, running, Bool.false_eq_true, if_false] at stepped
      split at stepped
      · cases stepped
        rename_i enabled
        exact .leaveScope object enabled.1 (List.eq_nil_of_length_eq_zero enabled.2)
      · cases stepped
  | closeDescriptor object =>
      simp only [step, running, Bool.false_eq_true, if_false] at stepped
      split at stepped
      · cases stepped
        rename_i removed
        exact .closeDescriptor object removed
      · cases stepped
  | dispose event =>
      simp only [step, running, Bool.false_eq_true, if_false] at stepped
      split at stepped
      · cases stepped
        rename_i enabled
        simp only [mayDispose, Bool.and_eq_true, decide_eq_true_eq,
          Bool.not_eq_true'] at enabled
        exact .dispose event enabled.1.1.1 enabled.1.2
      · cases stepped
  | harvest ready =>
      simp only [step, running, Bool.false_eq_true, if_false] at stepped
      split at stepped
      · rename_i batch waiting reported
        split at stepped
        · cases stepped
          rename_i distinct
          exact .harvest ready batch waiting reported distinct
        · cases stepped
      · cases stepped
  | clearMasks =>
      simp only [step, running, Bool.false_eq_true, if_false] at stepped
      split at stepped
      · cases stepped
        rename_i handling
        exact .clearMasks _ _ handling
      · cases stepped
  | rearm =>
      simp only [step, running, Bool.false_eq_true, if_false] at stepped
      split at stepped
      · cases stepped
        rename_i rearming
        exact .rearm _ _ _ rearming
      · cases stepped
  | dispatch =>
      simp only [step, running, Bool.false_eq_true, if_false] at stepped
      split at stepped
      · cases stepped
        rename_i dispatching
        exact .dispatch _ _ _ _ dispatching
      · cases stepped
  | processDeletionQueue =>
      simp only [step, running, Bool.false_eq_true, if_false] at stepped
      split at stepped
      · cases stepped
        rename_i handled
        exact .processDeletionQueue handled
      · cases stepped
  | startTask =>
      simp only [step, running, Bool.false_eq_true, if_false] at stepped
      split at stepped
      · cases stepped
      · split at stepped
        · cases stepped
          rename_i queued _
          exact .startTask _ _ queued
        · cases stepped
  | finishTask index =>
      simp only [step, running, Bool.false_eq_true, if_false] at stepped
      split at stepped
      · cases stepped
      · cases stepped
        rename_i runs
        exact .finishTask index _ runs
  | strandStep strand =>
      simp only [step, running, Bool.false_eq_true, if_false] at stepped
      split at stepped
      · cases stepped
      · cases stepped
        rename_i queued
        exact .strandStep strand _ _ queued
/-! ### The accounting -/

def State.reports (state : State) : List Report :=
  match state.reactor with
  | .waiting => []
  | .handling pending => pending
  | .rearming report _ pending => report :: pending
  | .dispatching report _ _ pending => report :: pending

def ReactorTask.event : ReactorTask → EventRef
  | .react event => event
  | .enqueueFinal event => event

def StrandTask.event : StrandTask → EventRef
  | .complete event => event
  | .final event => event

def strandFinals (state : State) (event : EventRef) : Nat :=
  (state.strandQueue (state.object event.object).strand).count (.final event)

def movedFinals (state : State) (event : EventRef) : Nat :=
  state.taskQueue.count (.enqueueFinal event) +
    state.running.count (.enqueueFinal event) + strandFinals state event +
    state.given.count (.final event)

def finals (state : State) (event : EventRef) : Nat :=
  state.deletionQueue.count event + movedFinals state event

structure Accounted (state : State) : Prop where
  fresh : ∀ object, state.created ≤ object →
    state.object object = AsyncObject.absent
  registered : ∀ fd registration, state.kernel.epoll fd = some registration →
    registration.ptr < state.created
  reports : ∀ report, report ∈ state.reports → report.ptr < state.created
  tasks : ∀ task, task ∈ state.taskQueue ∨ task ∈ state.running →
    task.event.object < state.created
  strands : ∀ strand task, task ∈ state.strandQueue strand →
    task.event.object < state.created ∧
      (state.object task.event.object).strand = strand
  finals : ∀ event, finals state event =
    ((state.object event.object).disposed event.direction).toNat
  closed : ∀ event : EventRef,
    (state.object event.object).disposed event.direction = true →
      (state.object event.object).phase = .closed
  givenPairs : ∀ event, state.given.count (.operation event) =
    state.given.count (.final event)

theorem accounted_init (threads : Nat) : Accounted (init threads) := by
  constructor <;> intros <;> simp_all [init, Kernel.init, State.reports, finals,
    movedFinals, strandFinals, AsyncObject.absent]

theorem Accounted.lt_created {state : State} (held : Accounted state)
    {object : ObjectId} (made : state.object object ≠ AsyncObject.absent) :
    object < state.created := by
  by_contra beyond
  exact made (held.fresh object (Nat.le_of_not_lt beyond))

theorem Accounted.lt_of_phase {state : State} (held : Accounted state)
    {object : ObjectId} (made : (state.object object).phase ≠ .absent) :
    object < state.created := by
  apply held.lt_created
  intro absent
  exact made (by rw [absent]; rfl)

theorem Accounted.lt_of_disposed {state : State} (held : Accounted state)
    {event : EventRef}
    (disposed : (state.object event.object).disposed event.direction = true) :
    event.object < state.created := by
  apply held.lt_of_phase
  rw [held.closed event disposed]
  exact Phase.noConfusion

/-! ### What the parts of a step preserve -/

theorem State.object_setObject (state : State) (object other : ObjectId)
    (value : AsyncObject) :
    (state.setObject object value).object other =
      if other = object then value else state.object other := by
  unfold State.setObject
  exact Function.update_apply ..

theorem Accounted.setObject {state : State} (held : Accounted state)
    {object : ObjectId} {value : AsyncObject} (made : object < state.created)
    (strand : value.strand = (state.object object).strand)
    (disposed : value.disposed = (state.object object).disposed)
    (closed : ∀ direction, value.disposed direction = true → value.phase = .closed) :
    Accounted (state.setObject object value) := by
  have sameStrand : ∀ other, ((state.setObject object value).object other).strand =
      (state.object other).strand := by
    intro other
    rw [state.object_setObject]
    by_cases same : other = object
    · rw [if_pos same, same, strand]
    · rw [if_neg same]
  have sameDisposed : ∀ other, ((state.setObject object value).object other).disposed =
      (state.object other).disposed := by
    intro other
    rw [state.object_setObject]
    by_cases same : other = object
    · rw [if_pos same, same, disposed]
    · rw [if_neg same]
  constructor
  · intro other beyond
    have different : other ≠ object := by
      intro same
      subst other
      exact absurd made (Nat.not_lt_of_le beyond)
    rw [state.object_setObject, if_neg different]
    exact held.fresh other beyond
  · exact held.registered
  · exact held.reports
  · exact held.tasks
  · intro queue task queued
    rw [sameStrand]
    exact held.strands queue task queued
  · intro event
    rw [sameDisposed, ← held.finals event]
    unfold Service.finals movedFinals strandFinals
    rw [sameStrand]
    rfl
  · intro event
    rw [sameDisposed, state.object_setObject]
    by_cases same : event.object = object
    · rw [if_pos same]
      intro gone
      rw [same, ← disposed] at gone
      exact closed event.direction gone
    · rw [if_neg same]
      exact held.closed event
  · exact held.givenPairs

theorem Accounted.setKernel {state : State} (held : Accounted state) {kernel : Kernel}
    (registered : ∀ fd registration, kernel.epoll fd = some registration →
      registration.ptr < state.created) :
    Accounted { state with kernel := kernel } :=
  { fresh := held.fresh
    registered := registered
    reports := held.reports
    tasks := held.tasks
    strands := held.strands
    finals := held.finals
    closed := held.closed
    givenPairs := held.givenPairs }

theorem Accounted.setReactor {state : State} (held : Accounted state)
    {reactor : ReactorThread}
    (reports : ∀ report, report ∈ { state with reactor := reactor }.reports →
      report.ptr < state.created) :
    Accounted { state with reactor := reactor } :=
  { fresh := held.fresh
    registered := held.registered
    reports := reports
    tasks := held.tasks
    strands := held.strands
    finals := held.finals
    closed := held.closed
    givenPairs := held.givenPairs }

theorem Accounted.arm {state : State} (held : Accounted state) (fd : Fd)
    (events : EventMask) {data : ObjectId} (made : data < state.created) :
    Accounted { state with kernel := (state.kernel.arm fd events data).1 } := by
  apply held.setKernel
  intro other registration registered
  rw [Kernel.arm_eq] at registered
  split at registered
  · exact held.registered other registration registered
  · simp only [Function.update_apply] at registered
    split at registered
    · cases registered
      exact made
    · exact held.registered other registration registered

theorem count_enqueue (state : State) (object : ObjectId) (task other : StrandTask)
    (strand : StrandId) :
    ((state.enqueue object task).strandQueue strand).count other =
      (state.strandQueue strand).count other +
        if strand = (state.object object).strand ∧ task = other then 1 else 0 := by
  unfold State.enqueue
  simp only [Function.update_apply]
  by_cases same : strand = (state.object object).strand
  · subst strand
    by_cases equal : task = other
    · simp [equal]
    · simp [equal]
  · simp [same]

/-- Only a final event put on its strand changes the number of final events. -/
theorem finals_enqueue (state : State) (object : ObjectId) (task : StrandTask)
    (event : EventRef) :
    finals (state.enqueue object task) event = finals state event +
      if (state.object event.object).strand = (state.object object).strand ∧
        task = .final event then 1 else 0 := by
  have counted := count_enqueue state object task (.final event)
    (state.object event.object).strand
  unfold finals movedFinals strandFinals
  rw [show (state.enqueue object task).object = state.object from rfl, counted]
  change state.deletionQueue.count event + (state.taskQueue.count (.enqueueFinal event) +
    state.running.count (.enqueueFinal event) + (_ + _) +
    state.given.count (.final event)) = _
  omega

theorem mem_enqueue {state : State} {object : ObjectId} {task other : StrandTask}
    {strand : StrandId} (queued : other ∈ (state.enqueue object task).strandQueue strand) :
    other ∈ state.strandQueue strand ∨
      (strand = (state.object object).strand ∧ other = task) := by
  unfold State.enqueue at queued
  simp only [Function.update_apply] at queued
  split at queued
  · rename_i same
    subst strand
    rcases List.mem_append.mp queued with before | added
    · exact Or.inl before
    · exact Or.inr ⟨rfl, List.mem_singleton.mp added⟩
  · exact Or.inl queued

theorem Accounted.enqueueComplete {state : State} (held : Accounted state)
    {event : EventRef} (made : event.object < state.created) :
    Accounted (state.enqueue event.object (.complete event)) := by
  refine
    { fresh := held.fresh
      registered := held.registered
      reports := held.reports
      tasks := held.tasks
      strands := ?_
      finals := ?_
      closed := held.closed
      givenPairs := held.givenPairs }
  · intro strand task queued
    rcases mem_enqueue queued with before | ⟨same, rfl⟩
    · exact held.strands strand task before
    · exact ⟨made, same.symm⟩
  · intro other
    rw [finals_enqueue, if_neg (fun both => StrandTask.noConfusion both.2)]
    exact held.finals other

theorem Accounted.forCompletion {state : State} (held : Accounted state)
    {event : EventRef} (made : event.object < state.created) :
    Accounted (forCompletion state event) := by
  apply Accounted.enqueueComplete
  · exact held.setObject made rfl rfl
      (fun direction gone => held.closed ⟨event.object, direction⟩ gone)
  · exact made

/-! ### Every step keeps the accounts -/

theorem accounted_create {state : State} (held : Accounted state)
    (present : Direction → Bool) (fd : Fd) (strand : StrandId) :
    Accounted (create state present fd strand) := by
  have other : ∀ object, object < state.created →
      (create state present fd strand).object object = state.object object :=
    fun object made => Function.update_of_ne (Nat.ne_of_lt made) _ _
  have atNew : (create state present fd strand).object state.created =
      { AsyncObject.absent with
        phase := .inScope
        present := present
        fd := fd
        strand := strand } := Function.update_self ..
  constructor
  · intro object beyond
    have later : object ≠ state.created := by
      intro same
      subst object
      exact absurd beyond (Nat.not_le_of_lt (Nat.lt_succ_self _))
    exact (Function.update_of_ne later _ _).trans
      (held.fresh object (Nat.le_of_lt beyond))
  · intro number registration registered
    exact Nat.lt_succ_of_lt (held.registered number registration registered)
  · intro report pending
    exact Nat.lt_succ_of_lt (held.reports report pending)
  · intro task queued
    exact Nat.lt_succ_of_lt (held.tasks task queued)
  · intro queue task queued
    obtain ⟨made, onStrand⟩ := held.strands queue task queued
    exact ⟨Nat.lt_succ_of_lt made, by rw [other _ made, onStrand]⟩
  · intro event
    rcases Nat.lt_or_ge event.object state.created with made | beyond
    · have before := held.finals event
      unfold Service.finals movedFinals strandFinals at before ⊢
      rw [other _ made]
      exact before
    · have absent : ((create state present fd strand).object event.object).disposed
          event.direction = false := by
        by_cases same : event.object = state.created
        · rw [same, atNew]
          rfl
        · rw [show (create state present fd strand).object event.object =
            state.object event.object from Function.update_of_ne same _ _,
            held.fresh _ beyond]
          rfl
      have before := held.finals event
      rw [held.fresh _ beyond] at before
      have unqueued : ∀ queue, (state.strandQueue queue).count (.final event) = 0 := by
        intro queue
        rw [List.count_eq_zero]
        intro queued
        exact absurd (held.strands queue _ queued).1 (Nat.not_lt_of_le beyond)
      rw [absent]
      unfold Service.finals movedFinals strandFinals at before ⊢
      simp only [AsyncObject.absent, Bool.toNat_false, unqueued] at before
      simp only [create, unqueued, Bool.toNat_false]
      omega
  · intro event
    by_cases same : event.object = state.created
    · rw [same, atNew]
      intro impossible
      cases impossible
    · rw [show (create state present fd strand).object event.object =
        state.object event.object from Function.update_of_ne same _ _]
      exact held.closed event
  · exact held.givenPairs

theorem accounted_beginInitiation {state : State} (held : Accounted state)
    {event : EventRef} (inScope : (state.object event.object).phase = .inScope) :
    Accounted (beginInitiation state event) := by
  have made : event.object < state.created :=
    held.lt_of_phase (by rw [inScope]; exact Phase.noConfusion)
  exact held.setObject made rfl rfl
    (fun direction gone => held.closed ⟨event.object, direction⟩ gone)

theorem accounted_armInitiation {state : State} (held : Accounted state)
    {object : ObjectId} {index : Nat} {direction : Direction} {mask : EventMask}
    (begun : (state.object object).initiating[index]? = some (direction, mask)) :
    Accounted (armInitiation state object index direction mask) := by
  have made : object < state.created := by
    apply held.lt_created
    intro absent
    rw [absent] at begun
    cases begun
  have armed : Accounted
      (State.setObject
        { state with kernel := (state.kernel.arm (state.object object).fd mask object).1 }
        object { state.object object with
          initiating := (state.object object).initiating.eraseIdx index }) :=
    (held.arm (state.object object).fd mask made).setObject made rfl rfl
      (fun direction gone => held.closed ⟨object, direction⟩ gone)
  unfold armInitiation
  dsimp only
  split
  · exact armed
  · exact armed.forCompletion made

theorem accounted_leaveScope {state : State} (held : Accounted state)
    {object : ObjectId} (inScope : (state.object object).phase = .inScope) :
    Accounted (leaveScope state object) := by
  have made : object < state.created :=
    held.lt_of_phase (by rw [inScope]; exact Phase.noConfusion)
  apply Accounted.setObject
  · apply held.setKernel
    intro fd registration registered
    simp only [Kernel.remove, Function.update_apply] at registered
    split at registered
    · cases registered
    · exact held.registered fd registration registered
  · exact made
  · rfl
  · rfl
  · intro direction gone
    have closed := held.closed ⟨object, direction⟩ gone
    rw [inScope] at closed
    cases closed

theorem accounted_closeDescriptor {state : State} (held : Accounted state)
    {object : ObjectId} (removed : (state.object object).phase = .removed) :
    Accounted (closeDescriptor state object) := by
  have made : object < state.created :=
    held.lt_of_phase (by rw [removed]; exact Phase.noConfusion)
  apply Accounted.setObject
  · apply held.setKernel
    intro fd registration registered
    simp only [Kernel.close, Function.update_apply] at registered
    split at registered
    · cases registered
    · exact held.registered fd registration registered
  · exact made
  · rfl
  · rfl
  · exact fun _ _ => rfl

theorem dispose_disposed (state : State) (event other : EventRef) :
    ((dispose state event).object other.object).disposed other.direction =
      (decide (other = event) ||
        (state.object other.object).disposed other.direction) := by
  obtain ⟨object, direction⟩ := event
  obtain ⟨otherObject, otherDirection⟩ := other
  unfold dispose
  rw [State.object_setObject]
  by_cases sameObject : otherObject = object
  · subst otherObject
    rw [if_pos rfl]
    by_cases sameDirection : otherDirection = direction
    · subst otherDirection
      simp
    · simp [sameDirection]
  · simp [sameObject]

theorem dispose_object (state : State) (event : EventRef) (object : ObjectId) :
    ((dispose state event).object object).strand = (state.object object).strand ∧
      ((dispose state event).object object).phase = (state.object object).phase := by
  unfold dispose
  rw [State.object_setObject]
  split
  · rename_i same
    rw [same]
    exact ⟨rfl, rfl⟩
  · exact ⟨rfl, rfl⟩

theorem accounted_dispose {state : State} (held : Accounted state) {event : EventRef}
    (closed : (state.object event.object).phase = .closed)
    (kept : (state.object event.object).disposed event.direction = false) :
    Accounted (dispose state event) := by
  constructor
  · intro object beyond
    have different : object ≠ event.object := by
      intro same
      subst same
      rw [held.fresh _ beyond] at closed
      cases closed
    unfold dispose
    rw [State.object_setObject, if_neg different]
    exact held.fresh object beyond
  · exact held.registered
  · exact held.reports
  · exact held.tasks
  · intro queue task queued
    rw [(dispose_object state event _).1]
    exact held.strands queue task queued
  · intro other
    have before := held.finals other
    rw [dispose_disposed]
    unfold Service.finals movedFinals strandFinals at before ⊢
    rw [(dispose_object state event _).1]
    simp only [dispose, State.setObject, List.count_append, List.count_singleton]
    by_cases same : other = event
    · subst other
      rw [kept] at before
      simp only [BEq.rfl, if_true, decide_true, Bool.true_or, Bool.toNat_true,
        Bool.toNat_false] at before ⊢
      omega
    · have different : (event == other) = false := by
        simpa using Ne.symm same
      simp only [different, same, decide_false, Bool.false_or, Bool.false_eq_true,
        if_false]
      omega
  · intro other
    rw [dispose_disposed, (dispose_object state event _).2]
    by_cases same : other = event
    · subst other
      exact fun _ => closed
    · simpa [same] using held.closed other
  · exact held.givenPairs

theorem reportOf_eq_some {kernel : Kernel} {ready : Fd × Events} {report : Report} :
    reportOf kernel ready = some report ↔
      ∃ registration, kernel.epoll ready.1 = some registration ∧
        reportable registration.interest ready.2 = true ∧
        { ptr := registration.ptr
          source := kernel.owner ready.1
          events := ready.2 } = report := by
  unfold reportOf
  cases registered : kernel.epoll ready.1 with
  | none => simp
  | some registration =>
      by_cases allowed : reportable registration.interest ready.2 = true
      · simp [allowed]
      · simp [allowed]

theorem mem_eventList {kernel : Kernel} {ready : List (Fd × Events)}
    {batch : List Report} (reported : eventList kernel ready = some batch)
    {report : Report} (member : report ∈ batch) :
    ∃ entry, entry ∈ ready ∧ reportOf kernel entry = some report := by
  induction ready generalizing batch with
  | nil =>
      cases reported
      cases member
  | cons entry rest ih =>
      simp only [eventList, Option.bind_eq_some_iff, Option.map_eq_some_iff] at reported
      obtain ⟨first, found, later, collected, rfl⟩ := reported
      rcases List.mem_cons.mp member with same | inRest
      · exact ⟨entry, List.mem_cons_self, by rw [found, same]⟩
      · obtain ⟨other, present, reports⟩ := ih collected inRest
        exact ⟨other, List.mem_cons_of_mem entry present, reports⟩

theorem accounted_harvest {state : State} (held : Accounted state)
    {ready : List (Fd × Events)} {batch : List Report}
    (reported : eventList state.kernel ready = some batch) :
    Accounted (harvest state ready batch) := by
  have disarmed : Accounted
      { state with kernel := state.kernel.disarm (ready.map Prod.fst) } := by
    apply held.setKernel
    intro fd registration registered
    obtain ⟨before, found, same⟩ := Kernel.disarm_epoll registered
    exact same ▸ held.registered fd before found
  apply disarmed.setReactor
  intro report member
  obtain ⟨entry, _, reports⟩ := mem_eventList reported member
  obtain ⟨registration, registered, _, rfl⟩ := reportOf_eq_some.mp reports
  exact held.registered entry.1 registration registered

theorem accounted_clearMasks {state : State} (held : Accounted state)
    {report : Report} {pending : List Report}
    (handling : state.reactor = .handling (report :: pending)) :
    Accounted (clearMasks state report pending) := by
  have reports : state.reports = report :: pending := by
    unfold State.reports
    rw [handling]
  apply Accounted.setObject
  · apply held.setReactor
    intro other member
    exact held.reports other (by rw [reports]; exact member)
  · exact held.reports report (by rw [reports]; exact List.mem_cons_self)
  · rfl
  · rfl
  · exact fun direction gone => held.closed ⟨report.ptr, direction⟩ gone

theorem accounted_rearm {state : State} (held : Accounted state) {report : Report}
    {mask : EventMask} {pending : List Report}
    (rearming : state.reactor = .rearming report mask pending) :
    Accounted (rearm state report mask pending) := by
  have reports : state.reports = report :: pending := by
    unfold State.reports
    rw [rearming]
  have made : report.ptr < state.created :=
    held.reports report (by rw [reports]; exact List.mem_cons_self)
  unfold rearm
  split
  · apply (held.arm (state.object report.ptr).fd mask made).setReactor
    intro other member
    exact held.reports other (by rw [reports]; exact member)
  · apply held.setReactor
    intro other member
    exact held.reports other (by rw [reports]; exact member)

theorem accounted_dispatch {state : State} (held : Accounted state) {report : Report}
    {mask : EventMask} {result : ErrorCode} {pending : List Report}
    (dispatching : state.reactor = .dispatching report mask result pending) :
    Accounted (dispatch state report mask result pending) := by
  have reports : state.reports = report :: pending := by
    unfold State.reports
    rw [dispatching]
  have made : report.ptr < state.created :=
    held.reports report (by rw [reports]; exact List.mem_cons_self)
  apply Accounted.setObject
  · refine
      { fresh := held.fresh
        registered := held.registered
        reports := ?_
        tasks := ?_
        strands := held.strands
        finals := ?_
        closed := held.closed
        givenPairs := held.givenPairs }
    · intro other member
      exact held.reports other (by rw [reports]; exact List.mem_cons_of_mem _ member)
    · rintro task (queued | runs)
      · rcases List.mem_append.mp queued with before | added
        · exact held.tasks task (Or.inl before)
        · obtain ⟨_, _, rfl⟩ := List.mem_map.mp added
          exact made
      · exact held.tasks task (Or.inr runs)
    · intro event
      have noFinal : ∀ tasks : List Dispatch,
          (tasks.map fun task => ReactorTask.react ⟨report.ptr, task.direction⟩).count
            (.enqueueFinal event) = 0 := by
        intro tasks
        rw [List.count_eq_zero]
        intro member
        obtain ⟨_, _, impossible⟩ := List.mem_map.mp member
        cases impossible
      have before := held.finals event
      unfold Service.finals movedFinals strandFinals at before ⊢
      simp only [List.count_append, noFinal, Nat.add_zero]
      exact before
  · exact made
  · rfl
  · rfl
  · exact fun direction gone => held.closed ⟨report.ptr, direction⟩ gone

theorem count_map_enqueueFinal (events : List EventRef) (event : EventRef) :
    (events.map ReactorTask.enqueueFinal).count (.enqueueFinal event) =
      events.count event := by
  apply List.count_map_of_injective
  intro first second same
  injection same

theorem accounted_processDeletionQueue {state : State} (held : Accounted state) :
    Accounted (processDeletionQueue state) := by
  refine
    { fresh := held.fresh
      registered := held.registered
      reports := ?_
      tasks := ?_
      strands := held.strands
      finals := ?_
      closed := held.closed
      givenPairs := held.givenPairs }
  · intro report member
    cases member
  · rintro task (queued | runs)
    · rcases List.mem_append.mp queued with before | added
      · exact held.tasks task (Or.inl before)
      · obtain ⟨event, waits, rfl⟩ := List.mem_map.mp added
        apply held.lt_of_disposed
        change (state.object event.object).disposed event.direction = true
        have counted := held.finals event
        have some : 0 < state.deletionQueue.count event := List.count_pos_iff.mpr waits
        unfold Service.finals at counted
        cases disposed : (state.object event.object).disposed event.direction with
        | true => rfl
        | false =>
            rw [disposed, Bool.toNat_false] at counted
            omega
    · exact held.tasks task (Or.inr runs)
  · intro event
    have before := held.finals event
    unfold Service.finals movedFinals strandFinals at before ⊢
    simp only [processDeletionQueue, List.count_append, count_map_enqueueFinal,
      List.count_nil]
    omega

theorem accounted_startTask {state : State} (held : Accounted state)
    {task : ReactorTask} {rest : List ReactorTask}
    (queued : state.taskQueue = task :: rest) :
    Accounted (startTask state task rest) := by
  refine
    { fresh := held.fresh
      registered := held.registered
      reports := held.reports
      tasks := ?_
      strands := held.strands
      finals := ?_
      closed := held.closed
      givenPairs := held.givenPairs }
  · rintro other (later | runs)
    · exact held.tasks other (Or.inl (by rw [queued]; exact List.mem_cons_of_mem _ later))
    · rcases List.mem_append.mp runs with before | started
      · exact held.tasks other (Or.inr before)
      · rw [List.mem_singleton.mp started]
        exact held.tasks task (Or.inl (by rw [queued]; exact List.mem_cons_self))
  · intro event
    have before := held.finals event
    unfold Service.finals movedFinals strandFinals at before ⊢
    rw [queued, List.count_cons] at before
    simp only [startTask, List.count_append, List.count_singleton]
    omega

theorem count_eraseIdx_add {Entry : Type*} [DecidableEq Entry] {entries : List Entry}
    {index : Nat} {entry : Entry} (found : entries[index]? = some entry)
    (counted : Entry) :
    (entries.eraseIdx index).count counted + (if entry = counted then 1 else 0) =
      entries.count counted := by
  induction entries generalizing index with
  | nil => cases found
  | cons head rest ih =>
      cases index with
      | zero =>
          have same : head = entry := by simpa using found
          subst same
          simp [List.count_cons]
      | succ index =>
          have later : rest[index]? = some entry := by simpa using found
          have before := ih later
          simp only [List.eraseIdx_cons_succ, List.count_cons]
          omega

theorem finals_finished {state : State} {index : Nat} {task : ReactorTask}
    (runs : state.running[index]? = some task) (event : EventRef) :
    finals { state with running := state.running.eraseIdx index } event +
      (if task = .enqueueFinal event then 1 else 0) = finals state event := by
  have counted := count_eraseIdx_add runs (.enqueueFinal event)
  unfold finals movedFinals strandFinals
  dsimp only
  omega

theorem accounted_finishTask {state : State} (held : Accounted state) {index : Nat}
    {task : ReactorTask} (runs : state.running[index]? = some task) :
    Accounted (finishTask state index task) := by
  have made : task.event.object < state.created :=
    held.tasks task (Or.inr (List.mem_of_getElem? runs))
  have remaining : ∀ other,
      other ∈ state.taskQueue ∨ other ∈ state.running.eraseIdx index →
        other.event.object < state.created := by
    rintro other (queued | left)
    · exact held.tasks other (Or.inl queued)
    · exact held.tasks other (Or.inr (List.mem_of_mem_eraseIdx left))
  cases task with
  | react event =>
      have finished : Accounted
          { state with running := state.running.eraseIdx index } := by
        refine
          { fresh := held.fresh
            registered := held.registered
            reports := held.reports
            tasks := remaining
            strands := held.strands
            finals := ?_
            closed := held.closed
            givenPairs := held.givenPairs }
        intro other
        have erased := finals_finished runs other
        rw [if_neg ReactorTask.noConfusion, Nat.add_zero] at erased
        rw [erased]
        exact held.finals other
      unfold finishTask
      dsimp only
      split
      · exact finished.forCompletion made
      · exact
          { fresh := finished.fresh
            registered := finished.registered
            reports := finished.reports
            tasks := finished.tasks
            strands := finished.strands
            finals := finished.finals
            closed := finished.closed
            givenPairs := finished.givenPairs }
  | enqueueFinal event =>
      refine
        { fresh := held.fresh
          registered := held.registered
          reports := held.reports
          tasks := remaining
          strands := ?_
          finals := ?_
          closed := held.closed
          givenPairs := held.givenPairs }
      · intro strand other queued
        rcases mem_enqueue queued with before | ⟨same, rfl⟩
        · exact held.strands strand other before
        · exact ⟨made, same.symm⟩
      · intro other
        have erased := finals_finished runs other
        unfold finishTask
        rw [finals_enqueue]
        refine Eq.trans ?_ (held.finals other)
        rw [← erased]
        by_cases same : event = other
        · subst other
          simp
        · simp [same]

theorem finals_popped {state : State} (held : Accounted state) {strand : StrandId}
    {task : StrandTask} {rest : List StrandTask}
    (queued : state.strandQueue strand = task :: rest) (event : EventRef) :
    finals { state with
        strandQueue := Function.update state.strandQueue strand rest } event +
      (if task = .final event then 1 else 0) = finals state event := by
  have popped : (Function.update state.strandQueue strand rest
        (state.object event.object).strand).count (.final event) +
        (if task = .final event then 1 else 0) =
      (state.strandQueue (state.object event.object).strand).count (.final event) := by
    rw [Function.update_apply]
    by_cases here : (state.object event.object).strand = strand
    · rw [if_pos here, here, queued, List.count_cons]
      simp
    · have different : task ≠ .final event := by
        intro same
        subst same
        have owned := held.strands strand (.final event)
          (by rw [queued]; exact List.mem_cons_self)
        exact here owned.2
      rw [if_neg here, if_neg different, Nat.add_zero]
  unfold finals movedFinals strandFinals
  dsimp only
  omega

theorem accounted_strandStep {state : State} (held : Accounted state)
    {strand : StrandId} {task : StrandTask} {rest : List StrandTask}
    (queued : state.strandQueue strand = task :: rest) :
    Accounted (runStrandTask state strand task rest) := by
  obtain ⟨made, onStrand⟩ := held.strands strand task
    (by rw [queued]; exact List.mem_cons_self)
  have left : ∀ queue other,
      other ∈ Function.update state.strandQueue strand rest queue →
        other.event.object < state.created ∧
          (state.object other.event.object).strand = queue := by
    intro queue other member
    apply held.strands queue other
    rw [Function.update_apply] at member
    split at member
    · rename_i same
      rw [same, queued]
      exact List.mem_cons_of_mem _ member
    · exact member
  have counted := finals_popped held queued
  cases task with
  | complete event =>
      have popped : Accounted { state with
          strandQueue := Function.update state.strandQueue strand rest } := by
        refine
          { fresh := held.fresh
            registered := held.registered
            reports := held.reports
            tasks := held.tasks
            strands := left
            finals := ?_
            closed := held.closed
            givenPairs := held.givenPairs }
        intro other
        have before := counted other
        rw [if_neg StrandTask.noConfusion, Nat.add_zero] at before
        rw [before]
        exact held.finals other
      unfold runStrandTask
      dsimp only
      split
      · exact popped.setObject made rfl rfl
          (fun direction gone => held.closed ⟨event.object, direction⟩ gone)
      · exact
          { fresh := popped.fresh
            registered := popped.registered
            reports := popped.reports
            tasks := popped.tasks
            strands := popped.strands
            finals := popped.finals
            closed := popped.closed
            givenPairs := popped.givenPairs }
  | final event =>
      unfold runStrandTask
      dsimp only
      split
      · refine
          { fresh := held.fresh
            registered := held.registered
            reports := held.reports
            tasks := held.tasks
            strands := ?_
            finals := ?_
            closed := held.closed
            givenPairs := held.givenPairs }
        · intro queue other again
          rcases mem_enqueue again with before | ⟨same, rfl⟩
          · exact left queue other before
          · exact ⟨made, same.symm⟩
        · intro other
          rw [finals_enqueue]
          refine Eq.trans ?_ (held.finals other)
          rw [← counted other]
          by_cases same : event = other
          · subst other
            simp
          · simp [same]
      · refine
          { fresh := held.fresh
            registered := held.registered
            reports := held.reports
            tasks := held.tasks
            strands := left
            finals := ?_
            closed := held.closed
            givenPairs := ?_ }
        · intro other
          refine Eq.trans ?_ (held.finals other)
          rw [← counted other]
          unfold Service.finals movedFinals strandFinals
          simp only [List.count_append, List.count_cons, List.count_nil]
          by_cases same : event = other
          · subst other
            simp
            omega
          · simp [same]
        · intro other
          have pairs := held.givenPairs other
          simp only [List.count_append, List.count_cons, List.count_nil, pairs]
          by_cases same : event = other
          · subst other
            simp
          · simp [same]

theorem accounted_step {state next : State} {action : Action} (held : Accounted state)
    (stepped : step state action = some next) : Accounted next := by
  cases step_moves stepped with
  | create present fd strand free => exact accounted_create held present fd strand
  | beginInitiation event inScope present idle =>
      exact accounted_beginInitiation held inScope
  | armInitiation object index direction mask begun =>
      exact accounted_armInitiation held begun
  | leaveScope object inScope quiet => exact accounted_leaveScope held inScope
  | closeDescriptor object removed => exact accounted_closeDescriptor held removed
  | dispose event closed kept => exact accounted_dispose held closed kept
  | harvest ready batch waiting reported distinct =>
      exact accounted_harvest held reported
  | clearMasks report pending handling => exact accounted_clearMasks held handling
  | rearm report mask pending rearming => exact accounted_rearm held rearming
  | dispatch report mask result pending dispatching =>
      exact accounted_dispatch held dispatching
  | processDeletionQueue handled => exact accounted_processDeletionQueue held
  | startTask task rest queued => exact accounted_startTask held queued
  | finishTask index task runs => exact accounted_finishTask held runs
  | strandStep strand task rest queued => exact accounted_strandStep held queued

end BabaIo.Service
