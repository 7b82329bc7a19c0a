import BabaIo.RegistrationOwnership

/-
When an event is given back.

An event goes through four stages: idle, waiting (its `react` is stored),
dispatched (one reactor task is going to call `react`) and completing (its
`complete` is on the strand); `has_active_event` is set in the last two.  The
final event gives it back in one of the first two, after the reports of its
descriptor have left the reactor thread.  This rests on each report being
dispatched to waiting events only, which a report is when its bits are still in
the mask as it is handled.
-/

set_option autoImplicit false

namespace BabaIo.Service

/-- No report in the reactor thread, no reactor task, queued or running, and no
task of a strand refers to the event or its final event. -/
structure Unreferenced (state : State) (event : EventRef) : Prop where
  reports : ∀ report, report ∈ state.reports → report.ptr ≠ event.object
  tasks : ∀ task, task ∈ state.taskQueue ∨ task ∈ state.running → task.event ≠ event
  strands : ∀ strand task, task ∈ state.strandQueue strand → task.event ≠ event

/-- Events that were given back are not referred to, and each is given once. -/
structure LifetimeKept (state : State) : Prop where
  unreferenced : ∀ event, .operation event ∈ state.given → Unreferenced state event
  givenOnce : state.given.Nodup

/-- The kernel rejects a re-arm of a removed descriptor, and every report carries
EPOLLIN or EPOLLOUT.  The first leaves out the runs in which the reactor re-arms between
the destructor's `remove` and its `close`. -/
def kernelAssumption (state : State) : Action → Bool
  | .harvest ready =>
      ready.all fun entry => has entry.2 EPOLLIN || has entry.2 EPOLLOUT
  | action => staleRearmFindsClosed state action

/-- A report that is handled has its bits still in the mask of the descriptor. -/
def reportStillMasked (state : State) : Action → Bool
  | .clearMasks =>
      match state.reactor with
      | .handling (report :: _) =>
          let mask := (state.object report.ptr).eventMask
          (!has report.events EPOLLIN || mask.has .read) &&
            (!has report.events EPOLLOUT || mask.has .write)
      | _ => true
  | _ => true

def LifetimeProtocol : Prop :=
  ∀ (threads : Nat) (actions : List Action),
    Runs.StepsMeet step (fun state action => kernelAssumption state action = true)
        (init threads) actions →
      Runs.StatesMeet step LifetimeKept (init threads) actions

/-! ### The stages of an event -/

def Event.waiting : Event :=
  { react := true, complete := false, hasActiveEvent := false, outstanding := true }

/-- The stage of an event, with the number of reactor tasks that call its `react`
and the number of strand tasks that call its `complete`. -/
inductive InStage : Event → Nat → Nat → Prop where
  | idle : InStage Event.init 0 0
  | waiting : InStage Event.waiting 0 0
  | dispatched : InStage { Event.waiting with hasActiveEvent := true } 1 0
  | completing :
      InStage { react := false, complete := true, hasActiveEvent := true,
                outstanding := true } 0 1

def reactTasks (state : State) (event : EventRef) : Nat :=
  state.taskQueue.count (.react event) + state.running.count (.react event)

def completeTasks (state : State) (event : EventRef) : Nat :=
  (state.strandQueue (state.object event.object).strand).count (.complete event)

def State.mask (state : State) (event : EventRef) : Bool :=
  (state.object event.object).eventMask.has event.direction

/-- The object can still be reported, or a report of it is being handled. -/
def Tracked (state : State) (object : ObjectId) : Prop :=
  (state.object object).phase = .inScope ∨
    ∃ report, report ∈ state.reports ∧ report.ptr = object

def Cleared (state : State) (report : Report) : Prop :=
  ∀ direction : Direction, has report.events direction.bit = true →
    state.event ⟨report.ptr, direction⟩ = Event.waiting ∧
      state.mask ⟨report.ptr, direction⟩ = false

def LeftOver (state : State) (report : Report) (mask : EventMask) : Prop :=
  ∀ direction : Direction, mask.has direction = true →
    state.mask ⟨report.ptr, direction⟩ = true ∧
      has report.events direction.bit = false

def HandlesCleared (state : State) : Prop :=
  match state.reactor with
  | .rearming report mask _ => Cleared state report ∧ LeftOver state report mask
  | .dispatching report mask result _ =>
      Cleared state report ∧ LeftOver state report mask ∧
        (rearmFails mask result = true → (state.object report.ptr).phase ≠ .inScope)
  | _ => True

structure Lifetime (state : State) : Prop where
  stage : ∀ event, InStage (state.event event) (reactTasks state event)
    (completeTasks state event)
  masked : ∀ event, Tracked state event.object → state.mask event = true →
    state.event event = Event.waiting
  distinct : state.reports.Pairwise fun first second => first.ptr ≠ second.ptr
  carries : ∀ report, report ∈ state.reports →
    ∃ direction : Direction, has report.events direction.bit = true
  handles : HandlesCleared state
  moved : ∀ event, 0 < movedFinals state event → ¬Tracked state event.object

theorem lifetime_init (threads : Nat) : Lifetime (init threads) := by
  constructor
  · intro event
    exact .idle
  · intro event _ masked
    simp [State.mask, init, AsyncObject.absent] at masked
  · exact List.Pairwise.nil
  · intro report member
    cases member
  · exact trivial
  · intro event moved
    exact absurd moved (Nat.lt_irrefl 0)

/-! ### Stages and flags -/

theorem InStage.waiting_counts {event : Event} {reacts completes : Nat}
    (stage : InStage event reacts completes) (waiting : event = Event.waiting) :
    reacts = 0 ∧ completes = 0 := by
  cases stage with
  | waiting => exact ⟨rfl, rfl⟩
  | idle => cases waiting
  | dispatched => cases waiting
  | completing => cases waiting

theorem InStage.idle_of_outstanding {event : Event} {reacts completes : Nat}
    (stage : InStage event reacts completes) (done : event.outstanding = false) :
    event = Event.init ∧ reacts = 0 ∧ completes = 0 := by
  cases stage with
  | idle => exact ⟨rfl, rfl, rfl⟩
  | waiting => cases done
  | dispatched => cases done
  | completing => cases done

theorem InStage.inactive {event : Event} {reacts completes : Nat}
    (stage : InStage event reacts completes) (inactive : event.hasActiveEvent = false) :
    reacts = 0 ∧ completes = 0 := by
  cases stage with
  | idle => exact ⟨rfl, rfl⟩
  | waiting => exact ⟨rfl, rfl⟩
  | dispatched => cases inactive
  | completing => cases inactive

theorem InStage.of_react {event : Event} {reacts completes : Nat}
    (stage : InStage event reacts completes) (queued : 0 < reacts) :
    event = { Event.waiting with hasActiveEvent := true } ∧ reacts = 1 ∧
      completes = 0 := by
  cases stage with
  | dispatched => exact ⟨rfl, rfl, rfl⟩
  | idle => exact absurd queued (Nat.lt_irrefl 0)
  | waiting => exact absurd queued (Nat.lt_irrefl 0)
  | completing => exact absurd queued (Nat.lt_irrefl 0)

theorem InStage.of_complete {event : Event} {reacts completes : Nat}
    (stage : InStage event reacts completes) (queued : 0 < completes) :
    event = { react := false, complete := true, hasActiveEvent := true,
              outstanding := true } ∧ reacts = 0 ∧ completes = 1 := by
  cases stage with
  | completing => exact ⟨rfl, rfl, rfl⟩
  | idle => exact absurd queued (Nat.lt_irrefl 0)
  | waiting => exact absurd queued (Nat.lt_irrefl 0)
  | dispatched => exact absurd queued (Nat.lt_irrefl 0)

/-! ### Steps outside the reactor thread -/

/-- The reactor thread does not move.  Only events that do not wait change, and
a bit enters the mask only for an event that begins to wait. -/
theorem Lifetime.of_change {state next : State} (held : Lifetime state)
    (changed : EventRef → Prop)
    (before : ∀ event, changed event → state.event event ≠ Event.waiting)
    (kept : ∀ event, ¬changed event → next.event event = state.event event)
    (stage : ∀ event, InStage (next.event event) (reactTasks next event)
      (completeTasks next event))
    (grows : ∀ event, state.mask event = true → next.mask event = true)
    (entered : ∀ event, next.mask event = true → state.mask event = true ∨
      (changed event ∧ next.event event = Event.waiting))
    (reactor : next.reactor = state.reactor)
    (phase : ∀ object, (next.object object).phase = .inScope →
      (state.object object).phase = .inScope ∨ ∀ direction,
        next.mask ⟨object, direction⟩ = false ∧ movedFinals next ⟨object, direction⟩ = 0)
    (moved : ∀ event, 0 < movedFinals next event → 0 < movedFinals state event) :
    Lifetime next := by
  have reports : next.reports = state.reports := by
    unfold State.reports
    rw [reactor]
  have stays : ∀ event, state.event event = Event.waiting →
      next.event event = Event.waiting := by
    intro event waiting
    have unchanged : ¬changed event := fun change => before event change waiting
    rw [kept event unchanged, waiting]
  have tracked : ∀ event : EventRef, Tracked next event.object →
      Tracked state event.object ∨
        (next.mask event = false ∧ movedFinals next event = 0) := by
    rintro event (inScope | reported)
    · rcases phase event.object inScope with inScope | fresh
      · exact Or.inl (Or.inl inScope)
      · exact Or.inr (fresh event.direction)
    · rw [reports] at reported
      exact Or.inl (Or.inr reported)
  have cleared : ∀ report, Cleared state report → Cleared next report := by
    intro report were direction carried
    obtain ⟨waiting, unmasked⟩ := were direction carried
    refine ⟨stays _ waiting, ?_⟩
    cases masked : next.mask ⟨report.ptr, direction⟩ with
    | false => rfl
    | true =>
        rcases entered _ masked with already | ⟨change, _⟩
        · rw [unmasked] at already
          cases already
        · exact absurd waiting (before _ change)
  have leftOver : ∀ report mask, LeftOver state report mask →
      LeftOver next report mask := by
    intro report mask left direction carried
    obtain ⟨masked, unreported⟩ := left direction carried
    exact ⟨grows _ masked, unreported⟩
  constructor
  · exact stage
  · intro event live masked
    rcases tracked event live with live | ⟨unmasked, _⟩
    · rcases entered event masked with already | ⟨_, waiting⟩
      · exact stays event (held.masked event live already)
      · exact waiting
    · rw [unmasked] at masked
      cases masked
  · rw [reports]
    exact held.distinct
  · rw [reports]
    exact held.carries
  · have handles := held.handles
    unfold HandlesCleared at handles ⊢
    rw [reactor]
    cases position : state.reactor with
    | waiting => trivial
    | handling pending => trivial
    | rearming report mask pending =>
        rw [position] at handles
        exact ⟨cleared report handles.1, leftOver report mask handles.2⟩
    | dispatching report mask result pending =>
        rw [position] at handles
        obtain ⟨wereCleared, wereLeft, destroyed⟩ := handles
        refine ⟨cleared report wereCleared, leftOver report mask wereLeft, ?_⟩
        intro fails inScope
        rcases phase report.ptr inScope with inScope | fresh
        · exact destroyed fails inScope
        · unfold rearmFails at fails
          rw [Bool.and_eq_true] at fails
          obtain ⟨direction, carried⟩ := mask.nonzero_iff.mp fails.1
          have masked := (leftOver report mask wereLeft direction carried).1
          rw [(fresh direction).1] at masked
          cases masked
  · intro event some live
    rcases tracked event live with live | ⟨_, none⟩
    · exact held.moved event (moved event some) live
    · rw [none] at some
      exact Nat.lt_irrefl 0 some

theorem Lifetime.of_same {state next : State} (held : Lifetime state)
    (event : ∀ event, next.event event = state.event event)
    (mask : ∀ event, next.mask event = state.mask event)
    (reacts : ∀ event, reactTasks next event = reactTasks state event)
    (completes : ∀ event, completeTasks next event = completeTasks state event)
    (reactor : next.reactor = state.reactor)
    (phase : ∀ object, (next.object object).phase = .inScope →
      (state.object object).phase = .inScope)
    (moved : ∀ event, movedFinals next event = movedFinals state event) :
    Lifetime next := by
  apply held.of_change (fun _ => False)
  · exact fun _ change => change.elim
  · exact fun other _ => event other
  · intro other
    rw [event, reacts, completes]
    exact held.stage other
  · exact fun other masked => by rw [mask, masked]
  · exact fun other masked => Or.inl (by rw [← mask, masked])
  · exact reactor
  · exact fun object inScope => Or.inl (phase object inScope)
  · exact fun other some => by rw [← moved]; exact some

theorem State.event_setObject (state : State) (object : ObjectId) (value : AsyncObject)
    (event : EventRef) :
    (state.setObject object value).event event =
      if event.object = object then value.event event.direction
      else state.event event := by
  unfold State.event
  rw [state.object_setObject]
  split <;> rfl

theorem State.mask_setObject (state : State) (object : ObjectId) (value : AsyncObject)
    (event : EventRef) :
    (state.setObject object value).mask event =
      if event.object = object then value.eventMask.has event.direction
      else state.mask event := by
  unfold State.mask
  rw [state.object_setObject]
  split <;> rfl

theorem Lifetime.setObject {state : State} (held : Lifetime state) {object : ObjectId}
    {value : AsyncObject} (event : value.event = (state.object object).event)
    (mask : value.eventMask = (state.object object).eventMask)
    (strand : value.strand = (state.object object).strand)
    (phase : value.phase = .inScope → (state.object object).phase = .inScope) :
    Lifetime (state.setObject object value) := by
  have sameStrand : ∀ other, ((state.setObject object value).object other).strand =
      (state.object other).strand := by
    intro other
    rw [state.object_setObject]
    split
    · rename_i same
      rw [same, strand]
    · rfl
  apply held.of_same
  · intro other
    rw [state.event_setObject]
    split
    · rename_i same
      rw [event, ← same]
      rfl
    · rfl
  · intro other
    rw [state.mask_setObject]
    split
    · rename_i same
      rw [mask, ← same]
      rfl
    · rfl
  · exact fun _ => rfl
  · intro other
    unfold completeTasks
    rw [sameStrand]
    rfl
  · rfl
  · intro other
    rw [state.object_setObject]
    split
    · rename_i same
      rw [same]
      exact phase
    · exact id
  · intro other
    unfold movedFinals strandFinals
    rw [sameStrand]
    rfl

theorem Lifetime.setKernel {state : State} (held : Lifetime state) (kernel : Kernel) :
    Lifetime { state with kernel := kernel } :=
  { stage := held.stage
    masked := held.masked
    distinct := held.distinct
    carries := held.carries
    handles := held.handles
    moved := held.moved }

theorem lifetime_create {state : State} (accounts : Accounted state)
    (held : Lifetime state) {present : Direction → Bool} {fd : Fd} {strand : StrandId}
    (after : Accounted (create state present fd strand)) :
    Lifetime (create state present fd strand) := by
  have absent : state.object state.created = AsyncObject.absent :=
    accounts.fresh state.created (Nat.le_refl _)
  have newObject : ∀ object, (create state present fd strand).object object =
      if object = state.created then
        { AsyncObject.absent with
          phase := .inScope
          present := present
          fd := fd
          strand := strand }
      else state.object object := fun object => Function.update_apply ..
  have sameEvent : ∀ event, (create state present fd strand).event event =
      state.event event := by
    intro event
    unfold State.event
    rw [newObject]
    by_cases same : event.object = state.created
    · rw [if_pos same, same, absent]
    · rw [if_neg same]
  have sameMask : ∀ event, (create state present fd strand).mask event =
      state.mask event := by
    intro event
    unfold State.mask
    rw [newObject]
    by_cases same : event.object = state.created
    · rw [if_pos same, same, absent]
    · rw [if_neg same]
  have noFinals : ∀ event : EventRef, event.object = state.created →
      movedFinals (create state present fd strand) event = 0 := by
    intro event same
    have counted := after.finals event
    rw [newObject, if_pos same] at counted
    unfold Service.finals at counted
    change _ + _ = 0 at counted
    omega
  apply held.of_change (fun _ => False)
  · exact fun _ change => change.elim
  · exact fun event _ => sameEvent event
  · intro event
    have stage := held.stage event
    rw [sameEvent]
    by_cases same : event.object = state.created
    · have unqueued : completeTasks (create state present fd strand) event = 0 := by
        unfold completeTasks
        rw [List.count_eq_zero]
        intro queued
        have made := (accounts.strands _ _ queued).1
        change event.object < state.created at made
        rw [same] at made
        exact Nat.lt_irrefl _ made
      have initial : state.event event = Event.init := by
        unfold State.event
        rw [same, absent]
        rfl
      have before := stage.inactive (by rw [initial]; rfl)
      rw [before.2] at stage
      rw [unqueued]
      exact stage
    · have sameComplete : completeTasks (create state present fd strand) event =
          completeTasks state event := by
        unfold completeTasks
        rw [newObject, if_neg same]
        rfl
      rw [sameComplete]
      exact stage
  · exact fun event masked => by rw [sameMask, masked]
  · exact fun event masked => Or.inl (by rw [← sameMask, masked])
  · rfl
  · intro object
    rw [newObject]
    by_cases same : object = state.created
    · intro _
      right
      intro direction
      refine ⟨?_, noFinals ⟨object, direction⟩ same⟩
      rw [sameMask]
      unfold State.mask
      rw [same, absent]
      exact EventMask.has_empty direction
    · rw [if_neg same]
      exact Or.inl
  · intro event
    by_cases same : event.object = state.created
    · rw [noFinals event same]
      exact fun none => absurd none (Nat.lt_irrefl 0)
    · have sameMoved : movedFinals (create state present fd strand) event =
          movedFinals state event := by
        unfold movedFinals strandFinals
        rw [newObject, if_neg same]
        rfl
      rw [sameMoved]
      exact id

theorem State.event_update (state : State) (event : EventRef) (value : AsyncObject)
    {changed : Event}
    (updated : value.event =
      Function.update (state.object event.object).event event.direction changed)
    (other : EventRef) :
    (state.setObject event.object value).event other =
      if other = event then changed else state.event other := by
  obtain ⟨object, direction⟩ := event
  obtain ⟨otherObject, otherDirection⟩ := other
  rw [state.event_setObject]
  by_cases sameObject : otherObject = object
  · subst otherObject
    rw [if_pos rfl, updated, Function.update_apply]
    simp [State.event]
  · simp [sameObject]

theorem lifetime_beginInitiation {state : State} (held : Lifetime state)
    {event : EventRef} (idle : (state.event event).outstanding = false) :
    Lifetime (beginInitiation state event) := by
  obtain ⟨initial, noReact, noComplete⟩ := (held.stage event).idle_of_outstanding idle
  have eventOf : ∀ other, (beginInitiation state event).event other =
      if other = event then Event.waiting else state.event other := by
    intro other
    rw [show Event.waiting = { (state.object event.object).event event.direction with
        react := true, outstanding := true } by
      change _ = { state.event event with react := true, outstanding := true }
      rw [initial]
      rfl]
    exact State.event_update state event _ rfl other
  have maskOf : ∀ other, (beginInitiation state event).mask other =
      (decide (other = event) || state.mask other) := by
    intro other
    obtain ⟨object, direction⟩ := event
    obtain ⟨otherObject, otherDirection⟩ := other
    unfold beginInitiation
    rw [State.mask_setObject]
    by_cases sameObject : otherObject = object
    · subst otherObject
      simp [State.mask]
    · simp [sameObject]
  have strandOf : ∀ object, ((beginInitiation state event).object object).strand =
      (state.object object).strand := by
    intro object
    unfold beginInitiation
    rw [State.object_setObject]
    split
    · rename_i same
      rw [same]
    · rfl
  have sameCompletes : ∀ other, completeTasks (beginInitiation state event) other =
      completeTasks state other := by
    intro other
    unfold completeTasks
    rw [strandOf]
    rfl
  have sameMoved : ∀ other, movedFinals (beginInitiation state event) other =
      movedFinals state other := by
    intro other
    unfold movedFinals strandFinals
    rw [strandOf]
    rfl
  apply held.of_change (fun other => other = event)
  · rintro other rfl
    rw [initial]
    intro impossible
    cases impossible
  · intro other different
    rw [eventOf, if_neg different]
  · intro other
    rw [eventOf, sameCompletes]
    change InStage _ (reactTasks state other) _
    by_cases same : other = event
    · subst other
      rw [if_pos rfl, noReact, noComplete]
      exact .waiting
    · rw [if_neg same]
      exact held.stage other
  · intro other masked
    rw [maskOf, masked, Bool.or_true]
  · intro other masked
    rw [maskOf, Bool.or_eq_true, decide_eq_true_eq] at masked
    rcases masked with same | masked
    · exact Or.inr ⟨same, by rw [eventOf, if_pos same]⟩
    · exact Or.inl masked
  · rfl
  · intro object inScope
    left
    unfold beginInitiation at inScope
    rw [State.object_setObject] at inScope
    split at inScope
    · rename_i same
      rw [same]
      exact inScope
    · exact inScope
  · intro other
    rw [sameMoved]
    exact id

theorem lifetime_armInitiation {state : State} (descriptors : DescriptorsOpen state)
    (held : Lifetime state) {object : ObjectId} {index : Nat} {direction : Direction}
    {mask : EventMask}
    (begun : (state.object object).initiating[index]? = some (direction, mask)) :
    Lifetime (armInitiation state object index direction mask) := by
  have inScope : (state.object object).phase = .inScope := by
    apply descriptors.initiating
    intro none
    rw [none] at begun
    cases begun
  have succeeds : (state.kernel.arm (state.object object).fd mask object).2 = ec.OK := by
    rw [Kernel.arm_succeeds_iff, descriptors.holds object (Or.inl inScope)]
    exact Option.some_ne_none object
  unfold armInitiation
  dsimp only
  rw [if_pos succeeds]
  exact (held.setKernel _).setObject rfl rfl rfl id

theorem lifetime_leaveScope {state : State} (held : Lifetime state) (object : ObjectId) :
    Lifetime (leaveScope state object) :=
  (held.setKernel _).setObject rfl rfl rfl (fun impossible => by cases impossible)

theorem lifetime_closeDescriptor {state : State} (held : Lifetime state)
    (object : ObjectId) : Lifetime (closeDescriptor state object) :=
  (held.setKernel _).setObject rfl rfl rfl (fun impossible => by cases impossible)

theorem lifetime_dispose {state : State} (held : Lifetime state) (event : EventRef) :
    Lifetime (dispose state event) := by
  have enqueued : Lifetime
      { state with deletionQueue := state.deletionQueue ++ [event] } :=
    { stage := held.stage
      masked := held.masked
      distinct := held.distinct
      carries := held.carries
      handles := held.handles
      moved := held.moved }
  exact enqueued.setObject rfl rfl rfl id

theorem lifetime_startTask {state : State} (held : Lifetime state) {task : ReactorTask}
    {rest : List ReactorTask} (queued : state.taskQueue = task :: rest) :
    Lifetime (startTask state task rest) := by
  have moves : ∀ other : ReactorTask,
      rest.count other + (state.running ++ [task]).count other =
        state.taskQueue.count other + state.running.count other := by
    intro other
    simp only [queued, List.count_append, List.count_cons, List.count_nil]
    omega
  apply held.of_same
  · exact fun _ => rfl
  · exact fun _ => rfl
  · exact fun event => moves (.react event)
  · exact fun _ => rfl
  · rfl
  · exact fun _ => id
  · intro event
    have moved := moves (.enqueueFinal event)
    unfold movedFinals startTask
    change rest.count _ + (state.running ++ [task]).count _ + _ + _ = _
    rw [moved]
    rfl

theorem setEvent_object (state : State) (event : EventRef) (value : Event)
    (object : ObjectId) :
    ((state.setEvent event value).object object).strand =
        (state.object object).strand ∧
      ((state.setEvent event value).object object).phase =
        (state.object object).phase ∧
      ((state.setEvent event value).object object).eventMask =
        (state.object object).eventMask := by
  unfold State.setEvent
  rw [State.object_setObject]
  split
  · rename_i same
    rw [same]
    exact ⟨rfl, rfl, rfl⟩
  · exact ⟨rfl, rfl, rfl⟩

theorem setEvent_completeTasks (state : State) (event other : EventRef)
    (value : Event) :
    completeTasks (state.setEvent event value) other = completeTasks state other := by
  unfold completeTasks
  rw [(setEvent_object state event value other.object).1]
  rfl

theorem setEvent_movedFinals (state : State) (event other : EventRef)
    (value : Event) :
    movedFinals (state.setEvent event value) other = movedFinals state other := by
  unfold movedFinals strandFinals
  rw [(setEvent_object state event value other.object).1]
  rfl

theorem setEvent_mask (state : State) (event other : EventRef) (value : Event) :
    (state.setEvent event value).mask other = state.mask other := by
  unfold State.mask
  rw [(setEvent_object state event value other.object).2.2]

theorem enqueue_completeTasks (state : State) (object : ObjectId) (task : StrandTask)
    (event : EventRef) :
    completeTasks (state.enqueue object task) event = completeTasks state event +
      if (state.object event.object).strand = (state.object object).strand ∧
        task = .complete event then 1 else 0 :=
  count_enqueue ..

theorem enqueue_movedFinals (state : State) (object : ObjectId) (task : StrandTask)
    (event : EventRef) :
    movedFinals (state.enqueue object task) event = movedFinals state event +
      if (state.object event.object).strand = (state.object object).strand ∧
        task = .final event then 1 else 0 := by
  have counted := finals_enqueue state object task event
  unfold finals at counted
  change state.deletionQueue.count event + _ = _ at counted
  omega

/-- A `react` that runs finds its closure, and its completion goes to the strand. -/
theorem lifetime_finishReact {state : State} (held : Lifetime state) {index : Nat}
    {event : EventRef} (runs : state.running[index]? = some (.react event)) :
    Lifetime (finishTask state index (.react event)) := by
  have counted := fun other => count_eraseIdx_add runs other
  have queued : 0 < reactTasks state event := by
    have one := counted (.react event)
    rw [if_pos rfl] at one
    unfold reactTasks
    omega
  obtain ⟨dispatched, oneReact, noComplete⟩ := (held.stage event).of_react queued
  have react : (state.event event).react = true := by
    rw [dispatched]
    rfl
  let finished : State := { state with running := state.running.eraseIdx index }
  have finishes : finishTask state index (.react event) =
      (finished.setEvent event
        { react := false, complete := true, hasActiveEvent := true,
          outstanding := true }).enqueue event.object (.complete event) := by
    have stored : { state.event event with react := false, complete := true } =
        ({ react := false, complete := true, hasActiveEvent := true,
           outstanding := true } : Event) := by
      rw [dispatched]
      rfl
    unfold finishTask
    dsimp only
    rw [if_pos react]
    unfold forCompletion
    dsimp only
    rw [show State.event { state with running := state.running.eraseIdx index } event =
      state.event event from rfl, stored]
  rw [finishes]
  have eventOf := State.event_update finished event
    { finished.object event.object with
      event := Function.update (finished.object event.object).event event.direction
        { react := false, complete := true, hasActiveEvent := true,
          outstanding := true } } rfl
  apply held.of_change (fun other => other = event)
  · rintro other rfl
    rw [dispatched]
    intro impossible
    cases impossible
  · intro other different
    exact (eventOf other).trans (if_neg different)
  · intro other
    rw [enqueue_completeTasks, setEvent_completeTasks]
    change InStage ((finished.setEvent event _).event other)
      (state.taskQueue.count (.react other) +
        (state.running.eraseIdx index).count (.react other))
      (completeTasks state other + _)
    have erased := counted (.react other)
    have before := held.stage other
    unfold reactTasks at before oneReact
    by_cases same : other = event
    · subst other
      rw [show (finished.setEvent event _).event event = _ from
        (eventOf event).trans (if_pos rfl)]
      rw [if_pos rfl] at erased
      rw [if_pos ⟨rfl, rfl⟩, noComplete]
      have none : state.taskQueue.count (.react event) +
          (state.running.eraseIdx index).count (.react event) = 0 := by
        omega
      rw [none]
      exact .completing
    · rw [show (finished.setEvent event _).event other = _ from
        (eventOf other).trans (if_neg same)]
      rw [if_neg (fun equal => same (ReactorTask.react.inj equal).symm),
        Nat.add_zero] at erased
      rw [if_neg (fun both => same (StrandTask.complete.inj both.2).symm),
        Nat.add_zero, erased]
      exact before
  · intro other masked
    exact (setEvent_mask finished event other _).trans masked
  · intro other masked
    exact Or.inl ((setEvent_mask finished event other _).symm.trans masked)
  · rfl
  · intro object inScope
    exact Or.inl ((setEvent_object finished event _ object).2.1.symm.trans inScope)
  · intro other
    rw [enqueue_movedFinals, setEvent_movedFinals,
      if_neg (fun both => StrandTask.noConfusion both.2), Nat.add_zero]
    have erased := counted (.enqueueFinal other)
    rw [if_neg ReactorTask.noConfusion, Nat.add_zero] at erased
    unfold movedFinals
    change 0 < _ + (state.running.eraseIdx index).count _ + _ + _ → _
    rw [erased]
    exact id

theorem lifetime_finishFinal {state : State} (held : Lifetime state) {index : Nat}
    {event : EventRef} (runs : state.running[index]? = some (.enqueueFinal event)) :
    Lifetime (finishTask state index (.enqueueFinal event)) := by
  have counted := fun other => count_eraseIdx_add runs other
  unfold finishTask
  apply held.of_same
  · exact fun _ => rfl
  · exact fun _ => rfl
  · intro other
    have erased := counted (.react other)
    rw [if_neg ReactorTask.noConfusion, Nat.add_zero] at erased
    unfold reactTasks
    change state.taskQueue.count _ + (state.running.eraseIdx index).count _ = _
    rw [erased]
  · intro other
    rw [enqueue_completeTasks, if_neg (fun both => StrandTask.noConfusion both.2)]
    rfl
  · rfl
  · exact fun _ => id
  · intro other
    have erased := counted (.enqueueFinal other)
    rw [enqueue_movedFinals]
    unfold movedFinals
    change _ + (state.running.eraseIdx index).count _ + _ + _ + _ = _
    by_cases same : event = other
    · subst other
      rw [if_pos rfl] at erased
      rw [if_pos ⟨rfl, rfl⟩, ← erased]
      unfold strandFinals
      dsimp only
      omega
    · rw [if_neg (fun equal => same (ReactorTask.enqueueFinal.inj equal)),
        Nat.add_zero] at erased
      rw [if_neg (fun both => same (StrandTask.final.inj both.2)), erased]
      rfl

theorem completeTasks_popped {state : State} (accounts : Accounted state)
    {strand : StrandId} {task : StrandTask} {rest : List StrandTask}
    (queued : state.strandQueue strand = task :: rest) (event : EventRef) :
    completeTasks { state with
        strandQueue := Function.update state.strandQueue strand rest } event +
      (if task = .complete event then 1 else 0) = completeTasks state event := by
  unfold completeTasks
  dsimp only
  rw [Function.update_apply]
  by_cases here : (state.object event.object).strand = strand
  · rw [if_pos here, here, queued, List.count_cons]
    simp
  · have different : task ≠ .complete event := by
      intro same
      subst same
      have owned := accounts.strands strand (.complete event)
        (by rw [queued]; exact List.mem_cons_self)
      exact here owned.2
    rw [if_neg here, if_neg different, Nat.add_zero]

theorem movedFinals_popped {state : State} (accounts : Accounted state)
    {strand : StrandId} {task : StrandTask} {rest : List StrandTask}
    (queued : state.strandQueue strand = task :: rest) (event : EventRef) :
    movedFinals { state with
        strandQueue := Function.update state.strandQueue strand rest } event +
      (if task = .final event then 1 else 0) = movedFinals state event := by
  have counted := finals_popped accounts queued event
  unfold finals at counted
  dsimp only at counted
  omega

/-- A `complete` that runs finds its closure and ends the operation. -/
theorem lifetime_strandComplete {state : State} (accounts : Accounted state)
    (held : Lifetime state) {strand : StrandId} {event : EventRef}
    {rest : List StrandTask}
    (queued : state.strandQueue strand = .complete event :: rest) :
    Lifetime (runStrandTask state strand (.complete event) rest) := by
  have counted := completeTasks_popped accounts queued
  have moved := movedFinals_popped accounts queued
  have waiting : 0 < completeTasks state event := by
    have one := counted event
    rw [if_pos rfl] at one
    omega
  obtain ⟨completing, noReact, oneComplete⟩ := (held.stage event).of_complete waiting
  have complete : (state.event event).complete = true := by
    rw [completing]
  let popped : State := { state with
    strandQueue := Function.update state.strandQueue strand rest }
  have runs : runStrandTask state strand (.complete event) rest =
      popped.setEvent event Event.init := by
    have ended : { state.event event with
          complete := false, hasActiveEvent := false, outstanding := false } =
        Event.init := by
      rw [completing]
      rfl
    unfold runStrandTask
    dsimp only
    rw [if_pos complete, ended]
  rw [runs]
  have eventOf := State.event_update popped event
    { popped.object event.object with
      event := Function.update (popped.object event.object).event event.direction
        Event.init } rfl
  apply held.of_change (fun other => other = event)
  · rintro other rfl
    rw [completing]
    intro impossible
    cases impossible
  · intro other different
    exact (eventOf other).trans (if_neg different)
  · intro other
    rw [setEvent_completeTasks]
    change InStage _ (reactTasks state other) _
    have left := counted other
    by_cases same : other = event
    · subst other
      rw [show (popped.setEvent event Event.init).event event = _ from
        (eventOf event).trans (if_pos rfl)]
      rw [if_pos rfl, oneComplete] at left
      have none : completeTasks popped event = 0 := by
        change completeTasks popped event + 1 = 1 at left
        omega
      rw [noReact, none]
      exact .idle
    · rw [show (popped.setEvent event Event.init).event other = _ from
        (eventOf other).trans (if_neg same)]
      rw [if_neg (fun equal => same (StrandTask.complete.inj equal).symm),
        Nat.add_zero] at left
      rw [left]
      exact held.stage other
  · intro other masked
    exact (setEvent_mask popped event other _).trans masked
  · intro other masked
    exact Or.inl ((setEvent_mask popped event other _).symm.trans masked)
  · rfl
  · intro object inScope
    exact Or.inl ((setEvent_object popped event _ object).2.1.symm.trans inScope)
  · intro other
    have left := moved other
    rw [if_neg StrandTask.noConfusion, Nat.add_zero] at left
    rw [setEvent_movedFinals, left]
    exact id

theorem lifetime_strandFinal {state : State} (accounts : Accounted state)
    (held : Lifetime state) {strand : StrandId} {event : EventRef}
    {rest : List StrandTask}
    (queued : state.strandQueue strand = .final event :: rest) :
    Lifetime (runStrandTask state strand (.final event) rest) := by
  have counted := completeTasks_popped accounts queued
  have moved := movedFinals_popped accounts queued
  have sameComplete : ∀ other, completeTasks { state with
      strandQueue := Function.update state.strandQueue strand rest } other =
        completeTasks state other := by
    intro other
    have left := counted other
    rw [if_neg StrandTask.noConfusion, Nat.add_zero] at left
    exact left
  unfold runStrandTask
  dsimp only
  split
  · apply held.of_same
    · exact fun _ => rfl
    · exact fun _ => rfl
    · exact fun _ => rfl
    · intro other
      rw [enqueue_completeTasks, if_neg (fun both => StrandTask.noConfusion both.2),
        Nat.add_zero]
      exact sameComplete other
    · rfl
    · exact fun _ => id
    · intro other
      rw [enqueue_movedFinals, ← moved other]
      by_cases same : event = other
      · subst other
        simp
      · simp [same]
  · apply held.of_same
    · exact fun _ => rfl
    · exact fun _ => rfl
    · exact fun _ => rfl
    · exact sameComplete
    · rfl
    · exact fun _ => id
    · intro other
      rw [← moved other]
      unfold movedFinals strandFinals
      simp only [List.count_append, List.count_cons, List.count_nil]
      by_cases same : event = other
      · subst other
        simp
        omega
      · simp [same]

/-! ### Steps of the reactor thread -/

theorem Tracked.inScope {state : State} {object : ObjectId}
    (tracked : Tracked state object) (none : state.reports = []) :
    (state.object object).phase = .inScope := by
  rcases tracked with inScope | ⟨report, member, _⟩
  · exact inScope
  · rw [none] at member
    cases member

/-- The reports of a batch are for distinct objects, because each object is
registered under its own number only. -/
theorem eventList_distinct {state : State} (owned : RegistrationOwned state)
    {ready : List (Fd × Events)} {batch : List Report}
    (reported : eventList state.kernel ready = some batch)
    (distinct : (ready.map Prod.fst).Nodup) :
    batch.Pairwise fun first second => first.ptr ≠ second.ptr := by
  induction ready generalizing batch with
  | nil =>
      cases reported
      exact List.Pairwise.nil
  | cons entry rest ih =>
      simp only [eventList, Option.bind_eq_some_iff, Option.map_eq_some_iff] at reported
      obtain ⟨first, found, later, collected, rfl⟩ := reported
      rw [List.map_cons, List.nodup_cons] at distinct
      refine List.pairwise_cons.mpr ⟨?_, ih collected distinct.2⟩
      intro second member same
      obtain ⟨other, present, reports⟩ := mem_eventList collected member
      obtain ⟨here, registered, _, rfl⟩ := reportOf_eq_some.mp found
      obtain ⟨there, alsoRegistered, _, rfl⟩ := reportOf_eq_some.mp reports
      have hereFd := (owned.registered entry.1 here registered).2.1
      have thereFd := (owned.registered other.1 there alsoRegistered).2.1
      apply distinct.1
      rw [← hereFd, show here.ptr = there.ptr from same, thereFd]
      exact List.mem_map_of_mem present

theorem lifetime_harvest {state : State} (owned : RegistrationOwned state)
    (held : Lifetime state) {ready : List (Fd × Events)} {batch : List Report}
    (reported : eventList state.kernel ready = some batch)
    (distinct : (ready.map Prod.fst).Nodup)
    (carries : kernelAssumption state (.harvest ready) = true) :
    Lifetime (harvest state ready batch) := by
  have tracked : ∀ object, Tracked (harvest state ready batch) object →
      Tracked state object := by
    rintro object (inScope | ⟨report, member, rfl⟩)
    · exact Or.inl inScope
    · obtain ⟨entry, _, reports⟩ := mem_eventList reported member
      obtain ⟨registration, registered, _, rfl⟩ := reportOf_eq_some.mp reports
      exact Or.inl (owned.registered entry.1 registration registered).2.2
  refine
    { stage := held.stage
      masked := fun event live => held.masked event (tracked _ live)
      distinct := eventList_distinct owned reported distinct
      carries := ?_
      handles := trivial
      moved := fun event some live => held.moved event some (tracked _ live) }
  intro report member
  obtain ⟨entry, present, reports⟩ := mem_eventList reported member
  obtain ⟨registration, _, _, rfl⟩ := reportOf_eq_some.mp reports
  have carried := List.all_eq_true.mp carries entry present
  rw [Bool.or_eq_true] at carried
  rcases carried with readable | writable
  · exact ⟨.read, readable⟩
  · exact ⟨.write, writable⟩

theorem lifetime_processDeletionQueue {state : State} (accounts : Accounted state)
    (held : Lifetime state) : Lifetime (processDeletionQueue state) := by
  have noReact : ∀ event, (state.deletionQueue.map ReactorTask.enqueueFinal).count
      (.react event) = 0 := by
    intro event
    rw [List.count_eq_zero]
    intro member
    obtain ⟨_, _, impossible⟩ := List.mem_map.mp member
    cases impossible
  have tracked : ∀ object, Tracked (processDeletionQueue state) object →
      (state.object object).phase = .inScope :=
    fun object live => live.inScope rfl
  refine
    { stage := ?_
      masked := fun event live => held.masked event (Or.inl (tracked _ live))
      distinct := List.Pairwise.nil
      carries := fun report member => by cases member
      handles := trivial
      moved := ?_ }
  · intro event
    have stage := held.stage event
    unfold reactTasks processDeletionQueue
    dsimp only
    rw [List.count_append, noReact, Nat.add_zero]
    exact stage
  · intro event some live
    have inScope := tracked event.object live
    have after := (accounted_processDeletionQueue accounts).finals event
    unfold finals at after
    have disposed : (state.object event.object).disposed event.direction = true := by
      cases gone : (state.object event.object).disposed event.direction with
      | true => rfl
      | false =>
          change _ + _ = ((state.object event.object).disposed
            event.direction).toNat at after
          rw [gone, Bool.toNat_false] at after
          omega
    rw [accounts.closed event disposed] at inScope
    cases inScope

theorem has_bit_of_reportStillMasked {state : State} {report : Report}
    {pending : List Report} (handling : state.reactor = .handling (report :: pending))
    (masked : reportStillMasked state .clearMasks = true) (direction : Direction)
    (carried : has report.events direction.bit = true) :
    state.mask ⟨report.ptr, direction⟩ = true := by
  unfold reportStillMasked at masked
  simp only [handling, Bool.and_eq_true, Bool.or_eq_true, Bool.not_eq_true'] at masked
  cases direction with
  | read =>
      change has report.events EPOLLIN = true at carried
      rcases masked.1 with missing | present
      · rw [carried] at missing
        cases missing
      · exact present
  | write =>
      change has report.events EPOLLOUT = true at carried
      rcases masked.2 with missing | present
      · rw [carried] at missing
        cases missing
      · exact present

theorem lifetime_clearMasks {state : State} (held : Lifetime state) {report : Report}
    {pending : List Report} (handling : state.reactor = .handling (report :: pending))
    (masked : reportStillMasked state .clearMasks = true) :
    Lifetime (clearMasks state report pending) := by
  have reports : state.reports = report :: pending := by
    unfold State.reports
    rw [handling]
  have tracked : ∀ object, Tracked (clearMasks state report pending) object →
      Tracked state object := by
    rintro object (inScope | ⟨other, member, same⟩)
    · left
      unfold clearMasks at inScope
      rw [State.object_setObject] at inScope
      split at inScope
      · rename_i same
        rw [same]
        exact inScope
      · exact inScope
    · exact Or.inr ⟨other, by rw [reports]; exact member, same⟩
  have eventOf : ∀ event, (clearMasks state report pending).event event =
      state.event event := by
    intro event
    unfold clearMasks
    rw [State.event_setObject]
    split
    · rename_i same
      rw [← same]
      rfl
    · rfl
  have strandOf : ∀ object, ((clearMasks state report pending).object object).strand =
      (state.object object).strand := by
    intro object
    unfold clearMasks
    rw [State.object_setObject]
    split
    · rename_i same
      rw [same]
    · rfl
  have maskOf : ∀ event, (clearMasks state report pending).mask event =
      (state.mask event && !(decide (event.object = report.ptr) &&
        has report.events event.direction.bit)) := by
    intro event
    unfold clearMasks
    rw [State.mask_setObject]
    by_cases same : event.object = report.ptr
    · rw [if_pos same, clearReported_has, ← same]
      simp [State.mask]
    · simp [same, State.mask]
  have live : Tracked state report.ptr :=
    Or.inr ⟨report, by rw [reports]; exact List.mem_cons_self, rfl⟩
  constructor
  · intro event
    have stage := held.stage event
    rw [eventOf]
    unfold completeTasks at stage ⊢
    rw [strandOf]
    exact stage
  · intro event stillLive stillMasked
    rw [maskOf, Bool.and_eq_true] at stillMasked
    rw [eventOf]
    exact held.masked event (tracked _ stillLive) stillMasked.1
  · have distinct := held.distinct
    rw [reports] at distinct
    exact distinct
  · have carries := held.carries
    rw [reports] at carries
    exact carries
  · constructor
    · intro direction carried
      have present := has_bit_of_reportStillMasked handling masked direction carried
      rw [eventOf, maskOf, present]
      exact ⟨held.masked _ live present, by simp [carried]⟩
    · intro direction left
      have leftOver : (clearMasks state report pending).mask ⟨report.ptr, direction⟩ =
          true := by
        unfold clearMasks
        rw [State.mask_setObject, if_pos rfl]
        exact left
      refine ⟨leftOver, ?_⟩
      rw [maskOf, Bool.and_eq_true] at leftOver
      simpa using leftOver.2
  · intro event some stillLive
    apply held.moved event _ (tracked _ stillLive)
    unfold movedFinals strandFinals at some ⊢
    rw [strandOf] at some
    exact some

theorem lifetime_rearm {state : State} (descriptors : DescriptorsOpen state)
    (held : Lifetime state) {report : Report} {mask : EventMask}
    {pending : List Report} (rearming : state.reactor = .rearming report mask pending) :
    Lifetime (rearm state report mask pending) := by
  have handles := held.handles
  unfold HandlesCleared at handles
  rw [rearming] at handles
  have reports : state.reports = report :: pending := by
    unfold State.reports
    rw [rearming]
  have distinct := held.distinct
  have carries := held.carries
  rw [reports] at distinct carries
  have dispatching : ∀ (kernel : Kernel) (result : ErrorCode),
      (rearmFails mask result = true → (state.object report.ptr).phase ≠ .inScope) →
      Lifetime { state with
        kernel := kernel
        reactor := .dispatching report mask result pending } := by
    intro kernel result destroyed
    have tracked : ∀ object, Tracked { state with
          kernel := kernel
          reactor := .dispatching report mask result pending } object →
        Tracked state object := by
      rintro object (inScope | ⟨other, member, same⟩)
      · exact Or.inl inScope
      · exact Or.inr ⟨other, by rw [reports]; exact member, same⟩
    exact
      { stage := held.stage
        masked := fun event live => held.masked event (tracked _ live)
        distinct := distinct
        carries := carries
        handles := ⟨handles.1, handles.2, destroyed⟩
        moved := fun event some live => held.moved event some (tracked _ live) }
  unfold rearm
  split
  · apply dispatching
    intro fails inScope
    have succeeds : (state.kernel.arm (state.object report.ptr).fd mask
        report.ptr).2 = ec.OK := by
      rw [Kernel.arm_succeeds_iff, descriptors.holds report.ptr (Or.inl inScope)]
      exact Option.some_ne_none _
    simp [rearmFails, succeeds] at fails
  · rename_i none
    apply dispatching
    intro fails
    simp [rearmFails] at fails

/-- Every event a report is dispatched to waits for it: a reported bit was in the
mask, and when the re-arm fails the report and the bits left over name both
events of the descriptor. -/
theorem dispatched_waiting {state : State} (held : Lifetime state) {report : Report}
    {mask : EventMask} {result : ErrorCode} {pending : List Report}
    (dispatching : state.reactor = .dispatching report mask result pending)
    (present : Direction → Bool) (direction : Direction)
    (task : tasksFor (dispatches present mask report.events result) direction ≠ 0) :
    state.event ⟨report.ptr, direction⟩ = Event.waiting ∧
      tasksFor (dispatches present mask report.events result) direction = 1 := by
  have handles := held.handles
  unfold HandlesCleared at handles
  rw [dispatching] at handles
  obtain ⟨cleared, leftOver, _⟩ := handles
  have member : report ∈ state.reports := by
    unfold State.reports
    rw [dispatching]
    exact List.mem_cons_self
  have live : Tracked state report.ptr := Or.inr ⟨report, member, rfl⟩
  unfold dispatches at task ⊢
  cases fails : rearmFails mask result with
  | false =>
      simp only [fails, Bool.false_eq_true, if_false, tasksFor_dispatchReport] at task ⊢
      have carried : has report.events direction.bit = true := by
        by_contra missing
        rw [if_neg missing] at task
        exact task rfl
      exact ⟨(cleared direction carried).1, if_pos carried⟩
  | true =>
      simp only [fails, if_true, tasksFor_dispatchRearmError] at task ⊢
      have exists_ : present direction = true := by
        by_contra missing
        rw [if_neg missing] at task
        exact task rfl
      refine ⟨?_, if_pos exists_⟩
      obtain ⟨reported, carried⟩ := held.carries report member
      have nonzero := fails
      unfold rearmFails at nonzero
      rw [Bool.and_eq_true] at nonzero
      obtain ⟨left, isLeft⟩ := mask.nonzero_iff.mp nonzero.1
      obtain ⟨masked, unreported⟩ := leftOver left isLeft
      by_cases isReported : direction = reported
      · rw [isReported]
        exact (cleared reported carried).1
      · have isTheOther : direction = left := by
          have different : left ≠ reported := by
            intro same
            subst same
            rw [carried] at unreported
            cases unreported
          cases direction <;> cases left <;> cases reported <;> simp_all
        rw [isTheOther]
        exact held.masked ⟨report.ptr, left⟩ live masked

theorem count_map_react (tasks : List Dispatch) (object : ObjectId) (event : EventRef) :
    (tasks.map fun task => ReactorTask.react ⟨object, task.direction⟩).count
        (.react event) =
      if event.object = object then tasksFor tasks event.direction else 0 := by
  obtain ⟨other, direction⟩ := event
  unfold tasksFor
  rw [List.count, List.countP_map]
  by_cases same : other = object
  · subst other
    rw [if_pos rfl]
    congr 1
    funext task
    rw [Bool.eq_iff_iff]
    simp
  · rw [if_neg same, List.countP_eq_zero]
    intro task _member
    simp [Ne.symm same]

/-- A masked event of a descriptor that stays tracked is not dispatched. -/
theorem not_dispatched_of_masked {state : State} (held : Lifetime state)
    {report : Report} {mask : EventMask} {result : ErrorCode} {pending : List Report}
    (dispatching : state.reactor = .dispatching report mask result pending)
    (present : Direction → Bool) {event : EventRef}
    (live : Tracked (dispatch state report mask result pending) event.object)
    (masked : state.mask event = true) (same : event.object = report.ptr) :
    tasksFor (dispatches present mask report.events result) event.direction = 0 := by
  have handles := held.handles
  unfold HandlesCleared at handles
  rw [dispatching] at handles
  obtain ⟨cleared, _, destroyed⟩ := handles
  unfold dispatches
  cases fails : rearmFails mask result with
  | false =>
      simp only [Bool.false_eq_true, if_false, tasksFor_dispatchReport]
      rw [if_neg]
      intro carried
      have unmasked := (cleared event.direction carried).2
      rw [← same] at unmasked
      rw [unmasked] at masked
      cases masked
  | true =>
      exfalso
      rcases live with inScope | ⟨other, member, sameOther⟩
      · unfold dispatch at inScope
        rw [State.object_setObject, if_pos same] at inScope
        exact destroyed fails inScope
      · have distinct := held.distinct
        unfold State.reports at distinct
        rw [dispatching] at distinct
        have different := (List.pairwise_cons.mp distinct).1 other member
        exact different (by rw [sameOther, same])

theorem dispatch_event (state : State) (report : Report) (mask : EventMask)
    (result : ErrorCode) (pending : List Report) {present : Direction → Bool}
    (presentOf : (state.object report.ptr).present = present) (event : EventRef) :
    (dispatch state report mask result pending).event event =
      if event.object = report.ptr ∧
        tasksFor (dispatches present mask report.events result) event.direction ≠ 0
      then { state.event event with hasActiveEvent := true }
      else state.event event := by
  unfold dispatch
  rw [State.event_setObject, presentOf]
  by_cases same : event.object = report.ptr
  · rw [if_pos same]
    by_cases none :
        tasksFor (dispatches present mask report.events result) event.direction = 0
    · simp [none, State.event, same]
    · simp [none, State.event, same]
  · rw [if_neg same, if_neg (fun both => same both.1)]
    rfl

theorem dispatch_mask (state : State) (report : Report) (mask : EventMask)
    (result : ErrorCode) (pending : List Report) (event : EventRef) :
    (dispatch state report mask result pending).mask event = state.mask event := by
  unfold dispatch
  rw [State.mask_setObject]
  split
  · rename_i same
    rw [← same]
    rfl
  · rfl

theorem dispatch_strand (state : State) (report : Report) (mask : EventMask)
    (result : ErrorCode) (pending : List Report) (object : ObjectId) :
    ((dispatch state report mask result pending).object object).strand =
      (state.object object).strand := by
  unfold dispatch
  rw [State.object_setObject]
  split
  · rename_i same
    rw [same]
  · rfl

theorem dispatch_reactTasks (state : State) (report : Report) (mask : EventMask)
    (result : ErrorCode) (pending : List Report) {present : Direction → Bool}
    (presentOf : (state.object report.ptr).present = present) (event : EventRef) :
    reactTasks (dispatch state report mask result pending) event =
      reactTasks state event +
        if event.object = report.ptr then
          tasksFor (dispatches present mask report.events result) event.direction
        else 0 := by
  unfold reactTasks dispatch
  simp only [State.setObject, presentOf, List.count_append, count_map_react]
  omega

theorem dispatch_tracked {state : State} {report : Report} {mask : EventMask}
    {result : ErrorCode} {pending : List Report}
    (reports : state.reports = report :: pending) {object : ObjectId}
    (tracked : Tracked (dispatch state report mask result pending) object) :
    Tracked state object := by
  rcases tracked with inScope | ⟨other, member, same⟩
  · left
    unfold dispatch at inScope
    rw [State.object_setObject] at inScope
    split at inScope
    · rename_i same
      rw [same]
      exact inScope
    · exact inScope
  · exact Or.inr ⟨other, by rw [reports]; exact List.mem_cons_of_mem _ member, same⟩

theorem lifetime_dispatch {state : State} (held : Lifetime state) {report : Report}
    {mask : EventMask} {result : ErrorCode} {pending : List Report}
    (dispatching : state.reactor = .dispatching report mask result pending) :
    Lifetime (dispatch state report mask result pending) := by
  have reports : state.reports = report :: pending := by
    unfold State.reports
    rw [dispatching]
  generalize presentOf : (state.object report.ptr).present = present
  constructor
  · intro event
    have stage := held.stage event
    have sameCompletes : completeTasks (dispatch state report mask result pending) event =
        completeTasks state event := by
      unfold completeTasks
      rw [dispatch_strand]
      rfl
    rw [dispatch_event _ _ _ _ _ presentOf, dispatch_reactTasks _ _ _ _ _ presentOf,
      sameCompletes]
    by_cases same : event.object = report.ptr
    · by_cases none :
          tasksFor (dispatches present mask report.events result) event.direction = 0
      · rw [if_neg (fun both => both.2 none), if_pos same, none, Nat.add_zero]
        exact stage
      · obtain ⟨waiting, one⟩ :=
          dispatched_waiting held dispatching present event.direction none
        rw [← same] at waiting
        change state.event event = Event.waiting at waiting
        obtain ⟨noReact, noComplete⟩ := stage.waiting_counts waiting
        rw [if_pos ⟨same, none⟩, if_pos same, one, noReact, noComplete, waiting]
        exact .dispatched
    · rw [if_neg (fun both => same both.1), if_neg same, Nat.add_zero]
      exact stage
  · intro event live masked
    rw [dispatch_mask] at masked
    rw [dispatch_event _ _ _ _ _ presentOf, if_neg]
    · exact held.masked event (dispatch_tracked reports live) masked
    · rintro ⟨same, dispatched⟩
      exact dispatched
        (not_dispatched_of_masked held dispatching present live masked same)
  · have distinct := held.distinct
    rw [reports] at distinct
    exact (List.pairwise_cons.mp distinct).2
  · intro other member
    exact held.carries other (by rw [reports]; exact List.mem_cons_of_mem _ member)
  · exact trivial
  · intro event some live
    apply held.moved event _ (dispatch_tracked reports live)
    have noFinal : (((dispatches present mask report.events result).map fun task =>
        ReactorTask.react ⟨report.ptr, task.direction⟩).count
          (.enqueueFinal event)) = 0 := by
      rw [List.count_eq_zero]
      intro member
      obtain ⟨_, _, impossible⟩ := List.mem_map.mp member
      cases impossible
    unfold movedFinals strandFinals at some ⊢
    rw [dispatch_strand] at some
    simp only [dispatch, State.setObject, presentOf, List.count_append, noFinal,
      Nat.add_zero] at some
    exact some

theorem lifetime_step {state next : State} {action : Action}
    (service : ServiceInvariant state) (owned : RegistrationOwned state)
    (held : Lifetime state) (kernel : kernelAssumption state action = true)
    (masked : reportStillMasked state action = true)
    (stepped : step state action = some next) : Lifetime next := by
  have after := accounted_step service.accounts stepped
  cases step_moves stepped with
  | create present fd strand free => exact lifetime_create service.accounts held after
  | beginInitiation event inScope present idle =>
      exact lifetime_beginInitiation held idle
  | armInitiation object index direction mask begun =>
      exact lifetime_armInitiation service.descriptors held begun
  | leaveScope object inScope quiet => exact lifetime_leaveScope held object
  | closeDescriptor object removed => exact lifetime_closeDescriptor held object
  | dispose event closed kept => exact lifetime_dispose held event
  | harvest ready batch waiting reported distinct =>
      exact lifetime_harvest owned held reported distinct kernel
  | clearMasks report pending handling => exact lifetime_clearMasks held handling masked
  | rearm report mask pending rearming =>
      exact lifetime_rearm service.descriptors held rearming
  | dispatch report mask result pending dispatching =>
      exact lifetime_dispatch held dispatching
  | processDeletionQueue handled =>
      exact lifetime_processDeletionQueue service.accounts held
  | startTask task rest queued => exact lifetime_startTask held queued
  | finishTask index task runs =>
      cases task with
      | react event => exact lifetime_finishReact held runs
      | enqueueFinal event => exact lifetime_finishFinal held runs
  | strandStep strand task rest queued =>
      cases task with
      | complete event => exact lifetime_strandComplete service.accounts held queued
      | final event => exact lifetime_strandFinal service.accounts held queued

/-! ### Events that were given back -/

def GivenInactive (state : State) : Prop :=
  ∀ event, .operation event ∈ state.given → (state.event event).hasActiveEvent = false

theorem inactive_setObject {state : State} {object : ObjectId} {value : AsyncObject}
    (quiet : ∀ direction, (value.event direction).hasActiveEvent = true →
      ((state.object object).event direction).hasActiveEvent = true)
    {event : EventRef} (inactive : (state.event event).hasActiveEvent = false) :
    ((state.setObject object value).event event).hasActiveEvent = false := by
  rw [state.event_setObject]
  split
  · rename_i same
    cases active : (value.event event.direction).hasActiveEvent with
    | false => rfl
    | true =>
        have before := quiet event.direction active
        rw [← same] at before
        change (state.event event).hasActiveEvent = true at before
        rw [inactive] at before
        cases before
  · exact inactive

theorem quiet_update {events : Direction → Event} {direction : Direction} {value : Event}
    (quiet : value.hasActiveEvent = true → (events direction).hasActiveEvent = true)
    (other : Direction) :
    (Function.update events direction value other).hasActiveEvent = true →
      (events other).hasActiveEvent = true := by
  rw [Function.update_apply]
  split
  · rename_i same
    rw [same]
    exact quiet
  · exact id

theorem inactive_forCompletion {state : State} (other : EventRef) {event : EventRef}
    (inactive : (state.event event).hasActiveEvent = false) :
    ((forCompletion state other).event event).hasActiveEvent = false := by
  have stored : ((state.setEvent other
      { state.event other with react := false, complete := true }).event
        event).hasActiveEvent = false := by
    unfold State.setEvent
    apply inactive_setObject
    · apply quiet_update
      exact id
    · exact inactive
  exact stored

/-- A report in the reactor thread is for an object none of whose events has been
given back. -/
theorem given_untracked {state : State} (accounts : Accounted state)
    (held : Lifetime state) {event : EventRef}
    (given : .operation event ∈ state.given) : ¬Tracked state event.object := by
  apply held.moved event
  have pairs := accounts.givenPairs event
  have some : 0 < state.given.count (.operation event) := List.count_pos_iff.mpr given
  unfold movedFinals
  omega

theorem givenInactive_step {state next : State} {action : Action}
    (accounts : Accounted state) (held : Lifetime state) (quiet : GivenInactive state)
    (stepped : step state action = some next) : GivenInactive next := by
  intro event given
  cases step_moves stepped with
  | create present fd strand free =>
      have before := quiet event given
      have newObject : (create state present fd strand).event event =
          state.event event ∨
          (create state present fd strand).event event = Event.init := by
        unfold State.event create
        dsimp only
        rw [Function.update_apply]
        split
        · exact Or.inr rfl
        · exact Or.inl rfl
      rcases newObject with same | initial
      · rw [same, before]
      · rw [initial]
        rfl
  | beginInitiation other inScope present idle =>
      unfold beginInitiation
      apply inactive_setObject
      · apply quiet_update
        exact id
      · exact quiet event given
  | armInitiation object index direction mask begun =>
      unfold armInitiation at given ⊢
      dsimp only at given ⊢
      split
      · rename_i succeeds
        rw [if_pos succeeds] at given
        apply inactive_setObject
        · exact fun _ => id
        · exact quiet event given
      · rename_i fails
        rw [if_neg fails] at given
        apply inactive_forCompletion
        apply inactive_setObject
        · exact fun _ => id
        · exact quiet event given
  | leaveScope object inScope unfinished =>
      unfold leaveScope
      apply inactive_setObject
      · exact fun _ => id
      · exact quiet event given
  | closeDescriptor object removed =>
      unfold closeDescriptor
      apply inactive_setObject
      · exact fun _ => id
      · exact quiet event given
  | dispose other closed kept =>
      unfold dispose
      apply inactive_setObject
      · exact fun _ => id
      · exact quiet event given
  | harvest ready batch waiting reported distinct => exact quiet event given
  | clearMasks report pending handling =>
      unfold clearMasks
      apply inactive_setObject
      · exact fun _ => id
      · exact quiet event given
  | rearm report mask pending rearming =>
      unfold rearm at given ⊢
      split <;> rename_i left <;> simp only [left] at given <;> exact quiet event given
  | dispatch report mask result pending dispatching =>
      have untracked := given_untracked accounts held
        (show .operation event ∈ state.given from given)
      have different : event.object ≠ report.ptr := by
        intro same
        apply untracked
        refine Or.inr ⟨report, ?_, same.symm⟩
        unfold State.reports
        rw [dispatching]
        exact List.mem_cons_self
      unfold dispatch
      rw [State.event_setObject, if_neg different]
      exact quiet event given
  | processDeletionQueue handled => exact quiet event given
  | startTask task rest queued => exact quiet event given
  | finishTask index task runs =>
      cases task with
      | react other =>
          unfold finishTask at given ⊢
          dsimp only at given ⊢
          split
          · rename_i stored
            rw [if_pos stored] at given
            apply inactive_forCompletion
            exact quiet event given
          · rename_i missing
            rw [if_neg missing] at given
            exact quiet event given
      | enqueueFinal other => exact quiet event given
  | strandStep strand task rest queued =>
      cases task with
      | complete other =>
          unfold runStrandTask at given ⊢
          dsimp only at given ⊢
          split
          · rename_i stored
            rw [if_pos stored] at given
            unfold State.setEvent
            apply inactive_setObject
            · apply quiet_update
              exact fun impossible => by cases impossible
            · exact quiet event given
          · rename_i missing
            rw [if_neg missing] at given
            exact quiet event given
      | final other =>
          unfold runStrandTask at given ⊢
          dsimp only at given ⊢
          split
          · rename_i active
            rw [if_pos active] at given
            exact quiet event given
          · rename_i inactive
            rw [if_neg inactive] at given
            rcases List.mem_append.mp given with before | added
            · exact quiet event before
            · have same : event = other := by simpa using added
              rw [same]
              exact Bool.not_eq_true _ ▸ inactive

structure LifetimeInvariant (state : State) : Prop where
  service : ServiceInvariant state
  owned : RegistrationOwned state
  lifetime : Lifetime state
  quiet : GivenInactive state

theorem lifetimeInvariant_init (threads : Nat) : LifetimeInvariant (init threads) :=
  { service := serviceInvariant_init threads
    owned := registrationOwned_init threads
    lifetime := lifetime_init threads
    quiet := fun _ given => by cases given }

theorem lifetimeInvariant_step {state next : State} {action : Action}
    (held : LifetimeInvariant state)
    (kernel : kernelAssumption state action = true)
    (masked : reportStillMasked state action = true)
    (stepped : step state action = some next) : LifetimeInvariant next := by
  have fails : staleRearmFindsClosed state action = true := by
    cases action with
    | harvest ready => rfl
    | _ => exact kernel
  exact
    { service := serviceInvariant_step held.service stepped
      owned := (registrationOwned_step held.service held.owned stepped).mpr fails
      lifetime := lifetime_step held.service held.owned held.lifetime kernel masked stepped
      quiet := givenInactive_step held.service.accounts held.lifetime held.quiet stepped }

/-- A final event that has been given back is nowhere else. -/
theorem given_finals {state : State} (accounts : Accounted state) {event : EventRef}
    (given : .operation event ∈ state.given) :
    state.given.count (.operation event) = 1 ∧ state.given.count (.final event) = 1 ∧
      state.taskQueue.count (.enqueueFinal event) = 0 ∧
      state.running.count (.enqueueFinal event) = 0 ∧ strandFinals state event = 0 := by
  have pairs := accounts.givenPairs event
  have some : 0 < state.given.count (.operation event) := List.count_pos_iff.mpr given
  have counted := accounts.finals event
  have atMostOne := Bool.toNat_le
    ((state.object event.object).disposed event.direction)
  unfold finals movedFinals at counted
  omega

theorem LifetimeInvariant.kept {state : State} (held : LifetimeInvariant state) :
    LifetimeKept state := by
  have accounts := held.service.accounts
  constructor
  · intro event given
    obtain ⟨_, _, noQueued, noRunning, noStrand⟩ := given_finals accounts given
    obtain ⟨noReact, noComplete⟩ :=
      (held.lifetime.stage event).inactive (held.quiet event given)
    unfold reactTasks at noReact
    unfold completeTasks at noComplete
    unfold strandFinals at noStrand
    constructor
    · intro report member same
      exact given_untracked accounts held.lifetime given
        (Or.inr ⟨report, member, same⟩)
    · rintro task present rfl
      cases task with
      | react event =>
          obtain ⟨queued, running⟩ := Nat.add_eq_zero_iff.mp noReact
          rcases present with inQueue | runs
          · exact List.count_eq_zero.mp queued inQueue
          · exact List.count_eq_zero.mp running runs
      | enqueueFinal event =>
          rcases present with inQueue | runs
          · exact List.count_eq_zero.mp noQueued inQueue
          · exact List.count_eq_zero.mp noRunning runs
    · rintro strand task queued rfl
      have onStrand := (accounts.strands strand task queued).2
      rw [← onStrand] at queued
      cases task with
      | complete event => exact List.count_eq_zero.mp noComplete queued
      | final event => exact List.count_eq_zero.mp noStrand queued
  · rw [List.nodup_iff_count]
    intro registered
    cases registered with
    | operation event =>
        by_cases given : .operation event ∈ state.given
        · exact Nat.le_of_eq (given_finals accounts given).1
        · rw [List.count_eq_zero.mpr given]
          exact Nat.zero_le 1
    | final event =>
        by_cases given : .operation event ∈ state.given
        · exact Nat.le_of_eq (given_finals accounts given).2.1
        · rw [← accounts.givenPairs event, List.count_eq_zero.mpr given]
          exact Nat.zero_le 1

/-- In every run of a service in which the kernel keeps its promises and no
report is handled after its bits have left the mask, an event is given back when
nothing refers to it any more, and only once. -/
theorem lifetimeKept_of_reportStillMasked (threads : Nat) (actions : List Action)
    (kernel : Runs.StepsMeet step (fun state action => kernelAssumption state action = true)
      (init threads) actions)
    (masked : Runs.StepsMeet step
      (fun state action => reportStillMasked state action = true)
      (init threads) actions) :
    Runs.StatesMeet step LifetimeKept (init threads) actions := by
  have both := kernel.and masked
  have kept := Runs.statesMeet_of_preserved
    (fun _ _ _ held met stepped =>
      lifetimeInvariant_step held met.1 met.2 stepped)
    (lifetimeInvariant_init threads) both
  exact kept.imp (fun _ held => held.kept)

def destroyedWhileReported : List Action :=
  [.create (fun _ => true) 3 0,
    .beginInitiation ⟨0, .read⟩, .armInitiation 0 0, .harvest [(3, EPOLLIN)],
    .leaveScope 0, .closeDescriptor 0, .dispose ⟨0, .read⟩, .dispose ⟨0, .write⟩,
    .clearMasks, .rearm, .dispatch, .processDeletionQueue,
    .startTask, .startTask, .startTask, .finishTask 1, .strandStep 0,
    .finishTask 0, .strandStep 0, .strandStep 0, .strandStep 0,
    .finishTask 0, .strandStep 0]

theorem destroyedWhileReported_kept :
    Runs.StatesMeet step LifetimeKept (init 3) destroyedWhileReported :=
  lifetimeKept_of_reportStillMasked 3 destroyedWhileReported (by decide +kernel)
    (by decide +kernel)

/-! ### A report whose bit has left the mask -/

/-- A send is initiated between the harvest and the handling of a report of the
recv, and arms the read bit that the report has cleared in the meantime.  The
socket is reported readable again; the recv completes and its callback destroys
the socket while the second reactor task is running. -/
def staleInterest : List Action :=
  [.create (fun _ => true) 3 0,
    .beginInitiation ⟨0, .read⟩, .armInitiation 0 0, .harvest [(3, EPOLLIN)],
    .beginInitiation ⟨0, .write⟩, .clearMasks, .rearm, .dispatch,
    .armInitiation 0 0, .processDeletionQueue,
    .harvest [(3, EPOLLIN)], .clearMasks, .rearm, .dispatch, .processDeletionQueue,
    .startTask, .finishTask 0, .strandStep 0,
    .leaveScope 0, .closeDescriptor 0, .dispose ⟨0, .read⟩, .dispose ⟨0, .write⟩,
    .harvest [], .processDeletionQueue,
    .startTask, .startTask, .finishTask 1, .strandStep 0]

theorem lifetimeProtocol_false : ¬LifetimeProtocol := by
  intro claimed
  have executed : (Runs.exec step (init 2) staleInterest).map
      (fun state => (state.given, state.running)) =
      some ([.operation ⟨0, .read⟩, .final ⟨0, .read⟩], [.react ⟨0, .read⟩]) := by
    decide +kernel
  obtain ⟨state, reached, values⟩ := Option.map_eq_some_iff.mp executed
  obtain ⟨given, running⟩ := Prod.mk.inj values
  have kept := (claimed 2 staleInterest (by decide +kernel)).final reached
  have unreferenced := kept.unreferenced ⟨0, .read⟩ (by rw [given]; decide)
  exact unreferenced.tasks (.react ⟨0, .read⟩)
    (Or.inr (by rw [running]; exact List.mem_cons_self)) rfl

end BabaIo.Service
