import BabaIo.OneAtATime

/-
What one object sees of the service.

The view of an object holds the object itself, what the kernel listens for on its
behalf, the reports of it in the reactor thread and the tasks that call its
events.  A step of the service leaves the view alone or is one of a few steps of
a descriptor whose initiations and reports are handled in parts; no other object
and no other thread comes into it.  A re-arm of a destroyed object could, so it
has to find the file closed.
-/

set_option autoImplicit false

namespace BabaIo.Service

/-! ### Views -/

structure View where
  owner : AsyncObject
  interest : EventMask
  /-- The reports whose bits are still to be cleared. -/
  reports : List Events
  /-- A report whose bits have been cleared, and the bits that are left. -/
  rearming : Option (Events × EventMask)
  /-- The tasks of a report that has been re-armed. -/
  dispatching : List Dispatch
  tasks : List Direction
  strandQueue : StrandId → List Direction

def interestAt (kernel : Kernel) (fd : Fd) : EventMask :=
  match kernel.epoll fd with
  | none => EventMask.empty
  | some registration => registration.interest

def ReactorThread.reportsOf (reactor : ReactorThread) (object : ObjectId) : List Events :=
  (reactor.uncleared.filter fun report => report.ptr = object).map Report.events

def ReactorThread.rearmingOf (object : ObjectId) :
    ReactorThread → Option (Events × EventMask)
  | .rearming report mask _ =>
      if report.ptr = object then some (report.events, mask) else none
  | _ => none

def ReactorThread.dispatchingOf (object : ObjectId) (present : Direction → Bool) :
    ReactorThread → List Dispatch
  | .dispatching report mask result _ =>
      if report.ptr = object then dispatches present mask report.events result else []
  | _ => []

def ReactorTask.reacts (object : ObjectId) : ReactorTask → Option Direction
  | .react event => if event.object = object then some event.direction else none
  | .enqueueFinal _ => none

def StrandTask.completes (object : ObjectId) : StrandTask → Option Direction
  | .complete event => if event.object = object then some event.direction else none
  | .final _ => none

def view (state : State) (object : ObjectId) : View :=
  { owner := state.object object
    interest := interestAt state.kernel (state.object object).fd
    reports := state.reactor.reportsOf object
    rearming := state.reactor.rearmingOf object
    dispatching := state.reactor.dispatchingOf object (state.object object).present
    tasks := (state.running ++ state.taskQueue).filterMap (ReactorTask.reacts object)
    strandQueue := fun strand =>
      (state.strandQueue strand).filterMap (StrandTask.completes object) }

/-! ### The steps of a view -/

/-- What the user of an object sees of a step. -/
inductive Observation where
  /-- `recv`, `send`, `accept`, `connect` or `timeout` has armed the descriptor. -/
  | initiated (direction : Direction)
  | called (direction : Direction) (strand : StrandId)
  deriving DecidableEq

def observe (object : ObjectId) (state : State) : Action → Option Observation
  | .armInitiation armed index =>
      if armed = object then
        ((state.object object).initiating[index]?).map fun begun => .initiated begun.1
      else none
  | .strandStep strand =>
      match state.strandQueue strand with
      | .complete event :: _ =>
          if event.object = object ∧ (state.object object).phase = .inScope ∧
              (state.event event).complete = true then
            some (.called event.direction strand)
          else none
      | _ => none
  | _ => none

def View.begin (view : View) (direction : Direction) : View :=
  let mask := view.owner.eventMask.setMask direction
  { view with
    owner := { view.owner with
      eventMask := mask
      initiating := view.owner.initiating ++ [(direction, mask)]
      event := Function.update view.owner.event direction
        { view.owner.event direction with react := true, outstanding := true } } }

def View.arm (view : View) (index : Nat) (mask : EventMask) : View :=
  { view with
    interest := mask
    owner := { view.owner with initiating := view.owner.initiating.eraseIdx index } }

def View.clear (view : View) (events : Events) (rest : List Events) : View :=
  let mask := clearReported view.owner.eventMask events
  { view with
    owner := { view.owner with eventMask := mask }
    reports := rest
    rearming := some (events, mask) }

def View.rearm (view : View) (events : Events) (mask : EventMask) : View :=
  { view with
    interest := if mask.nonzero then mask else view.interest
    rearming := none
    dispatching := dispatches view.owner.present mask events ec.OK }

def View.dispatch (view : View) : View :=
  { view with
    owner := { view.owner with
      event := fun direction =>
        if tasksFor view.dispatching direction = 0 then view.owner.event direction
        else { view.owner.event direction with hasActiveEvent := true } }
    dispatching := []
    tasks := view.tasks ++ view.dispatching.map Dispatch.direction }

def View.react (view : View) (index : Nat) (direction : Direction) : View :=
  let popped := { view with tasks := view.tasks.eraseIdx index }
  if (view.owner.event direction).react then
    { popped with
      owner := { view.owner with
        event := Function.update view.owner.event direction
          { view.owner.event direction with react := false, complete := true } }
      strandQueue := Function.update view.strandQueue view.owner.strand
        (view.strandQueue view.owner.strand ++ [direction]) }
  else popped

def View.complete (view : View) (strand : StrandId) (direction : Direction)
    (rest : List Direction) : View :=
  let popped := { view with
    strandQueue := Function.update view.strandQueue strand rest }
  if (view.owner.event direction).complete then
    { popped with
      owner := { view.owner with
        event := Function.update view.owner.event direction
          { view.owner.event direction with
            complete := false
            hasActiveEvent := false
            outstanding := false } } }
  else popped

/-- The halves of an initiation, and the clearing and the re-arm of a report, are not
divided by one another on the same descriptor. -/
def undivided (object : ObjectId) (state : State) : Action → Bool
  | .beginInitiation event =>
      event.object ≠ object ||
        ((state.object object).initiating.isEmpty &&
          (state.reactor.rearmingOf object).isNone)
  | .clearMasks =>
      match state.reactor with
      | .handling (report :: _) =>
          report.ptr ≠ object || (state.object object).initiating.isEmpty
      | _ => true
  | _ => true

inductive ViewMoves (view : View) : Option Observation → View → Prop where
  | unseen : ViewMoves view none view
  | begins (direction : Direction)
      (present : view.owner.present direction = true)
      (idle : (view.owner.event direction).outstanding = false)
      (none : view.owner.initiating = []) (quiet : view.rearming = Option.none) :
      ViewMoves view Option.none (view.begin direction)
  | arms (index : Nat) (direction : Direction) (mask : EventMask)
      (begun : view.owner.initiating[index]? = some (direction, mask)) :
      ViewMoves view (some (.initiated direction)) (view.arm index mask)
  | harvests (events : Events) (allowed : reportable view.interest events = true)
      (unreported : view.reports = []) (quiet : view.rearming = none) :
      ViewMoves view none { view with interest := EventMask.empty, reports := [events] }
  | clears (events : Events) (rest : List Events) (reported : view.reports = events :: rest)
      (quiet : view.rearming = none) (none : view.owner.initiating = []) :
      ViewMoves view Option.none (view.clear events rest)
  | rearms (events : Events) (mask : EventMask)
      (cleared : view.rearming = some (events, mask)) (done : view.dispatching = []) :
      ViewMoves view none (view.rearm events mask)
  | dispatches (quiet : view.rearming = none) : ViewMoves view none view.dispatch
  | reacts (index : Nat) (direction : Direction)
      (found : view.tasks[index]? = some direction) :
      ViewMoves view none (view.react index direction)
  | completes (strand : StrandId) (direction : Direction) (rest : List Direction)
      (queued : view.strandQueue strand = direction :: rest) :
      ViewMoves view
        (if (view.owner.event direction).complete then some (.called direction strand)
          else none)
        (view.complete strand direction rest)

/-! ### What other objects do -/

theorem interestAt_congr {kernel other : Kernel} {fd : Fd}
    (epoll : other.epoll fd = kernel.epoll fd) :
    interestAt other fd = interestAt kernel fd := by
  unfold interestAt
  rw [epoll]

theorem interestAt_arm_other (kernel : Kernel) {fd other : Fd} (different : fd ≠ other)
    (mask : EventMask) (data : ObjectId) :
    interestAt (kernel.arm other mask data).1 fd = interestAt kernel fd := by
  rw [Kernel.arm_eq]
  split
  · rfl
  · exact interestAt_congr (Function.update_of_ne different ..)

theorem interestAt_arm {kernel : Kernel} {fd : Fd} (opened : kernel.owner fd ≠ none)
    (mask : EventMask) (data : ObjectId) :
    interestAt (kernel.arm fd mask data).1 fd = mask := by
  rw [Kernel.arm_eq, if_neg opened]
  unfold interestAt
  dsimp only
  rw [Function.update_self]

theorem interestAt_disarm (kernel : Kernel) (fds : List Fd) (fd : Fd) :
    interestAt (kernel.disarm fds) fd =
      if fd ∈ fds then EventMask.empty else interestAt kernel fd := by
  unfold interestAt Kernel.disarm
  by_cases reported : fd ∈ fds
  · simp only [reported, if_true]
    cases kernel.epoll fd <;> rfl
  · simp only [reported, if_false]

theorem view_unseen {state next : State} {object : ObjectId}
    (owner : next.object object = state.object object)
    (interest : interestAt next.kernel (state.object object).fd =
      interestAt state.kernel (state.object object).fd)
    (reports : next.reactor.reportsOf object = state.reactor.reportsOf object)
    (rearming : next.reactor.rearmingOf object = state.reactor.rearmingOf object)
    (dispatching : ∀ present, next.reactor.dispatchingOf object present =
      state.reactor.dispatchingOf object present)
    (tasks : (next.running ++ next.taskQueue).filterMap (ReactorTask.reacts object) =
      (state.running ++ state.taskQueue).filterMap (ReactorTask.reacts object))
    (strandQueue : ∀ strand, (next.strandQueue strand).filterMap (StrandTask.completes object) =
      (state.strandQueue strand).filterMap (StrandTask.completes object)) :
    view next object = view state object := by
  unfold view
  rw [owner, interest, reports, rearming, dispatching, tasks]
  congr 1
  funext strand
  exact strandQueue strand

theorem view_kept {state next : State} {object : ObjectId}
    (owner : next.object object = state.object object)
    (interest : interestAt next.kernel (state.object object).fd =
      interestAt state.kernel (state.object object).fd)
    (reactor : next.reactor = state.reactor) (running : next.running = state.running)
    (taskQueue : next.taskQueue = state.taskQueue)
    (strandQueue : next.strandQueue = state.strandQueue) :
    view next object = view state object := by
  apply view_unseen owner interest
  · rw [reactor]
  · rw [reactor]
  · intro present
    rw [reactor]
  · rw [running, taskQueue]
  · intro strand
    rw [strandQueue]

theorem DescriptorsOpen.fd_ne {state : State} (held : DescriptorsOpen state)
    {object other : ObjectId} (different : other ≠ object)
    (inScope : (state.object object).phase = .inScope)
    (live : (state.object other).phase = .inScope ∨
      (state.object other).phase = .removed) :
    (state.object object).fd ≠ (state.object other).fd := by
  intro same
  have mine := held.holds object (Or.inl inScope)
  have theirs := held.holds other live
  rw [same, theirs] at mine
  exact different (Option.some.inj mine)

theorem filterMap_eraseIdx {Item Kept : Type*} {keep : Item → Option Kept}
    {items : List Item} {index : Nat} {item : Item} (found : items[index]? = some item) :
    (keep item = none → (items.eraseIdx index).filterMap keep = items.filterMap keep) ∧
      ∀ kept, keep item = some kept → ∃ place, (items.filterMap keep)[place]? = some kept ∧
        (items.eraseIdx index).filterMap keep = (items.filterMap keep).eraseIdx place := by
  induction items generalizing index with
  | nil => cases found
  | cons head rest ih =>
      cases index with
      | zero =>
          have same : head = item := by simpa using found
          subst same
          constructor
          · intro dropped
            rw [List.eraseIdx_cons_zero, List.filterMap_cons_none dropped]
          · intro kept keeps
            refine ⟨0, ?_, ?_⟩
            · rw [List.filterMap_cons_some keeps]
              rfl
            · rw [List.filterMap_cons_some keeps]
              rfl
      | succ index =>
          have later : rest[index]? = some item := by simpa using found
          obtain ⟨unkept, keptAt⟩ := ih later
          constructor
          · intro dropped
            rw [List.eraseIdx_cons_succ, List.filterMap_cons, List.filterMap_cons,
              unkept dropped]
          · intro kept keeps
            obtain ⟨place, there, erased⟩ := keptAt kept keeps
            rw [List.eraseIdx_cons_succ]
            cases first : keep head with
            | none =>
                rw [List.filterMap_cons_none first, List.filterMap_cons_none first]
                exact ⟨place, there, erased⟩
            | some value =>
                rw [List.filterMap_cons_some first, List.filterMap_cons_some first, erased]
                exact ⟨place + 1, there, rfl⟩

/-! ### What the object's own steps do -/

theorem view_begin (state : State) (event : EventRef) :
    view (beginInitiation state event) event.object =
      (view state event.object).begin event.direction := by
  unfold view beginInitiation View.begin
  dsimp only
  rw [State.object_setObject, if_pos rfl]
  rfl

theorem view_arm {state : State} {object : ObjectId} {index : Nat} {direction : Direction}
    {mask : EventMask} (opened : state.kernel.owner (state.object object).fd ≠ none) :
    view (armInitiation state object index direction mask) object =
      (view state object).arm index mask := by
  have succeeds := (Kernel.arm_succeeds_iff state.kernel _ mask object).mpr opened
  have interest := interestAt_arm opened mask object
  unfold armInitiation
  dsimp only
  rw [if_pos succeeds]
  unfold view View.arm
  rw [State.object_setObject, if_pos rfl]
  dsimp only
  rw [show (State.setObject { state with
      kernel := (state.kernel.arm (state.object object).fd mask object).1 } object
      { state.object object with
        initiating := (state.object object).initiating.eraseIdx index }).kernel =
      (state.kernel.arm (state.object object).fd mask object).1 from rfl, interest]
  rfl

theorem view_clear {state : State} {report : Report} {pending : List Report}
    (handling : state.reactor = .handling (report :: pending)) :
    view (clearMasks state report pending) report.ptr =
        (view state report.ptr).clear report.events
          ((ReactorThread.handling pending).reportsOf report.ptr) ∧
      (view state report.ptr).reports = report.events ::
        (ReactorThread.handling pending).reportsOf report.ptr ∧
      (view state report.ptr).rearming = none := by
  refine ⟨?_, ?_, ?_⟩
  · unfold view clearMasks View.clear
    dsimp only
    rw [State.object_setObject, if_pos rfl, handling]
    unfold State.setObject ReactorThread.rearmingOf
    dsimp only
    rw [if_pos rfl]
    rfl
  · unfold view ReactorThread.reportsOf
    dsimp only
    rw [handling]
    have mine : decide (report.ptr = report.ptr) = true := decide_eq_true rfl
    change ((report :: pending).filter fun other => decide (other.ptr = report.ptr)).map _ = _
    rw [List.filter_cons, mine, if_pos rfl]
    rfl
  · unfold view
    dsimp only
    rw [handling]
    rfl

theorem view_rearm {state : State} {report : Report} {mask : EventMask}
    {pending : List Report} (rearming : state.reactor = .rearming report mask pending)
    (opened : state.kernel.owner (state.object report.ptr).fd ≠ none) :
    view (rearm state report mask pending) report.ptr =
        (view state report.ptr).rearm report.events mask ∧
      (view state report.ptr).rearming = some (report.events, mask) ∧
      (view state report.ptr).dispatching = [] := by
  have succeeds := (Kernel.arm_succeeds_iff state.kernel _ mask report.ptr).mpr opened
  have interest := interestAt_arm opened mask report.ptr
  refine ⟨?_, ?_, ?_⟩
  · unfold rearm view View.rearm
    rw [rearming]
    cases left : mask.nonzero with
    | false =>
        rw [if_neg Bool.false_ne_true, if_neg Bool.false_ne_true]
        unfold ReactorThread.dispatchingOf
        dsimp only
        rw [if_pos rfl]
        rfl
    | true =>
        rw [if_pos rfl, if_pos rfl]
        unfold ReactorThread.dispatchingOf
        dsimp only
        rw [if_pos rfl, interest, succeeds]
        rfl
  · unfold view ReactorThread.rearmingOf
    dsimp only
    rw [rearming]
    exact if_pos rfl
  · unfold view
    dsimp only
    rw [rearming]
    rfl

theorem filterMap_reacts (object : ObjectId) (tasks : List Dispatch) :
    (tasks.map fun task => ReactorTask.react ⟨object, task.direction⟩).filterMap
      (ReactorTask.reacts object) = tasks.map Dispatch.direction := by
  induction tasks with
  | nil => rfl
  | cons task rest ih =>
      have mine : (ReactorTask.react ⟨object, task.direction⟩).reacts object =
          some task.direction := if_pos rfl
      rw [List.map_cons, List.filterMap_cons_some mine, ih]
      rfl

theorem filterMap_reacts_other {object other : ObjectId} (different : other ≠ object)
    (tasks : List Dispatch) :
    (tasks.map fun task => ReactorTask.react ⟨other, task.direction⟩).filterMap
      (ReactorTask.reacts object) = [] := by
  induction tasks with
  | nil => rfl
  | cons task rest ih =>
      have foreign : (ReactorTask.react ⟨other, task.direction⟩).reacts object = none :=
        if_neg different
      rw [List.map_cons, List.filterMap_cons_none foreign, ih]

theorem view_dispatch {state : State} {report : Report} {mask : EventMask}
    {result : ErrorCode} {pending : List Report}
    (dispatching : state.reactor = .dispatching report mask result pending) :
    view (dispatch state report mask result pending) report.ptr =
        (view state report.ptr).dispatch ∧
      (view state report.ptr).rearming = none := by
  have seen : (view state report.ptr).dispatching =
      dispatches (state.object report.ptr).present mask report.events result := by
    unfold view
    dsimp only
    rw [dispatching]
    exact if_pos rfl
  constructor
  · unfold View.dispatch
    simp only [seen]
    unfold view dispatch
    dsimp only
    rw [State.object_setObject, if_pos rfl, dispatching]
    unfold State.setObject
    dsimp only
    rw [← List.append_assoc, List.filterMap_append, filterMap_reacts]
    rfl
  · unfold view
    dsimp only
    rw [dispatching]
    rfl

theorem filterMap_update {Item Kept : Type*} (keep : Item → Option Kept)
    (queues : StrandId → List Item) (strand : StrandId) (items : List Item)
    (other : StrandId) :
    (Function.update queues strand items other).filterMap keep =
      Function.update (fun strand => (queues strand).filterMap keep) strand
        (items.filterMap keep) other := by
  rw [Function.update_apply, Function.update_apply]
  split <;> rfl

theorem filterMap_update_same {Item Kept : Type*} {keep : Item → Option Kept}
    {queues : StrandId → List Item} {strand : StrandId} {items : List Item}
    (same : items.filterMap keep = (queues strand).filterMap keep) (other : StrandId) :
    (Function.update queues strand items other).filterMap keep =
      (queues other).filterMap keep := by
  rw [filterMap_update, same, Function.update_eq_self]

theorem running_eraseIdx {state : State} {index : Nat} {task : ReactorTask}
    (runs : state.running[index]? = some task) :
    (state.running ++ state.taskQueue)[index]? = some task ∧
      state.running.eraseIdx index ++ state.taskQueue =
        (state.running ++ state.taskQueue).eraseIdx index := by
  have inside : index < state.running.length := by
    by_contra outside
    rw [List.getElem?_eq_none (Nat.le_of_not_lt outside)] at runs
    cases runs
  refine ⟨?_, (List.eraseIdx_append_of_lt_length inside _).symm⟩
  rw [List.getElem?_append_left inside, runs]

theorem view_react {state : State} {index : Nat} {event : EventRef}
    (runs : state.running[index]? = some (.react event)) :
    ∃ place, (view state event.object).tasks[place]? = some event.direction ∧
      view (finishTask state index (.react event)) event.object =
        (view state event.object).react place event.direction := by
  obtain ⟨found, erased⟩ := running_eraseIdx runs
  have mine : (ReactorTask.react event).reacts event.object = some event.direction :=
    if_pos rfl
  obtain ⟨place, there, kept⟩ := (filterMap_eraseIdx found).2 event.direction mine
  refine ⟨place, there, ?_⟩
  have tasks : (state.running.eraseIdx index ++ state.taskQueue).filterMap
      (ReactorTask.reacts event.object) = (view state event.object).tasks.eraseIdx place := by
    rw [erased, kept]
    rfl
  have completes : (StrandTask.complete event).completes event.object =
      some event.direction := if_pos rfl
  unfold finishTask View.react
  dsimp only
  change view (if (state.event event).react then _ else _) event.object =
    if (state.event event).react then _ else _
  cases stored : (state.event event).react with
  | false =>
      rw [if_neg Bool.false_ne_true, if_neg Bool.false_ne_true]
      unfold view at tasks ⊢
      dsimp only at tasks ⊢
      rw [tasks]
  | true =>
      rw [if_pos rfl, if_pos rfl]
      have queue : ∀ strand, (Function.update state.strandQueue
          (state.object event.object).strand
          (state.strandQueue (state.object event.object).strand ++ [.complete event])
            strand).filterMap (StrandTask.completes event.object) =
          Function.update (view state event.object).strandQueue
            (state.object event.object).strand
            ((view state event.object).strandQueue (state.object event.object).strand ++
              [event.direction]) strand := by
        intro strand
        rw [filterMap_update, List.filterMap_append, List.filterMap_cons_some completes]
        rfl
      unfold forCompletion State.setEvent State.enqueue
      unfold view at tasks queue ⊢
      dsimp only at tasks queue ⊢
      rw [State.object_setObject, if_pos rfl]
      unfold State.setObject
      dsimp only
      rw [tasks, funext queue]
      rfl

theorem view_complete {state : State} {strand : StrandId} {event : EventRef}
    {rest : List StrandTask} (queued : state.strandQueue strand = .complete event :: rest) :
    view (runStrandTask state strand (.complete event) rest) event.object =
        (view state event.object).complete strand event.direction
          (rest.filterMap (StrandTask.completes event.object)) ∧
      (view state event.object).strandQueue strand =
        event.direction :: rest.filterMap (StrandTask.completes event.object) := by
  have completes : (StrandTask.complete event).completes event.object =
      some event.direction := if_pos rfl
  constructor
  · have queue := filterMap_update (StrandTask.completes event.object) state.strandQueue
      strand rest
    unfold runStrandTask View.complete
    dsimp only
    change view (if (state.event event).complete then _ else _) event.object =
      if (state.event event).complete then _ else _
    cases stored : (state.event event).complete with
    | false =>
        rw [if_neg Bool.false_ne_true, if_neg Bool.false_ne_true]
        unfold view
        dsimp only
        rw [funext queue]
    | true =>
        rw [if_pos rfl, if_pos rfl]
        unfold State.setEvent view
        dsimp only
        rw [State.object_setObject, if_pos rfl]
        unfold State.setObject
        dsimp only
        rw [funext queue]
        rfl
  · unfold view
    dsimp only
    rw [queued, List.filterMap_cons_some completes]

/-! ### Reports of the object -/

/-- The reports of an object in a batch are those of its own file. -/
theorem eventList_reportsOf {state : State} (owned : RegistrationOwned state)
    {object : ObjectId} (holds : state.kernel.owner (state.object object).fd = some object)
    {ready : List (Fd × Events)} {batch : List Report}
    (reported : eventList state.kernel ready = some batch) :
    (ReactorThread.handling batch).reportsOf object =
      (ready.filter fun entry => entry.1 = (state.object object).fd).map Prod.snd := by
  unfold ReactorThread.reportsOf
  change (batch.filter fun report => report.ptr = object).map Report.events = _
  induction ready generalizing batch with
  | nil =>
      cases reported
      rfl
  | cons entry rest ih =>
      simp only [eventList, Option.bind_eq_some_iff, Option.map_eq_some_iff] at reported
      obtain ⟨report, found, later, collected, rfl⟩ := reported
      obtain ⟨registration, registered, _, rfl⟩ := reportOf_eq_some.mp found
      obtain ⟨owner, ownFd, _⟩ := owned.registered entry.1 registration registered
      have continued := ih collected
      by_cases mine : registration.ptr = object
      · have sameFd : entry.1 = (state.object object).fd := by rw [← mine, ownFd]
        rw [List.filter_cons_of_pos (by exact decide_eq_true mine),
          List.filter_cons_of_pos (by exact decide_eq_true sameFd), List.map_cons,
          List.map_cons, continued]
      · have otherFd : entry.1 ≠ (state.object object).fd := by
          intro same
          rw [same, holds] at owner
          exact mine (Option.some.inj owner).symm
        rw [List.filter_cons_of_neg (by simpa using mine),
          List.filter_cons_of_neg (by simpa using otherFd), continued]

theorem filter_fst_of_mem {Key Value : Type*} [DecidableEq Key] {entries : List (Key × Value)}
    (distinct : (entries.map Prod.fst).Nodup) {entry : Key × Value}
    (member : entry ∈ entries) :
    (entries.filter fun other => other.1 = entry.1) = [entry] := by
  induction entries with
  | nil => cases member
  | cons first rest ih =>
      rw [List.map_cons, List.nodup_cons] at distinct
      rcases List.mem_cons.mp member with same | later
      · subst same
        rw [List.filter_cons_of_pos (by exact decide_eq_true rfl)]
        have none : (rest.filter fun other => other.1 = entry.1) = [] := by
          rw [List.filter_eq_nil_iff]
          intro other present same
          apply distinct.1
          rw [← of_decide_eq_true same]
          exact List.mem_map_of_mem present
        rw [none]
      · have different : first.1 ≠ entry.1 := by
          intro same
          apply distinct.1
          rw [same]
          exact List.mem_map_of_mem later
        rw [List.filter_cons_of_neg (by simpa using different)]
        exact ih distinct.2 later

theorem viewMoves_harvest {state : State} (descriptors : DescriptorsOpen state)
    (owned : RegistrationOwned state) {object : ObjectId}
    (inScope : (state.object object).phase = .inScope) {ready : List (Fd × Events)}
    {batch : List Report} (waiting : state.reactor = .waiting)
    (reported : eventList state.kernel ready = some batch)
    (distinct : (ready.map Prod.fst).Nodup) :
    ViewMoves (view state object) none (view (harvest state ready batch) object) := by
  have holds := descriptors.holds object (Or.inl inScope)
  have reports := eventList_reportsOf owned holds reported
  have interest := interestAt_disarm state.kernel (ready.map Prod.fst)
    (state.object object).fd
  by_cases mine : (state.object object).fd ∈ ready.map Prod.fst
  · obtain ⟨entry, member, sameFd⟩ := List.mem_map.mp mine
    obtain ⟨report, _, found⟩ := eventList_of_mem reported member
    obtain ⟨registration, registered, allowed, _⟩ := reportOf_eq_some.mp found
    have only := filter_fst_of_mem distinct member
    rw [← sameFd, only] at reports
    rw [if_pos mine] at interest
    have seen : view (harvest state ready batch) object =
        { view state object with
          interest := EventMask.empty
          reports := [entry.2] } := by
      unfold harvest view
      dsimp only
      rw [interest, reports, waiting]
      rfl
    rw [seen]
    refine .harvests entry.2 ?_ ?_ ?_
    · change reportable (interestAt state.kernel (state.object object).fd) entry.2 = true
      unfold interestAt
      rw [← sameFd, registered]
      exact allowed
    · unfold view
      dsimp only
      rw [waiting]
      rfl
    · unfold view
      dsimp only
      rw [waiting]
      rfl
  · have none : (ready.filter fun entry => entry.1 = (state.object object).fd) = [] := by
      rw [List.filter_eq_nil_iff]
      intro entry member same
      apply mine
      rw [← of_decide_eq_true same]
      exact List.mem_map_of_mem member
    rw [none] at reports
    rw [if_neg mine] at interest
    have same : view (harvest state ready batch) object = view state object := by
      apply view_unseen
      · rfl
      · exact interest
      · rw [waiting]
        exact reports
      · rw [waiting]
        rfl
      · intro present
        rw [waiting]
        rfl
      · rfl
      · exact fun _ => rfl
    rw [same]
    exact .unseen

/-! ### What a step does to a view -/

theorem reportsOf_cons_other {report : Report} {pending : List Report} {object : ObjectId}
    (other : report.ptr ≠ object) :
    (ReactorThread.handling (report :: pending)).reportsOf object =
      (ReactorThread.handling pending).reportsOf object := by
  unfold ReactorThread.reportsOf
  change ((report :: pending).filter fun first => first.ptr = object).map _ = _
  rw [List.filter_cons_of_neg (by simpa using other)]
  rfl

theorem observe_armInitiation (object : ObjectId) (state : State) (armed : ObjectId)
    (index : Nat) :
    observe object state (.armInitiation armed index) =
      if armed = object then
        ((state.object object).initiating[index]?).map fun begun => .initiated begun.1
      else none := rfl

theorem observe_complete {object : ObjectId} {state : State} {strand : StrandId}
    {event : EventRef} {rest : List StrandTask}
    (queued : state.strandQueue strand = .complete event :: rest) :
    observe object state (.strandStep strand) =
      if event.object = object ∧ (state.object object).phase = .inScope ∧
          (state.event event).complete = true then
        some (.called event.direction strand)
      else none := by
  unfold observe
  simp only [queued]

theorem observe_final {object : ObjectId} {state : State} {strand : StrandId}
    {event : EventRef} {rest : List StrandTask}
    (queued : state.strandQueue strand = .final event :: rest) :
    observe object state (.strandStep strand) = none := by
  unfold observe
  simp only [queued]

theorem viewMoves_finishTask {state : State} {index : Nat} {task : ReactorTask}
    {object : ObjectId} (runs : state.running[index]? = some task) :
    ViewMoves (view state object) none (view (finishTask state index task) object) := by
  obtain ⟨found, erased⟩ := running_eraseIdx runs
  have fewer : task.reacts object = none →
      (state.running.eraseIdx index ++ state.taskQueue).filterMap
          (ReactorTask.reacts object) =
        (state.running ++ state.taskQueue).filterMap (ReactorTask.reacts object) := by
    intro foreign
    rw [erased]
    exact (filterMap_eraseIdx found).1 foreign
  cases task with
  | react event =>
      by_cases mine : event.object = object
      · subst mine
        obtain ⟨place, there, seen⟩ := view_react runs
        rw [seen]
        exact .reacts place event.direction there
      · have foreign : (ReactorTask.react event).reacts object = none := if_neg mine
        have completes : (StrandTask.complete event).completes object = none := if_neg mine
        have same : view (finishTask state index (.react event)) object =
            view state object := by
          unfold finishTask
          dsimp only
          split
          · unfold forCompletion State.setEvent
            apply view_unseen
            · change (State.setObject _ event.object _).object object = state.object object
              rw [State.object_setObject, if_neg (Ne.symm mine)]
            · rfl
            · rfl
            · rfl
            · exact fun _ => rfl
            · exact fewer foreign
            · intro strand
              apply filterMap_update_same
              rw [List.filterMap_append, List.filterMap_cons_none completes]
              exact List.append_nil _
          · apply view_unseen
            · rfl
            · rfl
            · rfl
            · rfl
            · exact fun _ => rfl
            · exact fewer foreign
            · exact fun _ => rfl
        rw [same]
        exact .unseen
  | enqueueFinal event =>
      have same : view (finishTask state index (.enqueueFinal event)) object =
          view state object := by
        apply view_unseen
        · rfl
        · rfl
        · rfl
        · rfl
        · exact fun _ => rfl
        · exact fewer rfl
        · intro strand
          apply filterMap_update_same
          rw [List.filterMap_append]
          exact List.append_nil _
      rw [same]
      exact .unseen

theorem viewMoves_strandStep {state : State} {strand : StrandId} {task : StrandTask}
    {rest : List StrandTask} {object : ObjectId}
    (inScope : (state.object object).phase = .inScope)
    (queued : state.strandQueue strand = task :: rest) :
    ViewMoves (view state object) (observe object state (.strandStep strand))
      (view (runStrandTask state strand task rest) object) := by
  have popped : task.completes object = none → ∀ other,
      (Function.update state.strandQueue strand rest other).filterMap
          (StrandTask.completes object) =
        (state.strandQueue other).filterMap (StrandTask.completes object) := by
    intro foreign
    apply filterMap_update_same
    rw [queued, List.filterMap_cons_none foreign]
  cases task with
  | complete event =>
      rw [observe_complete queued]
      by_cases mine : event.object = object
      · subst mine
        obtain ⟨seen, waits⟩ := view_complete queued
        have label : (if event.object = event.object ∧
            (state.object event.object).phase = .inScope ∧
              (state.event event).complete = true then
              some (Observation.called event.direction strand) else none) =
            if ((view state event.object).owner.event event.direction).complete then
              some (.called event.direction strand) else none := by
          simp only [inScope, true_and]
          rfl
        rw [label, seen]
        exact .completes strand event.direction _ waits
      · rw [if_neg (fun all => mine all.1)]
        have foreign : (StrandTask.complete event).completes object = none := if_neg mine
        have same : view (runStrandTask state strand (.complete event) rest) object =
            view state object := by
          unfold runStrandTask
          dsimp only
          split
          · unfold State.setEvent
            apply view_unseen
            · rw [State.object_setObject, if_neg (Ne.symm mine)]
            · rfl
            · rfl
            · rfl
            · exact fun _ => rfl
            · rfl
            · exact popped foreign
          · apply view_unseen
            · rfl
            · rfl
            · rfl
            · rfl
            · exact fun _ => rfl
            · rfl
            · exact popped foreign
        rw [same]
        exact .unseen
  | final event =>
      rw [observe_final queued]
      have same : view (runStrandTask state strand (.final event) rest) object =
          view state object := by
        unfold runStrandTask
        dsimp only
        split
        · apply view_unseen
          · rfl
          · rfl
          · rfl
          · rfl
          · exact fun _ => rfl
          · rfl
          · intro other
            unfold State.enqueue
            dsimp only
            rw [filterMap_update_same _ other]
            · exact popped rfl other
            · rw [List.filterMap_append]
              exact List.append_nil _
        · apply view_unseen
          · rfl
          · rfl
          · rfl
          · rfl
          · exact fun _ => rfl
          · rfl
          · exact popped rfl
      rw [same]
      exact .unseen

theorem ViewMoves.of_same {state next : State} {object : ObjectId}
    (same : view next object = view state object) :
    ViewMoves (view state object) none (view next object) := by
  rw [same]
  exact .unseen

theorem ViewMoves.of_kept {state next : State} {object : ObjectId}
    (owner : next.object object = state.object object)
    (interest : interestAt next.kernel (state.object object).fd =
      interestAt state.kernel (state.object object).fd)
    (reactor : next.reactor = state.reactor) (running : next.running = state.running)
    (taskQueue : next.taskQueue = state.taskQueue)
    (strandQueue : next.strandQueue = state.strandQueue) :
    ViewMoves (view state object) none (view next object) :=
  .of_same (view_kept owner interest reactor running taskQueue strandQueue)

theorem viewMoves_beginInitiation {state : State} {event : EventRef} {object : ObjectId}
    (present : (state.object event.object).present event.direction = true)
    (idle : (state.event event).outstanding = false)
    (whole : undivided object state (.beginInitiation event) = true) :
    ViewMoves (view state object) none (view (beginInitiation state event) object) := by
  by_cases mine : event.object = object
  · subst mine
    unfold undivided at whole
    simp only [ne_eq, not_true_eq_false, decide_false, Bool.false_or, Bool.and_eq_true,
      List.isEmpty_iff, Option.isNone_iff_eq_none] at whole
    rw [view_begin]
    exact .begins event.direction present idle whole.1 whole.2
  · refine .of_kept ?_ rfl rfl rfl rfl rfl
    unfold beginInitiation
    rw [State.object_setObject, if_neg (Ne.symm mine)]

theorem viewMoves_armInitiation {state : State} {object armed : ObjectId} {index : Nat}
    {direction : Direction} {mask : EventMask} (descriptors : DescriptorsOpen state)
    (inScope : (state.object object).phase = .inScope)
    (begun : (state.object armed).initiating[index]? = some (direction, mask)) :
    ViewMoves (view state object) (observe object state (.armInitiation armed index))
      (view (armInitiation state armed index direction mask) object) := by
  have armedInScope : (state.object armed).phase = .inScope := by
    apply descriptors.initiating
    intro none
    rw [none] at begun
    cases begun
  have opened : state.kernel.owner (state.object armed).fd ≠ none := by
    rw [descriptors.holds armed (Or.inl armedInScope)]
    exact Option.some_ne_none armed
  rw [observe_armInitiation]
  by_cases mine : armed = object
  · subst mine
    rw [view_arm opened, if_pos rfl, begun]
    exact .arms index direction mask begun
  · have succeeds := (Kernel.arm_succeeds_iff state.kernel _ mask armed).mpr opened
    rw [if_neg mine]
    unfold armInitiation
    dsimp only
    rw [if_pos succeeds]
    refine .of_kept ?_ ?_ rfl rfl rfl rfl
    · rw [State.object_setObject, if_neg (Ne.symm mine)]
    · exact interestAt_arm_other state.kernel
        (descriptors.fd_ne mine inScope (Or.inl armedInScope)) mask armed

theorem viewMoves_leaveScope {state : State} {object left : ObjectId}
    (descriptors : DescriptorsOpen state) (different : left ≠ object)
    (inScope : (state.object object).phase = .inScope)
    (leftInScope : (state.object left).phase = .inScope) :
    ViewMoves (view state object) none (view (leaveScope state left) object) := by
  refine .of_kept ?_ ?_ rfl rfl rfl rfl
  · unfold leaveScope
    rw [State.object_setObject, if_neg (Ne.symm different)]
  · apply interestAt_congr
    exact Function.update_of_ne (descriptors.fd_ne different inScope (Or.inl leftInScope)) ..

theorem viewMoves_closeDescriptor {state : State} {object closing : ObjectId}
    (descriptors : DescriptorsOpen state)
    (inScope : (state.object object).phase = .inScope)
    (removed : (state.object closing).phase = .removed) :
    ViewMoves (view state object) none (view (closeDescriptor state closing) object) := by
  have different : closing ≠ object := by
    intro same
    rw [← same, removed] at inScope
    cases inScope
  refine .of_kept ?_ ?_ rfl rfl rfl rfl
  · unfold closeDescriptor
    rw [State.object_setObject, if_neg (Ne.symm different)]
  · apply interestAt_congr
    exact Function.update_of_ne (descriptors.fd_ne different inScope (Or.inr removed)) ..

theorem viewMoves_clearMasks {state : State} {report : Report} {pending : List Report}
    {object : ObjectId} (handling : state.reactor = .handling (report :: pending))
    (whole : undivided object state .clearMasks = true) :
    ViewMoves (view state object) none (view (clearMasks state report pending) object) := by
  by_cases mine : report.ptr = object
  · subst mine
    obtain ⟨seen, reported, quiet⟩ := view_clear handling
    unfold undivided at whole
    simp only [handling, ne_eq, not_true_eq_false, decide_false, Bool.false_or,
      List.isEmpty_iff] at whole
    rw [seen]
    exact .clears report.events _ reported quiet whole
  · apply ViewMoves.of_same
    apply view_unseen
    · unfold clearMasks
      rw [State.object_setObject, if_neg (Ne.symm mine)]
    · rfl
    · rw [handling, reportsOf_cons_other mine]
      rfl
    · rw [handling]
      exact if_neg mine
    · intro present
      rw [handling]
      rfl
    · rfl
    · exact fun _ => rfl

/-- A re-arm of another object finds its file open and its own, or closed. -/
theorem interestAt_rearm_other {state : State} {report : Report} {mask : EventMask}
    {pending : List Report} {object : ObjectId} (descriptors : DescriptorsOpen state)
    (rearming : state.reactor = .rearming report mask pending)
    (different : report.ptr ≠ object)
    (inScope : (state.object object).phase = .inScope)
    (closed : staleRearmFindsClosed state .rearm = true) :
    interestAt (rearm state report mask pending).kernel (state.object object).fd =
      interestAt state.kernel (state.object object).fd := by
  unfold staleRearmFindsClosed at closed
  simp only [rearming, Bool.or_eq_true, Bool.not_eq_true', decide_eq_true_eq,
    Option.isNone_iff_eq_none] at closed
  unfold rearm
  rcases closed with (zero | live) | gone
  · rw [zero]
    rfl
  · split
    · exact interestAt_arm_other state.kernel
        (descriptors.fd_ne different inScope (Or.inl live)) mask report.ptr
    · rfl
  · rw [Kernel.arm_eq, if_pos gone]
    split <;> rfl

theorem viewMoves_rearm {state : State} {report : Report} {mask : EventMask}
    {pending : List Report} {object : ObjectId} (descriptors : DescriptorsOpen state)
    (rearming : state.reactor = .rearming report mask pending)
    (inScope : (state.object object).phase = .inScope)
    (closed : staleRearmFindsClosed state .rearm = true) :
    ViewMoves (view state object) none (view (rearm state report mask pending) object) := by
  by_cases mine : report.ptr = object
  · subst mine
    have opened : state.kernel.owner (state.object report.ptr).fd ≠ none := by
      rw [descriptors.holds report.ptr (Or.inl inScope)]
      exact Option.some_ne_none report.ptr
    obtain ⟨seen, cleared, done⟩ := view_rearm rearming opened
    rw [seen]
    exact .rearms report.events mask cleared done
  · obtain ⟨result, dispatching⟩ := rearm_reactor state report mask pending
    have frame : (rearm state report mask pending).object = state.object ∧
        (rearm state report mask pending).running = state.running ∧
        (rearm state report mask pending).taskQueue = state.taskQueue ∧
        (rearm state report mask pending).strandQueue = state.strandQueue := by
      unfold rearm
      split <;> exact ⟨rfl, rfl, rfl, rfl⟩
    obtain ⟨objects, running, taskQueue, strandQueue⟩ := frame
    apply ViewMoves.of_same
    apply view_unseen
    · rw [objects]
    · exact interestAt_rearm_other descriptors rearming mine inScope closed
    · rw [rearming, dispatching]
      rfl
    · rw [rearming, dispatching]
      exact (if_neg mine).symm
    · intro present
      rw [rearming, dispatching]
      exact if_neg mine
    · rw [running, taskQueue]
    · intro strand
      rw [strandQueue]

theorem viewMoves_dispatch {state : State} {report : Report} {mask : EventMask}
    {result : ErrorCode} {pending : List Report} {object : ObjectId}
    (dispatching : state.reactor = .dispatching report mask result pending) :
    ViewMoves (view state object) none
      (view (dispatch state report mask result pending) object) := by
  by_cases mine : report.ptr = object
  · subst mine
    obtain ⟨seen, quiet⟩ := view_dispatch dispatching
    rw [seen]
    exact .dispatches quiet
  · apply ViewMoves.of_same
    apply view_unseen
    · unfold dispatch
      rw [State.object_setObject, if_neg (Ne.symm mine)]
    · rfl
    · rw [dispatching]
      rfl
    · rw [dispatching]
      rfl
    · intro present
      rw [dispatching]
      exact (if_neg mine).symm
    · unfold dispatch State.setObject
      dsimp only
      rw [← List.append_assoc, List.filterMap_append, filterMap_reacts_other mine,
        List.append_nil]
    · exact fun _ => rfl

theorem viewMoves_processDeletionQueue {state : State} {object : ObjectId}
    (handled : state.reactor = .handling []) :
    ViewMoves (view state object) none (view (processDeletionQueue state) object) := by
  have moved : (state.deletionQueue.map ReactorTask.enqueueFinal).filterMap
      (ReactorTask.reacts object) = [] := by
    rw [List.filterMap_map]
    exact List.filterMap_eq_nil_iff.mpr (fun _ _ => rfl)
  apply ViewMoves.of_same
  apply view_unseen
  · rfl
  · rfl
  · rw [handled]
    rfl
  · rw [handled]
    rfl
  · intro present
    rw [handled]
    rfl
  · unfold processDeletionQueue
    dsimp only
    rw [← List.append_assoc, List.filterMap_append, moved, List.append_nil]
  · exact fun _ => rfl

theorem viewMoves_startTask {state : State} {task : ReactorTask} {rest : List ReactorTask}
    {object : ObjectId} (queued : state.taskQueue = task :: rest) :
    ViewMoves (view state object) none (view (startTask state task rest) object) := by
  apply ViewMoves.of_same
  apply view_unseen
  · rfl
  · rfl
  · rfl
  · rfl
  · exact fun _ => rfl
  · unfold startTask
    dsimp only
    rw [queued, List.append_assoc]
    rfl
  · exact fun _ => rfl

/-- Everything a step of the service can do to the view of an object that is and stays in
scope. -/
theorem view_step {state next : State} {action : Action} {object : ObjectId}
    (descriptors : DescriptorsOpen state) (owned : RegistrationOwned state)
    (accounts : Accounted state)
    (closed : staleRearmFindsClosed state action = true)
    (whole : undivided object state action = true)
    (inScope : (state.object object).phase = .inScope)
    (still : (next.object object).phase = .inScope)
    (stepped : step state action = some next) :
    ViewMoves (view state object) (observe object state action) (view next object) := by
  cases step_moves stepped with
  | create present fd strand free =>
      have made : object < state.created :=
        accounts.lt_of_phase (by rw [inScope]; exact Phase.noConfusion)
      exact .of_kept (Function.update_of_ne (Nat.ne_of_lt made) ..) rfl rfl rfl rfl rfl
  | beginInitiation event begins present idle =>
      exact viewMoves_beginInitiation present idle whole
  | armInitiation armed index direction mask begun =>
      exact viewMoves_armInitiation descriptors inScope begun
  | leaveScope left leftInScope quiet =>
      have different : left ≠ object := by
        intro same
        subst same
        unfold leaveScope at still
        rw [State.object_setObject, if_pos rfl] at still
        cases still
      exact viewMoves_leaveScope descriptors different inScope leftInScope
  | closeDescriptor closing removed =>
      exact viewMoves_closeDescriptor descriptors inScope removed
  | dispose event disposedClosed kept =>
      have different : event.object ≠ object := by
        intro same
        rw [← same, disposedClosed] at inScope
        cases inScope
      refine .of_kept ?_ rfl rfl rfl rfl rfl
      unfold dispose
      rw [State.object_setObject, if_neg (Ne.symm different)]
  | harvest ready batch waiting reported distinct =>
      exact viewMoves_harvest descriptors owned inScope waiting reported distinct
  | clearMasks report pending handling => exact viewMoves_clearMasks handling whole
  | rearm report mask pending rearming =>
      exact viewMoves_rearm descriptors rearming inScope closed
  | dispatch report mask result pending dispatching => exact viewMoves_dispatch dispatching
  | processDeletionQueue handled => exact viewMoves_processDeletionQueue handled
  | startTask task rest queued => exact viewMoves_startTask queued
  | finishTask index task runs => exact viewMoves_finishTask runs
  | strandStep strand task rest queued => exact viewMoves_strandStep inScope queued

end BabaIo.Service
