import BabaIo.Library.Simulation
import BabaIo.ObjectView
import BabaIo.TcpCallbacks
import Mathlib.Data.List.InsertIdx

/-
Each object of a service is a descriptor.

An initiation takes effect as it arms the descriptor, and a report as it is
re-armed.  With this, what an object sees of a run of the service is a run of a
single descriptor whose initiations and reports are handled in one step, and the
user of the object sees the same initiations and the same callbacks: whatever
the other objects, strands and threads do.
-/

set_option autoImplicit false

namespace BabaIo.Service

/-! ### Descriptors whose `epoll_ctl` calls succeed -/

def stepArmed (state : Descriptor.State) (action : Descriptor.Action) :
    Option Descriptor.State :=
  if Descriptor.armSucceeds state action then Descriptor.step state action else none

def observeDescriptor (state : Descriptor.State) :
    Descriptor.Action → Option Observation
  | .initiate direction _ => some (.initiated direction)
  | .strandStep strand =>
      (state.strandQueue strand).head?.map fun direction => .called direction strand
  | _ => none

def Disciplined (descriptor : Descriptor.State) : Prop :=
  ∃ stages, Descriptor.Controlled descriptor stages ∧ Descriptor.History descriptor stages

theorem disciplined_init (present : Direction → Bool) (strand : StrandId) :
    Disciplined (Descriptor.init present strand) :=
  ⟨_, Descriptor.controlled_init present strand, Descriptor.history_init present strand⟩

theorem stepArmed_eq {state next : Descriptor.State} {action : Descriptor.Action}
    (succeeds : Descriptor.armSucceeds state action = true)
    (stepped : Descriptor.step state action = some next) :
    stepArmed state action = some next := by
  unfold stepArmed
  rw [succeeds, if_pos rfl]
  exact stepped

theorem handle_ok (state : Descriptor.State) (events : Events) :
    Descriptor.handle state events ec.OK =
      { state with
        eventMask := clearReported state.eventMask events
        report := none
        interest := if (clearReported state.eventMask events).nonzero then
          clearReported state.eventMask events else state.interest
        tasks := state.tasks ++ dispatchReport events
        event := fun direction =>
          if tasksFor (dispatchReport events) direction = 0 then state.event direction
          else { state.event direction with hasActiveEvent := true } } := by
  unfold Descriptor.handle
  simp only [Descriptor.dispatches_ok]
  cases left : (clearReported state.eventMask events).nonzero with
  | false => rfl
  | true => rfl

/-! ### Views and descriptors -/

def View.begun (view : View) (direction : Direction) : Bool :=
  view.owner.initiating.any fun begun => begun.1 = direction

/-- The mask of the object is ahead of the descriptor while one of the two is divided. -/
inductive MaskAgrees (view : View) (descriptor : Descriptor.State) : Prop where
  | still (none : view.owner.initiating = []) (quiet : view.rearming = Option.none)
      (same : view.owner.eventMask = descriptor.eventMask)
  | begun (direction : Direction)
      (initiating : view.owner.initiating = [(direction, view.owner.eventMask)])
      (quiet : view.rearming = Option.none)
      (added : view.owner.eventMask = descriptor.eventMask.setMask direction)
      (free : descriptor.outstanding direction = Option.none)
      (present : view.owner.present direction = true)
  | clearing (events : Events) (none : view.owner.initiating = [])
      (rearming : view.rearming = some (events, view.owner.eventMask))
      (cleared : view.owner.eventMask = clearReported descriptor.eventMask events)

/-- An event of the object and the one of the descriptor, where the object has `begun` an
initiation or `dispatched` tasks that it has not queued yet. -/
structure EventMirrors (seen : Event) (begun dispatched : Bool)
    (event : Descriptor.ReactorEvent) (operation : Option Nat) : Prop where
  react : seen.react = (event.react.isSome || begun)
  complete : seen.complete = event.complete.isSome
  outstanding : seen.outstanding = (operation.isSome || begun)
  active : event.hasActiveEvent = (seen.hasActiveEvent || dispatched)

def View.dispatched (view : View) (direction : Direction) : Bool :=
  decide (tasksFor view.dispatching direction ≠ 0)

structure Mirrors (view : View) (descriptor : Descriptor.State) : Prop where
  present : descriptor.present = view.owner.present
  strand : descriptor.strand = view.owner.strand
  interest : descriptor.interest = view.interest
  report : descriptor.report.toList = (view.rearming.map Prod.fst).toList ++ view.reports
  mask : MaskAgrees view descriptor
  event : ∀ direction, EventMirrors (view.owner.event direction) (view.begun direction)
    (view.dispatched direction) (descriptor.event direction)
    (descriptor.outstanding direction)
  tasks : descriptor.tasks.map Dispatch.direction =
    view.tasks ++ view.dispatching.map Dispatch.direction
  strandQueue : descriptor.strandQueue = view.strandQueue

theorem View.begun_nil {view : View} (none : view.owner.initiating = [])
    (direction : Direction) : view.begun direction = false := by
  unfold View.begun
  rw [none]
  rfl

theorem View.begun_single {view : View} {started : Direction} {mask : EventMask}
    (initiating : view.owner.initiating = [(started, mask)]) (direction : Direction) :
    view.begun direction = decide (started = direction) := by
  unfold View.begun
  rw [initiating]
  exact Bool.or_false _

/-- An initiation that has begun is not outstanding in the descriptor yet. -/
theorem MaskAgrees.free_of_begun {view : View} {descriptor : Descriptor.State}
    (agrees : MaskAgrees view descriptor) {direction : Direction}
    (begun : view.begun direction = true) : descriptor.outstanding direction = none := by
  cases agrees with
  | still none quiet same =>
      rw [View.begun_nil none] at begun
      cases begun
  | begun started initiating quiet added free present =>
      rw [View.begun_single initiating] at begun
      rw [← of_decide_eq_true begun]
      exact free
  | clearing events none rearming cleared =>
      rw [View.begun_nil none] at begun
      cases begun

theorem MaskAgrees.still_same {view : View} {descriptor : Descriptor.State}
    (agrees : MaskAgrees view descriptor) (none : view.owner.initiating = [])
    (quiet : view.rearming = Option.none) :
    view.owner.eventMask = descriptor.eventMask := by
  cases agrees with
  | still _ _ same => exact same
  | begun started initiating _ _ _ _ =>
      rw [none] at initiating
      cases initiating
  | clearing events _ rearming _ =>
      rw [quiet] at rearming
      cases rearming

theorem MaskAgrees.of_same {view next : View} {descriptor after : Descriptor.State}
    (agrees : MaskAgrees view descriptor)
    (initiating : next.owner.initiating = view.owner.initiating)
    (rearming : next.rearming = view.rearming)
    (mask : next.owner.eventMask = view.owner.eventMask)
    (present : next.owner.present = view.owner.present)
    (sameMask : after.eventMask = descriptor.eventMask)
    (free : ∀ direction, view.begun direction = true →
      after.outstanding direction = descriptor.outstanding direction) :
    MaskAgrees next after := by
  cases agrees with
  | still none quiet same =>
      exact .still (initiating.trans none) (rearming.trans quiet)
        (by rw [mask, sameMask]; exact same)
  | begun started one quiet added unstarted owned =>
      refine .begun started ?_ (rearming.trans quiet) ?_ ?_ ?_
      · rw [initiating, mask]
        exact one
      · rw [mask, sameMask]
        exact added
      · rw [free started (by rw [View.begun_single one]; exact decide_eq_true rfl)]
        exact unstarted
      · rw [present]
        exact owned
  | clearing events none cleared masked =>
      refine .clearing events (initiating.trans none) ?_ ?_
      · rw [rearming, mask]
        exact cleared
      · rw [mask, sameMask]
        exact masked

/-! ### One step of a view is answered by the descriptor -/

/-- The descriptor answers with a run that shows the same and mirrors the new view. -/
def Answers (descriptor : Descriptor.State) (shown : Option Observation) (next : View) :
    Prop :=
  ∃ (actions : List Descriptor.Action) (after : Descriptor.State),
    Runs.exec stepArmed descriptor actions = some after ∧
      Runs.trace stepArmed observeDescriptor descriptor actions = shown.toList ∧
      Mirrors next after ∧ Disciplined after

theorem answers_nothing {descriptor : Descriptor.State} {next : View}
    (disciplined : Disciplined descriptor) (mirrors : Mirrors next descriptor) :
    Answers descriptor none next :=
  ⟨[], descriptor, rfl, rfl, mirrors, disciplined⟩

theorem answers_step {descriptor after : Descriptor.State} {action : Descriptor.Action}
    {next : View} (disciplined : Disciplined descriptor)
    (succeeds : Descriptor.armSucceeds descriptor action = true)
    (stepped : Descriptor.step descriptor action = some after)
    (mirrors : Mirrors next after) :
    Answers descriptor (observeDescriptor descriptor action) next := by
  have taken := stepArmed_eq succeeds stepped
  exact ⟨[action], after, Runs.exec_cons_eq_some.mpr ⟨after, taken, rfl⟩,
    Runs.trace_single taken, mirrors,
    Descriptor.disciplined_step disciplined succeeds stepped⟩

theorem Mirrors.begin {view : View} {descriptor : Descriptor.State}
    (mirrors : Mirrors view descriptor) {direction : Direction}
    (present : view.owner.present direction = true)
    (idle : (view.owner.event direction).outstanding = false)
    (none : view.owner.initiating = []) (quiet : view.rearming = Option.none) :
    Mirrors (view.begin direction) descriptor := by
  have same := mirrors.mask.still_same none quiet
  have initiating : (view.begin direction).owner.initiating =
      [(direction, view.owner.eventMask.setMask direction)] := by
    unfold View.begin
    dsimp only
    rw [none]
    rfl
  have free : descriptor.outstanding direction = Option.none := by
    have outstanding := (mirrors.event direction).outstanding
    rw [idle, View.begun_nil none, Bool.or_false] at outstanding
    exact Option.isSome_eq_false_iff.mp outstanding.symm |> Option.isNone_iff_eq_none.mp
  refine
    { mirrors with
      mask := .begun direction initiating quiet ?_ free present
      event := ?_ }
  · rw [← same]
    rfl
  · intro other
    have before := mirrors.event other
    rw [View.begun_nil none] at before
    rw [View.begun_single initiating]
    unfold View.begin
    dsimp only
    by_cases mine : direction = other
    · subst mine
      rw [Function.update_self, decide_eq_true rfl]
      exact
        { react := (Bool.or_true _).symm
          complete := before.complete
          outstanding := (Bool.or_true _).symm
          active := before.active }
    · rw [Function.update_of_ne (Ne.symm mine), decide_eq_false mine]
      exact before

theorem answers_arm {view : View} {descriptor : Descriptor.State}
    (mirrors : Mirrors view descriptor) (disciplined : Disciplined descriptor)
    {index : Nat} {direction : Direction} {mask : EventMask}
    (begun : view.owner.initiating[index]? = some (direction, mask)) :
    Answers descriptor (some (.initiated direction)) (view.arm index mask) := by
  obtain ⟨stages, controlled, _⟩ := disciplined
  cases agrees : mirrors.mask with
  | still none quiet same =>
      rw [none] at begun
      cases begun
  | clearing events none rearming cleared =>
      rw [none] at begun
      cases begun
  | begun started initiating quiet added free present =>
      have first : index = 0 ∧ started = direction ∧ view.owner.eventMask = mask := by
        rw [initiating] at begun
        cases index with
        | zero =>
            have same := Prod.mk.inj (Option.some.inj begun)
            exact ⟨rfl, same.1, same.2⟩
        | succ index => cases begun
      obtain ⟨rfl, rfl, rfl⟩ := first
      have none : (view.arm 0 view.owner.eventMask).owner.initiating = [] := by
        unfold View.arm
        dsimp only
        rw [initiating]
        rfl
      have stepped : Descriptor.step descriptor (.initiate started ec.OK) =
          some (Descriptor.initiate descriptor started ec.OK) :=
        Descriptor.step_initiate.mpr
          ⟨controlled.running, by rw [mirrors.present]; exact present, free, rfl⟩
      refine answers_step ⟨stages, controlled, by assumption⟩ rfl stepped ?_
      refine
        { present := mirrors.present
          strand := mirrors.strand
          interest := added.symm
          report := mirrors.report
          mask := .still none quiet added
          event := ?_
          tasks := mirrors.tasks
          strandQueue := mirrors.strandQueue }
      intro other
      have before := mirrors.event other
      rw [View.begun_single initiating] at before
      rw [View.begun_nil none]
      change EventMirrors (view.owner.event other) false (view.dispatched other)
        (Function.update descriptor.event started
          { descriptor.event started with react := some descriptor.initiated.length } other)
        (Function.update descriptor.outstanding started
          (some descriptor.initiated.length) other)
      by_cases mine : started = other
      · subst mine
        rw [decide_eq_true rfl] at before
        rw [Function.update_self, Function.update_self]
        exact
          { react := before.react.trans (Bool.or_true _)
            complete := before.complete
            outstanding := before.outstanding.trans (Bool.or_true _)
            active := before.active }
      · rw [decide_eq_false mine] at before
        rw [Function.update_of_ne (Ne.symm mine), Function.update_of_ne (Ne.symm mine)]
        exact before

theorem answers_harvest {view : View} {descriptor : Descriptor.State}
    (mirrors : Mirrors view descriptor) (disciplined : Disciplined descriptor)
    {events : Events} (allowed : reportable view.interest events = true)
    (unreported : view.reports = []) (quiet : view.rearming = none) :
    Answers descriptor none
      { view with interest := EventMask.empty, reports := [events] } := by
  have free : descriptor.report = none := by
    have reported := mirrors.report
    rw [unreported, quiet] at reported
    exact Option.toList_eq_nil_iff.mp reported
  obtain ⟨stages, controlled, history⟩ := disciplined
  have stepped : Descriptor.step descriptor (.harvest events) =
      some { descriptor with report := some events, interest := EventMask.empty } := by
    refine Descriptor.step_harvest.mpr ⟨controlled.running, free, ?_, rfl⟩
    rw [mirrors.interest]
    exact allowed
  refine answers_step ⟨stages, controlled, history⟩ rfl stepped ?_
  refine
    { mirrors with
      interest := rfl
      report := ?_
      mask := mirrors.mask.of_same rfl rfl rfl rfl rfl (fun _ _ => rfl) }
  rw [quiet]
  rfl

theorem Mirrors.clear {view : View} {descriptor : Descriptor.State}
    (mirrors : Mirrors view descriptor) {events : Events} {rest : List Events}
    (reported : view.reports = events :: rest) (quiet : view.rearming = none)
    (none : view.owner.initiating = []) :
    Mirrors (view.clear events rest) descriptor := by
  have same := mirrors.mask.still_same none quiet
  refine
    { mirrors with
      report := ?_
      mask := .clearing events none rfl ?_ }
  · rw [mirrors.report, quiet, reported]
    rfl
  · rw [← same]
    rfl

theorem answers_rearm {view : View} {descriptor : Descriptor.State}
    (mirrors : Mirrors view descriptor) (disciplined : Disciplined descriptor)
    {events : Events} {mask : EventMask}
    (cleared : view.rearming = some (events, mask)) (done : view.dispatching = []) :
    Answers descriptor none (view.rearm events mask) := by
  obtain ⟨stages, controlled, history⟩ := disciplined
  have reported : descriptor.report = some events ∧ view.reports = [] := by
    have reports := mirrors.report
    rw [cleared] at reports
    cases waiting : descriptor.report with
    | none =>
        rw [waiting] at reports
        cases reports
    | some waited =>
        rw [waiting] at reports
        have same := List.cons.inj reports
        exact ⟨congrArg some same.1, same.2.symm⟩
  have left : view.owner.initiating = [] ∧
      mask = clearReported descriptor.eventMask events ∧ view.owner.eventMask = mask := by
    cases mirrors.mask with
    | still _ quiet _ =>
        rw [quiet] at cleared
        cases cleared
    | begun _ _ quiet _ _ _ =>
        rw [quiet] at cleared
        cases cleared
    | clearing others none rearming masked =>
        rw [rearming] at cleared
        have same := Prod.mk.inj (Option.some.inj cleared)
        rw [same.1] at masked
        exact ⟨none, same.2.symm.trans masked, same.2⟩
  obtain ⟨none, rfl, sameMask⟩ := left
  have succeeds : Descriptor.armSucceeds descriptor (.handle ec.OK) = true := by
    unfold Descriptor.armSucceeds
    rw [reported.1]
    simp [rearmFails]
  have stepped : Descriptor.step descriptor (.handle ec.OK) =
      some (Descriptor.handle descriptor events ec.OK) :=
    Descriptor.step_handle.mpr ⟨controlled.running, events, reported.1, rfl⟩
  refine answers_step ⟨stages, controlled, history⟩ succeeds stepped ?_
  rw [handle_ok]
  refine
    { present := mirrors.present
      strand := mirrors.strand
      interest := ?_
      report := reported.2.symm
      mask := .still none rfl sameMask
      event := ?_
      tasks := ?_
      strandQueue := mirrors.strandQueue }
  · unfold View.rearm
    dsimp only
    rw [mirrors.interest]
  · intro direction
    have before := mirrors.event direction
    have undispatched : view.dispatched direction = false := by
      unfold View.dispatched
      rw [done]
      rfl
    rw [undispatched] at before
    have dispatched : (view.rearm events (clearReported descriptor.eventMask
        events)).dispatched direction =
          decide (tasksFor (dispatchReport events) direction ≠ 0) := by
      unfold View.dispatched View.rearm
      simp only [Descriptor.dispatches_ok]
    rw [dispatched]
    dsimp only
    by_cases untasked : tasksFor (dispatchReport events) direction = 0
    · rw [if_pos untasked, decide_eq_false (not_not_intro untasked)]
      exact before
    · rw [if_neg untasked, decide_eq_true untasked]
      exact { before with active := (Bool.or_true _).symm }
  · unfold View.rearm
    simp only [Descriptor.dispatches_ok, List.map_append]
    rw [mirrors.tasks, done, List.map_nil, List.append_nil]

theorem Mirrors.dispatch {view : View} {descriptor : Descriptor.State}
    (mirrors : Mirrors view descriptor) : Mirrors view.dispatch descriptor := by
  refine
    { mirrors with
      mask := mirrors.mask.of_same rfl rfl rfl rfl rfl (fun _ _ => rfl)
      event := ?_
      tasks := ?_ }
  · intro direction
    have before := mirrors.event direction
    unfold View.dispatched at before
    unfold View.dispatch
    dsimp only
    by_cases untasked : tasksFor view.dispatching direction = 0
    · rw [decide_eq_false (not_not_intro untasked)] at before
      rw [if_pos untasked]
      exact before
    · rw [decide_eq_true untasked] at before
      rw [if_neg untasked]
      exact { before with active := before.active.trans (Bool.or_true _) }
  · rw [mirrors.tasks]
    exact (List.append_nil _).symm

theorem Mirrors.not_begun {view : View} {descriptor : Descriptor.State}
    (mirrors : Mirrors view descriptor) {direction : Direction} {operation : Nat}
    (outstanding : descriptor.outstanding direction = some operation) :
    view.begun direction = false := by
  cases begun : view.begun direction with
  | false => rfl
  | true =>
      rw [mirrors.mask.free_of_begun begun] at outstanding
      cases outstanding

theorem answers_react {view : View} {descriptor : Descriptor.State}
    (mirrors : Mirrors view descriptor) (disciplined : Disciplined descriptor)
    {index : Nat} {direction : Direction} (found : view.tasks[index]? = some direction) :
    Answers descriptor none (view.react index direction) := by
  obtain ⟨stages, controlled, history⟩ := disciplined
  have inside : index < view.tasks.length := by
    by_contra outside
    rw [List.getElem?_eq_none (Nat.le_of_not_lt outside)] at found
    cases found
  obtain ⟨task, queued, rfl⟩ : ∃ task, descriptor.tasks[index]? = some task ∧
      task.direction = direction := by
    have there : (descriptor.tasks.map Dispatch.direction)[index]? = some direction := by
      rw [mirrors.tasks, List.getElem?_append_left inside]
      exact found
    rw [List.getElem?_map] at there
    exact Option.map_eq_some_iff.mp there
  obtain ⟨operation, pending⟩ := controlled.pending_of_task queued
  have react : (descriptor.event task.direction).react = some operation := by
    rw [(controlled.staged.stage task.direction).react, pending]
    rfl
  have outstanding : descriptor.outstanding task.direction = some operation := by
    rw [(controlled.staged.stage task.direction).outstanding, pending]
    rfl
  have unbegun := mirrors.not_begun outstanding
  have stored : (view.owner.event task.direction).react = true := by
    rw [(mirrors.event task.direction).react, react]
    rfl
  have stepped : Descriptor.step descriptor (.runTask index (ec.OK, 0)) =
      some (Descriptor.runTask descriptor index task (ec.OK, 0)) :=
    Descriptor.step_runTask.mpr ⟨controlled.running, task, queued, rfl⟩
  refine answers_step ⟨stages, controlled, history⟩ rfl stepped ?_
  rw [Descriptor.runTask_some react]
  unfold View.react
  dsimp only
  rw [if_pos stored]
  refine
    { present := mirrors.present
      strand := mirrors.strand
      interest := mirrors.interest
      report := mirrors.report
      mask := mirrors.mask.of_same rfl rfl rfl rfl rfl (fun _ _ => rfl)
      event := ?_
      tasks := ?_
      strandQueue := ?_ }
  · intro other
    have before := mirrors.event other
    unfold Descriptor.forCompletion
    dsimp only
    by_cases mine : other = task.direction
    · subst mine
      rw [Function.update_self, Function.update_self]
      exact
        { react := unbegun.symm
          complete := rfl
          outstanding := before.outstanding
          active := before.active }
    · rw [Function.update_of_ne mine, Function.update_of_ne mine]
      exact before
  · unfold Descriptor.forCompletion
    dsimp only
    rw [← List.eraseIdx_map, mirrors.tasks, List.eraseIdx_append_of_lt_length inside]
  · unfold Descriptor.forCompletion
    dsimp only
    rw [mirrors.strandQueue, mirrors.strand]

theorem tasksFor_eq_count (tasks : List Dispatch) (direction : Direction) :
    tasksFor tasks direction = (tasks.map Dispatch.direction).count direction := by
  unfold tasksFor List.count
  rw [List.countP_map]
  rfl

theorem answers_complete {view : View} {descriptor : Descriptor.State}
    (mirrors : Mirrors view descriptor) (disciplined : Disciplined descriptor)
    {strand : StrandId} {direction : Direction} {rest : List Direction}
    (queued : view.strandQueue strand = direction :: rest) :
    Answers descriptor
      (if (view.owner.event direction).complete then some (.called direction strand)
        else none)
      (view.complete strand direction rest) := by
  obtain ⟨stages, controlled, history⟩ := disciplined
  have waiting : descriptor.strandQueue strand = direction :: rest := by
    rw [mirrors.strandQueue]
    exact queued
  obtain ⟨_, completion, completing, complete⟩ :=
    controlled.staged.completing_of_queued waiting
  have outstanding : descriptor.outstanding direction = some completion.operation := by
    rw [(controlled.staged.stage direction).outstanding, completing]
    rfl
  have unbegun := mirrors.not_begun outstanding
  have stored : (view.owner.event direction).complete = true := by
    rw [(mirrors.event direction).complete, complete]
    rfl
  -- a task of the event would stand for a second operation
  have undispatched : view.dispatched direction = false := by
    have counted := controlled.tokens direction
    rw [completing] at counted
    simp only [Descriptor.tokenCount, Descriptor.Stage.tokens] at counted
    rw [tasksFor_eq_count, mirrors.tasks, List.count_append, ← tasksFor_eq_count] at counted
    apply decide_eq_false
    omega
  have stepped : Descriptor.step descriptor (.strandStep strand) =
      some (Descriptor.runComplete descriptor strand direction rest) :=
    Descriptor.step_strandStep.mpr ⟨controlled.running, direction, rest, waiting, rfl⟩
  have label : observeDescriptor descriptor (.strandStep strand) =
      some (.called direction strand) := by
    unfold observeDescriptor
    dsimp only
    rw [waiting]
    rfl
  rw [if_pos stored, ← label]
  refine answers_step ⟨stages, controlled, history⟩ rfl stepped ?_
  rw [Descriptor.runComplete_some complete]
  unfold View.complete
  dsimp only
  rw [if_pos stored]
  refine
    { present := mirrors.present
      strand := mirrors.strand
      interest := mirrors.interest
      report := mirrors.report
      mask := mirrors.mask.of_same rfl rfl rfl rfl rfl ?_
      event := ?_
      tasks := mirrors.tasks
      strandQueue := ?_ }
  · intro other begun
    apply Function.update_of_ne
    intro mine
    rw [mine, unbegun] at begun
    cases begun
  · intro other
    have before := mirrors.event other
    dsimp only
    by_cases mine : other = direction
    · subst mine
      rw [Function.update_self, Function.update_self, Function.update_self]
      exact
        { react := before.react
          complete := rfl
          outstanding := unbegun.symm
          active := undispatched.symm }
    · rw [Function.update_of_ne mine, Function.update_of_ne mine, Function.update_of_ne mine]
      exact before
  · dsimp only
    rw [mirrors.strandQueue]

theorem answers_move {view next : View} {descriptor : Descriptor.State}
    {shown : Option Observation} (mirrors : Mirrors view descriptor)
    (disciplined : Disciplined descriptor) (moves : ViewMoves view shown next) :
    Answers descriptor shown next := by
  cases moves with
  | unseen => exact answers_nothing disciplined mirrors
  | begins direction present idle none quiet =>
      exact answers_nothing disciplined (mirrors.begin present idle none quiet)
  | arms index direction mask begun => exact answers_arm mirrors disciplined begun
  | harvests events allowed unreported quiet =>
      exact answers_harvest mirrors disciplined allowed unreported quiet
  | clears events rest reported quiet none =>
      exact answers_nothing disciplined (mirrors.clear reported quiet none)
  | rearms events mask cleared done => exact answers_rearm mirrors disciplined cleared done
  | dispatches quiet => exact answers_nothing disciplined mirrors.dispatch
  | reacts index direction found => exact answers_react mirrors disciplined found
  | completes strand direction rest queued =>
      exact answers_complete mirrors disciplined queued

/-! ### The lifetime of the object -/

def bornWith (object : ObjectId) (present : Direction → Bool) (strand : StrandId)
    (state : State) : Action → Prop
  | .create made _ on => state.created = object → made = present ∧ on = strand
  | _ => True

theorem created_step {state next : State} {action : Action}
    (stepped : step state action = some next) : state.created ≤ next.created := by
  cases step_moves stepped with
  | create present fd strand free => exact Nat.le_succ _
  | armInitiation object index direction mask begun =>
      unfold armInitiation
      dsimp only
      split <;> exact Nat.le_refl _
  | rearm report mask pending rearming =>
      unfold rearm
      split <;> exact Nat.le_refl _
  | finishTask index task runs =>
      unfold finishTask
      cases task with
      | react event =>
          dsimp only
          split <;> exact Nat.le_refl _
      | enqueueFinal event => exact Nat.le_refl _
  | strandStep strand task rest queued =>
      unfold runStrandTask
      cases task with
      | complete event =>
          dsimp only
          split <;> exact Nat.le_refl _
      | final event =>
          dsimp only
          split <;> exact Nat.le_refl _
  | _ => exact Nat.le_refl _

theorem bornWith_made {object : ObjectId} (present : Direction → Bool) (strand : StrandId)
    {state : State} (made : object < state.created) (actions : List Action) :
    Runs.StepsMeet step (bornWith object present strand) state actions := by
  have kept : Runs.StatesMeet step (fun state => object < state.created) state actions :=
    Runs.statesMeet_of_invariant
      (fun _ _ _ held stepped => Nat.lt_of_lt_of_le held (created_step stepped)) actions made
  refine kept.stepsMeet ?_
  intro before action held
  cases action with
  | create others fd on => exact fun same => absurd same (Nat.ne_of_gt held)
  | _ => trivial

theorem bornWith_exists (object : ObjectId) (state : State) (actions : List Action) :
    ∃ present strand, Runs.StepsMeet step (bornWith object present strand) state actions := by
  induction actions generalizing state with
  | nil => exact ⟨fun _ => false, 0, trivial⟩
  | cons action rest ih =>
      have later : (∀ present strand, bornWith object present strand state action) →
          ∃ present strand,
            Runs.StepsMeet step (bornWith object present strand) state (action :: rest) := by
        intro free
        cases stepped : step state action with
        | none =>
            refine ⟨fun _ => false, 0, free _ _, ?_⟩
            intro next reached
            rw [stepped] at reached
            cases reached
        | some next =>
            obtain ⟨present, strand, meets⟩ := ih next
            refine ⟨present, strand, free _ _, ?_⟩
            intro other reached
            rw [stepped] at reached
            cases reached
            exact meets
      cases action with
      | create present fd strand =>
          by_cases born : state.created = object
          · refine ⟨present, strand, fun _ => ⟨rfl, rfl⟩, ?_⟩
            intro next stepped
            apply bornWith_made
            cases step_moves stepped
            exact born ▸ Nat.lt_succ_self state.created
          · exact later (fun _ _ same => absurd same born)
      | _ => exact later (fun _ _ => trivial)

theorem State.phase_setObject {state : State} {changed : ObjectId} {value : AsyncObject}
    (phase : value.phase = (state.object changed).phase) (object : ObjectId) :
    ((state.setObject changed value).object object).phase = (state.object object).phase := by
  rw [State.object_setObject]
  by_cases same : object = changed
  · rw [if_pos same, same, phase]
  · rw [if_neg same]

theorem phase_step {state next : State} {action : Action} (object : ObjectId)
    (stepped : step state action = some next) :
    (next.object object).phase = (state.object object).phase ∨
      (∃ present fd strand, action = .create present fd strand ∧ state.created = object) ∨
      action = .leaveScope object ∨
      ((state.object object).phase = .removed ∧ (next.object object).phase = .closed) := by
  cases user : action.isUser with
  | false => exact Or.inl ((sameObjects_step stepped user).phase object)
  | true =>
      cases step_moves stepped with
      | create present fd strand free =>
          by_cases born : state.created = object
          · exact Or.inr (Or.inl ⟨present, fd, strand, rfl, born⟩)
          · refine Or.inl (congrArg AsyncObject.phase ?_)
            exact Function.update_of_ne (Ne.symm born) ..
      | beginInitiation event inScope present idle =>
          left
          unfold beginInitiation
          apply State.phase_setObject
          rfl
      | armInitiation armed index direction mask begun =>
          left
          unfold armInitiation
          dsimp only
          split
          · apply State.phase_setObject
            rfl
          · refine Eq.trans (State.phase_setObject ?_ object)
              (State.phase_setObject ?_ object) <;> rfl
      | leaveScope left inScope quiet =>
          by_cases mine : left = object
          · exact Or.inr (Or.inr (Or.inl (by rw [mine])))
          · refine Or.inl (congrArg AsyncObject.phase ?_)
            unfold leaveScope
            rw [State.object_setObject, if_neg (Ne.symm mine)]
      | closeDescriptor closing removed =>
          by_cases mine : closing = object
          · subst mine
            refine Or.inr (Or.inr (Or.inr ⟨removed, ?_⟩))
            unfold closeDescriptor
            rw [State.object_setObject, if_pos rfl]
          · refine Or.inl (congrArg AsyncObject.phase ?_)
            unfold closeDescriptor
            rw [State.object_setObject, if_neg (Ne.symm mine)]
      | _ => cases user

/-- Nobody calls or is called by an object outside its scope. -/
theorem observe_of_outside {state next : State} {action : Action} {object : ObjectId}
    (descriptors : DescriptorsOpen state)
    (outside : (state.object object).phase ≠ .inScope)
    (stepped : step state action = some next) : observe object state action = none := by
  cases step_moves stepped with
  | armInitiation armed index direction mask begun =>
      rw [observe_armInitiation]
      by_cases mine : armed = object
      · subst mine
        exfalso
        apply outside
        apply descriptors.initiating
        intro none
        rw [none] at begun
        cases begun
      · exact if_neg mine
  | strandStep strand task rest queued =>
      cases task with
      | complete event =>
          rw [observe_complete queued]
          exact if_neg (fun all => outside all.2.1)
      | final event => exact observe_final queued
  | _ => rfl

theorem filterMap_eq_nil_of_fresh {Item Kept : Type*} {keep : Item → Option Kept}
    {items : List Item} (dropped : ∀ item, item ∈ items → keep item = none) :
    items.filterMap keep = [] :=
  List.filterMap_eq_nil_iff.mpr dropped

theorem view_create {state : State} (accounts : Accounted state)
    (owned : RegistrationOwned state) (present : Direction → Bool) {fd : Fd}
    (strand : StrandId) (free : state.kernel.owner fd = none) :
    Mirrors (view (create state present fd strand) state.created)
      (Descriptor.init present strand) := by
  have owner : (create state present fd strand).object state.created =
      { AsyncObject.absent with
        phase := .inScope
        present := present
        fd := fd
        strand := strand } := Function.update_self ..
  have unregistered : state.kernel.epoll fd = none := by
    cases registered : state.kernel.epoll fd with
    | none => rfl
    | some registration =>
        rw [(owned.registered fd registration registered).1] at free
        cases free
  have interest : interestAt (create state present fd strand).kernel fd =
      EventMask.empty := by
    change interestAt (state.kernel.openFile fd state.created) fd = _
    unfold interestAt Kernel.openFile
    dsimp only
    rw [unregistered]
  have unreported : ∀ report, report ∈ state.reports → report.ptr ≠ state.created :=
    fun report member => Nat.ne_of_lt (accounts.reports report member)
  have reports : state.reactor.reportsOf state.created = [] := by
    unfold ReactorThread.reportsOf
    rw [List.map_eq_nil_iff, List.filter_eq_nil_iff]
    intro report member same
    exact unreported report (uncleared_reports member) (of_decide_eq_true same)
  have rearming : state.reactor.rearmingOf state.created = none := by
    cases position : state.reactor with
    | rearming report mask pending =>
        refine if_neg (unreported report ?_)
        unfold State.reports
        rw [position]
        exact List.mem_cons_self
    | _ => rfl
  have dispatching : state.reactor.dispatchingOf state.created present = [] := by
    cases position : state.reactor with
    | dispatching report mask result pending =>
        refine if_neg (unreported report ?_)
        unfold State.reports
        rw [position]
        exact List.mem_cons_self
    | _ => rfl
  have tasks : (state.running ++ state.taskQueue).filterMap
      (ReactorTask.reacts state.created) = [] := by
    apply filterMap_eq_nil_of_fresh
    intro task member
    cases task with
    | enqueueFinal event => rfl
    | react event =>
        refine if_neg (Nat.ne_of_lt (accounts.tasks (.react event) ?_))
        exact (List.mem_append.mp member).symm
  have strandQueue : ∀ other, (state.strandQueue other).filterMap
      (StrandTask.completes state.created) = [] := by
    intro other
    apply filterMap_eq_nil_of_fresh
    intro task member
    cases task with
    | final event => rfl
    | complete event =>
        exact if_neg (Nat.ne_of_lt (accounts.strands other (.complete event) member).1)
  have seen : view (create state present fd strand) state.created =
      { owner :=
          { AsyncObject.absent with
            phase := .inScope
            present := present
            fd := fd
            strand := strand }
        interest := EventMask.empty
        reports := []
        rearming := none
        dispatching := []
        tasks := []
        strandQueue := fun _ => [] } := by
    unfold view
    rw [owner, interest]
    congr 1
    funext other
    exact strandQueue other
  rw [seen]
  exact
    { present := rfl
      strand := rfl
      interest := rfl
      report := rfl
      mask := .still rfl rfl rfl
      event := fun _ => ⟨rfl, rfl, rfl, rfl⟩
      tasks := rfl
      strandQueue := rfl }

/-! ### Runs of the service -/

/-- The descriptor stands for the object, from before its constructor. -/
structure Shadows (object : ObjectId) (present : Direction → Bool) (strand : StrandId)
    (state : State) (descriptor : Descriptor.State) : Prop where
  service : ServiceInvariant state
  owned : RegistrationOwned state
  disciplined : Disciplined descriptor
  unmade : state.created ≤ object → descriptor = Descriptor.init present strand
  mirrors : (state.object object).phase = .inScope → Mirrors (view state object) descriptor

theorem shadows_step {object : ObjectId} {present : Direction → Bool} {strand : StrandId}
    {state next : State} {action : Action} {descriptor : Descriptor.State}
    (shadows : Shadows object present strand state descriptor)
    (closed : staleRearmFindsClosed state action = true)
    (whole : undivided object state action = true)
    (born : bornWith object present strand state action)
    (stepped : step state action = some next) :
    ∃ (actions : List Descriptor.Action) (after : Descriptor.State),
      Runs.exec stepArmed descriptor actions = some after ∧
        Runs.trace stepArmed observeDescriptor descriptor actions =
          (observe object state action).toList ∧
        Shadows object present strand next after := by
  have service := serviceInvariant_step shadows.service stepped
  have owned := (registrationOwned_step shadows.service shadows.owned stepped).mpr closed
  have descriptors := shadows.service.descriptors
  -- the descriptor waits where the object stays or goes out of scope
  have waits : observe object state action = none →
      (next.object object).phase ≠ .inScope →
      ∃ (actions : List Descriptor.Action) (after : Descriptor.State),
        Runs.exec stepArmed descriptor actions = some after ∧
          Runs.trace stepArmed observeDescriptor descriptor actions =
            (observe object state action).toList ∧
          Shadows object present strand next after := by
    intro silent outside
    refine ⟨[], descriptor, rfl, ?_, ?_⟩
    · rw [silent]
      rfl
    · exact
        { service := service
          owned := owned
          disciplined := shadows.disciplined
          unmade := fun unmade =>
            shadows.unmade (Nat.le_trans (created_step stepped) unmade)
          mirrors := fun inScope => absurd inScope outside }
  have made : (next.object object).phase = .inScope → object < next.created := by
    intro inScope
    apply service.accounts.lt_of_phase
    rw [inScope]
    exact Phase.noConfusion
  by_cases inScope : (state.object object).phase = .inScope
  · by_cases still : (next.object object).phase = .inScope
    · have moves := view_step descriptors shadows.owned shadows.service.accounts closed whole
        inScope still stepped
      obtain ⟨actions, after, executed, shown, mirrors, disciplined⟩ :=
        answers_move (shadows.mirrors inScope) shadows.disciplined moves
      refine ⟨actions, after, executed, shown, ?_⟩
      exact
        { service := service
          owned := owned
          disciplined := disciplined
          unmade := fun unmade => absurd (made still) (Nat.not_lt.mpr unmade)
          mirrors := fun _ => mirrors }
    · refine waits ?_ still
      rcases phase_step object stepped with same | ⟨_, _, _, rfl, _⟩ | rfl | ⟨removed, _⟩
      · exact absurd (same.trans inScope) still
      · rfl
      · rfl
      · rw [removed] at inScope
        cases inScope
  · have silent := observe_of_outside descriptors inScope stepped
    by_cases enters : (next.object object).phase = .inScope
    · rcases phase_step object stepped with
        same | ⟨events, fd, on, rfl, first⟩ | rfl | removed
      · exact absurd (same.symm.trans enters) inScope
      · obtain ⟨rfl, rfl⟩ := born first
        cases step_moves stepped with
        | create _ _ _ free =>
            refine ⟨[], descriptor, rfl, rfl, ?_⟩
            exact
              { service := service
                owned := owned
                disciplined := shadows.disciplined
                unmade := fun unmade =>
                  absurd (made enters) (Nat.not_lt.mpr unmade)
                mirrors := by
                  intro _
                  rw [shadows.unmade (Nat.le_of_eq first), ← first]
                  exact view_create shadows.service.accounts shadows.owned events on free }
      · cases step_moves stepped with
        | leaveScope _ left _ => exact absurd left inScope
      · rw [removed.2] at enters
        cases enters
    · exact waits silent enters

theorem shadows_init (object : ObjectId) (present : Direction → Bool) (strand : StrandId)
    (threads : Nat) :
    Shadows object present strand (init threads) (Descriptor.init present strand) :=
  { service := serviceInvariant_init threads
    owned := registrationOwned_init threads
    disciplined := disciplined_init present strand
    unmade := fun _ => rfl
    mirrors := fun inScope => by cases inScope }

theorem shadows_run {object : ObjectId} {threads : Nat} {actions : List Action}
    {final : State} (executed : Runs.exec step (init threads) actions = some final)
    (closed : Runs.StepsMeet step
      (fun state action => staleRearmFindsClosed state action = true) (init threads) actions)
    (whole : Runs.StepsMeet step (fun state action => undivided object state action = true)
      (init threads) actions) :
    ∃ present strand descriptorActions descriptor,
      Runs.exec stepArmed (Descriptor.init present strand) descriptorActions =
          some descriptor ∧
        Runs.trace stepArmed observeDescriptor (Descriptor.init present strand)
            descriptorActions =
          Runs.trace step (observe object) (init threads) actions ∧
        Shadows object present strand final descriptor := by
  obtain ⟨present, strand, born⟩ := bornWith_exists object (init threads) actions
  refine ⟨present, strand, ?_⟩
  refine Runs.simulates ?_ (shadows_init object present strand threads)
    ((closed.and whole).and born) executed
  rintro state action next descriptor shadows ⟨⟨met, undivided⟩, born⟩ stepped
  exact shadows_step shadows met undivided born stepped

/-- Some descriptor, none of whose `epoll_ctl` calls fails, shows its user what the run
shows the user of the object, and ends where the object ends. -/
def ActsAsDescriptor (object : ObjectId) (threads : Nat) (actions : List Action)
    (final : State) : Prop :=
  ∃ present strand descriptorActions descriptor,
    Runs.exec stepArmed (Descriptor.init present strand) descriptorActions =
        some descriptor ∧
      Runs.trace stepArmed observeDescriptor (Descriptor.init present strand)
          descriptorActions =
        Runs.trace step (observe object) (init threads) actions ∧
      Descriptor.CallbackDiscipline descriptor ∧
      ((final.object object).phase = .inScope → Mirrors (view final object) descriptor)

theorem refines_descriptor (object : ObjectId) (threads : Nat) (actions : List Action)
    (final : State) (executed : Runs.exec step (init threads) actions = some final)
    (closed : Runs.StepsMeet step
      (fun state action => staleRearmFindsClosed state action = true) (init threads) actions)
    (whole : Runs.StepsMeet step (fun state action => undivided object state action = true)
      (init threads) actions) :
    ActsAsDescriptor object threads actions final := by
  obtain ⟨present, strand, descriptorActions, descriptor, ran, shown, shadows⟩ :=
    shadows_run executed closed whole
  obtain ⟨stages, controlled, history⟩ := shadows.disciplined
  exact ⟨present, strand, descriptorActions, descriptor, ran, shown,
    Descriptor.callbackDiscipline_of_invariant controlled history, shadows.mirrors⟩

/-- Two sockets on two strands are reported together; the first one receives while a send
of its own is outstanding. -/
def twoSockets : List Action :=
  [.create (fun _ => true) 3 0, .create (fun _ => true) 4 1,
    .beginInitiation ⟨0, .read⟩, .beginInitiation ⟨1, .write⟩, .armInitiation 0 0,
    .beginInitiation ⟨0, .write⟩, .armInitiation 1 0, .armInitiation 0 0,
    .harvest [(4, EPOLLOUT), (3, EPOLLIN)],
    .clearMasks, .rearm, .dispatch, .clearMasks, .rearm, .dispatch, .processDeletionQueue,
    .startTask, .startTask, .finishTask 1, .finishTask 0, .strandStep 1, .strandStep 0]

theorem refines_descriptor_twoSockets :
    ∃ final, Runs.exec step (init 2) twoSockets = some final ∧
      (final.object 0).phase = .inScope ∧
      Runs.trace step (observe 0) (init 2) twoSockets =
        [.initiated .read, .initiated .write, .called .read 0] ∧
      ActsAsDescriptor 0 2 twoSockets final := by
  have executed : (Runs.exec step (init 2) twoSockets).map
      (fun final => (final.object 0).phase) = some .inScope := by
    decide +kernel
  obtain ⟨final, reached, inScope⟩ := Option.map_eq_some_iff.mp executed
  exact ⟨final, reached, inScope, by decide +kernel,
    refines_descriptor 0 2 twoSockets final reached (by decide +kernel) (by decide +kernel)⟩

end BabaIo.Service
