import BabaIo.ServiceRefinement

/-
What the refinement gives the users of a service.

An object that is used for reading and writing at once has every outstanding
operation in one place, and an object that is used for one operation at a time
shows its user initiations and callbacks in turn.
-/

set_option autoImplicit false

namespace BabaIo.Service

/-! ### Where an operation is -/

/-- An outstanding operation has begun, is listened for, belongs to the object of a report
that is being handled, or is queued once: for its `react` call or for its callback. -/
inductive Placed (state : State) (event : EventRef) : Prop where
  | begun (mask : EventMask)
      (initiating : (event.direction, mask) ∈ (state.object event.object).initiating)
      (unqueued : reactTasks state event = 0 ∧ completeTasks state event = 0)
  | listened (registration : Registration)
      (registered : state.kernel.epoll (state.object event.object).fd = some registration)
      (interested : registration.interest.has event.direction = true)
      (unqueued : reactTasks state event = 0 ∧ completeTasks state event = 0)
  | reported (report : Report) (member : report ∈ state.reports)
      (ptr : report.ptr = event.object)
      (unqueued : reactTasks state event = 0 ∧ completeTasks state event = 0)
  | reacting (queued : reactTasks state event = 1 ∧ completeTasks state event = 0)
  | completing (queued : reactTasks state event = 0 ∧ completeTasks state event = 1)

theorem ReactorTask.reacts_eq_some (task : ReactorTask) (object : ObjectId)
    (direction : Direction) :
    task.reacts object = some direction ↔ task = .react ⟨object, direction⟩ := by
  cases task with
  | enqueueFinal event =>
      constructor <;> intro impossible <;> cases impossible
  | react event =>
      obtain ⟨owner, side⟩ := event
      unfold ReactorTask.reacts
      dsimp only
      by_cases mine : owner = object
      · rw [if_pos mine, mine]
        simp
      · rw [if_neg mine]
        simp [mine]

theorem StrandTask.completes_eq_some (task : StrandTask) (object : ObjectId)
    (direction : Direction) :
    task.completes object = some direction ↔ task = .complete ⟨object, direction⟩ := by
  cases task with
  | final event =>
      constructor <;> intro impossible <;> cases impossible
  | complete event =>
      obtain ⟨owner, side⟩ := event
      unfold StrandTask.completes
      dsimp only
      by_cases mine : owner = object
      · rw [if_pos mine, mine]
        simp
      · rw [if_neg mine]
        simp [mine]

theorem count_filterMap_of_iff {Item Kept : Type*} [DecidableEq Item] [DecidableEq Kept]
    {keep : Item → Option Kept} {kept : Kept} {item : Item}
    (only : ∀ other, keep other = some kept ↔ other = item) (items : List Item) :
    (items.filterMap keep).count kept = items.count item := by
  rw [List.count_filterMap, List.count_eq_countP]
  apply List.countP_congr
  intro other _
  rw [beq_iff_eq, beq_iff_eq]
  exact only other

theorem reactTasks_view (state : State) (object : ObjectId) (direction : Direction) :
    reactTasks state ⟨object, direction⟩ = (view state object).tasks.count direction := by
  have counted : (view state object).tasks.count direction =
      (state.running ++ state.taskQueue).count (.react ⟨object, direction⟩) :=
    count_filterMap_of_iff (fun task => task.reacts_eq_some object direction) _
  rw [counted, List.count_append, Nat.add_comm]
  rfl

theorem completeTasks_view (state : State) (object : ObjectId) (direction : Direction) :
    completeTasks state ⟨object, direction⟩ =
      ((view state object).strandQueue (state.object object).strand).count direction :=
  (count_filterMap_of_iff (fun task => task.completes_eq_some object direction) _).symm

theorem reports_of_view {state : State} {object : ObjectId}
    (handled : (view state object).reports ≠ [] ∨ (view state object).rearming ≠ none ∨
      (view state object).dispatching ≠ []) :
    ∃ report, report ∈ state.reports ∧ report.ptr = object := by
  rcases handled with waiting | cleared | armed
  · obtain ⟨events, member⟩ := List.exists_mem_of_ne_nil _ waiting
    obtain ⟨report, found, _⟩ := List.mem_map.mp member
    obtain ⟨uncleared, mine⟩ := List.mem_filter.mp found
    exact ⟨report, uncleared_reports uncleared, of_decide_eq_true mine⟩
  · unfold view ReactorThread.rearmingOf at cleared
    dsimp only at cleared
    cases position : state.reactor with
    | rearming report mask pending =>
        rw [position] at cleared
        refine ⟨report, current_reports rfl position, ?_⟩
        by_contra other
        exact cleared (if_neg other)
    | _ => exact absurd (by rw [position]) cleared
  · unfold view ReactorThread.dispatchingOf at armed
    dsimp only at armed
    cases position : state.reactor with
    | dispatching report mask result pending =>
        rw [position] at armed
        refine ⟨report, current_reports rfl position, ?_⟩
        by_contra other
        exact armed (if_neg other)
    | _ => exact absurd (by rw [position]) armed

theorem registration_of_interestAt {kernel : Kernel} {fd : Fd} {direction : Direction}
    (interested : (interestAt kernel fd).has direction = true) :
    ∃ registration, kernel.epoll fd = some registration ∧
      registration.interest.has direction = true := by
  unfold interestAt at interested
  cases registered : kernel.epoll fd with
  | none =>
      rw [registered, EventMask.has_empty] at interested
      cases interested
  | some registration =>
      rw [registered] at interested
      exact ⟨registration, rfl, interested⟩

theorem mask_of_begun {view : View} {direction : Direction}
    (begun : view.begun direction = true) :
    ∃ mask, (direction, mask) ∈ view.owner.initiating := by
  unfold View.begun at begun
  obtain ⟨⟨started, mask⟩, member, same⟩ := List.any_eq_true.mp begun
  have here : started = direction := of_decide_eq_true same
  exact ⟨mask, here ▸ member⟩

theorem placed_of_mirrors {state : State} {object : ObjectId} {descriptor : Descriptor.State}
    (mirrors : Mirrors (view state object) descriptor) (disciplined : Disciplined descriptor)
    {direction : Direction}
    (outstanding : (state.event ⟨object, direction⟩).outstanding = true) :
    Placed state ⟨object, direction⟩ := by
  obtain ⟨stages, controlled, _⟩ := disciplined
  have stage := controlled.staged.stage direction
  have tokens := controlled.tokens direction
  have queue := stage.strandTasks
  rw [Descriptor.tokenCount, tasksFor_eq_count, mirrors.tasks, List.count_append,
    ← reactTasks_view] at tokens
  rw [mirrors.strand, mirrors.strandQueue] at queue
  have completes := (completeTasks_view state object direction).trans queue
  have outstandingEq : (descriptor.outstanding direction).isSome = true ∨
      (view state object).begun direction = true := by
    have same := (mirrors.event direction).outstanding
    rw [← Bool.or_eq_true, ← same]
    exact outstanding
  cases known : stages direction with
  | idle =>
      rw [known] at tokens completes
      simp only [Descriptor.Stage.tokens] at tokens
      have free := stage.outstanding
      rw [known] at free
      rw [free] at outstandingEq
      rcases outstandingEq with impossible | begun
      · cases impossible
      · obtain ⟨mask, member⟩ := mask_of_begun begun
        exact .begun mask member ⟨by omega, completes⟩
  | completing completion =>
      rw [known] at tokens completes
      simp only [Descriptor.Stage.tokens] at tokens
      exact .completing ⟨by omega, completes⟩
  | pending operation =>
      rw [known] at tokens completes
      simp only [Descriptor.Stage.tokens] at tokens
      by_cases reacting : reactTasks state ⟨object, direction⟩ = 1
      · exact .reacting ⟨reacting, completes⟩
      · have unqueued : reactTasks state ⟨object, direction⟩ = 0 ∧
            completeTasks state ⟨object, direction⟩ = 0 := ⟨by omega, completes⟩
        cases masked : descriptor.eventMask.has direction with
        | false =>
            -- its task is about to be queued
            rw [masked, unqueued.1] at tokens
            have armed : (view state object).dispatching ≠ [] := by
              intro none
              rw [none] at tokens
              cases tokens
            obtain ⟨report, member, ptr⟩ := reports_of_view (Or.inr (Or.inr armed))
            exact .reported report member ptr unqueued
        | true =>
            cases waiting : descriptor.report with
            | none =>
                have interested := controlled.armed waiting direction masked
                rw [mirrors.interest] at interested
                obtain ⟨registration, registered, listens⟩ :=
                  registration_of_interestAt interested
                exact .listened registration registered listens unqueued
            | some events =>
                have handled := mirrors.report
                rw [waiting] at handled
                have seen : (view state object).reports ≠ [] ∨
                    (view state object).rearming ≠ Option.none ∨
                      (view state object).dispatching ≠ [] := by
                  by_contra none
                  push Not at none
                  rw [none.1, none.2.1] at handled
                  cases handled
                obtain ⟨report, member, ptr⟩ := reports_of_view seen
                exact .reported report member ptr unqueued

/-- Where neither half of an initiation on the object falls into another one or into a
report, none of its operations is lost or queued twice. -/
theorem placed_of_undivided (object : ObjectId) (threads : Nat) (actions : List Action)
    (final : State) (executed : Runs.exec step (init threads) actions = some final)
    (closed : Runs.StepsMeet step
      (fun state action => staleRearmFindsClosed state action = true) (init threads) actions)
    (whole : Runs.StepsMeet step (fun state action => undivided object state action = true)
      (init threads) actions)
    (inScope : (final.object object).phase = .inScope) (direction : Direction)
    (outstanding : (final.event ⟨object, direction⟩).outstanding = true) :
    Placed final ⟨object, direction⟩ := by
  obtain ⟨present, strand, descriptorActions, descriptor, _, _, shadows⟩ :=
    shadows_run executed closed whole
  exact placed_of_mirrors (shadows.mirrors inScope) shadows.disciplined outstanding

def sendWhileReceiving : List Action :=
  [.create (fun _ => true) 3 0, .beginInitiation ⟨0, .read⟩, .armInitiation 0 0,
    .beginInitiation ⟨0, .write⟩, .armInitiation 0 0, .harvest [(3, EPOLLIN)],
    .clearMasks]

theorem placed_sendWhileReceiving :
    ∃ final, Runs.exec step (init 1) sendWhileReceiving = some final ∧
      Placed final ⟨0, .write⟩ := by
  have executed : (Runs.exec step (init 1) sendWhileReceiving).map (fun final =>
      ((final.object 0).phase, (final.event ⟨0, .write⟩).outstanding)) =
        some (.inScope, true) := by
    decide +kernel
  obtain ⟨final, reached, known⟩ := Option.map_eq_some_iff.mp executed
  have both := Prod.mk.inj known
  exact ⟨final, reached,
    placed_of_undivided 0 1 sendWhileReceiving final reached (by decide +kernel)
      (by decide +kernel) both.1 .write both.2⟩

/-! ### What the user of an object sees -/

/-- Initiations and callbacks of the direction take turns, and its callbacks run on the
strand: `busy` while a callback is due. -/
def turn (direction : Direction) (strand : StrandId) (busy : Bool) :
    Observation → Option Bool
  | .initiated other =>
      if other = direction then if busy then none else some true
      else some busy
  | .called other on =>
      if other = direction then if busy ∧ on = strand then some false else none
      else some busy

theorem stepArmed_eq_some {state next : Descriptor.State} {action : Descriptor.Action}
    (stepped : stepArmed state action = some next) :
    Descriptor.armSucceeds state action = true ∧
      Descriptor.step state action = some next := by
  unfold stepArmed at stepped
  cases succeeds : Descriptor.armSucceeds state action with
  | false =>
      rw [succeeds] at stepped
      cases stepped
  | true =>
      rw [succeeds, if_pos rfl] at stepped
      exact ⟨rfl, stepped⟩

/-- A step of a descriptor shows nothing of the direction and leaves its operation alone,
or it is the turn of the direction. -/
theorem turn_step {state next : Descriptor.State} {action : Descriptor.Action}
    (disciplined : Disciplined state) (direction : Direction)
    (stepped : stepArmed state action = some next) :
    Runs.exec (turn direction state.strand) (state.outstanding direction).isSome
        (observeDescriptor state action).toList =
          some (next.outstanding direction).isSome ∧
      next.strand = state.strand := by
  obtain ⟨succeeds, taken⟩ := stepArmed_eq_some stepped
  obtain ⟨stages, controlled, _⟩ := disciplined
  cases action with
  | initiate started result =>
      obtain ⟨_, _, free, rfl⟩ := Descriptor.step_initiate.mp taken
      obtain rfl : result = ec.OK := of_decide_eq_true succeeds
      refine ⟨Runs.exec_cons_eq_some.mpr ⟨_, ?_, rfl⟩, rfl⟩
      unfold turn
      dsimp only
      by_cases mine : started = direction
      · subst mine
        rw [show (Descriptor.initiate state started ec.OK).outstanding started =
          some state.initiated.length from Function.update_self ..]
        rw [if_pos rfl, free]
        rfl
      · rw [show (Descriptor.initiate state started ec.OK).outstanding direction =
          state.outstanding direction from Function.update_of_ne (Ne.symm mine) ..]
        exact if_neg mine
  | harvest events =>
      obtain ⟨_, _, _, rfl⟩ := Descriptor.step_harvest.mp taken
      exact ⟨rfl, rfl⟩
  | handle result =>
      obtain ⟨_, events, _, rfl⟩ := Descriptor.step_handle.mp taken
      obtain ⟨outstanding, strand, _⟩ := Descriptor.handle_frame state events result
      rw [outstanding, strand]
      exact ⟨rfl, rfl⟩
  | runTask index fin =>
      obtain ⟨_, task, _, rfl⟩ := Descriptor.step_runTask.mp taken
      unfold Descriptor.runTask
      dsimp only
      split <;> exact ⟨rfl, rfl⟩
  | strandStep strand =>
      obtain ⟨_, called, rest, queued, rfl⟩ := Descriptor.step_strandStep.mp taken
      obtain ⟨rfl, completion, completing, complete⟩ :=
        controlled.staged.completing_of_queued queued
      have outstanding : state.outstanding called = some completion.operation := by
        rw [(controlled.staged.stage called).outstanding, completing]
        rfl
      have label : observeDescriptor state (.strandStep state.strand) =
          some (.called called state.strand) := by
        unfold observeDescriptor
        dsimp only
        rw [queued]
        rfl
      rw [Descriptor.runComplete_some complete, label]
      refine ⟨Runs.exec_cons_eq_some.mpr ⟨_, ?_, rfl⟩, rfl⟩
      unfold turn
      dsimp only
      by_cases mine : called = direction
      · subst mine
        rw [if_pos rfl, if_pos ⟨by rw [outstanding]; rfl, rfl⟩, Function.update_self]
        rfl
      · rw [if_neg mine, Function.update_of_ne (Ne.symm mine)]

theorem turn_run {state final : Descriptor.State} {actions : List Descriptor.Action}
    (disciplined : Disciplined state) (direction : Direction)
    (executed : Runs.exec stepArmed state actions = some final) :
    Runs.exec (turn direction state.strand) (state.outstanding direction).isSome
        (Runs.trace stepArmed observeDescriptor state actions) =
          some (final.outstanding direction).isSome ∧
      final.strand = state.strand := by
  induction actions generalizing state with
  | nil =>
      cases executed
      exact ⟨rfl, rfl⟩
  | cons action rest ih =>
      obtain ⟨next, stepped, later⟩ := Runs.exec_cons_eq_some.mp executed
      obtain ⟨succeeds, taken⟩ := stepArmed_eq_some stepped
      obtain ⟨here, kept⟩ := turn_step disciplined direction stepped
      obtain ⟨there, ends⟩ :=
        ih (Descriptor.disciplined_step disciplined succeeds taken) later
      rw [kept] at there ends
      rw [Runs.trace_cons stepped]
      exact ⟨Runs.exec_trans here there, ends⟩

/-- Where operations are initiated one at a time, neither half of an initiation falls into
another one or into a report. -/
theorem undivided_of_one {state next : State} {action : Action}
    (invariant : LifetimeInvariant state) (one : OneOutstanding state)
    (free : oneAtATime state action = true) (stepped : step state action = some next)
    (object : ObjectId) : undivided object state action = true := by
  cases step_moves stepped with
  | beginInitiation event inScope present idle =>
      by_cases mine : event.object = object
      · subst mine
        have held := invariant.lifetime
        have idle := idle_of_oneAtATime free
        have none := one.none_of_unmasked (unmasked_of_idle held (Or.inl inScope) idle)
        have quiet : state.reactor.rearmingOf event.object = Option.none := by
          cases position : state.reactor with
          | rearming report mask pending =>
              refine if_neg ?_
              intro same
              have handles := held.handles
              unfold HandlesCleared at handles
              rw [position] at handles
              obtain ⟨direction, carried⟩ := held.carries report (by
                unfold State.reports
                rw [position]
                exact List.mem_cons_self)
              have waiting : state.event ⟨report.ptr, direction⟩ = Event.waiting :=
                (handles.1 direction carried).1
              have busy := idle direction
              rw [← same, waiting] at busy
              cases busy
          | _ => rfl
        unfold undivided
        rw [none, quiet]
        exact Bool.or_true _
      · exact Bool.or_eq_true_iff.mpr (Or.inl (decide_eq_true mine))
  | clearMasks report pending handling =>
      unfold undivided
      dsimp only
      rw [handling]
      by_cases mine : report.ptr = object
      · subst mine
        have none : (state.object report.ptr).initiating = [] := by
          rcases one.begun report.ptr with none | ⟨direction, begun⟩
          · exact none
          · refine absurd rfl (begun.unreported report ?_)
            rw [handling]
            exact List.mem_cons_self
        dsimp only
        rw [none]
        exact Bool.or_true _
      · exact Bool.or_eq_true_iff.mpr (Or.inl (decide_eq_true mine))
  | _ => rfl

/-- In each direction the user of the object sees one initiation and one callback in turn,
the callbacks on one strand.  While the object is in scope that is its own strand, and a
callback is due exactly while an operation that has been armed is outstanding. -/
def TakesTurns (object : ObjectId) (threads : Nat) (actions : List Action)
    (final : State) : Prop :=
  ∃ strand, ∀ direction, ∃ busy,
    Runs.exec (turn direction strand) false
        (Runs.trace step (observe object) (init threads) actions) = some busy ∧
      ((final.object object).phase = .inScope →
        (final.object object).strand = strand ∧
          busy = ((final.event ⟨object, direction⟩).outstanding &&
            !(view final object).begun direction))

/-- Whenever the objects of a service are destroyed, where operations are initiated one at a
time on each object every user sees initiations and callbacks in turn. -/
theorem takesTurns_of_oneAtATime (object : ObjectId) (threads : Nat)
    (actions : List Action) (final : State)
    (executed : Runs.exec step (init threads) actions = some final)
    (user : Runs.StepsMeet step (fun state action => oneAtATime state action = true)
      (init threads) actions)
    (carries : Runs.StepsMeet step (fun _ action => reportsCarry action = true)
      (init threads) actions) :
    TakesTurns object threads actions final := by
  have kept : Runs.StatesMeet step (fun state =>
      LifetimeInvariant state ∧ OneOutstanding state) (init threads) actions := by
    refine Runs.statesMeet_of_preserved ?_
      ⟨lifetimeInvariant_init threads, oneOutstanding_init threads⟩ (user.and carries)
    rintro state action next ⟨invariant, one⟩ met stepped
    refine ⟨?_, oneOutstanding_step invariant one met.1 met.2 stepped⟩
    exact lifetimeInvariant_step invariant (kernelAssumption_of_one one met.2)
      (reportStillMasked_of_one one) stepped
  have closed : Runs.StepsMeet step
      (fun state action => staleRearmFindsClosed state action = true)
      (init threads) actions := by
    refine kept.stepsMeet ?_
    rintro state action ⟨_, one⟩
    exact staleRearmFindsClosed_of_one one
  have whole : Runs.StepsMeet step
      (fun state action => undivided object state action = true) (init threads) actions := by
    refine user.of_taken ?_ kept executed
    rintro state action next ⟨invariant, one⟩ free stepped
    exact undivided_of_one invariant one free stepped object
  obtain ⟨present, strand, descriptorActions, descriptor, ran, shown, shadows⟩ :=
    shadows_run executed closed whole
  refine ⟨strand, fun direction => ⟨(descriptor.outstanding direction).isSome, ?_, ?_⟩⟩
  · rw [← shown]
    exact (turn_run (disciplined_init present strand) direction ran).1
  · intro inScope
    have mirrors := shadows.mirrors inScope
    have sameStrand := (turn_run (disciplined_init present strand) direction ran).2
    refine ⟨mirrors.strand.symm.trans sameStrand, ?_⟩
    have outstanding : (final.event ⟨object, direction⟩).outstanding =
        ((descriptor.outstanding direction).isSome || (view final object).begun direction) :=
      (mirrors.event direction).outstanding
    rw [outstanding]
    cases begun : (view final object).begun direction with
    | false => rw [Bool.or_false, Bool.not_false, Bool.and_true]
    | true =>
        rw [mirrors.mask.free_of_begun begun]
        rfl

/-- Two objects take part in one batch, and the second one is destroyed before its report is
handled. -/
def destroyedInBatch : List Action :=
  [.create (fun _ => true) 3 0, .create (fun _ => true) 4 0,
    .beginInitiation ⟨0, .read⟩, .armInitiation 0 0,
    .beginInitiation ⟨1, .read⟩, .armInitiation 1 0,
    .harvest [(3, EPOLLIN), (4, EPOLLIN)], .clearMasks, .rearm, .dispatch,
    .leaveScope 1, .closeDescriptor 1, .clearMasks, .rearm, .dispatch, .processDeletionQueue,
    .startTask, .finishTask 0, .strandStep 0, .beginInitiation ⟨0, .write⟩,
    .armInitiation 0 0]

theorem takesTurns_destroyedInBatch :
    ∃ final, Runs.exec step (init 1) destroyedInBatch = some final ∧
      Runs.trace step (observe 0) (init 1) destroyedInBatch =
        [.initiated .read, .called .read 0, .initiated .write] ∧
      TakesTurns 0 1 destroyedInBatch final := by
  have executed : (Runs.exec step (init 1) destroyedInBatch).isSome = true := by
    decide +kernel
  obtain ⟨final, reached⟩ := Option.isSome_iff_exists.mp executed
  exact ⟨final, reached, by decide +kernel,
    takesTurns_of_oneAtATime 0 1 destroyedInBatch final reached (by decide +kernel)
      (by decide +kernel)⟩

end BabaIo.Service
