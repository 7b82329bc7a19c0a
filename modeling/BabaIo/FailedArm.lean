import BabaIo.TcpCallbacks

/-
What a failed `epoll_impl::arm` leaves behind.

The initiation sets its bit before it arms the descriptor, and the re-arm after
a report keeps the bits it could not arm.  Neither is taken back when the call
fails, so the operation that is told about the error owns a bit or a reactor
task too many.  The surplus stays with its direction until the operation ends,
and then it is a bit, or a task, without an operation.
-/

set_option autoImplicit false

namespace BabaIo.Descriptor

/-- `event_mask` has no bit without an outstanding operation, and reactor tasks,
those that deliver EBADF included, go to events with an outstanding operation
whose `react` is stored; no empty closure has been called. -/
structure TraceFree (state : State) : Prop where
  mask : ∀ direction, state.eventMask.has direction = true →
    state.outstanding direction ≠ none
  dispatched : ∀ task, task ∈ state.tasks →
    state.outstanding task.direction ≠ none ∧
      (state.event task.direction).react ≠ none
  running : state.terminated = false

abbrev initTcp (strand : StrandId) : State := init (fun _ => true) strand

def FailedArmLeavesNoTrace : Prop :=
  ∀ (strand : StrandId) (actions : List Action),
    Runs.StatesMeet step TraceFree (initTcp strand) actions

/-! ### Successful runs -/

theorem traceFree_of_controlled {state : State} {stages : Direction → Stage}
    (controlled : Controlled state stages) : TraceFree state := by
  have pendingOf : ∀ direction, 0 < tokenCount state direction →
      ∃ operation, stages direction = .pending operation := by
    intro direction positive
    rw [controlled.tokens direction] at positive
    cases known : stages direction with
    | idle => rw [known] at positive; cases positive
    | pending operation => exact ⟨operation, rfl⟩
    | completing completion => rw [known] at positive; cases positive
  constructor
  · intro direction present
    obtain ⟨operation, pending⟩ := pendingOf direction (by
      simp only [tokenCount, present, Bool.toNat_true]
      omega)
    rw [(controlled.staged.stage direction).outstanding, pending]
    exact Option.some_ne_none operation
  · intro task member
    have counted : 0 < tasksFor state.tasks task.direction := by
      apply List.countP_pos_iff.mpr
      exact ⟨task, member, decide_eq_true rfl⟩
    obtain ⟨operation, pending⟩ := pendingOf task.direction (by
      simp only [tokenCount]
      omega)
    rw [(controlled.staged.stage task.direction).outstanding,
      (controlled.staged.stage task.direction).react, pending]
    exact ⟨Option.some_ne_none operation, Option.some_ne_none operation⟩
  · exact controlled.running

/-! ### The surplus of a failed call -/

def Reached (state : State) : Prop :=
  (∃ stages, Staged state stages) ∧ ∀ direction, state.present direction = true

theorem staged_step {state next : State} {action : Action}
    (invariant : ∃ stages, Staged state stages)
    (stepped : step state action = some next) : ∃ stages, Staged next stages := by
  obtain ⟨stages, staged⟩ := invariant
  cases action with
  | initiate direction result =>
      obtain ⟨_, _, free, rfl⟩ := step_initiate.mp stepped
      exact ⟨_, staged_initiate staged (staged.idle_of_outstanding free) result⟩
  | harvest events =>
      obtain ⟨_, _, _, rfl⟩ := step_harvest.mp stepped
      exact ⟨stages, fun direction => ⟨(staged.stage direction).outstanding,
        (staged.stage direction).react, (staged.stage direction).complete,
        (staged.stage direction).strandTasks⟩, staged.otherStrand⟩
  | handle result =>
      obtain ⟨_, events, _, rfl⟩ := step_handle.mp stepped
      exact ⟨stages, staged_handle staged events result⟩
  | runTask index fin =>
      obtain ⟨_, task, _, rfl⟩ := step_runTask.mp stepped
      cases found : (state.event task.direction).react with
      | some operation =>
          exact ⟨_, staged_runTask staged (staged.pending_of_react found)⟩
      | none =>
          rw [runTask_none found]
          exact ⟨stages, fun direction => ⟨(staged.stage direction).outstanding,
            (staged.stage direction).react, (staged.stage direction).complete,
            (staged.stage direction).strandTasks⟩, staged.otherStrand⟩
  | strandStep strand =>
      obtain ⟨_, direction, rest, queued, rfl⟩ := step_strandStep.mp stepped
      obtain ⟨rfl, completion, completing, _⟩ := staged.completing_of_queued queued
      exact ⟨_, staged_runComplete staged queued completing⟩

theorem present_step {state next : State} {action : Action}
    (stepped : step state action = some next) : next.present = state.present := by
  cases action with
  | initiate direction result =>
      obtain ⟨_, _, _, rfl⟩ := step_initiate.mp stepped
      simp only [initiate, arm, forCompletion]
      split
      · rfl
      · rfl
  | harvest events =>
      obtain ⟨_, _, _, rfl⟩ := step_harvest.mp stepped
      rfl
  | handle result =>
      obtain ⟨_, events, _, rfl⟩ := step_handle.mp stepped
      simp only [handle, arm]
      split
      · split <;> rfl
      · rfl
  | runTask index fin =>
      obtain ⟨_, task, _, rfl⟩ := step_runTask.mp stepped
      unfold runTask
      split <;> rfl
  | strandStep strand =>
      obtain ⟨_, direction, rest, _, rfl⟩ := step_strandStep.mp stepped
      unfold runComplete
      split <;> rfl

theorem reached_step {state next : State} {action : Action}
    (reached : Reached state) (stepped : step state action = some next) :
    Reached next := by
  refine ⟨staged_step reached.1 stepped, ?_⟩
  rw [present_step stepped]
  exact reached.2

theorem reached_initTcp (strand : StrandId) : Reached (initTcp strand) :=
  ⟨⟨_, staged_init _ strand⟩, fun _ => rfl⟩

/-- The direction owns a bit or a task more than its stage accounts for. -/
def Surplus (state : State) (direction : Direction) : Prop :=
  ((state.event direction).react ≠ none ∧ 2 ≤ tokenCount state direction) ∨
    ((state.event direction).complete ≠ none ∧ 1 ≤ tokenCount state direction)

theorem Surplus.outstanding {state : State} {direction : Direction}
    (reached : Reached state) (surplus : Surplus state direction) :
    state.outstanding direction ≠ none := by
  obtain ⟨⟨stages, staged⟩, _⟩ := reached
  have stage := staged.stage direction
  intro free
  have idle := staged.idle_of_outstanding free
  rw [idle] at stage
  rcases surplus with ⟨stored, _⟩ | ⟨stored, _⟩
  · exact stored stage.react
  · exact stored stage.complete

theorem handle_tasks (state : State) (events : Events) (result : ErrorCode) :
    (handle state events result).tasks = state.tasks ++
      dispatches state.present (clearReported state.eventMask events) events result :=
  rfl

theorem handle_eventMask (state : State) (events : Events) (result : ErrorCode) :
    (handle state events result).eventMask =
      clearReported state.eventMask events := by
  simp only [handle, arm]
  split
  · split <;> rfl
  · rfl

/-- Handling a report never lowers the count: a cleared bit becomes a task. -/
theorem tokenCount_handle (state : State) (events : Events) (result : ErrorCode)
    (direction : Direction) (present : state.present direction = true) :
    tokenCount state direction ≤
      tokenCount (handle state events result) direction := by
  simp only [tokenCount, handle_tasks, handle_eventMask, tasksFor_append,
    clearReported_has, dispatches]
  split
  · rw [tasksFor_dispatchRearmError, if_pos present]
    have bounded := Bool.toNat_le (state.eventMask.has direction)
    omega
  · rw [tasksFor_dispatchReport]
    cases has events direction.bit with
    | false => simp
    | true =>
        have bounded := Bool.toNat_le (state.eventMask.has direction)
        simp only [Bool.not_true, Bool.and_false, Bool.toNat_false, if_true]
        omega

/-- A surplus survives every step of a trace-free run. -/
theorem surplus_step {state next : State} {action : Action}
    {direction : Direction} (reached : Reached state)
    (surplus : Surplus state direction) (stepped : step state action = some next)
    (traceFree : TraceFree next) : Surplus next direction := by
  have outstanding := surplus.outstanding reached
  obtain ⟨⟨stages, staged⟩, present⟩ := reached
  cases action with
  | initiate other result =>
      obtain ⟨_, _, free, rfl⟩ := step_initiate.mp stepped
      have different : direction ≠ other := by
        intro same
        subst direction
        exact outstanding free
      have laneEq :
          (initiate state other result).event direction = state.event direction ∧
            tokenCount (initiate state other result) direction =
              tokenCount state direction := by
        simp only [initiate, arm, forCompletion, tokenCount]
        split <;> simp [different]
      unfold Surplus
      rw [laneEq.1, laneEq.2]
      exact surplus
  | harvest events =>
      obtain ⟨_, _, _, rfl⟩ := step_harvest.mp stepped
      exact surplus
  | handle result =>
      obtain ⟨_, events, _, rfl⟩ := step_handle.mp stepped
      have grown := tokenCount_handle state events result direction
        (present direction)
      unfold Surplus
      rw [(handle_event state events result direction).1,
        (handle_event state events result direction).2]
      rcases surplus with ⟨stored, two⟩ | ⟨stored, one⟩
      · exact Or.inl ⟨stored, Nat.le_trans two grown⟩
      · exact Or.inr ⟨stored, Nat.le_trans one grown⟩
  | runTask index fin =>
      obtain ⟨_, task, found, rfl⟩ := step_runTask.mp stepped
      cases react : (state.event task.direction).react with
      | none =>
          have running := traceFree.running
          rw [runTask_none react] at running
          cases running
      | some operation =>
          have split := tasksFor_eraseIdx state.tasks index task found direction
          rw [runTask_some react]
          by_cases same : direction = task.direction
          · -- the closure is used up, the surplus passes to the completion
            subst direction
            rw [if_pos rfl] at split
            refine Or.inr ⟨by simp [forCompletion], ?_⟩
            rcases surplus with ⟨_, two⟩ | ⟨stored, _⟩
            · simp only [tokenCount, forCompletion] at two ⊢
              omega
            · have pending := staged.pending_of_react react
              rw [(staged.stage task.direction).complete, pending] at stored
              exact absurd rfl stored
          · rw [if_neg (Ne.symm same)] at split
            simpa only [Surplus, tokenCount, forCompletion,
              Function.update_of_ne same, split, Nat.add_zero] using surplus
  | strandStep strand =>
      obtain ⟨_, other, rest, queued, rfl⟩ := step_strandStep.mp stepped
      obtain ⟨rfl, completion, completing, found⟩ :=
        staged.completing_of_queued queued
      rw [runComplete_some found] at traceFree ⊢
      by_cases same : direction = other
      · -- the operation has ended: its bit or its task is now a trace
        subst direction
        have ended : Function.update state.outstanding other none other = none :=
          Function.update_self other none state.outstanding
        have one : 1 ≤ tokenCount state other := by
          rcases surplus with ⟨_, two⟩ | ⟨_, one⟩ <;> omega
        cases bit : state.eventMask.has other with
        | true => exact absurd ended (traceFree.mask other bit)
        | false =>
            have tasked : tasksFor state.tasks other ≠ 0 := by
              simp only [tokenCount, bit, Bool.toNat_false] at one
              omega
            have exists_task : ∃ task, task ∈ state.tasks ∧
                task.direction = other := by
              by_contra absent
              exact tasked ((tasksFor_eq_zero _ _).mpr
                (fun task member equal => absent ⟨task, member, equal⟩))
            obtain ⟨task, member, rfl⟩ := exists_task
            exact absurd ended (traceFree.dispatched task member).1
      · simpa only [Surplus, tokenCount, Function.update_of_ne same] using surplus

/-- A call that fails in a trace-free run leaves a surplus. -/
theorem surplus_of_failed {state next : State} {action : Action}
    (reached : Reached state) (failed : armSucceeds state action = false)
    (stepped : step state action = some next) (after : TraceFree next) :
    ∃ direction, Surplus next direction := by
  obtain ⟨⟨stages, staged⟩, present⟩ := reached
  cases action with
  | initiate direction result =>
      obtain ⟨_, _, _, rfl⟩ := step_initiate.mp stepped
      have error : result ≠ ec.OK := of_decide_eq_false failed
      refine ⟨direction, Or.inr ?_⟩
      simp only [initiate, arm, if_neg error, forCompletion, tokenCount,
        EventMask.has_setMask, decide_true, Bool.true_or, Bool.toNat_true,
        Function.update_self]
      exact ⟨Option.some_ne_none _, by omega⟩
  | harvest events => cases failed
  | runTask index fin => cases failed
  | strandStep strand => cases failed
  | handle result =>
      obtain ⟨_, events, pending, rfl⟩ := step_handle.mp stepped
      have fails :
          rearmFails (clearReported state.eventMask events) result = true := by
        simpa [armSucceeds, pending] using failed
      have nonzero : (clearReported state.eventMask events).nonzero = true := by
        simp only [rearmFails, Bool.and_eq_true] at fails
        exact fails.1
      obtain ⟨direction, left⟩ := (EventMask.nonzero_iff _).mp nonzero
      -- EBADF goes to the direction whose bit could not be armed
      have told : (⟨direction, EBADF⟩ : Dispatch) ∈
          (handle state events result).tasks := by
        rw [handle_tasks, dispatches, if_pos fails]
        exact List.mem_append_right _
          ((mem_dispatchRearmError _ _).mpr ⟨present direction, rfl⟩)
      refine ⟨direction, Or.inl ⟨(after.dispatched _ told).2, ?_⟩⟩
      simp only [tokenCount, handle_tasks, handle_eventMask, tasksFor_append,
        dispatches, if_pos fails, tasksFor_dispatchRearmError,
        if_pos (present direction), left, Bool.toNat_true]
      omega

/-! ### Runs -/

theorem surplus_of_run {state final : State} {actions : List Action}
    {direction : Direction} (reached : Reached state)
    (surplus : Surplus state direction)
    (meets : Runs.StatesMeet step TraceFree state actions)
    (executed : Runs.exec step state actions = some final) :
    Surplus final direction := by
  induction actions generalizing state with
  | nil =>
      have same : state = final := Option.some.inj executed
      exact same ▸ surplus
  | cons action rest ih =>
      obtain ⟨next, stepped, later⟩ := Runs.exec_cons_eq_some.mp executed
      have traceFree := meets.2 next stepped
      exact ih (reached_step reached stepped)
        (surplus_step reached surplus stepped traceFree.initial) traceFree later

/-- A trace-free run at whose end nothing is outstanding has no failed call. -/
theorem armSucceeds_of_traceFree {state final : State} {actions : List Action}
    (reached : Reached state)
    (meets : Runs.StatesMeet step TraceFree state actions)
    (executed : Runs.exec step state actions = some final)
    (finalReached : Reached final)
    (ended : ∀ direction, final.outstanding direction = none) :
    Runs.StepsMeet step (fun state action => armSucceeds state action = true)
      state actions := by
  induction actions generalizing state with
  | nil => trivial
  | cons action rest ih =>
      obtain ⟨next, stepped, later⟩ := Runs.exec_cons_eq_some.mp executed
      have traceFree := meets.2 next stepped
      have nextReached := reached_step reached stepped
      constructor
      · cases succeeds : armSucceeds state action with
        | true => exact succeeds
        | false =>
            obtain ⟨direction, surplus⟩ := surplus_of_failed reached
              succeeds stepped traceFree.initial
            have kept := surplus_of_run nextReached surplus traceFree later
            exact absurd (ended direction) (kept.outstanding finalReached)
      · intro other same
        rw [stepped] at same
        cases same
        exact ih nextReached traceFree later

/-- A run in which no arm fails is trace-free, and a run at whose end every
callback has started is trace-free only if no arm has failed. -/
theorem traceFree_iff_armSucceeds (strand : StrandId) (actions : List Action) :
    (Runs.StepsMeet step (fun state action => armSucceeds state action = true)
        (initTcp strand) actions →
      Runs.StatesMeet step TraceFree (initTcp strand) actions) ∧
    ∀ final, Runs.exec step (initTcp strand) actions = some final →
      (∀ direction, final.outstanding direction = none) →
      (Runs.StatesMeet step TraceFree (initTcp strand) actions ↔
        Runs.StepsMeet step (fun state action => armSucceeds state action = true)
          (initTcp strand) actions) := by
  have sufficient : Runs.StepsMeet step
      (fun state action => armSucceeds state action = true) (initTcp strand) actions →
      Runs.StatesMeet step TraceFree (initTcp strand) actions := by
    intro succeeds
    have meets : Runs.StatesMeet step
        (fun state => ∃ stages, Controlled state stages ∧ History state stages)
        (initTcp strand) actions :=
      Runs.statesMeet_of_preserved
        (fun _ _ _ held allowed stepped => disciplined_step held allowed stepped)
        ⟨_, controlled_init _ strand, history_init _ strand⟩ succeeds
    exact meets.imp (fun state invariant => by
      obtain ⟨stages, controlled, _⟩ := invariant
      exact traceFree_of_controlled controlled)
  refine ⟨sufficient, ?_⟩
  intro final executed ended
  constructor
  · intro meets
    have finalReached : Reached final :=
      Runs.exec_invariant (fun _ _ _ held stepped => reached_step held stepped)
        (reached_initTcp strand) executed
    exact armSucceeds_of_traceFree (reached_initTcp strand) meets executed
      finalReached ended
  · exact sufficient

/-- A send is answered, and a recv that fails to arm is told so. -/
def answeredThenRefused : List Action :=
  [.initiate .write ec.OK, .harvest EPOLLOUT, .handle ec.OK, .runTask 0 (ec.OK, 3),
    .strandStep 0, .initiate .read 12, .strandStep 0]

theorem answeredThenRefused_leavesTrace :
    ∃ final, Runs.exec step (initTcp 0) answeredThenRefused = some final ∧
      (∀ direction, final.outstanding direction = none) ∧
      Runs.StatesMeet step TraceFree (initTcp 0) (answeredThenRefused.take 5) ∧
      ¬Runs.StatesMeet step TraceFree (initTcp 0) answeredThenRefused := by
  have executed : (Runs.exec step (initTcp 0) answeredThenRefused).map
      (fun final => (final.outstanding .read, final.outstanding .write)) =
        some (none, none) := by
    decide
  obtain ⟨final, reached, none⟩ := Option.map_eq_some_iff.mp executed
  have ended : ∀ direction, final.outstanding direction = Option.none := by
    intro direction
    cases direction with
    | read => exact congrArg Prod.fst none
    | write => exact congrArg Prod.snd none
  have both := (traceFree_iff_armSucceeds 0 answeredThenRefused).2 final reached ended
  refine ⟨final, reached, ended, ?_, ?_⟩
  · exact (traceFree_iff_armSucceeds 0 (answeredThenRefused.take 5)).1 (by decide)
  · intro traceFree
    have refuted : ¬Runs.StepsMeet step (fun state action => armSucceeds state action = true)
        (initTcp 0) answeredThenRefused := by
      decide
    exact refuted (both.mp traceFree)

/-- A recv fails to arm and its callback runs; a later send arms the leftover
bit, and the report for it is dispatched to the empty `react` of the read event. -/
def leftoverRun : List Action :=
  [.initiate .read 12, .strandStep 0, .initiate .write ec.OK, .harvest EPOLLIN,
    .handle ec.OK, .runTask 0 (ec.OK, 1)]

theorem failedArmLeavesNoTrace_false : ¬FailedArmLeavesNoTrace := by
  intro claimed
  have executed : (Runs.exec step (initTcp 0) leftoverRun).map State.terminated =
      some true := by
    decide
  obtain ⟨final, reached, terminated⟩ := Option.map_eq_some_iff.mp executed
  have traceFree := (claimed 0 leftoverRun).final reached
  rw [traceFree.running] at terminated
  cases terminated

end BabaIo.Descriptor
