import BabaIo.DescriptorStages
import BabaIo.Library.Simulation
import Mathlib.Data.List.Nodup

/-
A descriptor whose `epoll_ctl` calls succeed runs each callback exactly once.

The control invariant counts, for each direction, the bit in `event_mask` and
the reactor tasks: together one while the operation is pending, none otherwise.
A report that has not been handled holds only bits of the mask, and when an
initiation has re-armed the descriptor behind such a report, a bit outside the
report is left over, so handling it corrects the interest of the kernel.

What a callback is given is compared with the run itself: with the reactor task
that called the `react` of its operation, and the result of the fin call there.
-/

set_option autoImplicit false

namespace BabaIo.Descriptor

/-- No call of `epoll_impl::arm` that the action makes fails.  Handling a report
calls it only when bits are left over. -/
def armSucceeds (state : State) : Action → Bool
  | .initiate _ result => result = ec.OK
  | .handle result =>
      match state.report with
      | none => true
      | some events => !rearmFails (clearReported state.eventMask events) result
  | _ => true

def Stage.tokens : Stage → Nat
  | .pending _ => 1
  | _ => 0

def tokenCount (state : State) (direction : Direction) : Nat :=
  (state.eventMask.has direction).toNat + tasksFor state.tasks direction

structure Controlled (state : State) (stages : Direction → Stage) : Prop where
  running : state.terminated = false
  staged : Staged state stages
  tokens : ∀ direction, tokenCount state direction = (stages direction).tokens
  reported : ∀ events, state.report = some events → ∀ direction : Direction,
    has events direction.bit = true → state.eventMask.has direction = true
  interest : ∀ direction, state.interest.has direction = true →
    state.eventMask.has direction = true
  leftOver : ∀ events, state.report = some events → state.interest.nonzero = true →
    ∃ direction : Direction, state.eventMask.has direction = true ∧
      has events direction.bit = false
  armed : state.report = none → ∀ direction, state.eventMask.has direction = true →
    state.interest.has direction = true

theorem controlled_init (present : Direction → Bool) (strand : StrandId) :
    Controlled (init present strand) (fun _ => .idle) := by
  constructor
  · rfl
  · exact staged_init present strand
  · intro direction
    simp [tokenCount, init, Stage.tokens]
  · intro events none
    cases none
  · intro direction present
    simp [init] at present
  · intro events none
    cases none
  · intro _ direction present
    simp [init] at present

theorem Controlled.idle_tokens {state : State} {stages : Direction → Stage}
    (controlled : Controlled state stages) {direction : Direction}
    (idle : stages direction = .idle) :
    state.eventMask.has direction = false ∧ tasksFor state.tasks direction = 0 := by
  have counted := controlled.tokens direction
  rw [idle] at counted
  simp only [tokenCount, Stage.tokens] at counted
  cases bit : state.eventMask.has direction with
  | false => exact ⟨rfl, by omega⟩
  | true => rw [bit] at counted; simp at counted

/-- The task that a thread runs finds the `react` closure of its operation. -/
theorem Controlled.pending_of_task {state : State} {stages : Direction → Stage}
    (controlled : Controlled state stages) {index : Nat} {task : Dispatch}
    (found : state.tasks[index]? = some task) :
    ∃ operation, stages task.direction = .pending operation := by
  have counted := controlled.tokens task.direction
  have split := tasksFor_eraseIdx state.tasks index task found task.direction
  rw [if_pos rfl] at split
  simp only [tokenCount] at counted
  cases known : stages task.direction with
  | pending operation => exact ⟨operation, rfl⟩
  | idle => rw [known] at counted; simp only [Stage.tokens] at counted; omega
  | completing completion =>
      rw [known] at counted; simp only [Stage.tokens] at counted; omega

/-! ### One step keeps the control invariant -/

theorem controlled_initiate {state : State} {stages : Direction → Stage}
    (controlled : Controlled state stages) {direction : Direction}
    (idle : stages direction = .idle) :
    Controlled (initiate state direction ec.OK)
      (Function.update stages direction (.pending state.initiated.length)) := by
  have staged := staged_initiate controlled.staged idle ec.OK
  obtain ⟨unset, untasked⟩ := controlled.idle_tokens idle
  rw [initiatedStage, if_pos rfl] at staged
  constructor
  · exact controlled.running
  · exact staged
  · intro other
    have counted := controlled.tokens other
    simp only [tokenCount] at counted
    by_cases same : other = direction
    · subst other
      simp [tokenCount, initiate, arm, Stage.tokens, untasked]
    · simpa [tokenCount, initiate, arm, same] using counted
  · intro events pending other reported
    have kept := controlled.reported events pending other reported
    simp [initiate, arm, kept]
  · intro other present
    exact present
  · intro events pending _nonzero
    refine ⟨direction, by simp [initiate, arm], ?_⟩
    cases reported : has events direction.bit with
    | false => rfl
    | true =>
        have bit := controlled.reported events pending direction reported
        rw [unset] at bit
        cases bit
  · intro _ other present
    exact present

theorem controlled_harvest {state : State} {stages : Direction → Stage}
    (controlled : Controlled state stages) {events : Events}
    (allowed : reportable state.interest events = true) :
    Controlled { state with report := some events, interest := EventMask.empty }
      stages := by
  have staged : Staged { state with
      report := some events, interest := EventMask.empty } stages :=
    ⟨fun direction => ⟨(controlled.staged.stage direction).outstanding,
      (controlled.staged.stage direction).react,
      (controlled.staged.stage direction).complete,
      (controlled.staged.stage direction).strandTasks⟩,
      controlled.staged.otherStrand⟩
  constructor
  · exact controlled.running
  · exact staged
  · exact controlled.tokens
  · intro other same direction reported
    cases same
    exact controlled.interest direction (reportable_bit allowed reported)
  · intro direction present
    simp at present
  · intro other _ nonzero
    obtain ⟨direction, present⟩ := (EventMask.nonzero_iff _).mp nonzero
    simp at present
  · intro none
    cases none

theorem dispatches_ok (present : Direction → Bool) (mask : EventMask)
    (events : Events) : dispatches present mask events ec.OK = dispatchReport events := by
  have succeeds : rearmFails mask ec.OK = false := by
    simp [rearmFails]
  rw [dispatches, succeeds]
  rfl

/-- The result of a call that is not made, or succeeds, does not matter. -/
theorem handle_eq_ok (state : State) (events : Events) (result : ErrorCode)
    (succeeds : rearmFails (clearReported state.eventMask events) result = false) :
    handle state events result = handle state events ec.OK := by
  have tasksEq : dispatches state.present (clearReported state.eventMask events)
      events result = dispatchReport events := by
    rw [dispatches, succeeds]
    rfl
  simp only [handle, dispatches_ok, tasksEq]
  cases nonzero : (clearReported state.eventMask events).nonzero with
  | false => rfl
  | true =>
      have same : result = ec.OK := by
        simpa [rearmFails, nonzero] using succeeds
      rw [same]

theorem controlled_handle {state : State} {stages : Direction → Stage}
    (controlled : Controlled state stages) {events : Events}
    (pending : state.report = some events) :
    Controlled (handle state events ec.OK) stages := by
  have bits := controlled.reported events pending
  have staged := staged_handle controlled.staged events ec.OK
  have maskEq : (handle state events ec.OK).eventMask =
      clearReported state.eventMask events := by
    simp only [handle, arm]
    split <;> rfl
  have tasksEq : (handle state events ec.OK).tasks =
      state.tasks ++ dispatchReport events := by
    simp only [handle, dispatches_ok]
  have reportEq : (handle state events ec.OK).report = none := by
    simp only [handle, arm]
    split <;> rfl
  have interestEq : (handle state events ec.OK).interest =
      if (clearReported state.eventMask events).nonzero then
        clearReported state.eventMask events else state.interest := by
    simp only [handle, arm, if_pos]
    split <;> rfl
  have runningEq : (handle state events ec.OK).terminated = state.terminated := by
    simp only [handle, arm]
    split <;> rfl
  constructor
  · rw [runningEq, controlled.running]
  · exact staged
  · intro direction
    have counted := controlled.tokens direction
    have bit := bits direction
    simp only [tokenCount] at counted ⊢
    rw [maskEq, tasksEq, tasksFor_append, tasksFor_dispatchReport, clearReported_has]
    -- the task takes the place of the bit
    cases reported : has events direction.bit with
    | false => simpa using counted
    | true => rw [bit reported] at counted; simpa [Nat.add_comm] using counted
  · intro other none
    rw [reportEq] at none
    cases none
  · intro direction present
    rw [interestEq] at present
    rw [maskEq]
    cases nonzero : (clearReported state.eventMask events).nonzero with
    | true => simpa [nonzero] using present
    | false =>
        -- nothing is left over, so no initiation has re-armed the descriptor
        have known : state.interest.has direction = true := by
          simpa [nonzero] using present
        obtain ⟨left, kept, unreported⟩ := controlled.leftOver events pending
          ((EventMask.nonzero_iff _).mpr ⟨direction, known⟩)
        have cleared := (EventMask.nonzero_eq_false_iff _).mp nonzero left
        simp [kept, unreported] at cleared
  · intro other none
    rw [reportEq] at none
    cases none
  · intro _ direction present
    rw [maskEq] at present
    have nonzero : (clearReported state.eventMask events).nonzero = true :=
      (EventMask.nonzero_iff _).mpr ⟨direction, present⟩
    rw [interestEq, if_pos nonzero]
    exact present

theorem controlled_runTask {state : State} {stages : Direction → Stage}
    (controlled : Controlled state stages) {index : Nat} {task : Dispatch}
    {fin : ErrorCode × Int} (found : state.tasks[index]? = some task)
    {operation : Nat} (pending : stages task.direction = .pending operation) :
    Controlled (runTask state index task fin)
      (Function.update stages task.direction
        (.completing
          { operation := operation
            ec := (reactCall task operation fin).result.1
            bytes := (reactCall task operation fin).result.2 })) := by
  have staged : Staged (runTask state index task fin) _ :=
    staged_runTask controlled.staged pending
  have react : (state.event task.direction).react = some operation := by
    rw [(controlled.staged.stage task.direction).react, pending]
    rfl
  rw [runTask_some react] at staged ⊢
  refine ⟨controlled.running, staged, ?_, controlled.reported, controlled.interest,
    controlled.leftOver, controlled.armed⟩
  intro direction
  have counted := controlled.tokens direction
  have split := tasksFor_eraseIdx state.tasks index task found direction
  simp only [tokenCount, forCompletion] at counted ⊢
  by_cases same : direction = task.direction
  · subst direction
    rw [pending] at counted
    rw [if_pos rfl] at split
    simp only [Stage.tokens, Function.update_self] at counted ⊢
    omega
  · rw [if_neg (Ne.symm same)] at split
    rw [Function.update_of_ne same, ← counted, split]
    rfl

theorem controlled_runComplete {state : State} {stages : Direction → Stage}
    (controlled : Controlled state stages) {direction : Direction}
    {rest : List Direction}
    (queued : state.strandQueue state.strand = direction :: rest)
    {completion : Completion}
    (completing : stages direction = .completing completion) :
    Controlled (runComplete state state.strand direction rest)
      (Function.update stages direction .idle) := by
  have staged := staged_runComplete controlled.staged queued completing
  have found : (state.event direction).complete = some completion := by
    rw [(controlled.staged.stage direction).complete, completing]
    rfl
  rw [runComplete_some found] at staged ⊢
  refine ⟨controlled.running, staged, ?_, controlled.reported, controlled.interest,
    controlled.leftOver, controlled.armed⟩
  intro other
  have counted := controlled.tokens other
  by_cases same : other = direction
  · subst other
    rw [completing] at counted
    simpa [Stage.tokens, tokenCount] using counted
  · rw [Function.update_of_ne same]
    exact counted

/-! ### What a step leaves alone -/

structure InitiateKeeps (state next : State) (direction : Direction) : Prop where
  kind : next.kind = state.kind
  initiated : next.initiated = state.initiated ++ [direction]
  reactCalls : next.reactCalls = state.reactCalls
  callbacks : next.callbacks = state.callbacks
  strand : next.strand = state.strand
  report : next.report = state.report
  tasks : next.tasks = state.tasks

theorem initiate_keeps (state : State) (direction : Direction) (result : ErrorCode) :
    InitiateKeeps state (initiate state direction result) direction := by
  rw [initiate_eq]
  unfold arm
  split <;> exact ⟨rfl, rfl, rfl, rfl, rfl, rfl, rfl⟩

structure HandleKeeps (state next : State) : Prop where
  kind : next.kind = state.kind
  initiated : next.initiated = state.initiated
  reactCalls : next.reactCalls = state.reactCalls
  callbacks : next.callbacks = state.callbacks
  strand : next.strand = state.strand
  report : next.report = none

theorem handle_keeps (state : State) (events : Events) (result : ErrorCode) :
    HandleKeeps state (handle state events result) := by
  simp only [handle, arm]
  split
  · split <;> exact ⟨rfl, rfl, rfl, rfl, rfl, rfl⟩
  · exact ⟨rfl, rfl, rfl, rfl, rfl, rfl⟩

/-! ### The history of calls -/

def Callback.Reports (callback : Callback) (kind : EventKind) (call : ReactCall) : Prop :=
  call.direction = callback.direction ∧ call.operation = callback.operation ∧
    (callback.ec, callback.bytes) = callbackArguments kind call.result.1 call.result.2

structure History (state : State) (stages : Direction → Stage) : Prop where
  initiated : ∀ call, call ∈ state.reactCalls →
    state.initiated[call.operation]? = some call.direction
  reactOnce : (state.reactCalls.map ReactCall.operation).Nodup
  pending : ∀ direction operation, stages direction = .pending operation →
    state.initiated[operation]? = some direction ∧
      ∀ call, call ∈ state.reactCalls → call.operation ≠ operation
  completing : ∀ direction completion, stages direction = .completing completion →
    (∃ call, call ∈ state.reactCalls ∧ call.direction = direction ∧
      call.operation = completion.operation ∧
      call.result = (completion.ec, completion.bytes)) ∧
      ∀ callback, callback ∈ state.callbacks →
        callback.operation ≠ completion.operation
  callbackOnce : (state.callbacks.map Callback.operation).Nodup
  reports : ∀ callback, callback ∈ state.callbacks →
    callback.strand = state.strand ∧
      ∃ call, call ∈ state.reactCalls ∧
        callback.Reports (state.kind callback.direction) call

theorem history_init (present : Direction → Bool) (strand : StrandId) :
    History (init present strand) (fun _ => .idle) := by
  constructor
  · intro call absent
    cases absent
  · exact List.nodup_nil
  · intro direction operation impossible
    cases impossible
  · intro direction completion impossible
    cases impossible
  · exact List.nodup_nil
  · intro callback absent
    cases absent

theorem getElem?_append_of_some {Item : Type*} {items : List Item} {index : Nat}
    {item : Item} (found : items[index]? = some item) (more : List Item) :
    (items ++ more)[index]? = some item := by
  have inside : index < items.length := by
    by_contra outside
    rw [List.getElem?_eq_none (by omega)] at found
    cases found
  rw [List.getElem?_append_left inside, found]

theorem history_initiate {state : State} {stages : Direction → Stage}
    (history : History state stages) (direction : Direction) :
    History (initiate state direction ec.OK)
      (Function.update stages direction (.pending state.initiated.length)) := by
  constructor
  · intro call member
    exact getElem?_append_of_some (history.initiated call member) [direction]
  · exact history.reactOnce
  · intro other operation pending
    by_cases same : other = direction
    · subst other
      rw [Function.update_self] at pending
      cases pending
      refine ⟨List.getElem?_concat_length, ?_⟩
      intro call member equal
      have known := history.initiated call member
      rw [equal, List.getElem?_eq_none (Nat.le_refl _)] at known
      cases known
    · rw [Function.update_of_ne same] at pending
      obtain ⟨known, uncalled⟩ := history.pending other operation pending
      exact ⟨getElem?_append_of_some known [direction], uncalled⟩
  · intro other completion completing
    by_cases same : other = direction
    · subst other
      rw [Function.update_self] at completing
      cases completing
    · rw [Function.update_of_ne same] at completing
      exact history.completing other completion completing
  · exact history.callbackOnce
  · exact history.reports

theorem history_runTask {state : State} {stages : Direction → Stage}
    (staged : Staged state stages) (history : History state stages)
    {index : Nat} {task : Dispatch} {fin : ErrorCode × Int} {operation : Nat}
    (pending : stages task.direction = .pending operation) :
    History (runTask state index task fin)
      (Function.update stages task.direction
        (.completing
          { operation := operation
            ec := (reactCall task operation fin).result.1
            bytes := (reactCall task operation fin).result.2 })) := by
  have react : (state.event task.direction).react = some operation := by
    rw [(staged.stage task.direction).react, pending]
    rfl
  obtain ⟨known, uncalled⟩ := history.pending task.direction operation pending
  rw [runTask_some react]
  constructor
  · intro call member
    rcases List.mem_append.mp member with earlier | added
    · exact history.initiated call earlier
    · rw [List.mem_singleton.mp added]
      exact known
  · change (List.map ReactCall.operation
      (state.reactCalls ++ [reactCall task operation fin])).Nodup
    rw [List.map_append, List.nodup_append]
    refine ⟨history.reactOnce, List.nodup_singleton _, ?_⟩
    intro earlier member last added equal
    obtain ⟨call, present, rfl⟩ := List.mem_map.mp member
    have lastEq : last = operation := List.mem_singleton.mp added
    exact uncalled call present (equal.trans lastEq)
  · intro other otherOperation otherPending
    have different : other ≠ task.direction := by
      intro same
      subst other
      rw [Function.update_self] at otherPending
      cases otherPending
    rw [Function.update_of_ne different] at otherPending
    obtain ⟨otherKnown, otherUncalled⟩ :=
      history.pending other otherOperation otherPending
    refine ⟨otherKnown, ?_⟩
    intro call member equal
    rcases List.mem_append.mp member with earlier | added
    · exact otherUncalled call earlier equal
    · rw [List.mem_singleton.mp added] at equal
      change operation = otherOperation at equal
      rw [← equal, known] at otherKnown
      exact different (Option.some.inj otherKnown).symm
  · intro other completion completing
    by_cases same : other = task.direction
    · subst other
      rw [Function.update_self] at completing
      cases completing
      refine ⟨⟨reactCall task operation fin, List.mem_append_right _
        List.mem_cons_self, rfl, rfl, rfl⟩, ?_⟩
      intro callback member equal
      obtain ⟨_, call, present, _, sameOperation, _⟩ :=
        history.reports callback member
      exact uncalled call present (sameOperation.trans equal)
    · rw [Function.update_of_ne same] at completing
      obtain ⟨⟨call, member, facts⟩, fresh⟩ :=
        history.completing other completion completing
      exact ⟨⟨call, List.mem_append_left _ member, facts⟩, fresh⟩
  · exact history.callbackOnce
  · intro callback member
    obtain ⟨strandEq, call, present, facts⟩ := history.reports callback member
    exact ⟨strandEq, call, List.mem_append_left _ present, facts⟩

theorem history_runComplete {state : State} {stages : Direction → Stage}
    (staged : Staged state stages) (history : History state stages)
    {direction : Direction} {rest : List Direction} {completion : Completion}
    (completing : stages direction = .completing completion) :
    History (runComplete state state.strand direction rest)
      (Function.update stages direction .idle) := by
  have found : (state.event direction).complete = some completion := by
    rw [(staged.stage direction).complete, completing]
    rfl
  obtain ⟨⟨call, called, callDirection, callOperation, callResult⟩, fresh⟩ :=
    history.completing direction completion completing
  rw [runComplete_some found]
  constructor
  · exact history.initiated
  · exact history.reactOnce
  · intro other operation pending
    have different : other ≠ direction := by
      intro same
      subst other
      rw [Function.update_self] at pending
      cases pending
    rw [Function.update_of_ne different] at pending
    exact history.pending other operation pending
  · intro other otherCompletion otherCompleting
    have different : other ≠ direction := by
      intro same
      subst other
      rw [Function.update_self] at otherCompleting
      cases otherCompleting
    rw [Function.update_of_ne different] at otherCompleting
    obtain ⟨⟨otherCall, otherCalled, otherDirection, otherOperation, otherResult⟩,
      otherFresh⟩ := history.completing other otherCompletion otherCompleting
    refine ⟨⟨otherCall, otherCalled, otherDirection, otherOperation, otherResult⟩, ?_⟩
    intro callback member equal
    rcases List.mem_append.mp member with earlier | added
    · exact otherFresh callback earlier equal
    · -- the operation that just ended was initiated in the other direction
      rw [List.mem_singleton.mp added] at equal
      change completion.operation = otherCompletion.operation at equal
      have here := history.initiated call called
      have there := history.initiated otherCall otherCalled
      rw [callOperation, callDirection] at here
      rw [otherOperation, otherDirection, ← equal, here] at there
      exact different (Option.some.inj there).symm
  · change (List.map Callback.operation (state.callbacks ++ [_])).Nodup
    rw [List.map_append, List.nodup_append]
    refine ⟨history.callbackOnce, List.nodup_singleton _, ?_⟩
    intro earlier member last added equal
    obtain ⟨callback, present, rfl⟩ := List.mem_map.mp member
    have lastEq : last = completion.operation := List.mem_singleton.mp added
    exact fresh callback present (equal.trans lastEq)
  · intro callback member
    rcases List.mem_append.mp member with earlier | added
    · exact history.reports callback earlier
    · rw [List.mem_singleton.mp added]
      refine ⟨rfl, call, called, callDirection, callOperation, ?_⟩
      rw [callResult]

/-! ### Runs whose `epoll_ctl` calls succeed -/

theorem disciplined_step {state next : State} {action : Action}
    (invariant : ∃ stages, Controlled state stages ∧ History state stages)
    (succeeds : armSucceeds state action = true) (stepped : step state action = some next) :
    ∃ stages, Controlled next stages ∧ History next stages := by
  obtain ⟨stages, controlled, history⟩ := invariant
  cases action with
  | initiate direction result =>
      obtain ⟨_, _, free, rfl⟩ := step_initiate.mp stepped
      have idle := controlled.staged.idle_of_outstanding free
      obtain rfl : result = ec.OK := of_decide_eq_true succeeds
      exact ⟨_, controlled_initiate controlled idle,
        history_initiate history direction⟩
  | harvest events =>
      obtain ⟨_, _, allowed, rfl⟩ := step_harvest.mp stepped
      exact ⟨stages, controlled_harvest controlled allowed,
        ⟨history.initiated, history.reactOnce, history.pending,
          history.completing, history.callbackOnce, history.reports⟩⟩
  | handle result =>
      obtain ⟨_, events, pending, rfl⟩ := step_handle.mp stepped
      have unfailing :
          rearmFails (clearReported state.eventMask events) result = false := by
        simpa [armSucceeds, pending] using succeeds
      rw [handle_eq_ok state events result unfailing]
      refine ⟨stages, controlled_handle controlled pending, ?_⟩
      obtain ⟨kindEq, initiatedEq, callsEq, callbacksEq, strandEq, _⟩ :=
        handle_keeps state events ec.OK
      constructor
      · rw [initiatedEq, callsEq]; exact history.initiated
      · rw [callsEq]; exact history.reactOnce
      · rw [initiatedEq, callsEq]; exact history.pending
      · rw [callsEq, callbacksEq]; exact history.completing
      · rw [callbacksEq]; exact history.callbackOnce
      · rw [callsEq, callbacksEq, strandEq, kindEq]; exact history.reports
  | runTask index fin =>
      obtain ⟨_, task, found, rfl⟩ := step_runTask.mp stepped
      obtain ⟨operation, pending⟩ := controlled.pending_of_task found
      exact ⟨_, controlled_runTask controlled found pending,
        history_runTask controlled.staged history pending⟩
  | strandStep strand =>
      obtain ⟨_, direction, rest, queued, rfl⟩ := step_strandStep.mp stepped
      obtain ⟨rfl, completion, completing, _⟩ :=
        controlled.staged.completing_of_queued queued
      exact ⟨_, controlled_runComplete controlled queued completing,
        history_runComplete controlled.staged history completing⟩

/-- What a descriptor owes its user: no empty closure is called, no closure is
called twice, and each callback runs once, on the strand of the event, with the
result of the one `react` call of its own operation.  An operation that is still
outstanding is in exactly one place, and while no report is being handled its
bit is armed in the kernel. -/
structure CallbackDiscipline (state : State) : Prop where
  neverEmpty : state.terminated = false
  reactStored : ∀ task, task ∈ state.tasks → (state.event task.direction).react.isSome = true
  completeStored : ∀ strand direction rest, state.strandQueue strand = direction :: rest →
    (state.event direction).complete.isSome = true
  reactOnce : (state.reactCalls.map ReactCall.operation).Nodup
  callbackOnce : (state.callbacks.map Callback.operation).Nodup
  ownResult : ∀ callback, callback ∈ state.callbacks →
    callback.strand = state.strand ∧
      state.initiated[callback.operation]? = some callback.direction ∧
      ∃ call, call ∈ state.reactCalls ∧
        callback.Reports (state.kind callback.direction) call
  onePlace : ∀ direction operation, state.outstanding direction = some operation →
    (state.eventMask.has direction).toNat + tasksFor state.tasks direction +
      (state.strandQueue state.strand).count direction = 1
  notLost : state.report = none → ∀ direction,
    state.eventMask.has direction = true → state.interest.has direction = true

theorem callbackDiscipline_of_invariant {state : State} {stages : Direction → Stage}
    (controlled : Controlled state stages) (history : History state stages) :
    CallbackDiscipline state := by
  constructor
  · exact controlled.running
  · intro task member
    obtain ⟨index, found⟩ := List.mem_iff_getElem?.mp member
    obtain ⟨operation, pending⟩ := controlled.pending_of_task found
    rw [(controlled.staged.stage task.direction).react, pending]
    rfl
  · intro strand direction rest queued
    obtain ⟨rfl, completion, completing, _⟩ :=
      controlled.staged.completing_of_queued queued
    rw [(controlled.staged.stage direction).complete, completing]
    rfl
  · exact history.reactOnce
  · exact history.callbackOnce
  · intro callback member
    obtain ⟨strandEq, call, called, sameDirection, sameOperation, sameResult⟩ :=
      history.reports callback member
    refine ⟨strandEq, ?_, call, called, sameDirection, sameOperation, sameResult⟩
    rw [← sameOperation, ← sameDirection]
    exact history.initiated call called
  · intro direction operation outstanding
    have counted := controlled.tokens direction
    have queued := (controlled.staged.stage direction).strandTasks
    have agreed := (controlled.staged.stage direction).outstanding
    simp only [tokenCount] at counted
    rw [counted, queued]
    rw [outstanding] at agreed
    cases known : stages direction with
    | idle => rw [known] at agreed; cases agreed
    | pending pendingOperation => rfl
    | completing completion => rfl
  · exact controlled.armed

/-! ### What a run has done

The records of the state are compared with the actions of the run: which operations were
started, which `react` closures were called with what, and which `complete` closures. -/

/-- A call of `react` by a task thread: the operation whose closure it finds, and what the
fin call returns should it be made. -/
structure Reaction where
  direction : Direction
  operation : Option Nat
  code : ErrorCode
  fin : ErrorCode × Int
  deriving DecidableEq

def completed (state : State) : Action → Option (StrandId × Direction × Option Nat)
  | .strandStep strand => (state.strandQueue strand).head?.map fun direction =>
      (strand, direction, (state.event direction).complete.map Completion.operation)
  | _ => none

def Callback.place (callback : Callback) : StrandId × Direction × Option Nat :=
  (callback.strand, callback.direction, some callback.operation)

def Reaction.call (called : Reaction) : Option ReactCall :=
  called.operation.map fun operation =>
    reactCall ⟨called.direction, called.code⟩ operation called.fin

section Recording

variable {start final : State} {actions : List Action}

end Recording

end BabaIo.Descriptor
