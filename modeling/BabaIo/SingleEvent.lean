import BabaIo.TcpCallbacks

/-
A descriptor with one event, as an acceptor and a timer have it.

Its mask never holds a bit that the report does not name, so a failed re-arm finds no
second event to mislead, and an initiation that fails to arm leaves no interest behind.
What an operation has under way (the armed interest of the kernel, a report or a reactor
task) is one thing while the operation is pending, and nothing otherwise, whichever
system calls fail.
-/

set_option autoImplicit false

namespace BabaIo.Descriptor

abbrev initSingle (kind : EventKind) (strand : StrandId) : State :=
  { init (fun other => decide (other = kind.direction)) strand with kind := fun _ => kind }

/-- What the kernel, the reactor thread and the task threads hold of an operation. -/
def underWay (state : State) : Nat :=
  state.interest.nonzero.toNat + state.report.isSome.toNat + state.tasks.length

def singleStage (direction : Direction) (stage : Stage) : Direction → Stage :=
  Function.update (fun _ => .idle) direction stage

structure Single (state : State) (direction : Direction) (stage : Stage) : Prop where
  running : state.terminated = false
  present : state.present = fun other => decide (other = direction)
  staged : Staged state (singleStage direction stage)
  oneToken : underWay state = stage.tokens
  mask : ∀ other, other ≠ direction → state.eventMask.has other = false
  interest : ∀ other, other ≠ direction → state.interest.has other = false
  reported : ∀ events, state.report = some events → ∀ other, other ≠ direction →
    has events other.bit = false
  remembered : 0 < state.interest.nonzero.toNat + state.report.isSome.toNat →
    state.eventMask.has direction = true
  tasks : ∀ task, task ∈ state.tasks → task.direction = direction

theorem single_init (kind : EventKind) (strand : StrandId) :
    Single (initSingle kind strand) kind.direction .idle := by
  constructor
  · rfl
  · rfl
  · have initial := staged_init (fun other => decide (other = kind.direction)) strand
    rw [← Function.update_eq_self kind.direction (fun _ : Direction => Stage.idle)] at initial
    refine ⟨fun direction => ?_, initial.otherStrand⟩
    have before := initial.stage direction
    exact ⟨before.outstanding, before.react, before.complete, before.strandTasks⟩
  · rfl
  · intro other _different
    exact EventMask.has_empty other
  · intro other _different
    exact EventMask.has_empty other
  · intro events impossible
    cases impossible
  · intro impossible
    exact absurd impossible (Nat.lt_irrefl 0)
  · intro task impossible
    cases impossible

theorem singleStage_self (direction : Direction) (stage : Stage) :
    singleStage direction stage direction = stage := by
  unfold singleStage
  rw [Function.update_self]

theorem Single.quiet {state : State} {direction : Direction} {stage : Stage}
    (single : Single state direction stage) (still : stage.tokens = 0) :
    state.interest.nonzero = false ∧ state.report = none ∧ state.tasks = [] := by
  have counted := single.oneToken
  rw [still] at counted
  unfold underWay at counted
  refine ⟨?_, ?_, ?_⟩
  · cases armed : state.interest.nonzero with
    | false => rfl
    | true => rw [armed] at counted; simp at counted
  · cases reported : state.report with
    | none => rfl
    | some events => rw [reported] at counted; simp at counted
  · exact List.length_eq_zero_iff.mp (by omega)

theorem Single.pending_of_underWay {state : State} {direction : Direction} {stage : Stage}
    (single : Single state direction stage) (positive : 0 < underWay state) :
    ∃ operation, stage = .pending operation := by
  rw [single.oneToken] at positive
  cases stage with
  | idle => cases positive
  | pending operation => exact ⟨operation, rfl⟩
  | completing completion => cases positive

/-- Of an event that is pending the kernel holds an interest that EPOLLIN or EPOLLOUT
meets, once neither the reactor thread nor a task thread has anything of it. -/
theorem Single.armed {state : State} {direction : Direction} {operation : Nat}
    (single : Single state direction (.pending operation)) (unreported : state.report = none)
    (untasked : state.tasks = []) :
    state.interest.nonzero = true ∧ state.interest.has direction = true := by
  have counted := single.oneToken
  unfold underWay at counted
  rw [unreported, untasked] at counted
  have armed : state.interest.nonzero = true := by
    cases known : state.interest.nonzero with
    | true => rfl
    | false => rw [known] at counted; cases counted
  refine ⟨armed, ?_⟩
  obtain ⟨other, present⟩ := (EventMask.nonzero_iff _).mp armed
  by_cases same : other = direction
  · rw [← same]
    exact present
  · rw [single.interest other same] at present
    cases present

/-! ### One step -/

theorem singleStage_update (direction : Direction) (stage next : Stage) :
    Function.update (singleStage direction stage) direction next =
      singleStage direction next := by
  unfold singleStage
  rw [Function.update_idem]

theorem single_initiate {state : State} {direction : Direction}
    (single : Single state direction .idle) (result : ErrorCode) :
    Single (initiate state direction result) direction
      (initiatedStage state.initiated.length result) := by
  obtain ⟨unarmed, unreported, untasked⟩ := single.quiet rfl
  have staged := staged_initiate single.staged (singleStage_self direction .idle) result
  rw [singleStage_update] at staged
  by_cases succeeded : result = ec.OK
  · subst result
    rw [initiatedStage, if_pos rfl] at staged ⊢
    have masked : ∀ other, other ≠ direction →
        (initiate state direction ec.OK).eventMask.has other = false := by
      intro other different
      simp [initiate, arm, single.mask other different, different]
    have armed : (initiate state direction ec.OK).interest.nonzero = true := by
      rw [EventMask.nonzero_iff]
      refine ⟨direction, ?_⟩
      simp [initiate, arm]
    constructor
    · exact single.running
    · exact single.present
    · exact staged
    · unfold underWay
      rw [armed]
      change 1 + state.report.isSome.toNat + state.tasks.length = 1
      rw [unreported, untasked]
      rfl
    · exact masked
    · exact masked
    · exact single.reported
    · intro _armed
      simp [initiate, arm]
    · exact single.tasks
  · rw [initiatedStage, if_neg succeeded] at staged ⊢
    have same : initiate state direction result =
        forCompletion (stored state direction) direction state.initiated.length result 0 := by
      rw [initiate_eq, if_neg succeeded, arm, if_neg succeeded]
    rw [same] at staged ⊢
    constructor
    · exact single.running
    · exact single.present
    · exact staged
    · exact single.oneToken
    · intro other different
      simp [forCompletion, stored, single.mask other different, different]
    · exact single.interest
    · exact single.reported
    · intro _armed
      simp [forCompletion, stored]
    · exact single.tasks

theorem single_harvest {state : State} {direction : Direction} {stage : Stage}
    (single : Single state direction stage) {events : Events} (free : state.report = none)
    (allowed : reportable state.interest events = true) :
    Single { state with report := some events, interest := EventMask.empty } direction
      stage := by
  have armed : state.interest.nonzero = true := by
    unfold reportable at allowed
    simp only [Bool.and_eq_true] at allowed
    exact allowed.1.1.1
  constructor
  · exact single.running
  · exact single.present
  · exact ⟨fun other => ⟨(single.staged.stage other).outstanding,
      (single.staged.stage other).react, (single.staged.stage other).complete,
      (single.staged.stage other).strandTasks⟩, single.staged.otherStrand⟩
  · have counted := single.oneToken
    unfold underWay at counted ⊢
    rw [armed, free] at counted
    exact counted
  · exact single.mask
  · intro other _different
    exact EventMask.has_empty other
  · intro other same other' different
    cases same
    cases reported : has events other'.bit with
    | false => rfl
    | true =>
        have present := reportable_bit allowed reported
        rw [single.interest other' different] at present
        cases present
  · intro _positive
    apply single.remembered
    rw [armed, Bool.toNat_true]
    omega
  · exact single.tasks

theorem dispatchReport_single {events : Events} {direction : Direction}
    (only : ∀ other, other ≠ direction → has events other.bit = false) :
    dispatchReport events =
      if has events direction.bit then [⟨direction, reportCode events direction⟩] else [] := by
  cases direction with
  | read =>
      have unwritable : has events EPOLLOUT = false := only .write (by decide)
      unfold dispatchReport
      rw [unwritable, if_neg Bool.false_ne_true, List.append_nil]
      rfl
  | write =>
      have unreadable : has events EPOLLIN = false := only .read (by decide)
      unfold dispatchReport
      rw [unreadable, if_neg Bool.false_ne_true, List.nil_append]
      rfl

theorem dispatchRearmError_single {present : Direction → Bool} {direction : Direction}
    (only : present = fun other => decide (other = direction)) :
    dispatchRearmError present = [⟨direction, EBADF⟩] := by
  subst only
  cases direction <;> rfl

theorem single_handle {state : State} {direction : Direction} {stage : Stage}
    (single : Single state direction stage) {events : Events}
    (pending : state.report = some events) (result : ErrorCode) :
    Single (handle state events result) direction stage := by
  have staged := staged_handle single.staged events result
  have counted := single.oneToken
  obtain ⟨operation, rfl⟩ := single.pending_of_underWay (by
    unfold underWay
    rw [pending, Option.isSome_some, Bool.toNat_true]
    omega)
  unfold underWay at counted
  rw [pending] at counted
  have unarmed : state.interest.nonzero = false := by
    cases armed : state.interest.nonzero with
    | false => rfl
    | true =>
        simp only [armed, Bool.toNat_true, Option.isSome_some, Stage.tokens] at counted
        omega
  have untasked : state.tasks = [] := by
    rw [unarmed] at counted
    simpa [Stage.tokens] using counted
  have masked : state.eventMask.has direction = true :=
    single.remembered (by rw [pending]; simp)
  have only := single.reported events pending
  have left : ∀ other, (clearReported state.eventMask events).has other =
      (state.eventMask.has other && !has events other.bit) :=
    fun other => clearReported_has state.eventMask events other
  have others : ∀ other, other ≠ direction →
      (clearReported state.eventMask events).has other = false := by
    intro other different
    rw [left, single.mask other different, Bool.false_and]
  cases reported : has events direction.bit with
  | true =>
      -- the mask is used up, so there is no re-arm
      have empty : (clearReported state.eventMask events).nonzero = false := by
        rw [EventMask.nonzero_eq_false_iff]
        intro other
        by_cases same : other = direction
        · subst other
          rw [left, reported, Bool.not_true, Bool.and_false]
        · exact others other same
      have tasksEq : dispatches state.present (clearReported state.eventMask events) events
          result = [⟨direction, reportCode events direction⟩] := by
        rw [dispatches, rearmFails, empty, Bool.false_and, if_neg Bool.false_ne_true,
          dispatchReport_single only, reported, if_pos rfl]
      have handled : handle state events result = { state with
          eventMask := clearReported state.eventMask events
          report := none
          tasks := [⟨direction, reportCode events direction⟩]
          event := (handle state events result).event } := by
        simp only [handle, empty, tasksEq, untasked]
        rfl
      rw [handled] at staged ⊢
      constructor
      · exact single.running
      · exact single.present
      · exact staged
      · unfold underWay
        simp [unarmed, Stage.tokens]
      · exact others
      · exact single.interest
      · intro _ impossible
        cases impossible
      · intro positive
        simp [unarmed] at positive
      · intro task member
        rw [List.mem_singleton.mp member]
  | false =>
      -- the bit is left over: the descriptor is armed again, or the event is told EBADF
      have nonzero : (clearReported state.eventMask events).nonzero = true := by
        rw [EventMask.nonzero_iff]
        refine ⟨direction, ?_⟩
        rw [left, masked, reported]
        rfl
      have stillMasked : (clearReported state.eventMask events).has direction = true := by
        rw [left, masked, reported]
        rfl
      by_cases succeeded : result = ec.OK
      · subst result
        have tasksEq : dispatches state.present (clearReported state.eventMask events) events
            ec.OK = [] := by
          rw [dispatches_ok, dispatchReport_single only, reported]
          rfl
        have handled : handle state events ec.OK = { state with
            eventMask := clearReported state.eventMask events
            report := none
            interest := clearReported state.eventMask events
            event := (handle state events ec.OK).event } := by
          simp only [handle, nonzero, tasksEq, untasked, if_true, arm]
          rfl
        rw [handled] at staged ⊢
        constructor
        · exact single.running
        · exact single.present
        · exact staged
        · unfold underWay
          simp [nonzero, untasked, Stage.tokens]
        · exact others
        · exact others
        · intro _ impossible
          cases impossible
        · intro _positive
          exact stillMasked
        · exact single.tasks
      · have tasksEq : dispatches state.present (clearReported state.eventMask events) events
            result = [⟨direction, EBADF⟩] := by
          have fails : rearmFails (clearReported state.eventMask events) result = true := by
            simp [rearmFails, nonzero, succeeded]
          rw [dispatches, fails, if_pos rfl, dispatchRearmError_single single.present]
        have handled : handle state events result = { state with
            eventMask := clearReported state.eventMask events
            report := none
            tasks := [⟨direction, EBADF⟩]
            event := (handle state events result).event } := by
          simp only [handle, nonzero, tasksEq, untasked, if_true, arm, if_neg succeeded]
          rfl
        rw [handled] at staged ⊢
        constructor
        · exact single.running
        · exact single.present
        · exact staged
        · unfold underWay
          simp [unarmed, Stage.tokens]
        · exact others
        · exact single.interest
        · intro _ impossible
          cases impossible
        · intro positive
          simp [unarmed] at positive
        · intro task member
          rw [List.mem_singleton.mp member]

theorem single_runTask {state : State} {direction : Direction} {stage : Stage}
    (single : Single state direction stage) {index : Nat} {task : Dispatch}
    (found : state.tasks[index]? = some task) (fin : ErrorCode × Int) :
    ∃ operation, stage = .pending operation ∧ task.direction = direction ∧
      (state.event direction).react = some operation ∧
      Single (runTask state index task fin) direction
        (.completing
          { operation := operation
            ec := (reactCall task operation fin).result.1
            bytes := (reactCall task operation fin).result.2 }) := by
  have member := List.mem_of_getElem? found
  have positive : 0 < state.tasks.length := List.length_pos_of_mem member
  obtain ⟨operation, rfl⟩ := single.pending_of_underWay (by
    unfold underWay
    omega)
  have same : task.direction = direction := single.tasks task member
  subst same
  have react : (state.event task.direction).react = some operation := by
    rw [(single.staged.stage task.direction).react, singleStage_self]
    rfl
  have staged := @staged_runTask state _ single.staged index task fin operation
    (singleStage_self _ _)
  rw [singleStage_update] at staged
  have counted := single.oneToken
  unfold underWay at counted
  simp only [Stage.tokens] at counted
  have inside := (List.getElem?_eq_some_iff.mp found).1
  have erased : (state.tasks.eraseIdx index).length = 0 := by
    rw [List.length_eraseIdx_of_lt inside]
    omega
  refine ⟨operation, rfl, rfl, react, ?_⟩
  rw [runTask_some react] at staged ⊢
  constructor
  · exact single.running
  · exact single.present
  · exact staged
  · change state.interest.nonzero.toNat + state.report.isSome.toNat +
      (state.tasks.eraseIdx index).length = 0
    omega
  · exact single.mask
  · exact single.interest
  · exact single.reported
  · exact single.remembered
  · intro other inErased
    exact single.tasks other (List.mem_of_mem_eraseIdx inErased)

theorem single_runComplete {state : State} {direction : Direction} {stage : Stage}
    (single : Single state direction stage) {strand : StrandId} {queued : Direction}
    {rest : List Direction} (head : state.strandQueue strand = queued :: rest) :
    ∃ completion, stage = .completing completion ∧ queued = direction ∧
      strand = state.strand ∧ (state.event direction).complete = some completion ∧
      Single (runComplete state strand queued rest) direction .idle := by
  obtain ⟨rfl, completion, completing, found⟩ := single.staged.completing_of_queued head
  have same : queued = direction := by
    by_contra different
    unfold singleStage at completing
    rw [Function.update_of_ne different] at completing
    cases completing
  subst same
  rw [singleStage_self] at completing
  subst completing
  have staged := staged_runComplete single.staged head (singleStage_self _ _)
  rw [singleStage_update] at staged
  refine ⟨completion, rfl, rfl, rfl, found, ?_⟩
  rw [runComplete_some found] at staged ⊢
  constructor
  · exact single.running
  · exact single.present
  · exact staged
  · exact single.oneToken
  · exact single.mask
  · exact single.interest
  · exact single.reported
  · exact single.remembered
  · exact single.tasks

/-! ### The answers -/

/-- The callback was given the result of its operation's `react` call, or the error of
the call that failed to start it. -/
def Callback.Answers (callback : Callback) (kind : EventKind) (state : State) : Prop :=
  (∃ call, call ∈ state.reactCalls ∧ callback.Reports kind call) ∨
    (callback.ec ≠ ec.OK ∧ callback.bytes = 0 ∧
      ∀ call, call ∈ state.reactCalls → call.operation ≠ callback.operation)

structure Answered (state : State) (kind : EventKind) (stage : Stage) : Prop where
  event : state.kind = fun _ => kind
  inOrder : state.callbacks.map Callback.operation = List.range state.callbacks.length
  initiated : state.initiated.length =
    state.callbacks.length + stage.tokens + stage.strandTasks
  current : ∀ operation, stage.outstanding = some operation →
    operation = state.callbacks.length
  calls : ∀ call, call ∈ state.reactCalls →
    call.operation < state.callbacks.length + stage.strandTasks ∧
      call.direction = kind.direction
  directions : ∀ direction, direction ∈ state.initiated → direction = kind.direction
  reactOnce : (state.reactCalls.map ReactCall.operation).Nodup
  owned : ∀ callback, callback ∈ state.callbacks →
    callback.direction = kind.direction ∧ callback.strand = state.strand
  completing : ∀ completion, stage = .completing completion →
    (∃ call, call ∈ state.reactCalls ∧ call.direction = kind.direction ∧
      call.operation = completion.operation ∧
      call.result = (completion.ec, completion.bytes)) ∨
    (completion.ec ≠ ec.OK ∧ completion.bytes = 0 ∧
      ∀ call, call ∈ state.reactCalls → call.operation ≠ completion.operation)
  results : ∀ callback, callback ∈ state.callbacks → callback.Answers kind state

theorem answered_init (kind : EventKind) (strand : StrandId) :
    Answered (initSingle kind strand) kind .idle := by
  constructor
  · rfl
  · rfl
  · rfl
  · intro operation impossible
    cases impossible
  · intro call impossible
    cases impossible
  · intro direction impossible
    cases impossible
  · exact List.nodup_nil
  · intro callback impossible
    cases impossible
  · intro completion impossible
    cases impossible
  · intro callback impossible
    cases impossible

theorem Answered.operation_lt {state : State} {kind : EventKind} {stage : Stage}
    (answered : Answered state kind stage) {callback : Callback}
    (member : callback ∈ state.callbacks) : callback.operation < state.callbacks.length := by
  have mapped : callback.operation ∈ state.callbacks.map Callback.operation :=
    List.mem_map_of_mem member
  rw [answered.inOrder] at mapped
  exact List.mem_range.mp mapped

theorem Answered.of_same {state next : State} {kind : EventKind} {stage : Stage}
    (answered : Answered state kind stage) (event : next.kind = state.kind)
    (initiated : next.initiated = state.initiated) (calls : next.reactCalls = state.reactCalls)
    (callbacks : next.callbacks = state.callbacks) (strand : next.strand = state.strand) :
    Answered next kind stage := by
  constructor
  · rw [event]; exact answered.event
  · rw [callbacks]; exact answered.inOrder
  · rw [initiated, callbacks]; exact answered.initiated
  · rw [callbacks]; exact answered.current
  · rw [calls, callbacks]; exact answered.calls
  · rw [initiated]; exact answered.directions
  · rw [calls]; exact answered.reactOnce
  · rw [callbacks, strand]; exact answered.owned
  · rw [calls]; exact answered.completing
  · intro callback member
    rw [callbacks] at member
    unfold Callback.Answers
    rw [calls]
    exact answered.results callback member

theorem answered_initiate {state : State} {kind : EventKind}
    (answered : Answered state kind .idle) (result : ErrorCode) :
    Answered (initiate state kind.direction result) kind
      (initiatedStage state.initiated.length result) := by
  have counted : state.initiated.length = state.callbacks.length := answered.initiated
  obtain ⟨event, initiated, calls, callbacks, strand, _, _⟩ :=
    initiate_keeps state kind.direction result
  have older : ∀ call, call ∈ state.reactCalls → call.operation < state.callbacks.length :=
    fun call member => (answered.calls call member).1
  have stageTokens : (initiatedStage state.initiated.length result).tokens +
      (initiatedStage state.initiated.length result).strandTasks = 1 := by
    unfold initiatedStage
    split <;> rfl
  constructor
  · rw [event]; exact answered.event
  · rw [callbacks]; exact answered.inOrder
  · rw [initiated, callbacks, List.length_append, List.length_singleton]
    omega
  · intro operation outstanding
    have own : operation = state.initiated.length := by
      unfold initiatedStage at outstanding
      split at outstanding <;> exact (Option.some.inj outstanding).symm
    rw [callbacks, own, counted]
  · intro call member
    rw [calls] at member
    rw [callbacks]
    have before := older call member
    exact ⟨by omega, (answered.calls call member).2⟩
  · intro direction member
    rw [initiated] at member
    rcases List.mem_append.mp member with earlier | added
    · exact answered.directions direction earlier
    · exact List.mem_singleton.mp added
  · rw [calls]; exact answered.reactOnce
  · rw [callbacks, strand]; exact answered.owned
  · intro completion completing
    unfold initiatedStage at completing
    split at completing
    · cases completing
    · rename_i failed
      cases completing
      refine Or.inr ⟨failed, rfl, ?_⟩
      intro call member same
      rw [calls] at member
      have before := older call member
      change call.operation = state.initiated.length at same
      omega
  · intro callback member
    rw [callbacks] at member
    unfold Callback.Answers
    rw [calls]
    exact answered.results callback member

theorem answered_runTask {state : State} {kind : EventKind} {operation : Nat}
    (answered : Answered state kind (.pending operation)) {index : Nat}
    {task : Dispatch} {fin : ErrorCode × Int} (same : task.direction = kind.direction)
    (react : (state.event kind.direction).react = some operation) :
    Answered (runTask state index task fin) kind
      (.completing
        { operation := operation
          ec := (reactCall task operation fin).result.1
          bytes := (reactCall task operation fin).result.2 }) := by
  have current : operation = state.callbacks.length := answered.current operation rfl
  have older : ∀ call, call ∈ state.reactCalls → call.operation < state.callbacks.length :=
    fun call member => (answered.calls call member).1
  rw [← same] at react
  rw [runTask_some react]
  constructor
  · exact answered.event
  · exact answered.inOrder
  · exact answered.initiated
  · intro other outstanding
    have own : operation = other := Option.some.inj outstanding
    exact own.symm.trans current
  · intro call member
    change call.operation < state.callbacks.length + 1 ∧ _
    rcases List.mem_append.mp member with earlier | added
    · have before := older call earlier
      exact ⟨by omega, (answered.calls call earlier).2⟩
    · rw [List.mem_singleton.mp added]
      refine ⟨?_, same⟩
      change operation < _
      omega
  · exact answered.directions
  · change (List.map ReactCall.operation
      (state.reactCalls ++ [reactCall task operation fin])).Nodup
    rw [List.map_append, List.nodup_append]
    refine ⟨answered.reactOnce, List.nodup_singleton _, ?_⟩
    intro earlier member last added equal
    obtain ⟨call, present, rfl⟩ := List.mem_map.mp member
    have before := older call present
    have lastEq : last = operation := List.mem_singleton.mp added
    omega
  · exact answered.owned
  · intro completion completing
    cases completing
    exact Or.inl ⟨reactCall task operation fin,
      List.mem_append_right _ List.mem_cons_self, same, rfl, rfl⟩
  · intro callback member
    have below := answered.operation_lt member
    rcases answered.results callback member with ⟨call, present, reports⟩ |
      ⟨failed, none, uncalled⟩
    · exact Or.inl ⟨call, List.mem_append_left _ present, reports⟩
    · refine Or.inr ⟨failed, none, ?_⟩
      intro call inCalls equal
      rcases List.mem_append.mp inCalls with earlier | added
      · exact uncalled call earlier equal
      · rw [List.mem_singleton.mp added] at equal
        change operation = callback.operation at equal
        omega

theorem answered_runComplete {state : State} {kind : EventKind}
    {completion : Completion} (answered : Answered state kind (.completing completion))
    {rest : List Direction}
    (found : (state.event kind.direction).complete = some completion) :
    Answered (runComplete state state.strand kind.direction rest) kind .idle := by
  have current : completion.operation = state.callbacks.length :=
    answered.current completion.operation rfl
  have event : state.kind kind.direction = kind := congrFun answered.event kind.direction
  rw [runComplete_some found, event]
  constructor
  · exact answered.event
  · change List.map Callback.operation (state.callbacks ++ [_]) = List.range _
    rw [List.map_append, answered.inOrder, List.length_append, List.length_singleton,
      List.range_succ, List.map_singleton, current]
  · change state.initiated.length = (state.callbacks ++ [_]).length
    rw [answered.initiated, List.length_append, List.length_singleton]
    rfl
  · intro operation impossible
    cases impossible
  · intro call member
    have before := answered.calls call member
    change call.operation < (state.callbacks ++ [_]).length ∧ _
    rw [List.length_append, List.length_singleton]
    exact before
  · exact answered.directions
  · exact answered.reactOnce
  · intro callback member
    rcases List.mem_append.mp member with earlier | added
    · exact answered.owned callback earlier
    · rw [List.mem_singleton.mp added]
      exact ⟨rfl, rfl⟩
  · intro other impossible
    cases impossible
  · intro callback member
    rcases List.mem_append.mp member with earlier | added
    · exact answered.results callback earlier
    · rw [List.mem_singleton.mp added]
      rcases answered.completing completion rfl with
        ⟨call, present, callDirection, callOperation, callResult⟩ |
        ⟨failed, none, uncalled⟩
      · exact Or.inl ⟨call, present, callDirection, callOperation, by rw [callResult]⟩
      · refine Or.inr ⟨?_, ?_, uncalled⟩
        · rw [callbackArguments_failed failed]
          exact failed
        · change (callbackArguments kind completion.ec completion.bytes).2 = 0
          rw [none]
          exact callbackArguments_none kind _

/-! ### Every run -/

/-- What a descriptor with one event owes its user: no empty closure is called, the
operations are answered one after the other, each with its own result, and an operation
that is not answered yet is in exactly one place. -/
structure AnswersInOrder (kind : EventKind) (state : State) : Prop where
  neverEmpty : state.terminated = false
  inOrder : state.callbacks.map Callback.operation = List.range state.callbacks.length
  unanswered : state.initiated.length =
    state.callbacks.length + (state.outstanding kind.direction).isSome.toNat
  reactOnce : (state.reactCalls.map ReactCall.operation).Nodup
  ownResult : ∀ callback, callback ∈ state.callbacks →
    callback.direction = kind.direction ∧ callback.strand = state.strand ∧
      callback.Answers kind state
  onePlace : underWay state + (state.strandQueue state.strand).count kind.direction =
    (state.outstanding kind.direction).isSome.toNat

theorem Stage.isSome_outstanding (stage : Stage) :
    stage.outstanding.isSome.toNat = stage.tokens + stage.strandTasks := by
  cases stage <;> rfl

theorem Answered.answersInOrder {kind : EventKind} {state : State} {stage : Stage}
    (answered : Answered state kind stage) (single : Single state kind.direction stage) :
    AnswersInOrder kind state := by
  have agreed := single.staged.stage kind.direction
  rw [singleStage_self] at agreed
  constructor
  · exact single.running
  · exact answered.inOrder
  · rw [agreed.outstanding, stage.isSome_outstanding, answered.initiated, Nat.add_assoc]
  · exact answered.reactOnce
  · intro callback member
    obtain ⟨own, strand⟩ := answered.owned callback member
    exact ⟨own, strand, answered.results callback member⟩
  · rw [single.oneToken, agreed.strandTasks, agreed.outstanding, stage.isSome_outstanding]

/-! ### Failed arms -/

/-- An operation whose `react` is not called is told the code of its own failed arm. -/
structure ArmAnswers (starts : List (Direction × ErrorCode)) (kind : EventKind)
    (state : State) (stage : Stage) : Prop where
  started : state.initiated = starts.map Prod.fst
  completing : ∀ completion, stage = .completing completion →
    (∀ call, call ∈ state.reactCalls → call.operation ≠ completion.operation) →
      starts[completion.operation]? = some (kind.direction, completion.ec)
  answered : ∀ callback, callback ∈ state.callbacks →
    (∀ call, call ∈ state.reactCalls → call.operation ≠ callback.operation) →
      starts[callback.operation]? = some (kind.direction, callback.ec)

theorem ArmAnswers.of_same {starts : List (Direction × ErrorCode)} {kind : EventKind}
    {state next : State} {stage : Stage} (arms : ArmAnswers starts kind state stage)
    (initiated : next.initiated = state.initiated) (calls : next.reactCalls = state.reactCalls)
    (callbacks : next.callbacks = state.callbacks) : ArmAnswers starts kind next stage := by
  constructor
  · rw [initiated]; exact arms.started
  · rw [calls]; exact arms.completing
  · rw [calls, callbacks]; exact arms.answered

end BabaIo.Descriptor
