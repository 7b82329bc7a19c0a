import BabaIo.Descriptor
import Mathlib.Tactic.Common

/-
The life of one operation on a descriptor: idle, pending (its `react` closure is
stored), completing (its `complete` closure waits on the strand).

Every state of the descriptor agrees with one stage for each direction, whether
or not system calls succeed, and each action moves at most one direction to its
next stage.  Where the operation's bit and its reactor task are is left open.
-/

set_option autoImplicit false

namespace BabaIo.Descriptor

inductive Stage where
  | idle
  | pending (operation : Nat)
  | completing (completion : Completion)
  deriving DecidableEq

namespace Stage

def outstanding : Stage → Option Nat
  | .idle => none
  | .pending operation => some operation
  | .completing completion => some completion.operation

def react : Stage → Option Nat
  | .pending operation => some operation
  | _ => none

def complete : Stage → Option Completion
  | .completing completion => some completion
  | _ => none

def strandTasks : Stage → Nat
  | .completing _ => 1
  | _ => 0

end Stage

structure InStage (state : State) (direction : Direction) (stage : Stage) : Prop where
  outstanding : state.outstanding direction = stage.outstanding
  react : (state.event direction).react = stage.react
  complete : (state.event direction).complete = stage.complete
  strandTasks :
    (state.strandQueue state.strand).count direction = stage.strandTasks

/-- The stages agree with the state, and only the strand of the owner is used. -/
structure Staged (state : State) (stages : Direction → Stage) : Prop where
  stage : ∀ direction, InStage state direction (stages direction)
  otherStrand : ∀ strand, strand ≠ state.strand → state.strandQueue strand = []

/-! ### Inversion of the step function -/

theorem step_initiate {state next : State} {direction : Direction}
    {result : ErrorCode} :
    step state (.initiate direction result) = some next ↔
      state.terminated = false ∧ state.present direction = true ∧
        state.outstanding direction = none ∧
        initiate state direction result = next := by
  unfold step
  cases running : state.terminated <;> cases owned : state.present direction <;>
    cases free : state.outstanding direction <;> simp [owned, free]

theorem step_harvest {state next : State} {events : Events} :
    step state (.harvest events) = some next ↔
      state.terminated = false ∧ state.report = none ∧
        reportable state.interest events = true ∧
        { state with report := some events, interest := EventMask.empty } = next := by
  unfold step
  cases running : state.terminated <;> cases reported : state.report <;>
    cases allowed : reportable state.interest events <;> simp [allowed]

theorem step_handle {state next : State} {result : ErrorCode} :
    step state (.handle result) = some next ↔
      state.terminated = false ∧
        ∃ events, state.report = some events ∧
          handle state events result = next := by
  unfold step
  cases running : state.terminated <;> cases reported : state.report <;> simp

theorem step_runTask {state next : State} {index : Nat} {fin : ErrorCode × Int} :
    step state (.runTask index fin) = some next ↔
      state.terminated = false ∧
        ∃ task, state.tasks[index]? = some task ∧
          runTask state index task fin = next := by
  unfold step
  cases running : state.terminated <;> cases found : state.tasks[index]? <;>
    simp [found]

theorem step_strandStep {state next : State} {strand : StrandId} :
    step state (.strandStep strand) = some next ↔
      state.terminated = false ∧
        ∃ direction rest, state.strandQueue strand = direction :: rest ∧
          runComplete state strand direction rest = next := by
  unfold step
  cases running : state.terminated <;> cases queued : state.strandQueue strand <;>
    simp [queued]

/-! ### Reachable states are staged -/

theorem staged_init (present : Direction → Bool) (strand : StrandId) :
    Staged (init present strand) (fun _ => .idle) := by
  constructor
  · intro direction
    exact ⟨rfl, rfl, rfl, rfl⟩
  · intro other _different
    rfl

theorem staged_arm {state : State} {stages : Direction → Stage}
    (staged : Staged state stages) (result : ErrorCode) :
    Staged (arm state result) stages := by
  unfold arm
  split
  · exact ⟨fun direction => ⟨(staged.stage direction).outstanding,
      (staged.stage direction).react, (staged.stage direction).complete,
      (staged.stage direction).strandTasks⟩, staged.otherStrand⟩
  · exact staged

theorem staged_forCompletion {state : State} {stages : Direction → Stage}
    (staged : Staged state stages) {direction : Direction} {operation : Nat}
    (pending : stages direction = .pending operation)
    (code : ErrorCode) (bytes : Int) :
    Staged (forCompletion state direction operation code bytes)
      (Function.update stages direction
        (.completing { operation := operation, ec := code, bytes := bytes })) := by
  constructor
  · intro other
    have before := staged.stage other
    by_cases same : other = direction
    · subst other
      rw [pending] at before
      constructor
      · simpa [forCompletion, Stage.outstanding] using before.outstanding
      · simp [forCompletion, Stage.react]
      · simp [forCompletion, Stage.complete]
      · simpa [forCompletion, Stage.strandTasks] using before.strandTasks
    · rw [Function.update_of_ne same]
      constructor
      · simpa [forCompletion] using before.outstanding
      · simpa [forCompletion, Function.update_of_ne same] using before.react
      · simpa [forCompletion, Function.update_of_ne same] using before.complete
      · simpa [forCompletion, List.count_cons, Ne.symm same] using
          before.strandTasks
  · intro strand different
    change strand ≠ state.strand at different
    simpa [forCompletion, Function.update_of_ne different] using
      staged.otherStrand strand different

/-- The part of `initiate` before the descriptor is armed. -/
def stored (state : State) (direction : Direction) : State :=
  { state with
    initiated := state.initiated ++ [direction]
    outstanding :=
      Function.update state.outstanding direction (some state.initiated.length)
    event := Function.update state.event direction
      { state.event direction with react := some state.initiated.length }
    eventMask := state.eventMask.setMask direction }

theorem initiate_eq (state : State) (direction : Direction) (result : ErrorCode) :
    initiate state direction result =
      if result = ec.OK then arm (stored state direction) result
      else forCompletion (arm (stored state direction) result) direction
        state.initiated.length result 0 := rfl

theorem staged_stored {state : State} {stages : Direction → Stage}
    (staged : Staged state stages) {direction : Direction}
    (idle : stages direction = .idle) :
    Staged (stored state direction)
      (Function.update stages direction (.pending state.initiated.length)) := by
  constructor
  · intro other
    have before := staged.stage other
    by_cases same : other = direction
    · subst other
      rw [idle] at before
      constructor
      · simp [stored, Stage.outstanding]
      · simp [stored, Stage.react]
      · simpa [stored, Stage.complete] using before.complete
      · simpa [stored, Stage.strandTasks] using before.strandTasks
    · rw [Function.update_of_ne same]
      constructor
      · simpa [stored, Function.update_of_ne same] using before.outstanding
      · simpa [stored, Function.update_of_ne same] using before.react
      · simpa [stored, Function.update_of_ne same] using before.complete
      · simpa [stored] using before.strandTasks
  · exact staged.otherStrand

def initiatedStage (operation : Nat) (result : ErrorCode) : Stage :=
  if result = ec.OK then .pending operation
  else .completing { operation := operation, ec := result, bytes := 0 }

theorem staged_initiate {state : State} {stages : Direction → Stage}
    (staged : Staged state stages) {direction : Direction}
    (idle : stages direction = .idle) (result : ErrorCode) :
    Staged (initiate state direction result)
      (Function.update stages direction
        (initiatedStage state.initiated.length result)) := by
  have armed := staged_arm (staged_stored staged idle) result
  rw [initiate_eq]
  by_cases succeeded : result = ec.OK
  · simpa only [initiatedStage, if_pos succeeded] using armed
  · have completed := staged_forCompletion armed
      (Function.update_self direction _ stages) result 0
    simpa only [initiatedStage, if_neg succeeded, Function.update_idem]
      using completed

theorem Staged.idle_of_outstanding {state : State} {stages : Direction → Stage}
    (staged : Staged state stages) {direction : Direction}
    (free : state.outstanding direction = none) : stages direction = .idle := by
  have agreed := (staged.stage direction).outstanding
  rw [free] at agreed
  cases known : stages direction with
  | idle => rfl
  | pending operation => rw [known] at agreed; cases agreed
  | completing completion => rw [known] at agreed; cases agreed

theorem Staged.pending_of_react {state : State} {stages : Direction → Stage}
    (staged : Staged state stages) {direction : Direction} {operation : Nat}
    (found : (state.event direction).react = some operation) :
    stages direction = .pending operation := by
  have agreed := (staged.stage direction).react
  rw [found] at agreed
  cases known : stages direction with
  | idle => rw [known] at agreed; cases agreed
  | pending other =>
      rw [known] at agreed
      exact congrArg Stage.pending (Option.some.inj agreed).symm
  | completing completion => rw [known] at agreed; cases agreed

/-- A strand task of the owner's strand finds its `complete` closure stored. -/
theorem Staged.completing_of_queued {state : State} {stages : Direction → Stage}
    (staged : Staged state stages) {strand : StrandId} {direction : Direction}
    {rest : List Direction}
    (queued : state.strandQueue strand = direction :: rest) :
    strand = state.strand ∧ ∃ completion, stages direction = .completing completion ∧
      (state.event direction).complete = some completion := by
  have owner : strand = state.strand := by
    by_contra different
    rw [staged.otherStrand strand different] at queued
    cases queued
  subst strand
  have counted := (staged.stage direction).strandTasks
  rw [queued, List.count_cons_self] at counted
  refine ⟨rfl, ?_⟩
  cases known : stages direction with
  | idle => rw [known] at counted; cases counted
  | pending operation => rw [known] at counted; cases counted
  | completing completion =>
      refine ⟨completion, rfl, ?_⟩
      rw [(staged.stage direction).complete, known]
      rfl

theorem handle_event (state : State) (events : Events) (result : ErrorCode)
    (direction : Direction) :
    ((handle state events result).event direction).react =
        (state.event direction).react ∧
      ((handle state events result).event direction).complete =
        (state.event direction).complete := by
  simp only [handle]
  split <;> exact ⟨rfl, rfl⟩

theorem handle_frame (state : State) (events : Events) (result : ErrorCode) :
    (handle state events result).outstanding = state.outstanding ∧
      (handle state events result).strand = state.strand ∧
      (handle state events result).strandQueue = state.strandQueue := by
  simp only [handle, arm]
  split
  · split <;> exact ⟨rfl, rfl, rfl⟩
  · exact ⟨rfl, rfl, rfl⟩

theorem staged_handle {state : State} {stages : Direction → Stage}
    (staged : Staged state stages) (events : Events) (result : ErrorCode) :
    Staged (handle state events result) stages := by
  obtain ⟨outstandingEq, strandEq, queueEq⟩ := handle_frame state events result
  constructor
  · intro direction
    have before := staged.stage direction
    have eventEq := handle_event state events result direction
    exact
      { outstanding := by rw [outstandingEq, before.outstanding]
        react := by rw [eventEq.1, before.react]
        complete := by rw [eventEq.2, before.complete]
        strandTasks := by rw [strandEq, queueEq, before.strandTasks] }
  · intro strand different
    rw [strandEq] at different
    rw [queueEq, staged.otherStrand strand different]

theorem runTask_some {state : State} {index : Nat} {task : Dispatch}
    {fin : ErrorCode × Int} {operation : Nat}
    (found : (state.event task.direction).react = some operation) :
    runTask state index task fin =
      forCompletion
        { state with
          tasks := state.tasks.eraseIdx index
          reactCalls := state.reactCalls ++ [reactCall task operation fin] }
        task.direction operation (reactCall task operation fin).result.1
        (reactCall task operation fin).result.2 := by
  simp only [runTask, found]

theorem runTask_none {state : State} {index : Nat} {task : Dispatch}
    {fin : ErrorCode × Int} (empty : (state.event task.direction).react = none) :
    runTask state index task fin =
      { state with tasks := state.tasks.eraseIdx index, terminated := true } := by
  simp only [runTask, empty]

theorem staged_runTask {state : State} {stages : Direction → Stage}
    (staged : Staged state stages) {index : Nat} {task : Dispatch}
    {fin : ErrorCode × Int} {operation : Nat}
    (pending : stages task.direction = .pending operation) :
    Staged (runTask state index task fin)
      (Function.update stages task.direction
        (.completing
          { operation := operation
            ec := (reactCall task operation fin).result.1
            bytes := (reactCall task operation fin).result.2 })) := by
  have found : (state.event task.direction).react = some operation := by
    rw [(staged.stage task.direction).react, pending]
    rfl
  rw [runTask_some found]
  apply staged_forCompletion _ pending
  exact ⟨fun direction => ⟨(staged.stage direction).outstanding,
    (staged.stage direction).react, (staged.stage direction).complete,
    (staged.stage direction).strandTasks⟩, staged.otherStrand⟩

theorem runComplete_some {state : State} {strand : StrandId}
    {direction : Direction} {rest : List Direction} {completion : Completion}
    (found : (state.event direction).complete = some completion) :
    runComplete state strand direction rest =
      { state with
        strandQueue := Function.update state.strandQueue strand rest
        event := Function.update state.event direction
          { state.event direction with complete := none, hasActiveEvent := false }
        outstanding := Function.update state.outstanding direction none
        callbacks := state.callbacks ++
          [{ direction := direction
             operation := completion.operation
             ec := (callbackArguments (state.kind direction) completion.ec completion.bytes).1
             bytes := (callbackArguments (state.kind direction) completion.ec completion.bytes).2
             strand := strand }] } := by
  simp only [runComplete, found]

theorem staged_runComplete {state : State} {stages : Direction → Stage}
    (staged : Staged state stages) {direction : Direction} {rest : List Direction}
    (queued : state.strandQueue state.strand = direction :: rest)
    {completion : Completion} (completing : stages direction = .completing completion) :
    Staged (runComplete state state.strand direction rest)
      (Function.update stages direction .idle) := by
  have found : (state.event direction).complete = some completion := by
    rw [(staged.stage direction).complete, completing]
    rfl
  rw [runComplete_some found]
  constructor
  · intro other
    have before := staged.stage other
    have counted := before.strandTasks
    rw [queued] at counted
    by_cases same : other = direction
    · subst other
      rw [completing] at before counted
      constructor
      · simp [Stage.outstanding]
      · simpa [Stage.react] using before.react
      · simp [Stage.complete]
      · simpa [Stage.strandTasks] using counted
    · rw [Function.update_of_ne same]
      constructor
      · simpa [Function.update_of_ne same] using before.outstanding
      · simpa [Function.update_of_ne same] using before.react
      · simpa [Function.update_of_ne same] using before.complete
      · simpa [List.count_cons, Ne.symm same] using counted
  · intro strand different
    change strand ≠ state.strand at different
    simpa [Function.update_of_ne different] using
      staged.otherStrand strand different

end BabaIo.Descriptor
