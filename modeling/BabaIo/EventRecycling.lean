import BabaIo.EventLifetime
import BabaIo.Library.Progress
import Mathlib.Algebra.Order.Ring.Nat
import Mathlib.Tactic.Linarith

/-
The events of destroyed objects come back.

A final event is given back once at most, and together with its event, in every
run.  Where the reports that the reactor thread still has to handle are not
stale, the service can finish by itself all that is under way: the reactor
thread ends its batch and moves the deletion queue, the task threads empty the
reactor tasks, and each strand runs until it is empty.  A final event that finds
its event active goes round the strand until the completion before it has run.
-/

set_option autoImplicit false

namespace BabaIo.Service

/-! ### Given back at most once -/

/-- An event and its final event are given back together, once, after the descriptor has
been closed, and the final event is then nowhere else. -/
structure GivenOnce (state : State) : Prop where
  once : state.given.Nodup
  together : ∀ event, .operation event ∈ state.given ↔ .final event ∈ state.given
  closed : ∀ event, .operation event ∈ state.given →
    (state.object event.object).phase = .closed ∧
      (state.object event.object).disposed event.direction = true
  left : ∀ event, .operation event ∈ state.given →
    event ∉ state.deletionQueue ∧ .enqueueFinal event ∉ state.taskQueue ∧
      .enqueueFinal event ∉ state.running ∧ ∀ strand, .final event ∉ state.strandQueue strand

theorem Accounted.givenOnce {state : State} (accounts : Accounted state) :
    GivenOnce state := by
  have together : ∀ event, .operation event ∈ state.given ↔ .final event ∈ state.given := by
    intro event
    rw [← List.count_pos_iff, ← List.count_pos_iff, accounts.givenPairs event]
  constructor
  · rw [List.nodup_iff_count]
    intro registered
    cases registered with
    | operation event =>
        by_cases given : .operation event ∈ state.given
        · exact Nat.le_of_eq (given_finals accounts given).1
        · rw [List.count_eq_zero.mpr given]
          exact Nat.zero_le 1
    | final event =>
        by_cases given : .final event ∈ state.given
        · exact Nat.le_of_eq (given_finals accounts ((together event).mpr given)).2.1
        · rw [List.count_eq_zero.mpr given]
          exact Nat.zero_le 1
  · exact together
  · intro event given
    have counted := accounts.finals event
    have one := (given_finals accounts given).2.1
    have disposed : (state.object event.object).disposed event.direction = true := by
      cases gone : (state.object event.object).disposed event.direction with
      | true => rfl
      | false =>
          rw [gone, Bool.toNat_false] at counted
          unfold Service.finals movedFinals at counted
          omega
    exact ⟨accounts.closed event disposed, disposed⟩
  · intro event given
    obtain ⟨_, one, noQueued, noRunning, noStrand⟩ := given_finals accounts given
    have counted := accounts.finals event
    have atMostOne := Bool.toNat_le ((state.object event.object).disposed event.direction)
    have noDeletion : state.deletionQueue.count event = 0 := by
      unfold Service.finals movedFinals at counted
      omega
    refine ⟨List.count_eq_zero.mp noDeletion, List.count_eq_zero.mp noQueued,
      List.count_eq_zero.mp noRunning, ?_⟩
    intro strand queued
    have owned := (accounts.strands strand (.final event) queued).2
    change (state.object event.object).strand = strand at owned
    rw [← owned] at queued
    exact List.count_eq_zero.mp noStrand queued

/-- Whatever the kernel reports and whatever a re-arm returns, no event is given back twice
and none before its object has been destroyed. -/
theorem givenOnce_always (threads : Nat) (actions : List Action) :
    Runs.StatesMeet step GivenOnce (init threads) actions := by
  have accounted : Runs.StatesMeet step Accounted (init threads) actions :=
    Runs.statesMeet_of_invariant (fun _ _ _ held stepped => accounted_step held stepped)
      actions (accounted_init threads)
  exact accounted.imp (fun _ accounts => accounts.givenOnce)

/-! ### No empty closure -/

theorem running_step {state next : State} {action : Action} (held : Lifetime state)
    (accounts : Accounted state) (stepped : step state action = some next) :
    next.terminated = false := by
  have running := step_running stepped
  cases step_moves stepped with
  | armInitiation object index direction mask begun =>
      unfold armInitiation
      dsimp only
      split <;> exact running
  | rearm report mask pending rearming =>
      unfold rearm
      split <;> exact running
  | finishTask index task runs =>
      cases task with
      | react event =>
          have counted := count_eraseIdx_add runs (.react event)
          rw [if_pos rfl] at counted
          have queued : 0 < reactTasks state event := by
            unfold reactTasks
            omega
          have react : (state.event event).react = true := by
            rw [((held.stage event).of_react queued).1]
            rfl
          unfold finishTask
          dsimp only
          rw [if_pos react]
          exact running
      | enqueueFinal event => exact running
  | strandStep strand task rest queued =>
      cases task with
      | complete event =>
          have counted := completeTasks_popped accounts queued event
          rw [if_pos rfl] at counted
          have waiting : 0 < completeTasks state event := by omega
          have complete : (state.event event).complete = true := by
            rw [((held.stage event).of_complete waiting).1]
          unfold runStrandTask
          dsimp only
          rw [if_pos complete]
          exact running
      | final event =>
          unfold runStrandTask
          dsimp only
          split <;> exact running
  | _ => exact running

/-! ### Reports that are not stale -/

def ReactorThread.uncleared : ReactorThread → List Report
  | .waiting => []
  | .handling pending => pending
  | .rearming _ _ pending => pending
  | .dispatching _ _ _ pending => pending

def ReactorThread.unarmed : ReactorThread → List Report
  | .waiting => []
  | .handling pending => pending
  | .rearming report _ pending => report :: pending
  | .dispatching _ _ _ pending => pending

/-- No report in the reactor thread is stale: its bits are in the mask until they are
cleared, and its object is in scope or has closed the descriptor when it is re-armed. -/
structure Current (state : State) : Prop where
  masked : ∀ report, report ∈ state.reactor.uncleared → ∀ direction : Direction,
    has report.events direction.bit = true → state.mask ⟨report.ptr, direction⟩ = true
  armable : ∀ report, report ∈ state.reactor.unarmed →
    (state.object report.ptr).phase = .inScope ∨
      state.kernel.owner (state.object report.ptr).fd = none

/-- The steps of the service's own threads.  The reactor thread is woken by the
interrupter only. -/
def Action.isService : Action → Bool
  | .harvest ready => ready.isEmpty
  | .clearMasks => true
  | .rearm => true
  | .dispatch => true
  | .processDeletionQueue => true
  | .startTask => true
  | .finishTask _ => true
  | .strandStep _ => true
  | _ => false

structure FinishFrame (state next : State) (index : Nat) : Prop where
  threads : next.threads = state.threads
  reactor : next.reactor = state.reactor
  deletionQueue : next.deletionQueue = state.deletionQueue
  taskQueue : next.taskQueue = state.taskQueue
  running : next.running = state.running.eraseIdx index

theorem finishTask_frame (state : State) (index : Nat) (task : ReactorTask) :
    FinishFrame state (finishTask state index task) index := by
  cases task with
  | react event =>
      unfold finishTask
      dsimp only
      split <;> exact ⟨rfl, rfl, rfl, rfl, rfl⟩
  | enqueueFinal event => exact ⟨rfl, rfl, rfl, rfl, rfl⟩

structure StrandFrame (state next : State) : Prop where
  threads : next.threads = state.threads
  reactor : next.reactor = state.reactor
  deletionQueue : next.deletionQueue = state.deletionQueue
  taskQueue : next.taskQueue = state.taskQueue
  running : next.running = state.running

theorem runStrandTask_frame (state : State) (strand : StrandId) (task : StrandTask)
    (rest : List StrandTask) :
    StrandFrame state (runStrandTask state strand task rest) := by
  cases task with
  | complete event =>
      unfold runStrandTask
      dsimp only
      split <;> exact ⟨rfl, rfl, rfl, rfl, rfl⟩
  | final event =>
      unfold runStrandTask
      dsimp only
      split <;> exact ⟨rfl, rfl, rfl, rfl, rfl⟩

theorem rearm_reactor (state : State) (report : Report) (mask : EventMask)
    (pending : List Report) :
    ∃ result, (rearm state report mask pending).reactor =
      .dispatching report mask result pending := by
  unfold rearm
  split
  · exact ⟨_, rfl⟩
  · exact ⟨ec.OK, rfl⟩

abbrev ServiceAction := { action : Action // action.isService = true }

def stepService (state : State) (action : ServiceAction) : Option State :=
  step state action.val

theorem threads_step {state next : State} {action : Action}
    (stepped : step state action = some next) : next.threads = state.threads := by
  cases step_moves stepped with
  | armInitiation object index direction mask begun =>
      unfold armInitiation
      dsimp only
      split <;> rfl
  | rearm report mask pending rearming =>
      unfold rearm
      split <;> rfl
  | finishTask index task runs => exact (finishTask_frame state index task).threads
  | strandStep strand task rest queued =>
      exact (runStrandTask_frame state strand task rest).threads
  | _ => rfl

structure Serves (kept : State → Prop) : Prop where
  kernel : ∀ {state : State} {action : Action}, kept state → action.isService = true →
    kernelAssumption state action = true
  masked : ∀ {state : State} {action : Action}, kept state →
    reportStillMasked state action = true
  step : ∀ {state next : State} {action : Action}, LifetimeInvariant state → kept state →
    step state action = some next → action.isService = true → kept next

structure Going (kept : State → Prop) (state : State) : Prop where
  serves : Serves kept
  invariant : LifetimeInvariant state
  kept : kept state
  running : state.terminated = false
  started : 0 < state.threads

variable {kept : State → Prop}

theorem Going.after {state next : State} {action : Action} (going : Going kept state)
    (service : action.isService = true) (stepped : step state action = some next) :
    Runs.Reaches stepService state next ∧ Going kept next := by
  have held := going.invariant
  refine ⟨Runs.Reaches.single (show stepService state ⟨action, service⟩ = some next from stepped),
    ?_⟩
  exact
    { serves := going.serves
      invariant := lifetimeInvariant_step held (going.serves.kernel going.kept service)
        (going.serves.masked going.kept) stepped
      kept := going.serves.step held going.kept stepped service
      running := running_step held.lifetime held.service.accounts stepped
      started := by
        rw [threads_step stepped]
        exact going.started }

/-! ### The reactor thread ends its batch -/

def ReactorThread.rank : ReactorThread → Nat
  | .waiting => 0
  | .handling pending => 3 * pending.length + 1
  | .rearming _ _ pending => 3 * pending.length + 3
  | .dispatching _ _ _ pending => 3 * pending.length + 2

theorem reaches_waiting {state : State} (going : Going kept state) :
    ∃ next, Runs.Reaches stepService state next ∧ Going kept next ∧
      next.reactor = .waiting := by
  refine Runs.reaches_of_rank (fun state => state.reactor.rank) ?_ going
  intro state going busy
  cases position : state.reactor with
  | waiting => exact absurd position busy
  | handling pending =>
      cases pending with
      | nil =>
          have stepped : step state .processDeletionQueue =
              some (processDeletionQueue state) := by
            simp [step, going.running, position]
          obtain ⟨reaches, next⟩ := going.after rfl stepped
          exact ⟨_, reaches, next, Nat.zero_lt_succ _⟩
      | cons report pending =>
          have stepped : step state .clearMasks = some (clearMasks state report pending) := by
            simp [step, going.running, position]
          obtain ⟨reaches, next⟩ := going.after rfl stepped
          refine ⟨_, reaches, next, ?_⟩
          change 3 * pending.length + 3 < 3 * (pending.length + 1) + 1
          omega
  | rearming report mask pending =>
      have stepped : step state .rearm = some (rearm state report mask pending) := by
        simp [step, going.running, position]
      obtain ⟨reaches, next⟩ := going.after rfl stepped
      obtain ⟨result, dispatching⟩ := rearm_reactor state report mask pending
      refine ⟨_, reaches, next, ?_⟩
      rw [dispatching]
      exact Nat.lt_succ_self _
  | dispatching report mask result pending =>
      have stepped : step state .dispatch =
          some (dispatch state report mask result pending) := by
        simp [step, going.running, position]
      obtain ⟨reaches, next⟩ := going.after rfl stepped
      exact ⟨_, reaches, next, Nat.lt_succ_self _⟩

structure Batched (kept : State → Prop) (state : State) : Prop where
  going : Going kept state
  reactor : state.reactor = .waiting
  deletionQueue : state.deletionQueue = []

/-- The interrupter wakes the reactor thread, which then moves the deletion queue. -/
theorem reaches_batched {state : State} (going : Going kept state) :
    ∃ next, Runs.Reaches stepService state next ∧ Batched kept next := by
  obtain ⟨waits, reaches, still, waiting⟩ := reaches_waiting going
  have woken : step waits (.harvest []) = some (harvest waits [] []) := by
    simp [step, still.running, waiting, eventList]
  obtain ⟨wakes, awake⟩ := still.after rfl woken
  have moved : step (harvest waits [] []) .processDeletionQueue =
      some (processDeletionQueue (harvest waits [] [])) := by
    have running : (harvest waits [] []).terminated = false := awake.running
    unfold step
    rw [running]
    rfl
  obtain ⟨moves, next⟩ := awake.after rfl moved
  exact ⟨_, (reaches.trans wakes).trans moves, next, rfl, rfl⟩

/-! ### The task threads empty their queue -/

structure TasksDone (kept : State → Prop) (state : State) : Prop where
  batched : Batched kept state
  taskQueue : state.taskQueue = []
  running : state.running = []

theorem reaches_tasksDone {state : State} (batched : Batched kept state) :
    ∃ next, Runs.Reaches stepService state next ∧ TasksDone kept next := by
  suffices emptied : ∃ next, Runs.Reaches stepService state next ∧ Batched kept next ∧
      next.taskQueue = [] ∧ next.running = [] by
    obtain ⟨next, reaches, held, taskQueue, running⟩ := emptied
    exact ⟨next, reaches, held, taskQueue, running⟩
  refine Runs.reaches_of_rank
    (fun state => 2 * state.taskQueue.length + state.running.length) ?_ batched
  intro state held busy
  have going := held.going
  cases running : state.running with
  | cons task others =>
      have stepped : step state (.finishTask 0) = some (finishTask state 0 task) := by
        simp [step, going.running, running]
      obtain ⟨reaches, next⟩ := going.after rfl stepped
      have frame := finishTask_frame state 0 task
      refine ⟨_, reaches, ⟨next, frame.reactor.trans held.reactor,
        frame.deletionQueue.trans held.deletionQueue⟩, ?_⟩
      rw [frame.taskQueue, frame.running, running]
      exact Nat.lt_succ_self _
  | nil =>
      cases queued : state.taskQueue with
      | nil => exact absurd ⟨queued, running⟩ busy
      | cons task rest =>
          have stepped : step state .startTask = some (startTask state task rest) := by
            simp [step, going.running, queued, running, going.started]
          obtain ⟨reaches, next⟩ := going.after rfl stepped
          refine ⟨_, reaches, ⟨next, held.reactor, held.deletionQueue⟩, ?_⟩
          change 2 * rest.length + (state.running ++ [task]).length <
            2 * (rest.length + 1) + 0
          rw [running]
          exact Nat.lt_succ_self _

/-! ### The strands run until they are empty -/

structure OnStrands (kept : State → Prop) (strands : List StrandId) (state : State) :
    Prop where
  done : TasksDone kept state
  covers : ∀ strand, state.strandQueue strand ≠ [] → strand ∈ strands

def StrandTask.isComplete : StrandTask → Bool
  | .complete _ => true
  | .final _ => false

def strandRank (queue : List StrandTask) : Nat :=
  queue.length * queue.length + queue.findIdx StrandTask.isComplete

theorem strandRank_tail (task : StrandTask) (rest : List StrandTask) :
    strandRank rest < strandRank (task :: rest) := by
  have bounded : rest.findIdx StrandTask.isComplete ≤ rest.length := List.findIdx_le_length
  unfold strandRank
  rw [List.length_cons]
  nlinarith

/-- A task that is not a completion goes behind the completions of its strand. -/
theorem strandRank_rotate {task completion : StrandTask} {rest : List StrandTask}
    (waits : task.isComplete = false) (queued : completion ∈ rest)
    (completes : completion.isComplete = true) :
    strandRank (rest ++ [task]) < strandRank (task :: rest) := by
  have inside : rest.findIdx StrandTask.isComplete < rest.length :=
    List.findIdx_lt_length_of_exists ⟨completion, queued, completes⟩
  have behind : (rest ++ [task]).findIdx StrandTask.isComplete =
      rest.findIdx StrandTask.isComplete := by
    rw [List.findIdx_append, if_pos inside]
  unfold strandRank
  rw [behind, List.findIdx_cons, waits, List.length_append, List.length_cons, List.length_cons]
  exact Nat.lt_succ_self _

theorem runStrandTask_queue (state : State) (strand : StrandId) (task : StrandTask)
    (rest : List StrandTask)
    (onStrand : (state.object task.event.object).strand = strand) :
    (∀ other, other ≠ strand → (runStrandTask state strand task rest).strandQueue other =
      state.strandQueue other) ∧
      ((runStrandTask state strand task rest).strandQueue strand = rest ∨
        ∃ event, task = .final event ∧ (state.event event).hasActiveEvent = true ∧
          (runStrandTask state strand task rest).strandQueue strand = rest ++ [task]) := by
  have popped : ∀ other, other ≠ strand →
      Function.update state.strandQueue strand rest other = state.strandQueue other :=
    fun other different => Function.update_of_ne different ..
  cases task with
  | complete event =>
      unfold runStrandTask
      dsimp only
      split <;> exact ⟨popped, Or.inl (Function.update_self ..)⟩
  | final event =>
      change (state.object event.object).strand = strand at onStrand
      unfold runStrandTask
      dsimp only
      split
      · rename_i active
        constructor
        · intro other different
          unfold State.enqueue
          dsimp only
          rw [onStrand, Function.update_of_ne different, Function.update_of_ne different]
        · right
          refine ⟨event, rfl, active, ?_⟩
          unfold State.enqueue
          dsimp only
          rw [onStrand, Function.update_self, Function.update_self]
      · exact ⟨popped, Or.inl (Function.update_self ..)⟩

/-- A final event whose event is active has the completion of the event behind it. -/
theorem completion_behind {state : State} (held : LifetimeInvariant state)
    (taskQueue : state.taskQueue = []) (running : state.running = []) {event : EventRef}
    {rest : List StrandTask} {strand : StrandId}
    (queued : state.strandQueue strand = .final event :: rest)
    (active : (state.event event).hasActiveEvent = true) : .complete event ∈ rest := by
  have onStrand := (held.service.accounts.strands strand (.final event)
    (by rw [queued]; exact List.mem_cons_self)).2
  change (state.object event.object).strand = strand at onStrand
  have noReact : reactTasks state event = 0 := by
    unfold reactTasks
    rw [taskQueue, running]
    rfl
  have stage := held.lifetime.stage event
  rw [noReact] at stage
  have completes : 0 < completeTasks state event := by
    generalize state.event event = value at stage active
    generalize completeTasks state event = completes at stage
    cases stage with
    | idle => cases active
    | waiting => cases active
    | completing => exact Nat.one_pos
  unfold completeTasks at completes
  rw [onStrand, queued, List.count_cons_of_ne (by simp)] at completes
  exact List.count_pos_iff.mp completes

theorem reaches_strandEmpty (strand : StrandId) (strands : List StrandId) (state : State)
    (held : OnStrands kept (strand :: strands) state) :
    ∃ next, Runs.Reaches stepService state next ∧ OnStrands kept strands next := by
  suffices emptied : ∃ next, Runs.Reaches stepService state next ∧
      OnStrands kept (strand :: strands) next ∧ next.strandQueue strand = [] by
    obtain ⟨next, reaches, still, empty⟩ := emptied
    refine ⟨next, reaches, still.done, ?_⟩
    intro other queued
    rcases List.mem_cons.mp (still.covers other queued) with same | later
    · rw [same] at queued
      exact absurd empty queued
    · exact later
  refine Runs.reaches_of_rank (fun state => strandRank (state.strandQueue strand)) ?_ held
  intro state held busy
  have batched := held.done.batched
  have going := batched.going
  cases queued : state.strandQueue strand with
  | nil => exact absurd queued busy
  | cons task rest =>
      have stepped : step state (.strandStep strand) =
          some (runStrandTask state strand task rest) := by
        simp [step, going.running, queued]
      obtain ⟨reaches, next⟩ := going.after rfl stepped
      have onStrand := (going.invariant.service.accounts.strands strand task
        (by rw [queued]; exact List.mem_cons_self)).2
      obtain ⟨others, own⟩ := runStrandTask_queue state strand task rest onStrand
      have frame := runStrandTask_frame state strand task rest
      refine ⟨_, reaches, ⟨⟨⟨next, frame.reactor.trans batched.reactor,
        frame.deletionQueue.trans batched.deletionQueue⟩,
        frame.taskQueue.trans held.done.taskQueue,
        frame.running.trans held.done.running⟩, ?_⟩, ?_⟩
      · intro other
        by_cases same : other = strand
        · intro _queued
          rw [same]
          exact List.mem_cons_self
        · rw [others other same]
          exact held.covers other
      · rcases own with popped | ⟨event, rfl, active, rotated⟩
        · rw [popped]
          exact strandRank_tail task rest
        · rw [rotated]
          exact strandRank_rotate rfl (completion_behind going.invariant held.done.taskQueue
            held.done.running queued active) rfl

theorem TasksDone.onStrands {state : State} (done : TasksDone kept state) :
    OnStrands kept ((List.range state.created).map fun object => (state.object object).strand)
      state := by
  refine ⟨done, ?_⟩
  intro strand queued
  obtain ⟨task, member⟩ := List.exists_mem_of_ne_nil _ queued
  obtain ⟨made, onStrand⟩ :=
    done.batched.going.invariant.service.accounts.strands strand task member
  exact List.mem_map.mpr ⟨task.event.object, List.mem_range.mpr made, onStrand⟩

/-! ### Every destroyed event comes back -/

structure Idle (state : State) : Prop where
  reactor : state.reactor = .waiting
  deletionQueue : state.deletionQueue = []
  taskQueue : state.taskQueue = []
  running : state.running = []
  strands : ∀ strand, state.strandQueue strand = []

theorem Going.reaches_idle {state : State} (going : Going kept state) :
    ∃ next, Runs.Reaches stepService state next ∧ Going kept next ∧ Idle next := by
  obtain ⟨moved, first, batched⟩ := reaches_batched going
  obtain ⟨emptied, second, done⟩ := reaches_tasksDone batched
  obtain ⟨next, third, held⟩ := Runs.reaches_of_parts reaches_strandEmpty done.onStrands
  have batched := held.done.batched
  refine ⟨next, (first.trans second).trans third, batched.going, batched.reactor,
    batched.deletionQueue, held.done.taskQueue, held.done.running, ?_⟩
  intro strand
  by_contra queued
  cases held.covers strand queued

theorem Idle.event {state : State} (idle : Idle state) (held : Lifetime state)
    (event : EventRef) :
    state.event event = Event.init ∨ state.event event = Event.waiting := by
  have noReact : reactTasks state event = 0 := by
    unfold reactTasks
    rw [idle.taskQueue, idle.running]
    rfl
  have noComplete : completeTasks state event = 0 := by
    unfold completeTasks
    rw [idle.strands]
    rfl
  have stage := held.stage event
  rw [noReact, noComplete] at stage
  generalize state.event event = value at stage
  cases stage with
  | idle => exact Or.inl rfl
  | waiting => exact Or.inr rfl

/-- In an idle service the final events of all destroyed events have been given back. -/
theorem Idle.given {state : State} (idle : Idle state) (accounts : Accounted state)
    {event : EventRef}
    (disposed : (state.object event.object).disposed event.direction = true) :
    state.given.count (.operation event) = 1 ∧ state.given.count (.final event) = 1 := by
  have counted := accounts.finals event
  unfold finals movedFinals strandFinals at counted
  rw [idle.deletionQueue, idle.taskQueue, idle.running, idle.strands, disposed] at counted
  have one : state.given.count (.final event) = 1 := by simpa using counted
  exact ⟨(accounts.givenPairs event).trans one, one⟩

end BabaIo.Service
