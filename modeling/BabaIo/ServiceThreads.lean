import BabaIo.BlockingQueue
import BabaIo.Library.Simulation
import BabaIo.ReactorWait
import Mathlib.Data.List.Infix

/-
The threads of one `epoll_service` and the queues between them.

The reactor thread turns reports of the kernel into tasks of the reactor task
queue, and so it does with the final events of the deletion queue.  The reactor
task threads and the strands consume their queues.  Any thread that runs user code
may post to a strand, dispose an event and stop the service.

A step is one access to shared data: a flag, one critical section of a queue, one
read or write of the self pipe.  The mutex of the deletion queue is held by the
reactor from `freeze` to the end of `process_deletion_queue`.
-/

set_option autoImplicit false

namespace BabaIo.Threads

abbrev StrandId := Nat

abbrev EventId := Nat

abbrev FunctionId := Nat

inductive Worker where
  /-- A thread of `_reactor_task_threads`. -/
  | task (index : Nat)
  /-- The thread that runs a strand. -/
  | strand (index : StrandId)
  deriving DecidableEq

inductive Thread where
  | reactor
  | worker (worker : Worker)
  | user (index : Nat)
  deriving DecidableEq

inductive QueueId where
  | reactorTasks
  | strand (index : StrandId)
  deriving DecidableEq

def Worker.consumes : Worker → QueueId
  | .task _ => .reactorTasks
  | .strand index => .strand index

inductive Task where
  /-- `react(code)` of an event. -/
  | react (evt : EventId) (code : ErrorCode)
  /-- `evt->strand->enqueue(evt)`, for an event of the deletion queue. -/
  | enqueueFinal (evt : EventId)
  /-- `evt->complete()`. -/
  | complete (evt : EventId)
  | posted (fn : FunctionId)
  deriving DecidableEq

structure Report where
  events : Events
  /-- The mask after the reported bits are cleared. -/
  mask : EventMask
  /-- The result of the re-arm. -/
  rearm : ErrorCode
  readEvent : Option EventId
  writeEvent : Option EventId
  deriving DecidableEq

def Report.event (report : Report) : Direction → Option EventId
  | .read => report.readEvent
  | .write => report.writeEvent

def Report.tasks (report : Report) : List Task :=
  (dispatches (fun direction => (report.event direction).isSome) report.mask
    report.events report.rearm).filterMap fun dispatch =>
      (report.event dispatch.direction).map fun evt => .react evt dispatch.code

/-- An entry of `_event_list`; `none` is the interrupter's. -/
abbrev Entry := Option Report

inductive ReactorPlace where
  /-- In front of the test of `_run` in `reactor_process`. -/
  | atRun
  | inWait
  /-- In front of the loop test in `epoll_reactor::wait`. -/
  | handling (entries : List Entry)
  /-- In the loop that consumes the self pipe. -/
  | draining (rest : List Entry)
  | dispatching (tasks : List Task) (rest : List Entry)
  /-- In front of `freeze` in `process_deletion_queue`. -/
  | unfrozen
  /-- In front of the loop test in `process_deletion_queue`. -/
  | frozen
  | dequeued (evt : EventId)
  | exited

/-- The loops `while (_run.load()) { wait; process }` of a task thread and of a
strand. -/
inductive WorkerPlace where
  | atRun
  | waiting
  | dequeuing
  /-- In front of the loop test, with what `dequeue` returned. -/
  | fetched (task : Option Task)
  | running (task : Task)
  | exited
  deriving DecidableEq

inductive Call where
  | idle
  | interrupting
  | stopRun
  | stopStrand (index : StrandId)
  | stopQueue (index : StrandId)
  | stopTasks
  | stopReactor
  | stopInterrupt
  deriving DecidableEq

structure Service where
  /-- `_num_reactor_threads`. -/
  taskThreads : Nat
  /-- The size of `_completion_strands`. -/
  strands : Nat
  strandOf : EventId → StrandId
  pipeCapacity : Nat
  someStrand : 0 < strands
  holdsByte : 0 < pipeCapacity

def Service.starts (service : Service) : Worker → Bool
  | .task index => index < service.taskThreads
  | .strand index => index < service.strands

/-- The tasks of one queue in the order of what happened to them. -/
structure Log where
  enqueued : List Task
  started : List Task
  finished : List Task
  discarded : List Task

structure State where
  /-- `epoll_service::_run`. -/
  run : Bool
  /-- `epoll_reactor::_run`. -/
  reactorRun : Bool
  /-- `completion_strand_impl::_run`. -/
  strandRun : StrandId → Bool
  queue : QueueId → BlockingQueue Worker Task
  deletionQueue : List EventId
  /-- The bytes in the self pipe. -/
  pipe : Nat
  /-- The descriptors `epoll_wait` can report. -/
  ready : List Report
  reactor : ReactorPlace
  worker : Worker → WorkerPlace
  call : Thread → Call
  /-- A call of `stop` has returned. -/
  stopped : Bool
  log : QueueId → Log

def init : State :=
  { run := true
    reactorRun := true
    strandRun := fun _ => true
    queue := fun _ => BlockingQueue.empty
    deletionQueue := []
    pipe := 0
    ready := []
    reactor := .atRun
    worker := fun _ => .atRun
    call := fun _ => .idle
    stopped := false
    log := fun _ => ⟨[], [], [], []⟩ }

def State.setQueue (state : State) (id : QueueId) (queue : BlockingQueue Worker Task) :
    State :=
  { state with queue := Function.update state.queue id queue }

def State.setLog (state : State) (id : QueueId) (log : Log) : State :=
  { state with log := Function.update state.log id log }

def State.setWorker (state : State) (worker : Worker) (place : WorkerPlace) : State :=
  { state with worker := Function.update state.worker worker place }

def State.setCall (state : State) (thread : Thread) (call : Call) : State :=
  { state with call := Function.update state.call thread call }

def enqueue (state : State) (id : QueueId) (task : Task) : State :=
  (state.setQueue id ((state.queue id).enqueue task)).setLog id
    { state.log id with enqueued := (state.log id).enqueued ++ [task] }

/-- `epoll_interrupter::interrupt`; a full pipe drops the byte. -/
def interrupt (service : Service) (state : State) : State :=
  { state with pipe := min (state.pipe + 1) service.pipeCapacity }

/-! ### The reactor thread -/

def MAX_EPOLL_EVENTS : Nat := 100

def drainSize : Nat := 1024 - 1

/-- `epoll_wait` returns what is ready: the self pipe while it holds a byte, and
descriptors in the order in which they became ready. -/
def mayReturn (state : State) (entries : List Entry) : Bool :=
  !entries.isEmpty && entries.length ≤ MAX_EPOLL_EVENTS &&
    entries.countP Option.isNone ≤ (if state.pipe = 0 then 0 else 1) &&
    (entries.filterMap id).isPrefixOf state.ready

def epollReturn (state : State) (entries : List Entry) : State :=
  { state with
    ready := state.ready.drop (entries.filterMap id).length
    reactor := .handling entries }

def stepReactor (state : State) : Option State :=
  match state.reactor with
  | .atRun => some { state with reactor := if state.run then .inWait else .exited }
  | .inWait => none
  | .handling entries =>
      if state.reactorRun then
        match entries with
        | [] => some { state with reactor := .unfrozen }
        | none :: rest => some { state with reactor := .draining rest }
        | some report :: rest =>
            some { state with reactor := .dispatching report.tasks rest }
      else some { state with reactor := .unfrozen }
  | .draining rest =>
      -- EAGAIN ends the loop
      if state.pipe = 0 then some { state with reactor := .handling rest }
      else some { state with pipe := state.pipe - drainSize }
  | .dispatching [] rest => some { state with reactor := .handling rest }
  | .dispatching (task :: tasks) rest =>
      some { enqueue state .reactorTasks task with reactor := .dispatching tasks rest }
  | .unfrozen => some { state with reactor := .frozen }
  | .frozen =>
      match state.run, state.deletionQueue with
      | true, evt :: rest =>
          some { state with deletionQueue := rest, reactor := .dequeued evt }
      | _, _ => some { state with reactor := .atRun }
  | .dequeued evt =>
      some { enqueue state .reactorTasks (.enqueueFinal evt) with reactor := .frozen }
  | .exited => none

def ReactorPlace.freezes : ReactorPlace → Bool
  | .frozen => true
  | .dequeued _ => true
  | _ => false

/-! ### The task threads and the strands -/

/-- The flag a worker tests between `dequeue` and the call of the task. -/
def innerRun (state : State) : Worker → Bool
  | .task _ => state.run
  | .strand index => state.strandRun index

/-- The end of a task; a final event goes to its strand. -/
def finishTask (service : Service) (state : State) (worker : Worker) (task : Task) :
    State :=
  let done := match task with
    | .enqueueFinal evt => enqueue state (.strand (service.strandOf evt)) (.complete evt)
    | _ => state
  let log := done.log worker.consumes
  (done.setLog worker.consumes { log with finished := log.finished ++ [task] }).setWorker
    worker .dequeuing

def stepWorker (service : Service) (state : State) (worker : Worker) : Option State :=
  let id := worker.consumes
  let blocking := state.queue id
  match state.worker worker with
  | .atRun => some (state.setWorker worker (if state.run then .waiting else .exited))
  | .waiting =>
      if blocking.asleep worker then none
      else if blocking.mustWait then some (state.setQueue id (blocking.sleep worker))
      else some (state.setWorker worker .dequeuing)
  | .dequeuing =>
      some ((state.setQueue id blocking.dequeue.2).setWorker worker
        (.fetched blocking.dequeue.1))
  | .fetched none => some (state.setWorker worker .atRun)
  | .fetched (some task) =>
      let log := state.log id
      if innerRun state worker then
        some ((state.setLog id { log with started := log.started ++ [task] }).setWorker
          worker (.running task))
      else
        some ((state.setLog id { log with discarded := log.discarded ++ [task] }).setWorker
          worker .atRun)
  | .running task =>
      if state.call (.worker worker) = .idle then
        some (finishTask service state worker task)
      else none
  | .exited => none

/-! ### Calls of user code -/

def mayCall (state : State) (thread : Thread) : Bool :=
  state.call thread = .idle &&
    match thread with
    | .reactor => false
    | .worker worker =>
        match state.worker worker with
        | .running (.enqueueFinal _) => false
        | .running _ => true
        | _ => false
    | .user _ => true

def stepCall (service : Service) (state : State) (thread : Thread) : Option State :=
  match state.call thread with
  | .idle => none
  | .interrupting => some ((interrupt service state).setCall thread .idle)
  | .stopRun => some ({ state with run := false }.setCall thread (.stopStrand 0))
  | .stopStrand index =>
      if index < service.strands then
        some ({ state with
          strandRun := Function.update state.strandRun index false }.setCall thread
            (.stopQueue index))
      else some (state.setCall thread .stopTasks)
  | .stopQueue index =>
      some ((state.setQueue (.strand index) (state.queue (.strand index)).stop).setCall
        thread (.stopStrand (index + 1)))
  | .stopTasks =>
      some ((state.setQueue .reactorTasks (state.queue .reactorTasks).stop).setCall thread
        .stopReactor)
  | .stopReactor =>
      some ({ state with reactorRun := false }.setCall thread .stopInterrupt)
  | .stopInterrupt =>
      some ({ interrupt service state with stopped := true }.setCall thread .idle)

/-! ### Steps -/

inductive Action where
  /-- A descriptor becomes ready. -/
  | report (report : Report)
  /-- `epoll_wait` returns. -/
  | epollReturn (entries : List Entry)
  /-- `epoll_wait` fails. -/
  | epollFail
  | reactor
  | worker (worker : Worker)
  | wakeSpuriously (worker : Worker)
  /-- `completion_strand_impl::post`. -/
  | post (thread : Thread) (strand : StrandId) (fn : FunctionId)
  /-- `completion_strand_impl::enqueue`. -/
  | complete (thread : Thread) (evt : EventId)
  /-- `_enqueue_for_deletion` enqueues the event. -/
  | dispose (thread : Thread) (evt : EventId)
  | stop (thread : Thread)
  /-- The thread goes on in its call. -/
  | call (thread : Thread)

def inWait (state : State) : Bool :=
  match state.reactor with
  | .inWait => true
  | _ => false

def step (service : Service) (state : State) : Action → Option State
  | .report report => some { state with ready := state.ready ++ [report] }
  | .epollReturn entries =>
      if inWait state && mayReturn state entries then some (epollReturn state entries)
      else none
  | .epollFail => if inWait state then some { state with reactor := .unfrozen } else none
  | .reactor => stepReactor state
  | .worker worker => if service.starts worker then stepWorker service state worker else none
  | .wakeSpuriously worker =>
      some (state.setQueue worker.consumes
        ((state.queue worker.consumes).wakeSpuriously worker))
  | .post thread strand fn =>
      if mayCall state thread then some (enqueue state (.strand strand) (.posted fn)) else none
  | .complete thread evt =>
      if mayCall state thread then
        some (enqueue state (.strand (service.strandOf evt)) (.complete evt))
      else none
  | .dispose thread evt =>
      if mayCall state thread && !state.reactor.freezes then
        some ({ state with deletionQueue := state.deletionQueue ++ [evt] }.setCall thread
          .interrupting)
      else none
  | .stop thread =>
      if mayCall state thread then some (state.setCall thread .stopRun) else none
  | .call thread => stepCall service state thread

def Asleep (state : State) (worker : Worker) : Prop :=
  state.worker worker = .waiting ∧
    (state.queue worker.consumes).asleep worker = true

/-! ### Inversion of the step function -/

inductive ReactorMoves (state : State) : State → Prop where
  | enter (place : state.reactor = .atRun) (run : state.run = true) :
      ReactorMoves state { state with reactor := .inWait }
  | exit (place : state.reactor = .atRun) (run : state.run = false) :
      ReactorMoves state { state with reactor := .exited }
  | leave (entries : List Entry) (place : state.reactor = .handling entries) :
      ReactorMoves state { state with reactor := .unfrozen }
  | findPipe (rest : List Entry) (place : state.reactor = .handling (none :: rest)) :
      ReactorMoves state { state with reactor := .draining rest }
  | findReport (report : Report) (rest : List Entry)
      (place : state.reactor = .handling (some report :: rest)) :
      ReactorMoves state { state with reactor := .dispatching report.tasks rest }
  | drained (rest : List Entry) (place : state.reactor = .draining rest) :
      ReactorMoves state { state with reactor := .handling rest }
  | drain (rest : List Entry) (place : state.reactor = .draining rest) :
      ReactorMoves state { state with pipe := state.pipe - drainSize }
  | dispatched (rest : List Entry) (place : state.reactor = .dispatching [] rest) :
      ReactorMoves state { state with reactor := .handling rest }
  | dispatch (task : Task) (tasks : List Task) (rest : List Entry)
      (place : state.reactor = .dispatching (task :: tasks) rest) :
      ReactorMoves state
        { enqueue state .reactorTasks task with reactor := .dispatching tasks rest }
  | freeze (place : state.reactor = .unfrozen) :
      ReactorMoves state { state with reactor := .frozen }
  | take (evt : EventId) (rest : List EventId) (place : state.reactor = .frozen)
      (content : state.deletionQueue = evt :: rest) :
      ReactorMoves state { state with deletionQueue := rest, reactor := .dequeued evt }
  | unfreeze (place : state.reactor = .frozen)
      (ended : state.run = false ∨ state.deletionQueue = []) :
      ReactorMoves state { state with reactor := .atRun }
  | enqueueFinal (evt : EventId) (place : state.reactor = .dequeued evt) :
      ReactorMoves state
        { enqueue state .reactorTasks (.enqueueFinal evt) with reactor := .frozen }

theorem stepReactor_moves {state next : State} (stepped : stepReactor state = some next) :
    ReactorMoves state next := by
  unfold stepReactor at stepped
  split at stepped
  · rename_i place
    cases stepped
    by_cases running : state.run = true
    · rw [if_pos running]
      exact .enter place running
    · rw [if_neg running]
      exact .exit place (Bool.eq_false_iff.mpr running)
  · cases stepped
  · rename_i entries place
    split at stepped
    · split at stepped <;> cases stepped
      · exact .leave _ place
      · exact .findPipe _ place
      · exact .findReport _ _ place
    · cases stepped
      exact .leave entries place
  · rename_i rest place
    split at stepped <;> cases stepped
    · exact .drained rest place
    · exact .drain rest place
  · rename_i rest place
    cases stepped
    exact .dispatched rest place
  · rename_i task tasks rest place
    cases stepped
    exact .dispatch task tasks rest place
  · rename_i place
    cases stepped
    exact .freeze place
  · rename_i place
    split at stepped <;> cases stepped
    · exact .take _ _ place ‹_›
    · rename_i ended
      apply ReactorMoves.unfreeze place
      cases running : state.run with
      | false => exact Or.inl rfl
      | true =>
          cases content : state.deletionQueue with
          | nil => exact Or.inr rfl
          | cons evt rest => exact absurd content (ended evt rest running)
  · rename_i evt place
    cases stepped
    exact .enqueueFinal evt place
  · cases stepped

inductive WorkerMoves (service : Service) (state : State) (worker : Worker) :
    State → Prop where
  | enter (place : state.worker worker = .atRun) (run : state.run = true) :
      WorkerMoves service state worker (state.setWorker worker .waiting)
  | exit (place : state.worker worker = .atRun) (run : state.run = false) :
      WorkerMoves service state worker (state.setWorker worker .exited)
  | sleep (place : state.worker worker = .waiting)
      (must : (state.queue worker.consumes).mustWait = true) :
      WorkerMoves service state worker
        (state.setQueue worker.consumes ((state.queue worker.consumes).sleep worker))
  | pass (place : state.worker worker = .waiting) :
      WorkerMoves service state worker (state.setWorker worker .dequeuing)
  | dequeue (place : state.worker worker = .dequeuing) :
      WorkerMoves service state worker
        ((state.setQueue worker.consumes (state.queue worker.consumes).dequeue.2).setWorker
          worker (.fetched (state.queue worker.consumes).dequeue.1))
  | drained (place : state.worker worker = .fetched none) :
      WorkerMoves service state worker (state.setWorker worker .atRun)
  | start (task : Task) (place : state.worker worker = .fetched (some task))
      (inner : innerRun state worker = true) :
      WorkerMoves service state worker
        ((state.setLog worker.consumes { state.log worker.consumes with
          started := (state.log worker.consumes).started ++ [task] }).setWorker worker
            (.running task))
  | discard (task : Task) (place : state.worker worker = .fetched (some task))
      (inner : innerRun state worker = false) :
      WorkerMoves service state worker
        ((state.setLog worker.consumes { state.log worker.consumes with
          discarded := (state.log worker.consumes).discarded ++ [task] }).setWorker worker
            .atRun)
  | finish (task : Task) (place : state.worker worker = .running task) :
      WorkerMoves service state worker (finishTask service state worker task)

theorem stepWorker_moves {service : Service} {state next : State} {worker : Worker}
    (stepped : stepWorker service state worker = some next) :
    WorkerMoves service state worker next := by
  unfold stepWorker at stepped
  split at stepped
  · rename_i place
    cases stepped
    by_cases running : state.run = true
    · rw [if_pos running]
      exact .enter place running
    · rw [if_neg running]
      exact .exit place (Bool.eq_false_iff.mpr running)
  · rename_i place
    dsimp only at stepped
    split at stepped
    · cases stepped
    · split at stepped <;> cases stepped
      · exact .sleep place ‹_›
      · exact .pass place
  · rename_i place
    cases stepped
    exact .dequeue place
  · rename_i place
    cases stepped
    exact .drained place
  · rename_i task place
    cases inner : innerRun state worker with
    | true =>
        simp only [inner, if_true] at stepped
        cases stepped
        exact .start task place inner
    | false =>
        simp only [inner, Bool.false_eq_true, if_false] at stepped
        cases stepped
        exact .discard task place inner
  · rename_i task place
    split at stepped <;> cases stepped
    exact .finish task place
  · cases stepped

inductive CallMoves (service : Service) (state : State) (thread : Thread) :
    State → Prop where
  | interrupt (place : state.call thread = .interrupting) :
      CallMoves service state thread ((interrupt service state).setCall thread .idle)
  | stopRun (place : state.call thread = .stopRun) :
      CallMoves service state thread
        ({ state with run := false }.setCall thread (.stopStrand 0))
  | stopStrand (index : StrandId) (place : state.call thread = .stopStrand index) :
      CallMoves service state thread
        ({ state with
          strandRun := Function.update state.strandRun index false }.setCall thread
            (.stopQueue index))
  | stoppedStrands (index : StrandId) (place : state.call thread = .stopStrand index)
      (all : service.strands ≤ index) :
      CallMoves service state thread (state.setCall thread .stopTasks)
  | stopQueue (index : StrandId) (place : state.call thread = .stopQueue index) :
      CallMoves service state thread
        ((state.setQueue (.strand index) (state.queue (.strand index)).stop).setCall thread
          (.stopStrand (index + 1)))
  | stopTasks (place : state.call thread = .stopTasks) :
      CallMoves service state thread
        ((state.setQueue .reactorTasks (state.queue .reactorTasks).stop).setCall thread
          .stopReactor)
  | stopReactor (place : state.call thread = .stopReactor) :
      CallMoves service state thread
        ({ state with reactorRun := false }.setCall thread .stopInterrupt)
  | stopInterrupt (place : state.call thread = .stopInterrupt) :
      CallMoves service state thread
        ({ BabaIo.Threads.interrupt service state with stopped := true }.setCall thread
          .idle)

theorem stepCall_moves {service : Service} {state next : State} {thread : Thread}
    (stepped : stepCall service state thread = some next) :
    CallMoves service state thread next := by
  unfold stepCall at stepped
  split at stepped
  · cases stepped
  · cases stepped
    exact .interrupt ‹_›
  · cases stepped
    exact .stopRun ‹_›
  · split at stepped <;> cases stepped
    · exact .stopStrand _ ‹_›
    · rename_i place inside
      exact .stoppedStrands _ place (Nat.not_lt.mp inside)
  · cases stepped
    exact .stopQueue _ ‹_›
  · cases stepped
    exact .stopTasks ‹_›
  · cases stepped
    exact .stopReactor ‹_›
  · cases stepped
    exact .stopInterrupt ‹_›

inductive Moves (service : Service) (state : State) : Action → State → Prop where
  | report (report : Report) :
      Moves service state (.report report) { state with ready := state.ready ++ [report] }
  | epollReturn (entries : List Entry) (place : state.reactor = .inWait) :
      Moves service state (.epollReturn entries) (epollReturn state entries)
  | epollFail (place : state.reactor = .inWait) :
      Moves service state .epollFail { state with reactor := .unfrozen }
  | reactor {next : State} (moved : ReactorMoves state next) :
      Moves service state .reactor next
  | worker (worker : Worker) {next : State}
      (moved : WorkerMoves service state worker next) :
      Moves service state (.worker worker) next
  | wakeSpuriously (worker : Worker) :
      Moves service state (.wakeSpuriously worker)
        (state.setQueue worker.consumes
          ((state.queue worker.consumes).wakeSpuriously worker))
  | post (thread : Thread) (strand : StrandId) (fn : FunctionId) :
      Moves service state (.post thread strand fn)
        (enqueue state (.strand strand) (.posted fn))
  | complete (thread : Thread) (evt : EventId) :
      Moves service state (.complete thread evt)
        (enqueue state (.strand (service.strandOf evt)) (.complete evt))
  | dispose (thread : Thread) (evt : EventId) (user : mayCall state thread = true)
      (thawed : state.reactor.freezes = false) :
      Moves service state (.dispose thread evt)
        ({ state with deletionQueue := state.deletionQueue ++ [evt] }.setCall thread
          .interrupting)
  | stop (thread : Thread) (user : mayCall state thread = true) :
      Moves service state (.stop thread) (state.setCall thread .stopRun)
  | call (thread : Thread) {next : State} (moved : CallMoves service state thread next) :
      Moves service state (.call thread) next

theorem inWait_eq {state : State} (waits : inWait state = true) :
    state.reactor = .inWait := by
  unfold inWait at waits
  split at waits
  · assumption
  · cases waits

theorem step_moves {service : Service} {state next : State} {action : Action}
    (stepped : step service state action = some next) : Moves service state action next := by
  cases action with
  | report report =>
      cases stepped
      exact .report report
  | epollReturn entries =>
      simp only [step] at stepped
      split at stepped
      · rename_i enabled
        cases stepped
        exact .epollReturn entries (inWait_eq (Bool.and_eq_true_iff.mp enabled).1)
      · cases stepped
  | epollFail =>
      simp only [step] at stepped
      split at stepped
      · cases stepped
        exact .epollFail (inWait_eq ‹_›)
      · cases stepped
  | reactor => exact .reactor (stepReactor_moves stepped)
  | worker worker =>
      simp only [step] at stepped
      split at stepped
      · exact .worker worker (stepWorker_moves stepped)
      · cases stepped
  | wakeSpuriously worker =>
      cases stepped
      exact .wakeSpuriously worker
  | post thread strand fn =>
      simp only [step] at stepped
      split at stepped
      · cases stepped
        exact .post thread strand fn
      · cases stepped
  | complete thread evt =>
      simp only [step] at stepped
      split at stepped
      · cases stepped
        exact .complete thread evt
      · cases stepped
  | dispose thread evt =>
      simp only [step] at stepped
      split at stepped
      · rename_i enabled
        cases stepped
        simp only [Bool.and_eq_true, Bool.not_eq_true'] at enabled
        exact .dispose thread evt enabled.1 enabled.2
      · cases stepped
  | stop thread =>
      simp only [step] at stepped
      split at stepped
      · cases stepped
        exact .stop thread ‹_›
      · cases stepped
  | call thread => exact .call thread (stepCall_moves stepped)

/-! ### Updated states -/

@[simp] theorem queue_setQueue (state : State) (id other : QueueId)
    (queue : BlockingQueue Worker Task) :
    (state.setQueue id queue).queue other =
      if other = id then queue else state.queue other := by
  unfold State.setQueue
  exact Function.update_apply ..

@[simp] theorem queue_enqueue (state : State) (id other : QueueId) (task : Task) :
    (enqueue state id task).queue other =
      if other = id then (state.queue id).enqueue task else state.queue other :=
  queue_setQueue state id other _

@[simp] theorem log_setLog (state : State) (id other : QueueId) (log : Log) :
    (state.setLog id log).log other = if other = id then log else state.log other := by
  unfold State.setLog
  exact Function.update_apply ..

@[simp] theorem log_enqueue (state : State) (id other : QueueId) (task : Task) :
    (enqueue state id task).log other =
      if other = id then
        { state.log id with enqueued := (state.log id).enqueued ++ [task] }
      else state.log other :=
  log_setLog _ id other _

@[simp] theorem worker_setWorker (state : State) (worker other : Worker)
    (place : WorkerPlace) :
    (state.setWorker worker place).worker other =
      if other = worker then place else state.worker other := by
  unfold State.setWorker
  exact Function.update_apply ..

@[simp] theorem call_setCall (state : State) (thread other : Thread) (call : Call) :
    (state.setCall thread call).call other =
      if other = thread then call else state.call other := by
  unfold State.setCall
  exact Function.update_apply ..

theorem finishTask_frame (service : Service) (state : State) (worker : Worker)
    (task : Task) :
    (finishTask service state worker task).run = state.run ∧
    (finishTask service state worker task).reactorRun = state.reactorRun ∧
    (finishTask service state worker task).strandRun = state.strandRun ∧
    (finishTask service state worker task).deletionQueue = state.deletionQueue ∧
    (finishTask service state worker task).pipe = state.pipe ∧
    (finishTask service state worker task).reactor = state.reactor ∧
    (finishTask service state worker task).call = state.call ∧
    (finishTask service state worker task).stopped = state.stopped := by
  cases task <;> exact ⟨rfl, rfl, rfl, rfl, rfl, rfl, rfl, rfl⟩

/-- The end of a task changes no queue, or adds to one. -/
theorem finishTask_queue (service : Service) (state : State) (worker : Worker)
    (task : Task) (id : QueueId) :
    (finishTask service state worker task).queue id = state.queue id ∨
      ∃ added, (finishTask service state worker task).queue id =
        (state.queue id).enqueue added := by
  cases task with
  | enqueueFinal evt =>
      change (enqueue state (.strand (service.strandOf evt)) (.complete evt)).queue id = _ ∨
        ∃ added, (enqueue state (.strand (service.strandOf evt)) (.complete evt)).queue id = _
      by_cases same : id = .strand (service.strandOf evt)
      · subst same
        exact Or.inr ⟨.complete evt, (queue_enqueue _ _ _ _).trans (if_pos rfl)⟩
      · exact Or.inl ((queue_enqueue _ _ _ _).trans (if_neg same))
  | _ => exact Or.inl rfl

/-! ### What one step does to a queue -/

/-- A queue that is inactive stays so, and sleepers still have nothing to read. -/
structure QueueKept (before after : BlockingQueue Worker Task) : Prop where
  inactive : before.active = false → after.active = false
  restful : before.Restful → after.Restful

theorem QueueKept.same (queue : BlockingQueue Worker Task) : QueueKept queue queue :=
  ⟨id, id⟩

theorem queueKept_enqueue (queue : BlockingQueue Worker Task) (task : Task) :
    QueueKept queue (queue.enqueue task) :=
  ⟨id, fun _ => BlockingQueue.restful_notifyAll _⟩

theorem queueKept_stop (queue : BlockingQueue Worker Task) : QueueKept queue queue.stop :=
  ⟨fun _ => rfl, fun _ => BlockingQueue.restful_notifyAll _⟩

theorem queueKept_dequeue (queue : BlockingQueue Worker Task) :
    QueueKept queue queue.dequeue.2 := by
  refine ⟨?_, fun restful => restful.dequeue⟩
  intro inactive
  unfold BlockingQueue.dequeue
  split
  · exact inactive
  · exact inactive

theorem queueKept_sleep {queue : BlockingQueue Worker Task} (worker : Worker)
    (must : queue.mustWait = true) : QueueKept queue (queue.sleep worker) :=
  ⟨id, fun _ => BlockingQueue.Restful.sleep must⟩

theorem queueKept_wakeSpuriously (queue : BlockingQueue Worker Task) (worker : Worker) :
    QueueKept queue (queue.wakeSpuriously worker) :=
  ⟨id, fun restful => restful.wakeSpuriously worker⟩

theorem queueKept_finishTask (service : Service) (state : State) (worker : Worker)
    (task : Task) (id : QueueId) :
    QueueKept (state.queue id) ((finishTask service state worker task).queue id) := by
  rcases finishTask_queue service state worker task id with same | ⟨added, more⟩
  · rw [same]
    exact .same _
  · rw [more]
    exact queueKept_enqueue _ _

theorem queueKept_set {state : State} {id : QueueId} {queue : BlockingQueue Worker Task}
    (kept : QueueKept (state.queue id) queue) (other : QueueId) :
    QueueKept (state.queue other) ((state.setQueue id queue).queue other) := by
  rw [queue_setQueue]
  by_cases same : other = id
  · subst same
    rw [if_pos rfl]
    exact kept
  · rw [if_neg same]
    exact .same _

theorem queueKept_reactor {state next : State} (moved : ReactorMoves state next)
    (id : QueueId) : QueueKept (state.queue id) (next.queue id) := by
  cases moved with
  | dispatch task tasks rest place => exact queueKept_set (queueKept_enqueue _ _) id
  | enqueueFinal evt place => exact queueKept_set (queueKept_enqueue _ _) id
  | _ => exact .same _

theorem queueKept_worker {service : Service} {state next : State} {worker : Worker}
    (moved : WorkerMoves service state worker next) (id : QueueId) :
    QueueKept (state.queue id) (next.queue id) := by
  cases moved with
  | sleep place must => exact queueKept_set (queueKept_sleep worker must) id
  | dequeue place => exact queueKept_set (queueKept_dequeue _) id
  | finish task place => exact queueKept_finishTask service state worker task id
  | _ => exact .same _

theorem queueKept_call {service : Service} {state next : State} {thread : Thread}
    (moved : CallMoves service state thread next) (id : QueueId) :
    QueueKept (state.queue id) (next.queue id) := by
  cases moved with
  | stopQueue index place => exact queueKept_set (queueKept_stop _) id
  | stopTasks place => exact queueKept_set (queueKept_stop _) id
  | _ => exact .same _

theorem queueKept_step {service : Service} {state next : State} {action : Action}
    (moved : Moves service state action next) (id : QueueId) :
    QueueKept (state.queue id) (next.queue id) := by
  cases moved with
  | reactor moved => exact queueKept_reactor moved id
  | worker worker moved => exact queueKept_worker moved id
  | wakeSpuriously worker =>
      exact queueKept_set (queueKept_wakeSpuriously _ worker) id
  | post thread strand fn => exact queueKept_set (queueKept_enqueue _ _) id
  | complete thread evt => exact queueKept_set (queueKept_enqueue _ _) id
  | call thread moved => exact queueKept_call moved id
  | _ => exact .same _

/-- The service is not started again. -/
theorem run_step {service : Service} {state next : State} {action : Action}
    (moved : Moves service state action next) (halted : state.run = false) :
    next.run = false := by
  cases moved with
  | reactor moved => cases moved <;> exact halted
  | worker worker moved =>
      cases moved with
      | finish task place => exact (finishTask_frame service state worker task).1.trans halted
      | _ => exact halted
  | call thread moved =>
      cases moved with
      | stopRun place => rfl
      | _ => exact halted
  | _ => exact halted

/-- A service with one task thread and one strand, the smallest self pipe and every event
on the strand. -/
def oneTaskThread : Service :=
  { taskThreads := 1
    strands := 1
    strandOf := fun _ => 0
    pipeCapacity := 1
    someStrand := Nat.one_pos
    holdsByte := Nat.one_pos }

/-! ### Calls that a step leaves alone -/

theorem call_of_mayCall {state : State} {thread : Thread}
    (user : mayCall state thread = true) : state.call thread = .idle := by
  simp only [mayCall, Bool.and_eq_true, decide_eq_true_eq] at user
  exact user.1

theorem call_reactor {state next : State} (moved : ReactorMoves state next) :
    next.call = state.call := by
  cases moved <;> rfl

theorem call_worker {service : Service} {state next : State} {worker : Worker}
    (moved : WorkerMoves service state worker next) : next.call = state.call := by
  cases moved with
  | finish task place => exact (finishTask_frame service state worker task).2.2.2.2.2.2.1
  | _ => rfl

inductive Handling where
  | started
  | discarded
  | finished
  deriving DecidableEq

def handling (state : State) : Action → Option (QueueId × Handling × Task)
  | .worker worker =>
      match state.worker worker with
      | .fetched (some task) =>
          some (worker.consumes, if innerRun state worker then .started else .discarded, task)
      | .running task => some (worker.consumes, .finished, task)
      | _ => none
  | _ => none

def enqueuedOn (id : QueueId) (all : List (QueueId × Task)) : List Task :=
  all.filterMap fun one => if one.1 = id then some one.2 else none

def handledOn (id : QueueId) (how : Handling) (all : List (QueueId × Handling × Task)) :
    List Task :=
  all.filterMap fun one => if one.1 = id ∧ one.2.1 = how then some one.2.2 else none

structure Grows (before after : Log) (id : QueueId) (enqueued : List (QueueId × Task))
    (handled : List (QueueId × Handling × Task)) : Prop where
  enqueued : after.enqueued = before.enqueued ++ enqueuedOn id enqueued
  started : after.started = before.started ++ handledOn id .started handled
  discarded : after.discarded = before.discarded ++ handledOn id .discarded handled
  finished : after.finished = before.finished ++ handledOn id .finished handled

theorem Grows.nothing (log : Log) (id : QueueId) : Grows log log id [] [] := by
  constructor <;> exact (List.append_nil _).symm

theorem Grows.trans {first second third : Log} {id : QueueId}
    {enqueued more : List (QueueId × Task)} {handled others : List (QueueId × Handling × Task)}
    (before : Grows first second id enqueued handled)
    (after : Grows second third id more others) :
    Grows first third id (enqueued ++ more) (handled ++ others) := by
  constructor
  · rw [after.enqueued, before.enqueued, List.append_assoc, enqueuedOn, enqueuedOn, enqueuedOn,
      List.filterMap_append]
  · rw [after.started, before.started, List.append_assoc, handledOn, handledOn, handledOn,
      List.filterMap_append]
  · rw [after.discarded, before.discarded, List.append_assoc, handledOn, handledOn, handledOn,
      List.filterMap_append]
  · rw [after.finished, before.finished, List.append_assoc, handledOn, handledOn, handledOn,
      List.filterMap_append]

end BabaIo.Threads
