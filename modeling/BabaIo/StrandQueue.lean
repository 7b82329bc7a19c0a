import BabaIo.ServiceStop

/-
The tasks of a strand.

Every task that was enqueued is in one place: it has been started, it was discarded,
the consumer holds it in front of the loop test, or it is in the queue.  Read in
this order the places give the order of the enqueue calls.
-/

set_option autoImplicit false

namespace BabaIo.Threads

def WorkerPlace.inHand : WorkerPlace → List Task
  | .fetched (some task) => [task]
  | _ => []

def WorkerPlace.underway : WorkerPlace → List Task
  | .running task => [task]
  | _ => []

def WorkerPlace.leaves : WorkerPlace → Bool
  | .atRun => true
  | .exited => true
  | _ => false

structure Ordered (state : State) (strand : StrandId) : Prop where
  order : (state.log (.strand strand)).enqueued =
    (state.log (.strand strand)).started ++ (state.log (.strand strand)).discarded ++
      (state.worker (.strand strand)).inHand ++ (state.queue (.strand strand)).queue
  started : (state.log (.strand strand)).started =
    (state.log (.strand strand)).finished ++ (state.worker (.strand strand)).underway
  discarded : (state.log (.strand strand)).discarded = [] ∨
    ((state.log (.strand strand)).discarded.length = 1 ∧ state.run = false ∧
      (state.worker (.strand strand)).leaves = true)

structure Consuming (service : Service) (state : State) : Prop where
  stopping : Stopping service state
  halted : ∀ strand, state.strandRun strand = false → state.run = false
  ordered : ∀ strand, Ordered state strand

inductive Receives (state next : State) (strand : StrandId) : Prop where
  | nothing (log : next.log (.strand strand) = state.log (.strand strand))
      (queue : (next.queue (.strand strand)).queue = (state.queue (.strand strand)).queue)
  | task (task : Task)
      (log : next.log (.strand strand) = { state.log (.strand strand) with
        enqueued := (state.log (.strand strand)).enqueued ++ [task] })
      (queue : (next.queue (.strand strand)).queue =
        (state.queue (.strand strand)).queue ++ [task])

theorem receives_enqueue (state : State) (id : QueueId) (task : Task)
    (strand : StrandId) : Receives state (enqueue state id task) strand := by
  by_cases same : QueueId.strand strand = id
  · subst same
    apply Receives.task task
    · rw [log_enqueue, if_pos rfl]
    · rw [queue_enqueue, if_pos rfl]
      rfl
  · apply Receives.nothing
    · rw [log_enqueue, if_neg same]
    · rw [queue_enqueue, if_neg same]

theorem Ordered.of_receives {state next : State} {strand : StrandId}
    (held : Ordered state strand) (receives : Receives state next strand)
    (worker : next.worker (.strand strand) = state.worker (.strand strand))
    (run : state.run = false → next.run = false) : Ordered next strand := by
  cases receives with
  | nothing log queue =>
      constructor
      · rw [log, worker, queue]
        exact held.order
      · rw [log, worker]
        exact held.started
      · rw [log, worker]
        exact held.discarded.imp id (fun one => ⟨one.1, run one.2.1, one.2.2⟩)
  | task task log queue =>
      constructor
      · rw [log, worker, queue]
        change (state.log (.strand strand)).enqueued ++ [task] = _
        rw [held.order, List.append_assoc _ _ [task]]
      · rw [log, worker]
        exact held.started
      · rw [log, worker]
        exact held.discarded.imp id (fun one => ⟨one.1, run one.2.1, one.2.2⟩)

/-- The end of a task adds to one queue at most, besides its own log. -/
theorem receives_finishTask (service : Service) (state : State) {worker : Worker}
    (task : Task) {strand : StrandId} (other : worker ≠ .strand strand) :
    Receives state (finishTask service state worker task) strand := by
  have elsewhere : QueueId.strand strand ≠ worker.consumes := by
    cases worker with
    | task index =>
        intro impossible
        cases impossible
    | strand index =>
        intro same
        cases same
        exact other rfl
  cases task with
  | enqueueFinal evt =>
      have given := receives_enqueue state (.strand (service.strandOf evt))
        (.complete evt) strand
      have logs : (finishTask service state worker (.enqueueFinal evt)).log
          (.strand strand) = (enqueue state (.strand (service.strandOf evt))
            (.complete evt)).log (.strand strand) :=
        (log_setLog _ _ _ _).trans (if_neg elsewhere)
      cases given with
      | nothing log queue => exact .nothing (logs.trans log) queue
      | task added log queue => exact .task added (logs.trans log) queue
  | react evt code =>
      exact .nothing ((log_setLog _ _ _ _).trans (if_neg elsewhere)) rfl
  | complete evt =>
      exact .nothing ((log_setLog _ _ _ _).trans (if_neg elsewhere)) rfl
  | posted fn =>
      exact .nothing ((log_setLog _ _ _ _).trans (if_neg elsewhere)) rfl

/-! ### Steps of the consumer -/

theorem Ordered.of_place {state : State} {strand : StrandId} (held : Ordered state strand)
    {place : WorkerPlace}
    (inHand : place.inHand = (state.worker (.strand strand)).inHand)
    (underway : place.underway = (state.worker (.strand strand)).underway)
    (leaves : (state.worker (.strand strand)).leaves = true → state.run = false →
      place.leaves = true) :
    Ordered (state.setWorker (.strand strand) place) strand := by
  have moved : (state.setWorker (.strand strand) place).worker (.strand strand) = place :=
    (worker_setWorker ..).trans (if_pos rfl)
  constructor
  · rw [moved, inHand]
    exact held.order
  · rw [moved, underway]
    exact held.started
  · rw [moved]
    exact held.discarded.imp id (fun one => ⟨one.1, one.2.1, leaves one.2.2 one.2.1⟩)

/-- Only a consumer that has left its loops has discarded a task. -/
theorem Ordered.none_discarded {state : State} {strand : StrandId}
    (held : Ordered state strand)
    (stays : (state.worker (.strand strand)).leaves = false) :
    (state.log (.strand strand)).discarded = [] := by
  rcases held.discarded with none | one
  · exact none
  · rw [stays] at one
    cases one.2.2

theorem ordered_dequeue {state : State} {strand : StrandId} (held : Ordered state strand)
    (place : state.worker (.strand strand) = .dequeuing) :
    Ordered ((state.setQueue (.strand strand)
      (state.queue (.strand strand)).dequeue.2).setWorker (.strand strand)
        (.fetched (state.queue (.strand strand)).dequeue.1)) strand := by
  have none := held.none_discarded (congrArg WorkerPlace.leaves place)
  have order := held.order
  have started := held.started
  rw [place] at order started
  constructor
  · rw [worker_setWorker, if_pos rfl]
    change (state.log (.strand strand)).enqueued = _ ++
      ((state.setQueue (.strand strand) _).queue (.strand strand)).queue
    rw [queue_setQueue, if_pos rfl, order]
    cases content : (state.queue (.strand strand)).queue with
    | nil =>
        simp only [BlockingQueue.dequeue, content]
        rfl
    | cons task rest =>
        simp only [BlockingQueue.dequeue, content, WorkerPlace.inHand, List.append_assoc,
          List.nil_append, List.singleton_append]
        rfl
  · rw [worker_setWorker, if_pos rfl]
    exact started
  · exact Or.inl none

theorem Ordered.of_log {state : State} {strand : StrandId} {log : Log} {place : WorkerPlace}
    (order : log.enqueued = log.started ++ log.discarded ++ place.inHand ++
      (state.queue (.strand strand)).queue)
    (started : log.started = log.finished ++ place.underway)
    (discarded : log.discarded = [] ∨
      (log.discarded.length = 1 ∧ state.run = false ∧ place.leaves = true)) :
    Ordered ((state.setLog (.strand strand) log).setWorker (.strand strand) place)
      strand := by
  have logged : ((state.setLog (.strand strand) log).setWorker (.strand strand) place).log
      (.strand strand) = log :=
    (log_setLog state (.strand strand) (.strand strand) log).trans (if_pos rfl)
  constructor
  · rw [worker_setWorker, if_pos rfl, logged]
    exact order
  · rw [worker_setWorker, if_pos rfl, logged]
    exact started
  · rw [worker_setWorker, if_pos rfl, logged]
    exact discarded

theorem ordered_start {state : State} {strand : StrandId} (held : Ordered state strand)
    {task : Task} (place : state.worker (.strand strand) = .fetched (some task)) :
    Ordered ((state.setLog (.strand strand) { state.log (.strand strand) with
      started := (state.log (.strand strand)).started ++ [task] }).setWorker
        (.strand strand) (.running task)) strand := by
  have none := held.none_discarded (congrArg WorkerPlace.leaves place)
  have order := held.order
  have started := held.started
  rw [place] at order started
  apply Ordered.of_log
  · change (state.log (.strand strand)).enqueued = _
    rw [order, none]
    simp only [WorkerPlace.inHand, List.append_nil, List.append_assoc]
  · change (state.log (.strand strand)).started ++ [task] = _
    rw [started]
    simp only [WorkerPlace.underway, List.append_nil]
  · exact Or.inl none

theorem ordered_discard {state : State} {strand : StrandId} (held : Ordered state strand)
    {task : Task} (place : state.worker (.strand strand) = .fetched (some task))
    (halted : state.run = false) :
    Ordered ((state.setLog (.strand strand) { state.log (.strand strand) with
      discarded := (state.log (.strand strand)).discarded ++ [task] }).setWorker
        (.strand strand) .atRun) strand := by
  have none := held.none_discarded (congrArg WorkerPlace.leaves place)
  have order := held.order
  have started := held.started
  rw [place] at order started
  apply Ordered.of_log
  · change (state.log (.strand strand)).enqueued = _
    rw [order, none]
    simp only [WorkerPlace.inHand, List.append_nil, List.nil_append]
  · exact started
  · right
    refine ⟨?_, halted, rfl⟩
    rw [none]
    rfl

/-- The consumer is back in front of `dequeue`; what the task enqueued is in `done`. -/
theorem ordered_finished {done : State} {strand : StrandId} (held : Ordered done strand)
    {task : Task} (place : done.worker (.strand strand) = .running task) :
    Ordered ((done.setLog (.strand strand) { done.log (.strand strand) with
      finished := (done.log (.strand strand)).finished ++ [task] }).setWorker
        (.strand strand) .dequeuing) strand := by
  have none := held.none_discarded (congrArg WorkerPlace.leaves place)
  have order := held.order
  have started := held.started
  rw [place] at order started
  apply Ordered.of_log
  · exact order
  · change (done.log (.strand strand)).started =
      (done.log (.strand strand)).finished ++ [task] ++ []
    rw [started, List.append_nil]
    rfl
  · exact Or.inl none

theorem ordered_finish (service : Service) {state : State} {strand : StrandId}
    (held : Ordered state strand) {task : Task}
    (place : state.worker (.strand strand) = .running task) :
    Ordered (finishTask service state (.strand strand) task) strand := by
  cases task with
  | enqueueFinal evt =>
      have received := held.of_receives (receives_enqueue state
        (.strand (service.strandOf evt)) (.complete evt) strand) rfl id
      exact ordered_finished received place
  | react evt code => exact ordered_finished held place
  | complete evt => exact ordered_finished held place
  | posted fn => exact ordered_finished held place

theorem ordered_consumer {service : Service} {state next : State} {strand : StrandId}
    (consuming : Consuming service state)
    (moved : WorkerMoves service state (.strand strand) next) : Ordered next strand := by
  have held := consuming.ordered strand
  cases moved with
  | enter place run =>
      apply held.of_place
      · rw [place]
        rfl
      · rw [place]
        rfl
      · intro _ halted
        rw [run] at halted
        cases halted
  | exit place run =>
      apply held.of_place
      · rw [place]
        rfl
      · rw [place]
        rfl
      · exact fun _ _ => rfl
  | sleep place must =>
      refine held.of_receives (.nothing rfl ?_) rfl id
      change ((state.setQueue (.strand strand) _).queue (.strand strand)).queue = _
      rw [queue_setQueue, if_pos rfl]
      rfl
  | pass place =>
      apply held.of_place
      · rw [place]
        rfl
      · rw [place]
        rfl
      · rw [place]
        intro impossible
        cases impossible
  | dequeue place => exact ordered_dequeue held place
  | drained place =>
      apply held.of_place
      · rw [place]
        rfl
      · rw [place]
        rfl
      · exact fun _ _ => rfl
  | start task place inner => exact ordered_start held place
  | discard task place inner =>
      exact ordered_discard held place (consuming.halted strand inner)
  | finish task place => exact ordered_finish service held place

/-! ### Every step -/

theorem receives_worker {service : Service} {state next : State} {worker : Worker}
    (moved : WorkerMoves service state worker next) {strand : StrandId}
    (other : worker ≠ .strand strand) : Receives state next strand := by
  have elsewhere : QueueId.strand strand ≠ worker.consumes := by
    cases worker with
    | task index =>
        intro impossible
        cases impossible
    | strand index =>
        intro same
        cases same
        exact other rfl
  cases moved with
  | sleep place must =>
      refine .nothing rfl ?_
      rw [queue_setQueue, if_neg elsewhere]
  | dequeue place =>
      refine .nothing rfl ?_
      change ((state.setQueue worker.consumes _).queue (.strand strand)).queue = _
      rw [queue_setQueue, if_neg elsewhere]
  | start task place inner =>
      exact .nothing ((log_setLog _ _ _ _).trans (if_neg elsewhere)) rfl
  | discard task place inner =>
      exact .nothing ((log_setLog _ _ _ _).trans (if_neg elsewhere)) rfl
  | finish task place => exact receives_finishTask service state task other
  | _ => exact .nothing rfl rfl

theorem worker_other {service : Service} {state next : State} {worker other : Worker}
    (moved : WorkerMoves service state worker next) (different : other ≠ worker) :
    next.worker other = state.worker other := by
  cases moved with
  | sleep place must => rfl
  | finish task place =>
      cases task <;> exact (worker_setWorker _ _ _ _).trans (if_neg different)
  | _ => exact (worker_setWorker _ _ _ _).trans (if_neg different)

theorem receives_reactor {state next : State} (moved : ReactorMoves state next)
    (strand : StrandId) :
    Receives state next strand ∧ next.worker = state.worker := by
  cases moved with
  | dispatch task tasks rest place =>
      have given := receives_enqueue state .reactorTasks task strand
      cases given with
      | nothing log queue => exact ⟨.nothing log queue, rfl⟩
      | task added log queue => exact ⟨.task added log queue, rfl⟩
  | enqueueFinal evt place =>
      have given := receives_enqueue state .reactorTasks (.enqueueFinal evt) strand
      cases given with
      | nothing log queue => exact ⟨.nothing log queue, rfl⟩
      | task added log queue => exact ⟨.task added log queue, rfl⟩
  | _ => exact ⟨.nothing rfl rfl, rfl⟩

theorem receives_call {service : Service} {state next : State} {thread : Thread}
    (moved : CallMoves service state thread next) (strand : StrandId) :
    Receives state next strand ∧ next.worker = state.worker := by
  cases moved with
  | stopQueue index place =>
      refine ⟨.nothing rfl ?_, rfl⟩
      change ((state.setQueue (.strand index) _).queue (.strand strand)).queue = _
      rw [queue_setQueue]
      split
      · rename_i same
        cases same
        rfl
      · rfl
  | stopTasks place => exact ⟨.nothing rfl rfl, rfl⟩
  | _ => exact ⟨.nothing rfl rfl, rfl⟩

theorem ordered_step {service : Service} {state next : State} {action : Action}
    (consuming : Consuming service state) (moved : Moves service state action next)
    (strand : StrandId) : Ordered next strand := by
  have held := consuming.ordered strand
  have run := run_step moved
  cases moved with
  | reactor moved =>
      obtain ⟨receives, worker⟩ := receives_reactor moved strand
      exact held.of_receives receives (congrFun worker _) run
  | worker worker moved =>
      by_cases same : worker = .strand strand
      · subst same
        exact ordered_consumer consuming moved
      · exact held.of_receives (receives_worker moved same)
          (worker_other moved (Ne.symm same)) run
  | wakeSpuriously worker =>
      refine held.of_receives (.nothing rfl ?_) rfl run
      rw [queue_setQueue]
      split
      · rename_i same
        rw [same]
        rfl
      · rfl
  | post thread other fn =>
      exact held.of_receives (receives_enqueue state (.strand other) (.posted fn) strand)
        rfl run
  | complete thread evt =>
      exact held.of_receives (receives_enqueue state (.strand (service.strandOf evt))
        (.complete evt) strand) rfl run
  | call thread moved =>
      obtain ⟨receives, worker⟩ := receives_call moved strand
      exact held.of_receives receives (congrFun worker _) run
  | _ => exact held.of_receives (.nothing rfl rfl) rfl run

end BabaIo.Threads
