import BabaIo.Library.Simulation
import BabaIo.ServiceThreads

/-
The deletion queue.

The reactor moves a final event to its task queue after it has enqueued the tasks
of the reports in its hands.  The reactor tasks are listed in order here, with
those that the reactor is still going to enqueue for the reports it holds: a report
that is harvested and a final event that is taken out of the deletion queue go to
the end of the list.  A destructor removes its descriptor from epoll before it
disposes an event, so no report of it is harvested later.
-/

set_option autoImplicit false

namespace BabaIo.Threads

/-! ### The reactor tasks in order -/

def Task.final : Task → Option EventId
  | .enqueueFinal evt => some evt
  | _ => none

def tasksOf (entries : List Entry) : List Task :=
  (entries.filterMap id).flatMap Report.tasks

def ReactorPlace.tasks : ReactorPlace → List Task
  | .handling entries => tasksOf entries
  | .draining rest => tasksOf rest
  | .dispatching tasks rest => tasks ++ tasksOf rest
  | .dequeued evt => [.enqueueFinal evt]
  | _ => []

def State.upcoming (state : State) : List Task :=
  (state.log .reactorTasks).enqueued ++ state.reactor.tasks

def State.disposed (state : State) : List EventId :=
  state.upcoming.filterMap Task.final ++ state.deletionQueue

def disposal (_state : State) : Action → Option EventId
  | .dispose _ evt => some evt
  | _ => none

theorem mem_tasksOf {entries : List Entry} {task : Task} :
    task ∈ tasksOf entries ↔
      ∃ report, report ∈ entries.filterMap id ∧ task ∈ report.tasks :=
  List.mem_flatMap

theorem Report.final_of_task {report : Report} {task : Task}
    (member : task ∈ report.tasks) : task.final = none := by
  unfold Report.tasks at member
  obtain ⟨dispatch, _, found⟩ := List.mem_filterMap.mp member
  obtain ⟨other, _, same⟩ := Option.map_eq_some_iff.mp found
  rw [← same]
  rfl

theorem final_tasksOf (entries : List Entry) :
    (tasksOf entries).filterMap Task.final = [] := by
  rw [List.filterMap_eq_nil_iff]
  intro task member
  obtain ⟨report, _, there⟩ := mem_tasksOf.mp member
  exact report.final_of_task there

/-! ### What a step does to the list -/

inductive Advances (state : State) (action : Action) (next : State) : Prop where
  | keeps (quiet : disposal state action = none)
      (upcoming : next.upcoming = state.upcoming)
      (deletionQueue : next.deletionQueue = state.deletionQueue)
      (ready : next.ready = state.ready)
  | reports (report : Report) (reported : action = .report report)
      (upcoming : next.upcoming = state.upcoming)
      (deletionQueue : next.deletionQueue = state.deletionQueue)
      (ready : next.ready = state.ready ++ [report])
  | harvests (entries : List Entry) (quiet : disposal state action = none)
      (found : entries.filterMap id <+: state.ready)
      (upcoming : next.upcoming = state.upcoming ++ tasksOf entries)
      (deletionQueue : next.deletionQueue = state.deletionQueue)
      (ready : next.ready = state.ready.drop (entries.filterMap id).length)
  /-- A stop makes the reactor leave the reports in its hands. -/
  | leaves (entries : List Entry) (quiet : disposal state action = none)
      (upcoming : state.upcoming = next.upcoming ++ tasksOf entries)
      (deletionQueue : next.deletionQueue = state.deletionQueue)
      (ready : next.ready = state.ready)
  | takes (evt : EventId) (quiet : disposal state action = none)
      (upcoming : next.upcoming = state.upcoming ++ [.enqueueFinal evt])
      (deletionQueue : state.deletionQueue = evt :: next.deletionQueue)
      (ready : next.ready = state.ready)
  | disposes (thread : Thread) (evt : EventId) (disposed : action = .dispose thread evt)
      (upcoming : next.upcoming = state.upcoming)
      (deletionQueue : next.deletionQueue = state.deletionQueue ++ [evt])
      (ready : next.ready = state.ready)

/-- The reactor task queue and its log stay, one task is added to both, or a thread takes
the first task out of the queue. -/
inductive Consumes (state next : State) : Prop where
  | nothing
      (log : (next.log .reactorTasks).enqueued = (state.log .reactorTasks).enqueued)
      (queue : (next.queue .reactorTasks).queue = (state.queue .reactorTasks).queue)
  | task (task : Task)
      (log : (next.log .reactorTasks).enqueued =
        (state.log .reactorTasks).enqueued ++ [task])
      (queue : (next.queue .reactorTasks).queue =
        (state.queue .reactorTasks).queue ++ [task])
  | taken (log : (next.log .reactorTasks).enqueued = (state.log .reactorTasks).enqueued)
      (queue : (next.queue .reactorTasks).queue =
        (state.queue .reactorTasks).dequeue.2.queue)

theorem Consumes.setCall {state next : State} (consumes : Consumes state next)
    (thread : Thread) (call : Call) : Consumes state (next.setCall thread call) := by
  cases consumes with
  | nothing log queue => exact .nothing log queue
  | task task log queue => exact .task task log queue
  | taken log queue => exact .taken log queue

/-- Disposed events stay, and a step disposes those it says. -/
theorem Advances.disposed {state next : State} {action : Action}
    (advances : Advances state action next) :
    next.disposed = state.disposed ++ (disposal state action).toList := by
  unfold State.disposed
  cases advances with
  | keeps quiet upcoming deletionQueue ready =>
      rw [upcoming, deletionQueue, quiet]
      exact (List.append_nil _).symm
  | reports report reported upcoming deletionQueue ready =>
      rw [upcoming, deletionQueue, reported]
      exact (List.append_nil _).symm
  | harvests entries quiet found upcoming deletionQueue ready =>
      rw [upcoming, deletionQueue, quiet, List.filterMap_append, final_tasksOf,
        List.append_nil]
      exact (List.append_nil _).symm
  | leaves entries quiet upcoming deletionQueue ready =>
      rw [upcoming, deletionQueue, quiet, List.filterMap_append, final_tasksOf,
        List.append_nil]
      exact (List.append_nil _).symm
  | takes evt quiet upcoming deletionQueue ready =>
      rw [upcoming, deletionQueue, quiet, List.filterMap_append, List.append_assoc]
      exact (List.append_nil _).symm
  | disposes thread evt disposed upcoming deletionQueue ready =>
      rw [upcoming, deletionQueue, disposed, ← List.append_assoc]
      rfl

end BabaIo.Threads
