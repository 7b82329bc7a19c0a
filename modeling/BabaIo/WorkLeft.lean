import BabaIo.ServiceRest

/-
The work that is left to the threads of a service.

Every step of the service lowers the work left.  A task in a queue counts for what
its run enqueues and for what its arrival and its departure stir up: a change of a
queue gives each worker a few steps more.  A report and a disposed event count for
the tasks they become, a byte in the self pipe for the reactor's way back into
`epoll_wait`, and a call for its steps to the end.
-/

set_option autoImplicit false

namespace BabaIo.Threads

/-! ### Workers and their queues -/

def Service.workers (service : Service) : Finset Worker :=
  (Finset.range service.taskThreads).image .task ∪ (Finset.range service.strands).image .strand

def Service.consumed (service : Service) : Finset QueueId :=
  service.workers.image Worker.consumes

/-- A change of a queue gives the workers so many steps more at most. -/
def Service.stir (service : Service) : Nat := 4 * service.workers.card

def Service.follows (service : Service) : Task → Nat
  | .enqueueFinal _ => 2 * service.stir + 8
  | _ => 0

def Service.effort (service : Service) (task : Task) : Nat :=
  service.stir + 8 + service.follows task

def Service.cost (service : Service) (task : Task) : Nat :=
  service.effort task + service.stir

/-- The steps of a worker until it sleeps, ends or has the next task in hand. -/
def WorkerPlace.left (service : Service) (run empty asleep : Bool) : WorkerPlace → Nat
  | .exited => 0
  | .atRun => if run then (if empty then 2 else 3) else 1
  | .waiting => if asleep then 0 else if run then (if empty then 1 else 2) else 4
  | .dequeuing => if run then (if empty then 4 else 1) else 3
  | .fetched none => if run then (if empty then 3 else 4) else 2
  | .fetched (some task) => 6 + service.follows task
  | .running task => 5 + service.follows task

/-- A worker that waits and has a step is awake; it goes to sleep, or there is
something to take, or the service was stopped. -/
theorem waiting_step {service : Service} {state next : State} {worker : Worker}
    (held : Resting service state) (place : state.worker worker = .waiting)
    (stepped : stepWorker service state worker = some next) :
    (state.queue worker.consumes).asleep worker = false ∧
      (next = state.setQueue worker.consumes ((state.queue worker.consumes).sleep worker) ∨
        (next = state.setWorker worker .dequeuing ∧
          (state.run = true → (state.queue worker.consumes).queue.isEmpty = false))) := by
  unfold stepWorker at stepped
  rw [place] at stepped
  dsimp only at stepped
  split at stepped
  · cases stepped
  · rename_i awake
    refine ⟨Bool.eq_false_iff.mpr awake, ?_⟩
    split at stepped <;> cases stepped
    · exact Or.inl rfl
    · rename_i opened
      refine Or.inr ⟨rfl, ?_⟩
      intro running
      cases active : (state.queue worker.consumes).active with
      | true =>
          simpa [BlockingQueue.mustWait, active] using opened
      | false =>
          have halted := held.inactive _ active
          rw [running] at halted
          cases halted

def Service.dispatchCost (service : Service) (tasks : List Task) : Nat :=
  (tasks.map fun task => service.cost task + 1).sum

def Service.entryCost (service : Service) : Entry → Nat
  | none => 2
  | some report => service.dispatchCost report.tasks + 2

def Service.entriesCost (service : Service) (entries : List Entry) : Nat :=
  (entries.map service.entryCost).sum

def ReactorPlace.left (service : Service) : ReactorPlace → Nat
  | .atRun => 1
  | .inWait => 0
  | .handling entries => service.entriesCost entries + 4
  | .draining rest => service.entriesCost rest + 5
  | .dispatching tasks rest => service.dispatchCost tasks + service.entriesCost rest + 5
  | .unfrozen => 3
  | .frozen => 2
  | .dequeued evt => service.cost (.enqueueFinal evt) + 3
  | .exited => 0

def ReactorPlace.drains : ReactorPlace → Bool
  | .handling entries => entries.any Option.isNone
  | .draining _ => true
  | .dispatching _ rest => rest.any Option.isNone
  | _ => false

def ReactorPlace.waits : ReactorPlace → Bool
  | .inWait => true
  | _ => false

/-- The round of the reactor for which a byte in the self pipe is there, or the last
round after a stop. -/
def ReactorPlace.round (run : Bool) (pipe : Nat) (place : ReactorPlace) : Nat :=
  if run then (if 0 < pipe && !place.drains then 8 else 0)
  else if place.waits then 8 else 0

/-- The work of a call to its end, and what it stirs up on the way. -/
def Call.left (service : Service) : Call → Nat
  | .idle => 0
  | .interrupting => 10
  | .stopInterrupt => 10
  | .stopReactor => 11
  | .stopTasks => service.stir + 12
  | .stopStrand index => (service.strands - index) * (service.stir + 2) + service.stir + 13
  | .stopQueue index =>
      (service.strands - (index + 1)) * (service.stir + 2) + 2 * service.stir + 14
  | .stopRun => service.strands * (service.stir + 2) + 2 * service.stir + 22

end BabaIo.Threads
