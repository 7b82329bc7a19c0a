import BabaIo.StrandQueue
import BabaIo.TaskThreads
import BabaIo.Library.Progress
import BabaIo.Library.Tally

/-
The threads of a service come to rest.

While no descriptor becomes ready and user code starts nothing new, every step of
the service uses up some of the work that is left, in whatever order its threads
take their steps.  When no step is possible any more, all work is done and every
thread waits for more, or the service was stopped and every thread has ended.
-/

set_option autoImplicit false

namespace BabaIo.Threads

/-- All work is done and every thread of the service waits for more. -/
structure Served (service : Service) (state : State) : Prop where
  reactor : ReactorBlocked state
  deletions : state.deletionQueue = []
  calls : ∀ thread, state.call thread = .idle
  workers : ∀ worker, service.starts worker = true →
    Asleep state worker ∧ (state.queue worker.consumes).queue = []
  strands : ∀ strand, strand < service.strands →
    (state.log (.strand strand)).finished = (state.log (.strand strand)).enqueued

def Call.stops : Call → Bool
  | .idle => false
  | .interrupting => false
  | .stopRun => false
  | _ => true

structure Resting (service : Service) (state : State) : Prop where
  consuming : Consuming service state
  inactive : ∀ id, (state.queue id).active = false → state.run = false
  reactorRun : state.reactorRun = false → state.run = false
  workerExited : ∀ worker, state.worker worker = .exited → state.run = false
  reactorExited : state.reactor = .exited → state.run = false
  stops : state.run = false →
    state.stopped = true ∨ ∃ thread, (state.call thread).stops = true

/-- A strand that sleeps has finished all that was given to it. -/
theorem Resting.finished {service : Service} {state : State} (held : Resting service state)
    {strand : StrandId} (asleep : Asleep state (.strand strand)) :
    (state.log (.strand strand)).finished = (state.log (.strand strand)).enqueued := by
  have ordered := held.consuming.ordered strand
  have queue : (state.queue (.strand strand)).queue = [] :=
    (held.consuming.stopping.restful _).queue_eq_nil asleep.2
  have none := ordered.none_discarded (congrArg WorkerPlace.leaves asleep.1)
  rw [ordered.order, none, asleep.1, queue, ordered.started, asleep.1]
  simp only [WorkerPlace.inHand, WorkerPlace.underway, List.append_nil]

theorem Resting.served {service : Service} {state : State} (held : Resting service state)
    (running : state.run = true) (calls : ∀ thread, state.call thread = .idle)
    (reactor : ReactorBlocked state)
    (asleep : ∀ worker, service.starts worker = true → Asleep state worker) :
    Served service state := by
  constructor
  · exact reactor
  · by_contra pending
    rcases held.consuming.stopping.noLostWakeup running pending reactor.1 with
      byte | ⟨thread, between⟩
    · rw [reactor.2.1] at byte
      cases byte
    · rw [calls thread] at between
      cases between
  · exact calls
  · intro worker starts
    exact ⟨asleep worker starts,
      (held.consuming.stopping.restful _).queue_eq_nil (asleep worker starts).2⟩
  · intro strand inside
    exact held.finished (asleep (.strand strand) (decide_eq_true inside))

end BabaIo.Threads
