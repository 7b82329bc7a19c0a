import BabaIo.ServiceRest

/-
What nobody can undo after a stop.

A call of `stop` that has returned has reset the flag of every strand, and no flag
is ever set again.  So no task is started any more and no event leaves the deletion
queue, and a worker ends after a few steps, whatever is enqueued in the meantime.
-/

set_option autoImplicit false

namespace BabaIo.Threads

def FlagsReset (state : State) (index : StrandId) : Prop :=
  ∀ earlier, earlier < index → state.strandRun earlier = false

def HasReset (service : Service) (state : State) : Call → Prop
  | .stopStrand index => FlagsReset state index
  | .stopQueue index => FlagsReset state (index + 1)
  | .stopTasks => FlagsReset state service.strands
  | .stopReactor => FlagsReset state service.strands
  | .stopInterrupt => FlagsReset state service.strands
  | _ => True

structure Resetting (service : Service) (state : State) : Prop where
  stopping : Stopping service state
  calls : ∀ thread, HasReset service state (state.call thread)
  returned : state.stopped = true → FlagsReset state service.strands

theorem FlagsReset.mono {state next : State}
    (kept : ∀ strand, state.strandRun strand = false → next.strandRun strand = false)
    {index : StrandId} (reset : FlagsReset state index) : FlagsReset next index :=
  fun earlier before => kept earlier (reset earlier before)

theorem HasReset.mono {service : Service} {state next : State}
    (kept : ∀ strand, state.strandRun strand = false → next.strandRun strand = false)
    {call : Call} (reset : HasReset service state call) : HasReset service next call := by
  cases call with
  | stopStrand index => exact FlagsReset.mono kept reset
  | stopQueue index => exact FlagsReset.mono kept reset
  | stopTasks => exact FlagsReset.mono kept reset
  | stopReactor => exact FlagsReset.mono kept reset
  | stopInterrupt => exact FlagsReset.mono kept reset
  | _ => trivial

theorem strandRun_step {service : Service} {state next : State} {action : Action}
    (moved : Moves service state action next) {strand : StrandId}
    (reset : state.strandRun strand = false) : next.strandRun strand = false := by
  cases moved with
  | reactor moved => cases moved <;> exact reset
  | worker worker moved =>
      cases moved with
      | finish task place =>
          rw [(finishTask_frame service state worker task).2.2.1]
          exact reset
      | _ => exact reset
  | call thread moved =>
      cases moved with
      | stopStrand index place =>
          change Function.update state.strandRun index false strand = false
          rw [Function.update_apply]
          split
          · rfl
          · exact reset
      | _ => exact reset
  | _ => exact reset

theorem Resetting.of_sameCalls {service : Service} {state next : State} {action : Action}
    (held : Resetting service state) (stepped : step service state action = some next)
    (call : next.call = state.call) (stopped : next.stopped = state.stopped) :
    Resetting service next := by
  have kept : ∀ strand, state.strandRun strand = false → next.strandRun strand = false :=
    fun _ => strandRun_step (step_moves stepped)
  constructor
  · exact stopping_step held.stopping stepped
  · intro thread
    rw [call]
    exact (held.calls thread).mono kept
  · intro ended
    exact (held.returned (stopped.symm.trans ended)).mono kept

/-- A step of a call: what the thread has reset is to be shown. -/
theorem Resetting.of_call {service : Service} {state next : State} {action : Action}
    (held : Resetting service state) (stepped : step service state action = some next)
    {thread : Thread} {call : Call}
    (calls : ∀ other, next.call other = if other = thread then call else state.call other)
    (reset : HasReset service next call)
    (returned : next.stopped = true → FlagsReset next service.strands) :
    Resetting service next := by
  have kept : ∀ strand, state.strandRun strand = false → next.strandRun strand = false :=
    fun _ => strandRun_step (step_moves stepped)
  constructor
  · exact stopping_step held.stopping stepped
  · intro other
    rw [calls]
    split
    · exact reset
    · exact (held.calls other).mono kept
  · exact returned

/-- All flags that a worker tests are reset and no queue of a worker is active. -/
structure Halted (service : Service) (state : State) : Prop where
  run : state.run = false
  strands : FlagsReset state service.strands
  inactive : ∀ worker, service.starts worker = true →
    (state.queue worker.consumes).active = false

theorem Resetting.halted {service : Service} {state : State} (held : Resetting service state)
    (stopped : state.stopped = true) : Halted service state := by
  obtain ⟨run, strands, tasks⟩ := held.stopping.returned stopped
  refine ⟨run, held.returned stopped, ?_⟩
  intro worker starts
  cases worker with
  | task index => exact tasks
  | strand index => exact strands index (of_decide_eq_true starts)

theorem Halted.innerRun {service : Service} {state : State} (halted : Halted service state)
    {worker : Worker} (starts : service.starts worker = true) :
    innerRun state worker = false := by
  cases worker with
  | task index => exact halted.run
  | strand index => exact halted.strands index (of_decide_eq_true starts)

end BabaIo.Threads
