import BabaIo.ServiceStop

/-
The number of reactor task threads.

The constructor gives the number of threads a default when the argument is zero and
keeps nothing of any other argument: `_num_reactor_threads` stays at its initial zero,
`run` starts no task thread, and nobody consumes the reactor task queue.
-/

set_option autoImplicit false

namespace BabaIo.Threads

def numReactorThreads (reactorThreads : Nat) : Nat :=
  -- the member's initializer is 0 and any other argument leaves it
  if reactorThreads = 0 then 4 else 0

def Service.create (reactorThreads strands : Nat) (strandOf : EventId → StrandId)
    (pipeCapacity : Nat) (someStrand : 0 < strands) (holdsByte : 0 < pipeCapacity) :
    Service :=
  { taskThreads := numReactorThreads reactorThreads
    strands := strands
    strandOf := strandOf
    pipeCapacity := pipeCapacity
    someStrand := someStrand
    holdsByte := holdsByte }

def StartsAsked (reactorThreads : Nat) (service : Service) : Prop :=
  if reactorThreads = 0 then 0 < service.taskThreads
  else service.taskThreads = reactorThreads

def ReactorBlocked (state : State) : Prop :=
  state.reactor = .inWait ∧ state.pipe = 0 ∧ state.ready = []

/-- A task waits in the reactor task queue and every thread of the service is blocked. -/
structure Stranded (service : Service) (state : State) : Prop where
  pending : (state.queue .reactorTasks).queue ≠ []
  reactor : ReactorBlocked state
  workers : ∀ worker, service.starts worker = true → Asleep state worker

def NeverStranded (service : Service) (state : State) : Prop :=
  state.run = true → ¬ Stranded service state

/-- No thread of a stranded service has a step. -/
theorem Stranded.stuck {service : Service} {state : State}
    (stranded : Stranded service state) :
    step service state .reactor = none ∧
    (∀ entries, step service state (.epollReturn entries) = none) ∧
    ∀ worker, step service state (.worker worker) = none := by
  obtain ⟨place, pipe, ready⟩ := stranded.reactor
  refine ⟨?_, ?_, ?_⟩
  · simp only [step, stepReactor, place]
  · intro entries
    simp only [step, inWait, place, Bool.true_and]
    rw [if_neg]
    intro returns
    simp only [mayReturn, pipe, ready, if_true, Bool.and_eq_true, Bool.not_eq_true',
      decide_eq_true_eq, Nat.le_zero, List.countP_eq_zero] at returns
    obtain ⟨⟨⟨some, _⟩, noPipe⟩, noReport⟩ := returns
    cases entries with
    | nil => cases some
    | cons entry rest =>
        cases entry with
        | none => exact noPipe none List.mem_cons_self rfl
        | some report => cases noReport
  · intro worker
    simp only [step]
    split
    · obtain ⟨waits, sleeps⟩ := stranded.workers worker ‹_›
      simp only [stepWorker, waits, sleeps, if_true]
    · rfl

/-! ### A service with task threads -/

theorem neverStranded_of_taskThread {service : Service} {state : State}
    (held : Stopping service state) (some : 0 < service.taskThreads) :
    NeverStranded service state := by
  intro _ stranded
  have asleep := stranded.workers (.task 0) (decide_eq_true some)
  exact stranded.pending ((held.restful .reactorTasks).queue_eq_nil asleep.2)

/-! ### A service without task threads -/

def readable : Report :=
  { events := EPOLLIN
    mask := EventMask.empty
    rearm := ec.OK
    readEvent := some 0
    writeEvent := none }

def dispatchOne : List Action :=
  [.report readable, .reactor, .epollReturn [some readable], .reactor, .reactor, .reactor,
    .reactor, .reactor, .reactor, .reactor]

/-- The strands before the given one sleep, the others have not started. -/
structure FallingAsleep (state : State) (index : StrandId) : Prop where
  run : state.run = true
  pending : (state.queue .reactorTasks).queue ≠ []
  reactor : ReactorBlocked state
  asleep : ∀ earlier, earlier < index → Asleep state (.strand earlier)
  fresh : ∀ later, index ≤ later → state.worker (.strand later) = .atRun ∧
    state.queue (.strand later) = BlockingQueue.empty

theorem fallingAsleep_dispatchOne (service : Service) :
    ∃ state, Runs.exec (step service) init dispatchOne = some state ∧
      FallingAsleep state 0 := by
  refine ⟨_, rfl, ?_⟩
  constructor
  · rfl
  · intro impossible
    cases impossible
  · exact ⟨rfl, rfl, rfl⟩
  · intro earlier before
    exact absurd before (Nat.not_lt_zero earlier)
  · exact fun _ _ => ⟨rfl, rfl⟩

theorem fallingAsleep_strand {service : Service} {state : State} {index : StrandId}
    (falling : FallingAsleep state index) (inside : index < service.strands) :
    ∃ next, Runs.exec (step service) state
        [.worker (.strand index), .worker (.strand index)] = some next ∧
      FallingAsleep next (index + 1) := by
  obtain ⟨place, queue⟩ := falling.fresh index (Nat.le_refl index)
  have starts : service.starts (.strand index) = true := decide_eq_true inside
  let entered := state.setWorker (.strand index) .waiting
  let slept := entered.setQueue (.strand index)
    ((BlockingQueue.empty : BlockingQueue Worker Task).sleep (.strand index))
  have first : step service state (.worker (.strand index)) = some entered := by
    simp only [step, starts, if_true, stepWorker, place, falling.run, entered]
  have second : step service entered (.worker (.strand index)) = some slept := by
    have waits : entered.worker (.strand index) = .waiting :=
      (worker_setWorker ..).trans (if_pos rfl)
    have same : entered.queue (.strand index) = BlockingQueue.empty := queue
    simp only [step, starts, if_true, stepWorker, waits, Worker.consumes, same]
    rfl
  refine ⟨slept, ?_, ?_⟩
  · rw [Runs.exec_cons, first, Option.bind_some, Runs.exec_cons, second]
    rfl
  · constructor
    · exact falling.run
    · change ((entered.setQueue (.strand index) _).queue .reactorTasks).queue ≠ []
      rw [queue_setQueue, if_neg (by intro impossible; cases impossible)]
      exact falling.pending
    · exact falling.reactor
    · intro earlier before
      by_cases same : earlier = index
      · subst same
        constructor
        · exact (worker_setWorker ..).trans (if_pos rfl)
        · change ((entered.setQueue (.strand earlier) _).queue
            (.strand earlier)).asleep _ = true
          rw [queue_setQueue, if_pos rfl]
          exact Function.update_self ..
      · have below := Nat.lt_of_le_of_ne (Nat.lt_succ_iff.mp before) same
        obtain ⟨waits, sleeps⟩ := falling.asleep earlier below
        constructor
        · exact (worker_setWorker ..).trans
            ((if_neg (fun equal => same (Worker.strand.inj equal))).trans waits)
        · change ((entered.setQueue (.strand index) _).queue
            (.strand earlier)).asleep _ = true
          rw [queue_setQueue, if_neg (fun equal => same (QueueId.strand.inj equal))]
          exact sleeps
    · intro later above
      have different : later ≠ index := Nat.ne_of_gt above
      obtain ⟨laterPlace, laterQueue⟩ := falling.fresh later (Nat.le_of_lt above)
      constructor
      · exact (worker_setWorker ..).trans
          ((if_neg (fun equal => different (Worker.strand.inj equal))).trans laterPlace)
      · change (entered.setQueue (.strand index) _).queue (.strand later) = _
        rw [queue_setQueue, if_neg (fun equal => different (QueueId.strand.inj equal))]
        exact laterQueue

theorem fallingAsleep_run (service : Service) (index : StrandId)
    (inside : index ≤ service.strands) :
    ∃ actions state, Runs.exec (step service) init actions = some state ∧
      FallingAsleep state index := by
  induction index with
  | zero =>
      obtain ⟨state, executed, falling⟩ := fallingAsleep_dispatchOne service
      exact ⟨dispatchOne, state, executed, falling⟩
  | succ index ih =>
      obtain ⟨actions, state, executed, falling⟩ := ih (Nat.le_of_succ_le inside)
      obtain ⟨next, more, deeper⟩ := fallingAsleep_strand falling inside
      refine ⟨actions ++ [.worker (.strand index), .worker (.strand index)], next, ?_, deeper⟩
      rw [Runs.exec_append, executed]
      exact more

/-- Without task threads a dispatched report is stranded once the strands sleep. -/
theorem stranded_of_noTaskThread {service : Service} (none : service.taskThreads = 0) :
    ∃ actions state, Runs.exec (step service) init actions = some state ∧
      state.run = true ∧ Stranded service state := by
  obtain ⟨actions, state, executed, falling⟩ :=
    fallingAsleep_run service service.strands (Nat.le_refl _)
  refine ⟨actions, state, executed, falling.run, falling.pending, falling.reactor, ?_⟩
  intro worker starts
  cases worker with
  | task index =>
      have impossible : index < service.taskThreads := of_decide_eq_true starts
      rw [none] at impossible
      exact absurd impossible (Nat.not_lt_zero index)
  | strand index => exact falling.asleep index (of_decide_eq_true starts)

/-- In no run a task is stranded if and only if there is a task thread. -/
theorem neverStranded_iff_taskThreads (service : Service) :
    (∀ actions, Runs.StatesMeet (step service) (NeverStranded service) init actions) ↔
      0 < service.taskThreads := by
  constructor
  · intro never
    apply Nat.pos_of_ne_zero
    intro none
    obtain ⟨actions, state, executed, run, stranded⟩ := stranded_of_noTaskThread none
    exact (never actions).final executed run stranded
  · intro some actions
    have always : Runs.StatesMeet (step service) (Stopping service) init actions :=
      Runs.statesMeet_of_invariant (fun _ _ _ held stepped => stopping_step held stepped)
        actions (stopping_init service)
    exact always.imp (fun state held => neverStranded_of_taskThread held some)

/-! ### The thread count asked for -/

section Asked

variable (reactorThreads strands : Nat) (strandOf : EventId → StrandId)
  (pipeCapacity : Nat) (someStrand : 0 < strands) (holdsByte : 0 < pipeCapacity)

/-- Every reactor task has a consumer, and the thread count asked for is heeded,
exactly when no thread count is asked for. -/
theorem everyTaskConsumed_iff :
    ((∀ actions, Runs.StatesMeet
        (step (.create reactorThreads strands strandOf pipeCapacity someStrand holdsByte))
        (NeverStranded
          (.create reactorThreads strands strandOf pipeCapacity someStrand holdsByte))
        init actions) ↔ reactorThreads = 0) ∧
    (StartsAsked reactorThreads
        (.create reactorThreads strands strandOf pipeCapacity someStrand holdsByte) ↔
      reactorThreads = 0) := by
  constructor
  · rw [neverStranded_iff_taskThreads]
    change 0 < numReactorThreads reactorThreads ↔ reactorThreads = 0
    unfold numReactorThreads
    split <;> simp [*]
  · change (if reactorThreads = 0 then 0 < numReactorThreads reactorThreads
      else numReactorThreads reactorThreads = reactorThreads) ↔ reactorThreads = 0
    unfold numReactorThreads
    split <;> simp_all [eq_comm]

end Asked

def oneStrand (reactorThreads : Nat) : Service :=
  .create reactorThreads 1 (fun _ => 0) 4096 (by decide) (by decide)

theorem everyTaskConsumed_iff_two :
    ((∀ actions, Runs.StatesMeet (step (oneStrand 2)) (NeverStranded (oneStrand 2))
        init actions) ↔ 2 = 0) ∧
      (StartsAsked 2 (oneStrand 2) ↔ 2 = 0) :=
  everyTaskConsumed_iff 2 1 (fun _ => 0) 4096 (by decide) (by decide)

theorem everyTaskConsumed_false :
    ¬ ∀ reactorThreads actions, Runs.StatesMeet (step (oneStrand reactorThreads))
      (NeverStranded (oneStrand reactorThreads)) init actions := by
  intro consumed
  have started := (neverStranded_iff_taskThreads (oneStrand 2)).mp (consumed 2)
  exact absurd started (by decide)

end BabaIo.Threads
