import BabaIo.ServiceThreads

/-
Wake-ups of the reactor and the stop of the service.

The flags of the service are only ever reset, so what a call of `stop` has done
stays done.  Whether one has returned is read off the run: a thread has called it
and has come back.  A byte in the self pipe is removed by the reactor alone, which then
empties the deletion queue before it waits again.
-/

set_option autoImplicit false

namespace BabaIo.Threads

/-- A disposed event is announced to a reactor that waits. -/
def NoLostWakeup (state : State) : Prop :=
  state.run = true → state.deletionQueue ≠ [] → state.reactor = .inWait →
    0 < state.pipe ∨ ∃ thread, state.call thread = .interrupting

/-- A thread has called `stop` in the run and has come back from it. -/
def StopReturned (service : Service) (actions : List Action) : Prop :=
  ∃ before thread between after middle,
    actions = before ++ .stop thread :: (between ++ after) ∧
    Runs.exec (step service) init (before ++ .stop thread :: between) = some middle ∧
    middle.call thread = .idle

def NoneBlocked (service : Service) (state : State) : Prop :=
  (state.reactor = .inWait → 0 < state.pipe) ∧
    ∀ worker, service.starts worker = true → ¬ Asleep state worker

/-! ### What a call of `stop` has done -/

def StrandsStopped (state : State) (index : StrandId) : Prop :=
  ∀ earlier, earlier < index → (state.queue (.strand earlier)).active = false

def Done (service : Service) (state : State) : Call → Prop
  | .idle => True
  | .interrupting => True
  | .stopRun => True
  | .stopStrand index => state.run = false ∧ StrandsStopped state index
  | .stopQueue index => state.run = false ∧ StrandsStopped state index
  | .stopTasks => state.run = false ∧ StrandsStopped state service.strands
  | .stopReactor =>
      state.run = false ∧ StrandsStopped state service.strands ∧
        (state.queue .reactorTasks).active = false
  | .stopInterrupt =>
      state.run = false ∧ StrandsStopped state service.strands ∧
        (state.queue .reactorTasks).active = false

structure SwitchesOff (state next : State) : Prop where
  run : state.run = false → next.run = false
  inactive : ∀ id, (state.queue id).active = false → (next.queue id).active = false

theorem StrandsStopped.mono {state next : State} (off : SwitchesOff state next)
    {index : StrandId} (stopped : StrandsStopped state index) :
    StrandsStopped next index :=
  fun earlier before => off.inactive _ (stopped earlier before)

theorem Done.mono {service : Service} {state next : State} (off : SwitchesOff state next)
    {call : Call} (done : Done service state call) : Done service next call := by
  cases call with
  | idle => trivial
  | interrupting => trivial
  | stopRun => trivial
  | stopStrand index => exact ⟨off.run done.1, done.2.mono off⟩
  | stopQueue index => exact ⟨off.run done.1, done.2.mono off⟩
  | stopTasks => exact ⟨off.run done.1, done.2.mono off⟩
  | stopReactor => exact ⟨off.run done.1, done.2.1.mono off, off.inactive _ done.2.2⟩
  | stopInterrupt => exact ⟨off.run done.1, done.2.1.mono off, off.inactive _ done.2.2⟩

theorem switchesOff_step {service : Service} {state next : State} {action : Action}
    (moved : Moves service state action next) : SwitchesOff state next :=
  ⟨run_step moved, fun id => (queueKept_step moved id).inactive⟩

/-! ### The invariant -/

/-- The reactor waits, or will without looking at the deletion queue first. -/
def Listens (state : State) : Prop :=
  state.reactor = .atRun ∨ state.reactor = .inWait

structure Stopping (service : Service) (state : State) : Prop where
  restful : ∀ id, (state.queue id).Restful
  done : ∀ thread, Done service state (state.call thread)
  returned : state.stopped = true → Done service state .stopInterrupt
  woken : state.stopped = true → state.reactor = .inWait → 0 < state.pipe
  announced : state.run = true → state.deletionQueue ≠ [] → Listens state →
    0 < state.pipe ∨ ∃ thread, state.call thread = .interrupting

theorem stopping_init (service : Service) : Stopping service init := by
  constructor
  · exact fun _ => BlockingQueue.restful_empty
  · exact fun _ => trivial
  · intro impossible
    cases impossible
  · intro impossible
    cases impossible
  · intro _ impossible
    exact absurd rfl impossible

theorem Stopping.of_sameCalls {service : Service} {state next : State} {action : Action}
    (held : Stopping service state) (moved : Moves service state action next)
    (call : next.call = state.call) (stopped : next.stopped = state.stopped)
    (woken : state.stopped = true → next.reactor = .inWait → 0 < next.pipe)
    (announced : next.run = true → next.deletionQueue ≠ [] → Listens next →
      0 < next.pipe ∨ ∃ thread, state.call thread = .interrupting) :
    Stopping service next := by
  have off := switchesOff_step moved
  constructor
  · exact fun id => (queueKept_step moved id).restful (held.restful id)
  · intro thread
    rw [call]
    exact (held.done thread).mono off
  · intro ended
    rw [stopped] at ended
    exact (held.returned ended).mono off
  · intro ended
    rw [stopped] at ended
    exact woken ended
  · rw [call]
    exact announced

theorem Stopping.of_sameWait {service : Service} {state next : State} {action : Action}
    (held : Stopping service state) (moved : Moves service state action next)
    (call : next.call = state.call) (stopped : next.stopped = state.stopped)
    (run : next.run = state.run) (reactor : next.reactor = state.reactor)
    (pipe : next.pipe = state.pipe) (deletions : next.deletionQueue = state.deletionQueue) :
    Stopping service next := by
  apply held.of_sameCalls moved call stopped
  · rw [reactor, pipe]
    exact held.woken
  · rw [run, deletions, pipe]
    intro running pending listens
    exact held.announced running pending (by
      unfold Listens at listens ⊢
      rwa [reactor] at listens)

theorem Stopping.of_busy {service : Service} {state next : State} {action : Action}
    (held : Stopping service state) (moved : Moves service state action next)
    (call : next.call = state.call) (stopped : next.stopped = state.stopped)
    (busy : ¬ Listens next) : Stopping service next := by
  apply held.of_sameCalls moved call stopped
  · exact fun _ waits => absurd (Or.inr waits) busy
  · exact fun _ _ listens => absurd listens busy

theorem stopping_reactor {service : Service} {state next : State}
    (held : Stopping service state) (moved : ReactorMoves state next) :
    Stopping service next := by
  have whole : Moves service state .reactor next := .reactor moved
  cases moved with
  | enter place run =>
      apply held.of_sameCalls whole rfl rfl
      · intro ended
        have halted := (held.returned ended).1
        rw [run] at halted
        cases halted
      · intro running pending _
        exact held.announced running pending (Or.inl place)
  | unfreeze place ended =>
      apply held.of_sameCalls whole rfl rfl
      · intro _ impossible
        cases impossible
      · intro running pending _
        rcases ended with halted | empty
        · change state.run = true at running
          rw [halted] at running
          cases running
        · exact absurd empty pending
  | drain rest place =>
      apply held.of_busy whole rfl rfl
      unfold Listens
      change ¬ (state.reactor = _ ∨ state.reactor = _)
      rw [place]
      intro impossible
      rcases impossible with impossible | impossible <;> cases impossible
  | _ =>
      apply held.of_busy whole rfl rfl
      intro impossible
      rcases impossible with impossible | impossible <;> cases impossible

theorem stopping_worker {service : Service} {state next : State} {worker : Worker}
    (held : Stopping service state) (moved : WorkerMoves service state worker next) :
    Stopping service next := by
  have whole : Moves service state (.worker worker) next := .worker worker moved
  cases moved with
  | finish task place =>
      obtain ⟨run, _, _, deletions, pipe, reactor, call, stopped⟩ :=
        finishTask_frame service state worker task
      exact held.of_sameWait whole call stopped run reactor pipe deletions
  | _ => exact held.of_sameWait whole rfl rfl rfl rfl rfl rfl

theorem Stopping.of_call {service : Service} {state next : State} {action : Action}
    (held : Stopping service state) (moved : Moves service state action next)
    {thread : Thread} {call : Call}
    (calls : ∀ other, next.call other = if other = thread then call else state.call other)
    (done : Done service next call) (reactor : next.reactor = state.reactor)
    (returned : next.stopped = true → state.stopped = true ∨
      (Done service next .stopInterrupt ∧ 0 < next.pipe))
    (pipe : 0 < state.pipe → 0 < next.pipe)
    (announced : next.run = true → next.deletionQueue ≠ [] → Listens state →
      0 < next.pipe ∨ ∃ other, next.call other = .interrupting) :
    Stopping service next := by
  have off := switchesOff_step moved
  constructor
  · exact fun id => (queueKept_step moved id).restful (held.restful id)
  · intro other
    rw [calls]
    by_cases same : other = thread
    · rw [if_pos same]
      exact done
    · rw [if_neg same]
      exact (held.done other).mono off
  · intro ended
    rcases returned ended with before | now
    · exact (held.returned before).mono off
    · exact now.1
  · intro ended waits
    rcases returned ended with before | now
    · rw [reactor] at waits
      exact pipe (held.woken before waits)
    · exact now.2
  · intro running pending listens
    apply announced running pending
    unfold Listens at listens ⊢
    rwa [reactor] at listens

theorem Stopping.still_announced {service : Service} {state next : State}
    (held : Stopping service state) {thread : Thread} {call : Call}
    (calls : ∀ other, next.call other = if other = thread then call else state.call other)
    (elsewhere : state.call thread ≠ .interrupting) (run : next.run = true → state.run = true)
    (deletions : next.deletionQueue = state.deletionQueue) (pipe : next.pipe = state.pipe) :
    next.run = true → next.deletionQueue ≠ [] → Listens state →
      0 < next.pipe ∨ ∃ other, next.call other = .interrupting := by
  intro running pending listens
  rw [deletions] at pending
  rcases held.announced (run running) pending listens with byte | ⟨other, between⟩
  · exact Or.inl (pipe ▸ byte)
  · refine Or.inr ⟨other, ?_⟩
    have different : other ≠ thread := by
      intro same
      subst same
      exact elsewhere between
    rw [calls, if_neg different]
    exact between

theorem interrupt_pipe_pos (service : Service) (state : State) :
    0 < (interrupt service state).pipe :=
  Nat.lt_min.mpr ⟨Nat.succ_pos _, service.holdsByte⟩

theorem stopping_call {service : Service} {state next : State} {thread : Thread}
    (held : Stopping service state) (moved : CallMoves service state thread next) :
    Stopping service next := by
  have whole : Moves service state (.call thread) next := .call thread moved
  have off := switchesOff_step whole
  have done := held.done thread
  cases moved with
  | interrupt place =>
      have byte := interrupt_pipe_pos service state
      exact held.of_call whole (fun other => call_setCall _ thread other _) trivial rfl
        Or.inl (fun _ => byte) (fun _ _ _ => Or.inl byte)
  | stopRun place =>
      have calls := fun other => call_setCall { state with run := false } thread other
        (.stopStrand 0)
      refine held.of_call whole calls ⟨rfl, ?_⟩ rfl Or.inl id ?_
      · intro earlier before
        exact absurd before (Nat.not_lt_zero earlier)
      · intro impossible
        cases impossible
  | stopStrand index place =>
      have calls := fun other => call_setCall { state with
        strandRun := Function.update state.strandRun index false } thread other
          (.stopQueue index)
      rw [place] at done
      refine held.of_call whole calls ⟨done.1, done.2.mono off⟩ rfl Or.inl id ?_
      exact held.still_announced calls (by rw [place]; intro impossible; cases impossible)
        id rfl rfl
  | stoppedStrands index place all =>
      have calls := fun other => call_setCall state thread other .stopTasks
      rw [place] at done
      refine held.of_call whole calls ⟨done.1, ?_⟩ rfl Or.inl id ?_
      · intro earlier before
        exact done.2 earlier (Nat.lt_of_lt_of_le before all)
      · exact held.still_announced calls
          (by rw [place]; intro impossible; cases impossible) id rfl rfl
  | stopQueue index place =>
      have calls := fun other => call_setCall (state.setQueue (.strand index)
        (state.queue (.strand index)).stop) thread other (.stopStrand (index + 1))
      rw [place] at done
      refine held.of_call whole calls ⟨done.1, ?_⟩ rfl Or.inl id ?_
      · intro earlier before
        by_cases same : earlier = index
        · subst same
          change ((state.setQueue (.strand earlier) _).queue (.strand earlier)).active = false
          rw [queue_setQueue, if_pos rfl]
          rfl
        · have below := Nat.lt_of_le_of_ne (Nat.lt_succ_iff.mp before) same
          exact off.inactive _ (done.2 earlier below)
      · exact held.still_announced calls
          (by rw [place]; intro impossible; cases impossible) id rfl rfl
  | stopTasks place =>
      have calls := fun other => call_setCall (state.setQueue .reactorTasks
        (state.queue .reactorTasks).stop) thread other .stopReactor
      rw [place] at done
      refine held.of_call whole calls ⟨done.1, done.2.mono off, ?_⟩ rfl Or.inl id ?_
      · change ((state.setQueue .reactorTasks _).queue .reactorTasks).active = false
        rw [queue_setQueue, if_pos rfl]
        rfl
      · exact held.still_announced calls
          (by rw [place]; intro impossible; cases impossible) id rfl rfl
  | stopReactor place =>
      have calls := fun other => call_setCall { state with reactorRun := false } thread
        other .stopInterrupt
      rw [place] at done
      refine held.of_call whole calls (done.mono off) rfl Or.inl id ?_
      exact held.still_announced calls (by rw [place]; intro impossible; cases impossible)
        id rfl rfl
  | stopInterrupt place =>
      have byte := interrupt_pipe_pos service state
      rw [place] at done
      exact held.of_call whole (fun other => call_setCall _ thread other _) trivial rfl
        (fun _ => Or.inr ⟨done.mono off, byte⟩) (fun _ => byte)
        (fun _ _ _ => Or.inl byte)

theorem stopping_step {service : Service} {state next : State} {action : Action}
    (held : Stopping service state) (stepped : step service state action = some next) :
    Stopping service next := by
  have moved := step_moves stepped
  cases moved with
  | report report => exact held.of_sameWait (step_moves stepped) rfl rfl rfl rfl rfl rfl
  | epollReturn entries place =>
      apply held.of_busy (step_moves stepped) rfl rfl
      intro impossible
      rcases impossible with impossible | impossible <;> cases impossible
  | epollFail place =>
      apply held.of_busy (step_moves stepped) rfl rfl
      intro impossible
      rcases impossible with impossible | impossible <;> cases impossible
  | reactor moved => exact stopping_reactor held moved
  | worker worker moved => exact stopping_worker held moved
  | wakeSpuriously worker =>
      exact held.of_sameWait (step_moves stepped) rfl rfl rfl rfl rfl rfl
  | post thread strand fn =>
      exact held.of_sameWait (step_moves stepped) rfl rfl rfl rfl rfl rfl
  | complete thread evt =>
      exact held.of_sameWait (step_moves stepped) rfl rfl rfl rfl rfl rfl
  | dispose thread evt user thawed =>
      have calls := fun other => call_setCall { state with
        deletionQueue := state.deletionQueue ++ [evt] } thread other .interrupting
      refine held.of_call (step_moves stepped) calls trivial rfl Or.inl id ?_
      exact fun _ _ _ => Or.inr ⟨thread, (calls thread).trans (if_pos rfl)⟩
  | stop thread user =>
      have calls := fun other => call_setCall state thread other .stopRun
      have idle : state.call thread = .idle := by
        simp only [mayCall, Bool.and_eq_true, decide_eq_true_eq] at user
        exact user.1
      refine held.of_call (step_moves stepped) calls trivial rfl Or.inl id ?_
      exact held.still_announced calls (by rw [idle]; intro impossible; cases impossible)
        id rfl rfl
  | call thread moved => exact stopping_call held moved

/-! ### Every run -/

theorem Stopping.noLostWakeup {service : Service} {state : State}
    (held : Stopping service state) : NoLostWakeup state :=
  fun running pending waits => held.announced running pending (Or.inr waits)

/-- The queue of a stopped worker is inactive, and only active queues have sleepers. -/
theorem Stopping.noneBlocked {service : Service} {state : State}
    (held : Stopping service state) (ended : state.stopped = true) :
    NoneBlocked service state := by
  refine ⟨held.woken ended, ?_⟩
  intro worker starts asleep
  obtain ⟨_, strands, tasks⟩ := held.returned ended
  have active := (held.restful worker.consumes).active asleep.2
  cases worker with
  | task index =>
      rw [show (Worker.task index).consumes = .reactorTasks from rfl, tasks] at active
      cases active
  | strand index =>
      have inside : index < service.strands := of_decide_eq_true starts
      rw [show (Worker.strand index).consumes = .strand index from rfl,
        strands index inside] at active
      cases active

/-! ### The calls of `stop` in a run -/

def Call.ofStop : Call → Bool
  | .idle => false
  | .interrupting => false
  | _ => true

/-- How a step changes the calls of `stop`: a thread enters one, goes on in it or comes
back from it. -/
inductive StopMoves (state : State) (action : Action) (next : State) : Prop where
  | enters (thread : Thread) (stops : action = .stop thread)
      (calls : ∀ other, other ≠ thread → next.call other = state.call other)
      (stopped : next.stopped = state.stopped)
  | keeps (calls : ∀ thread, (next.call thread).ofStop = (state.call thread).ofStop)
      (stopped : next.stopped = state.stopped)
  | returns (thread : Thread) (inStop : (state.call thread).ofStop = true)
      (idle : next.call thread = .idle)
      (calls : ∀ other, other ≠ thread → next.call other = state.call other)
      (stopped : next.stopped = true)

theorem stopMoves_call {service : Service} {state next : State} {thread : Thread}
    (moved : CallMoves service state thread next) :
    StopMoves state (.call thread) next := by
  have within : ∀ (after : State) (call : Call),
      call.ofStop = (state.call thread).ofStop → after.call = state.call →
      ∀ other, (((after.setCall thread call).call other)).ofStop = (state.call other).ofStop := by
    intro after call same unchanged other
    rw [call_setCall]
    split
    · rename_i equal
      rw [same, equal]
    · rw [unchanged]
  cases moved with
  | interrupt place => exact .keeps (within _ _ (by rw [place]; rfl) rfl) rfl
  | stopRun place => exact .keeps (within _ _ (by rw [place]; rfl) rfl) rfl
  | stopStrand index place => exact .keeps (within _ _ (by rw [place]; rfl) rfl) rfl
  | stoppedStrands index place all => exact .keeps (within _ _ (by rw [place]; rfl) rfl) rfl
  | stopQueue index place => exact .keeps (within _ _ (by rw [place]; rfl) rfl) rfl
  | stopTasks place => exact .keeps (within _ _ (by rw [place]; rfl) rfl) rfl
  | stopReactor place => exact .keeps (within _ _ (by rw [place]; rfl) rfl) rfl
  | stopInterrupt place =>
      refine .returns thread (by rw [place]; rfl) ?_ ?_ rfl
      · exact (call_setCall ..).trans (if_pos rfl)
      · exact fun other different => (call_setCall ..).trans (if_neg different)

theorem stopMoves_step {service : Service} {state next : State} {action : Action}
    (stepped : step service state action = some next) : StopMoves state action next := by
  have same : next.call = state.call → next.stopped = state.stopped →
      StopMoves state action next :=
    fun calls stopped => .keeps (fun thread => by rw [calls]) stopped
  cases step_moves stepped with
  | reactor moved => exact same (call_reactor moved) (by cases moved <;> rfl)
  | worker worker moved =>
      refine same (call_worker moved) ?_
      cases moved with
      | finish task place => exact (finishTask_frame service state worker task).2.2.2.2.2.2.2
      | _ => rfl
  | dispose thread evt user thawed =>
      refine .keeps (fun other => ?_) rfl
      rw [call_setCall]
      split
      · rename_i equal
        rw [equal, call_of_mayCall user]
        rfl
      · rfl
  | stop thread user =>
      exact .enters thread rfl (fun other different =>
        (call_setCall ..).trans (if_neg different)) rfl
  | call thread moved => exact stopMoves_call moved
  | _ => exact same rfl rfl

/-- A thread that has called `stop` is in it until a call has returned. -/
theorem stillStopping_step {service : Service} {state next : State} {action : Action}
    (stepped : step service state action = some next) {thread : Thread}
    (held : state.stopped = true ∨ (state.call thread).ofStop = true) :
    next.stopped = true ∨ (next.call thread).ofStop = true := by
  cases stopMoves_step stepped with
  | enters other stops calls stopped =>
      by_cases same : thread = other
      · subst same stops
        simp only [step] at stepped
        split at stepped
        · cases stepped
          exact Or.inr (by rw [call_setCall, if_pos rfl]; rfl)
        · cases stepped
      · rw [stopped, calls thread same]
        exact held
  | keeps calls stopped =>
      rw [stopped, calls]
      exact held
  | returns other inStop idle calls stopped => exact Or.inl stopped

theorem stopped_step {service : Service} {state next : State} {action : Action}
    (ended : state.stopped = true) (stepped : step service state action = some next) :
    next.stopped = true := by
  cases stopMoves_step stepped with
  | enters other stops calls stopped => exact stopped.trans ended
  | keeps calls stopped => exact stopped.trans ended
  | returns other inStop idle calls stopped => exact stopped

theorem StopReturned.stopped {service : Service} {actions : List Action} {final : State}
    (returned : StopReturned service actions)
    (executed : Runs.exec (step service) init actions = some final) :
    final.stopped = true := by
  obtain ⟨before, thread, between, after, middle, rfl, ran, idle⟩ := returned
  have ended : middle.stopped = true := by
    rw [Runs.exec_append] at ran
    obtain ⟨calling, _, called⟩ := Option.bind_eq_some_iff.mp ran
    obtain ⟨first, stepped, later⟩ := Runs.exec_cons_eq_some.mp called
    have entered : first.stopped = true ∨ (first.call thread).ofStop = true := by
      simp only [step] at stepped
      split at stepped
      · cases stepped
        exact Or.inr (by rw [call_setCall, if_pos rfl]; rfl)
      · cases stepped
    have held : middle.stopped = true ∨ (middle.call thread).ofStop = true :=
      Runs.exec_invariant (fun _ _ _ held stepped => stillStopping_step stepped held)
        entered later
    rw [idle] at held
    exact held.resolve_right Bool.false_ne_true
  have split : before ++ Action.stop thread :: (between ++ after) =
      (before ++ Action.stop thread :: between) ++ after := by
    rw [List.append_assoc, List.cons_append]
  rw [split, Runs.exec_append, ran] at executed
  exact Runs.exec_invariant (fun _ _ _ held stepped => stopped_step held stepped) ended executed

/-- No wake-up of the reactor is lost while the service runs, and no thread of the
service is or gets blocked once `stop` has returned. -/
theorem noLostWakeup_and_stopsAll (service : Service) (actions : List Action) (final : State)
    (executed : Runs.exec (step service) init actions = some final) :
    NoLostWakeup final ∧ (StopReturned service actions → NoneBlocked service final) := by
  have held : Stopping service final :=
    Runs.exec_invariant (fun _ _ _ held stepped => stopping_step held stepped)
      (stopping_init service) executed
  exact ⟨held.noLostWakeup, fun returned => held.noneBlocked (returned.stopped executed)⟩

def allWait : List Action :=
  [.worker (.task 0), .worker (.task 0), .worker (.strand 0), .worker (.strand 0), .reactor]

def stopCalls : List Action := List.replicate 7 (.call (.user 0))

/-- The service is stopped by one user thread; then another one posts to its strand. -/
def stoppedThenPosted : List Action :=
  allWait ++ .stop (.user 0) :: (stopCalls ++ [.post (.user 1) 0 3])

theorem stoppedThenPosted_returned : StopReturned oneTaskThread stoppedThenPosted := by
  have executed : (Runs.exec (step oneTaskThread) init (allWait ++ .stop (.user 0) :: stopCalls)).map
      (fun middle => middle.call (.user 0)) = some .idle := by
    decide +kernel
  obtain ⟨middle, reached, idle⟩ := Option.map_eq_some_iff.mp executed
  exact ⟨allWait, .user 0, stopCalls, [.post (.user 1) 0 3], middle, rfl, reached, idle⟩

theorem stoppedThenPosted_noneBlocked :
    ∃ final, Runs.exec (step oneTaskThread) init stoppedThenPosted = some final ∧
      (inWait final, (final.queue (.strand 0)).queue) = (true, [.posted 3]) ∧
      NoLostWakeup final ∧ NoneBlocked oneTaskThread final := by
  have executed : (Runs.exec (step oneTaskThread) init stoppedThenPosted).map
      (fun final => (inWait final, (final.queue (.strand 0)).queue)) =
        some (true, [.posted 3]) := by
    decide +kernel
  obtain ⟨final, reached, known⟩ := Option.map_eq_some_iff.mp executed
  obtain ⟨woken, unblocked⟩ := noLostWakeup_and_stopsAll oneTaskThread stoppedThenPosted final reached
  exact ⟨final, reached, known, woken, unblocked stoppedThenPosted_returned⟩

end BabaIo.Threads
