import BabaIo.FailedArm

/-
Which reports make progress.

An operation waits from its initiation until its `react` is dispatched.  The
loop of `epoll_reactor::wait` dispatches for EPOLLIN and EPOLLOUT and for a
failed re-arm; a report that carries only EPOLLERR or EPOLLHUP is re-armed and
comes back, because the kernel adds those bits whether requested or not.
-/

set_option autoImplicit false

namespace BabaIo.Descriptor

def waiting (state : State) (direction : Direction) : Bool :=
  (state.event direction).react.isSome && tasksFor state.tasks direction == 0

def waitingCount (state : State) : Nat :=
  (waiting state .read).toNat + (waiting state .write).toNat

/-- Handling the pending report dispatches the `react` of a waiting operation,
so that fewer operations wait afterwards. -/
def MakesProgress (state : State) : Action → Prop
  | .handle result => ∀ events, state.report = some events →
      (∃ direction : Direction, waiting state direction = true ∧
        ∃ task, task ∈ dispatches state.present
            (clearReported state.eventMask events) events result ∧
          task.direction = direction) ∧
      waitingCount (handle state events result) < waitingCount state
  | _ => True

/-- The pending report carries the bit of a waiting operation, or bits are left
over and re-arming them fails while an operation waits. -/
def ReportServes (state : State) : Action → Prop
  | .handle result => ∀ events, state.report = some events →
      (∃ direction : Direction, waiting state direction = true ∧
        has events direction.bit = true) ∨
      (rearmFails (clearReported state.eventMask events) result = true ∧
        ∃ direction, waiting state direction = true)
  | _ => True

def Action.isInitiation : Action → Bool
  | .initiate _ _ => true
  | _ => false

def Action.isHandling : Action → Bool
  | .handle _ => true
  | _ => false

/-- Whatever a descriptor went through, each report handled while an operation
waits makes progress. -/
def EveryReportMakesProgress : Prop :=
  ∀ (present : Direction → Bool) (strand : StrandId) (before : List Action)
    (state : State) (result : ErrorCode),
    Runs.exec step (init present strand) before = some state →
    0 < waitingCount state → MakesProgress state (.handle result)

/-! ### What a step does to the waiting operations -/

def OwnEvents (state : State) : Prop :=
  (∃ stages, Staged state stages) ∧ ∀ direction,
    state.outstanding direction ≠ none → state.present direction = true

theorem ownEvents_init (present : Direction → Bool) (strand : StrandId) :
    OwnEvents (init present strand) :=
  ⟨⟨_, staged_init present strand⟩, fun _ absurdly => absurd rfl absurdly⟩

theorem ownEvents_step {state next : State} {action : Action}
    (own : OwnEvents state) (stepped : step state action = some next) :
    OwnEvents next := by
  refine ⟨staged_step own.1 stepped, ?_⟩
  intro direction outstanding
  rw [present_step stepped]
  cases action with
  | initiate other result =>
      obtain ⟨_, present, _, rfl⟩ := step_initiate.mp stepped
      by_cases same : direction = other
      · exact same ▸ present
      · have unchanged : (initiate state other result).outstanding direction =
            state.outstanding direction := by
          simp only [initiate, arm, forCompletion]
          split <;> simp [same]
        rw [unchanged] at outstanding
        exact own.2 direction outstanding
  | harvest events =>
      obtain ⟨_, _, _, rfl⟩ := step_harvest.mp stepped
      exact own.2 direction outstanding
  | handle result =>
      obtain ⟨_, events, _, rfl⟩ := step_handle.mp stepped
      rw [(handle_frame state events result).1] at outstanding
      exact own.2 direction outstanding
  | runTask index fin =>
      obtain ⟨_, task, _, rfl⟩ := step_runTask.mp stepped
      have unchanged : (runTask state index task fin).outstanding =
          state.outstanding := by
        unfold runTask
        split <;> rfl
      rw [unchanged] at outstanding
      exact own.2 direction outstanding
  | strandStep strand =>
      obtain ⟨_, other, rest, _, rfl⟩ := step_strandStep.mp stepped
      cases found : (state.event other).complete with
      | none =>
          simp only [runComplete, found] at outstanding
          exact own.2 direction outstanding
      | some completion =>
          rw [runComplete_some found] at outstanding
          by_cases same : direction = other
          · subst direction
            exact absurd (Function.update_self other none state.outstanding)
              outstanding
          · exact own.2 direction (by simpa [same] using outstanding)

theorem waiting_present {state : State} (own : OwnEvents state)
    {direction : Direction} (waits : waiting state direction = true) :
    state.present direction = true := by
  obtain ⟨⟨stages, staged⟩, present⟩ := own
  apply present direction
  simp only [waiting, Bool.and_eq_true] at waits
  obtain ⟨operation, found⟩ := Option.isSome_iff_exists.mp waits.1
  have pending := staged.pending_of_react found
  rw [(staged.stage direction).outstanding, pending]
  exact Option.some_ne_none operation

theorem waiting_handle (state : State) (events : Events) (result : ErrorCode)
    (direction : Direction) :
    waiting (handle state events result) direction =
      (waiting state direction &&
        tasksFor (dispatches state.present (clearReported state.eventMask events)
          events result) direction == 0) := by
  simp only [waiting, handle_tasks, tasksFor_append,
    (handle_event state events result direction).1]
  cases (state.event direction).react.isSome with
  | false => rfl
  | true =>
      rw [Bool.true_and, Bool.true_and, Bool.eq_iff_iff]
      simp only [Bool.and_eq_true, beq_iff_eq, Nat.add_eq_zero_iff]

theorem exists_task_iff (tasks : List Dispatch) (direction : Direction) :
    (∃ task, task ∈ tasks ∧ task.direction = direction) ↔
      tasksFor tasks direction ≠ 0 := by
  rw [ne_eq, tasksFor_eq_zero]
  constructor
  · rintro ⟨task, member, same⟩ none
    exact none task member same
  · intro some
    by_contra absent
    exact some (fun task member same => absent ⟨task, member, same⟩)

/-- Some waiting operation is dispatched exactly when fewer wait afterwards. -/
theorem waitingCount_handle_lt (state : State) (events : Events)
    (result : ErrorCode) :
    waitingCount (handle state events result) < waitingCount state ↔
      ∃ direction, waiting state direction = true ∧
        tasksFor (dispatches state.present (clearReported state.eventMask events)
          events result) direction ≠ 0 := by
  generalize tasksEq : dispatches state.present
    (clearReported state.eventMask events) events result = tasks
  simp only [waitingCount, waiting_handle, tasksEq]
  constructor
  · intro fewer
    by_contra absent
    have kept : ∀ direction : Direction,
        (waiting state direction && tasksFor tasks direction == 0) =
          waiting state direction := by
      intro direction
      cases waits : waiting state direction with
      | false => rfl
      | true =>
          by_contra dispatched
          exact absent ⟨direction, waits, by simpa using dispatched⟩
    rw [kept .read, kept .write] at fewer
    exact Nat.lt_irrefl _ fewer
  · rintro ⟨direction, waits, dispatched⟩
    have gone : (tasksFor tasks direction == 0) = false := by
      simpa using dispatched
    have notMore : ∀ other : Direction,
        (waiting state other && tasksFor tasks other == 0).toNat ≤
          (waiting state other).toNat := by
      intro other
      cases waiting state other with
      | false => exact Nat.le_refl _
      | true => exact Bool.toNat_le _
    have read := notMore .read
    have write := notMore .write
    cases direction with
    | read =>
        rw [waits, gone] at read ⊢
        simp only [Bool.and_false, Bool.toNat_false, Bool.toNat_true] at read ⊢
        omega
    | write =>
        rw [waits, gone] at write ⊢
        simp only [Bool.and_false, Bool.toNat_false, Bool.toNat_true] at write ⊢
        omega

theorem makesProgress_iff {state : State} (own : OwnEvents state)
    (action : Action) : MakesProgress state action ↔ ReportServes state action := by
  cases action with
  | handle result =>
      simp only [MakesProgress, ReportServes, waitingCount_handle_lt, exists_task_iff,
        and_self]
      apply forall_congr'
      intro events
      apply imp_congr_right
      intro _pending
      simp only [dispatches]
      cases fails : rearmFails (clearReported state.eventMask events) result with
      | true =>
          simp only [if_pos, tasksFor_dispatchRearmError]
          constructor
          · rintro ⟨direction, waits, _⟩
            exact Or.inr ⟨trivial, direction, waits⟩
          · intro served
            have waits : ∃ direction, waiting state direction = true := by
              rcases served with ⟨direction, waits, _⟩ | ⟨_, direction, waits⟩ <;>
                exact ⟨direction, waits⟩
            obtain ⟨direction, waits⟩ := waits
            exact ⟨direction, waits, by simp [waiting_present own waits]⟩
      | false => simp
  | initiate direction result => exact Iff.rfl
  | harvest events => exact Iff.rfl
  | runTask index fin => exact Iff.rfl
  | strandStep strand => exact Iff.rfl

/-- Between initiations only the handling of a report changes what waits. -/
theorem waiting_step {state next : State} {action : Action}
    (own : OwnEvents state) (stepped : step state action = some next)
    (noInitiation : action.isInitiation = false)
    (noHandling : action.isHandling = false) (direction : Direction) :
    waiting next direction = waiting state direction := by
  obtain ⟨⟨stages, staged⟩, _⟩ := own
  cases action with
  | initiate other result => cases noInitiation
  | handle result => cases noHandling
  | harvest events =>
      obtain ⟨_, _, _, rfl⟩ := step_harvest.mp stepped
      rfl
  | runTask index fin =>
      obtain ⟨_, task, found, rfl⟩ := step_runTask.mp stepped
      have split := tasksFor_eraseIdx state.tasks index task found direction
      cases react : (state.event task.direction).react with
      | none =>
          rw [runTask_none react]
          by_cases same : task.direction = direction
          · subst direction
            simp [waiting, react]
          · rw [if_neg same] at split
            simp [waiting, split]
      | some operation =>
          rw [runTask_some react]
          by_cases same : task.direction = direction
          · subst direction
            rw [if_pos rfl] at split
            simp [waiting, forCompletion, split]
          · rw [if_neg same] at split
            simp [waiting, forCompletion, split, Ne.symm same]
  | strandStep strand =>
      obtain ⟨_, other, rest, queued, rfl⟩ := step_strandStep.mp stepped
      obtain ⟨_, completion, completing, found⟩ := staged.completing_of_queued queued
      rw [runComplete_some found]
      by_cases same : direction = other
      · subst direction
        simp [waiting]
      · simp [waiting, same]

/-! ### Runs without initiations -/

/-- Each handled report of a serving run takes one waiting operation away. -/
theorem handled_le_waiting {state final : State} {actions : List Action}
    (own : OwnEvents state)
    (noInitiation : ∀ action, action ∈ actions → action.isInitiation = false)
    (serves : Runs.StepsMeet step ReportServes state actions)
    (executed : Runs.exec step state actions = some final) :
    actions.countP Action.isHandling + waitingCount final ≤ waitingCount state := by
  induction actions generalizing state with
  | nil =>
      have same : state = final := Option.some.inj executed
      simp [same]
  | cons action rest ih =>
      obtain ⟨next, stepped, later⟩ := Runs.exec_cons_eq_some.mp executed
      have restBound := ih (ownEvents_step own stepped)
        (fun other member => noInitiation other (List.mem_cons_of_mem action member))
        (serves.2 next stepped) later
      rw [List.countP_cons]
      cases handling : action.isHandling with
      | false =>
          have unchanged := waiting_step own stepped
            (noInitiation action List.mem_cons_self) handling
          have sameCount : waitingCount next = waitingCount state := by
            simp only [waitingCount, unchanged]
          simp only [Bool.false_eq_true, if_false]
          omega
      | true =>
          cases action with
          | handle result =>
              obtain ⟨_, events, pending, rfl⟩ := step_handle.mp stepped
              have progress := (makesProgress_iff own (.handle result)).mpr serves.1
              have fewer := (progress events pending).2
              simp only [if_true]
              omega
          | initiate direction result => cases handling
          | harvest events => cases handling
          | runTask index fin => cases handling
          | strandStep strand => cases handling

/-- From any state that a descriptor can reach, the handled reports of a run
without initiations all make progress exactly when each of them carries the bit
of a waiting operation or fails to re-arm; there are then no more of them than
operations waiting at the start. -/
theorem progress_iff_serves (present : Direction → Bool) (strand : StrandId)
    (before actions : List Action) (state : State)
    (reached : Runs.exec step (init present strand) before = some state)
    (noInitiation : ∀ action, action ∈ actions → action.isInitiation = false) :
    (Runs.StepsMeet step MakesProgress state actions ↔
      Runs.StepsMeet step ReportServes state actions) ∧
    ∀ final, Runs.StepsMeet step ReportServes state actions →
      Runs.exec step state actions = some final →
      actions.countP Action.isHandling + waitingCount final ≤ waitingCount state := by
  have own : OwnEvents state :=
    Runs.exec_invariant (fun _ _ _ held stepped => ownEvents_step held stepped)
      (ownEvents_init present strand) reached
  constructor
  · exact Runs.stepsMeet_congr
      (fun _ _ _ held stepped => ownEvents_step held stepped)
      (fun _ action held => makesProgress_iff held action) actions own
  · intro final serves executed
    exact handled_le_waiting own noInitiation serves executed

def servedRun : List Action :=
  [.harvest (EPOLLOUT ||| EPOLLERR), .handle ec.OK, .runTask 0 (ec.OK, 0),
    .strandStep 0]

theorem servedRun_bounded :
    ∃ state final, Runs.exec step (initTcp 0) [.initiate .write ec.OK] = some state ∧
      Runs.exec step state servedRun = some final ∧
      servedRun.countP Action.isHandling + waitingCount final ≤ waitingCount state := by
  have executed : ((Runs.exec step (initTcp 0) [.initiate .write ec.OK]).bind
      (fun state => (Runs.exec step state servedRun).map waitingCount)) = some 0 := by
    decide
  obtain ⟨state, reached, later⟩ := Option.bind_eq_some_iff.mp executed
  obtain ⟨final, ended, _⟩ := Option.map_eq_some_iff.mp later
  refine ⟨state, final, reached, ended, ?_⟩
  have known : state = initiate (initTcp 0) .write ec.OK :=
    (Option.some.inj reached).symm
  apply (progress_iff_serves (fun _ => true) 0 [.initiate .write ec.OK] servedRun
    state reached (by decide)).2 final _ ended
  subst known
  refine ⟨trivial, ?_⟩
  intro harvested stepped
  obtain ⟨_, _, _, rfl⟩ := step_harvest.mp stepped
  refine ⟨?_, fun _ _ => ⟨trivial, fun _ _ => ⟨trivial, fun _ _ => trivial⟩⟩⟩
  intro events pending
  cases pending
  exact Or.inl ⟨.write, by decide, by decide⟩

/-! ### A report without EPOLLIN and EPOLLOUT -/

def hangupRounds : Nat → List Action
  | 0 => []
  | rounds + 1 => .harvest EPOLLHUP :: .handle ec.OK :: hangupRounds rounds

theorem hangupRounds_spin (rounds : Nat) :
    Runs.exec step (initiate (initTcp 0) .read ec.OK) (hangupRounds rounds) =
      some (initiate (initTcp 0) .read ec.OK) := by
  induction rounds with
  | zero => rfl
  | succ rounds ih =>
      have round : (step (initiate (initTcp 0) .read ec.OK) (.harvest EPOLLHUP)).bind
          (fun next => step next (.handle ec.OK)) =
          some (initiate (initTcp 0) .read ec.OK) := rfl
      rw [hangupRounds, Runs.exec_cons]
      simp only [Runs.exec_cons]
      rw [← Option.bind_assoc, round]
      exact ih

theorem everyReportMakesProgress_false : ¬EveryReportMakesProgress := by
  intro claimed
  have executed : (Runs.exec step (initTcp 0)
      [.initiate .read ec.OK, .harvest EPOLLHUP]).map
      (fun state => (state.report, waitingCount state,
        waitingCount (handle state EPOLLHUP ec.OK))) =
      some (some EPOLLHUP, 1, 1) := by
    decide
  obtain ⟨state, reached, values⟩ := Option.map_eq_some_iff.mp executed
  obtain ⟨reported, counts⟩ := Prod.mk.inj values
  obtain ⟨before, after⟩ := Prod.mk.inj counts
  have progress := claimed (fun _ => true) 0 _ state ec.OK reached
    (by rw [before]; exact Nat.one_pos) EPOLLHUP reported
  have fewer := progress.2
  rw [before, after] at fewer
  exact Nat.lt_irrefl 1 fewer

end BabaIo.Descriptor
