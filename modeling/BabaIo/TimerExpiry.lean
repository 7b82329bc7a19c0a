import BabaIo.SingleEvent
import BabaIo.TimerBackends

/-
A timer of the epoll backend against the clock.

`async_timer::timeout` arms the descriptor and then starts the timerfd, two calls between
which the reactor may run; EPOLLIN is reported once the timerfd has expired, and `react`
reads its counter.  The timerfd is a blocking one (`timerfd_create` without
TFD_NONBLOCK): a read in front of the expiration would hold the task thread, and the
mutex it has locked.  Time is in nanoseconds and passes in any portions.
-/

set_option autoImplicit false

namespace BabaIo.TimerExpiry

open Descriptor (StrandId Stage Single Answered AnswersInOrder)
open Timers (SettimeRequest linuxInitTimer nanoseconds)

structure Call where
  timeoutMs : BitVec 32
  result : ErrorCode
  time : Nat
  deriving DecidableEq

structure State where
  fd : Int
  descriptor : Descriptor.State
  now : Nat
  /-- When the timerfd expires, or has expired without being read. -/
  expiry : Option Nat
  /-- The timeout of an init lambda that has armed the descriptor, up to `init_timer`. -/
  starting : Option (BitVec 32)
  /-- The calls of `timeout`, in the order of the operations. -/
  calls : List Call
  /-- When the callbacks started. -/
  times : List Nat

def init (fd : Int) (strand : StrandId) : State :=
  { fd := fd
    descriptor := Descriptor.initSingle .timer strand
    now := 0
    expiry := none
    starting := none
    calls := []
    times := [] }

def EINVAL : Errno := { code := 22, nonzero := of_decide_eq_false rfl }

/-- `timerfd_settime` on an open timerfd: the time of the expiration, if there will be
one, and EINVAL for a value that is out of range. -/
def settime (now : Nat) (request : SettimeRequest) : Except Errno (Option Nat) :=
  let value := request.expiration.value
  if value.tvSec.toInt < 0 ∨ value.tvNsec.toInt < 0 ∨ 1000000000 ≤ value.tvNsec.toInt then
    .error EINVAL
  else .ok (request.oneShot.map fun delay => now + delay.toNat)

def State.expired (state : State) : Bool :=
  match state.expiry with
  | none => false
  | some time => time ≤ state.now

inductive Action where
  | advance (nanoseconds : Nat)
  /-- `timeout` up to `epoll_impl::arm` and its result. -/
  | timeout (timeoutMs : BitVec 32) (result : ErrorCode)
  /-- `linux_timer_impl::init_timer`. -/
  | initTimer
  | harvest
  | handle (result : ErrorCode)
  | runTask (index : Nat)
  | strandStep (strand : StrandId)
  deriving DecidableEq

/-- The second half of `timeout`; an error of `init_timer` completes the operation. -/
def initTimer (state : State) (timeoutMs : BitVec 32) : State :=
  let started := { state with starting := none }
  match settime state.now (linuxInitTimer state.fd timeoutMs none).1 with
  | .ok expiry => { started with expiry := expiry }
  | .error errno =>
      { started with
        descriptor := Descriptor.forCompletion state.descriptor .read
          (state.descriptor.initiated.length - 1)
          (linuxInitTimer state.fd timeoutMs (some errno)).2 0 }

def reads (state : State) (task : Dispatch) : Bool :=
  task.code = ec.OK && (state.descriptor.event task.direction).react.isSome

def step (state : State) : Action → Option State
  | .advance nanoseconds => some { state with now := state.now + nanoseconds }
  | .timeout timeoutMs result =>
      (Descriptor.step state.descriptor (.initiate .read result)).map fun descriptor =>
        { state with
          descriptor := descriptor
          calls := state.calls ++ [{ timeoutMs := timeoutMs, result := result, time := state.now }]
          starting := if result = ec.OK then some timeoutMs else none }
  | .initTimer => state.starting.map (initTimer state)
  | .harvest =>
      if state.expired then
        (Descriptor.step state.descriptor (.harvest EPOLLIN)).map fun descriptor =>
          { state with descriptor := descriptor }
      else none
  | .handle result =>
      (Descriptor.step state.descriptor (.handle result)).map fun descriptor =>
        { state with descriptor := descriptor }
  | .runTask index =>
      state.descriptor.tasks[index]?.bind fun task =>
        if reads state task then
          if state.expired then
            -- the callback is given the error code of the read alone
            (Descriptor.step state.descriptor (.runTask index (ec.OK, 0))).map fun descriptor =>
              { state with descriptor := descriptor, expiry := none }
          else none
        else
          (Descriptor.step state.descriptor (.runTask index (ec.OK, 0))).map fun descriptor =>
            { state with descriptor := descriptor }
  | .strandStep strand =>
      (Descriptor.step state.descriptor (.strandStep strand)).map fun descriptor =>
        { state with descriptor := descriptor, times := state.times ++ [state.now] }

/-! ### What a user may rely on -/

def Call.deadline (call : Call) : Nat := call.time + call.timeoutMs.toNat * 1000000

def State.Due (state : State) (operation time : Nat) : Prop :=
  ∃ call, state.calls[operation]? = some call ∧ call.deadline ≤ time

def NotEarly (state : State) : Prop :=
  ∀ (index : Nat) (callback : Descriptor.Callback) (time : Nat),
    state.descriptor.callbacks[index]? = some callback → state.times[index]? = some time →
      callback.ec = ec.OK → state.Due callback.operation time

def State.Told (state : State) (operation : Nat) (code : ErrorCode) : Prop :=
  ∃ call, state.calls[operation]? = some call ∧ call.result = code

/-- Every `timeout` is answered once and in order, with `ec::OK` only when its time is
over and always when its arm has succeeded, and no task thread blocks in the read. -/
structure Punctual (state : State) : Prop where
  answers : AnswersInOrder .timer state.descriptor
  timed : state.times.length = state.descriptor.callbacks.length
  notEarly : NotEarly state
  told : ∀ callback, callback ∈ state.descriptor.callbacks →
    state.Told callback.operation callback.ec
  readsAtOnce : ∀ index, index < state.descriptor.tasks.length →
    (step state (.runTask index)).isSome = true

def timeout (_state : State) : Action → Option (BitVec 32 × ErrorCode)
  | .timeout timeoutMs result => some (timeoutMs, result)
  | _ => none

abbrev timeouts (start : State) (actions : List Action) : List (BitVec 32 × ErrorCode) :=
  Runs.trace step timeout start actions

/-! ### The requests of the timer -/

theorem oneShot_init (fd : Int) (timeoutMs : BitVec 32) :
    (linuxInitTimer fd timeoutMs none).1.oneShot.map Int.toNat =
      if timeoutMs = 0#32 then none else some (timeoutMs.toNat * 1000000) := by
  rw [Timers.linux_oneShot]
  by_cases zero : timeoutMs = 0#32
  · rw [if_pos zero, if_pos zero]
    rfl
  · rw [if_neg zero, if_neg zero, Option.map_some]
    apply congrArg some
    unfold nanoseconds
    omega

/-- The value of `init_timer` is always in range. -/
theorem settime_init (now : Nat) (fd : Int) (timeoutMs : BitVec 32) :
    settime now (linuxInitTimer fd timeoutMs none).1 =
      .ok (if timeoutMs = 0#32 then none else some (now + timeoutMs.toNat * 1000000)) := by
  have sec := Timers.linux_tvSec fd timeoutMs none
  have nsec := Timers.linux_tvNsec fd timeoutMs none
  have shot := oneShot_init fd timeoutMs
  unfold settime
  rw [if_neg (by rw [sec, nsec]; omega)]
  by_cases zero : timeoutMs = 0#32
  · rw [if_pos zero] at shot ⊢
    rw [Option.map_eq_none_iff.mp shot]
    rfl
  · rw [if_neg zero] at shot ⊢
    obtain ⟨delay, known, same⟩ := Option.map_eq_some_iff.mp shot
    rw [known, Option.map_some, same]

/-- So the error branch of the init lambda is not taken. -/
theorem initTimer_eq (state : State) (timeoutMs : BitVec 32) :
    initTimer state timeoutMs =
      { state with
        starting := none
        expiry := if timeoutMs = 0#32 then none
          else some (state.now + timeoutMs.toNat * 1000000) } := by
  unfold initTimer
  rw [settime_init]

theorem expired_iff (state : State) :
    state.expired = true ↔ ∃ time, state.expiry = some time ∧ time ≤ state.now := by
  unfold State.expired
  cases state.expiry with
  | none => simp
  | some time => simp

/-! ### The invariant -/

structure Timed (state : State) (stage : Stage) : Prop where
  single : Single state.descriptor .read stage
  answered : Answered state.descriptor .timer stage
  called : state.calls.length = state.descriptor.initiated.length
  past : ∀ call, call ∈ state.calls → call.time ≤ state.now
  timed : state.times.length = state.descriptor.callbacks.length
  starting : ∀ timeoutMs, state.starting = some timeoutMs →
    state.expiry = none ∧ ∃ operation call, stage = .pending operation ∧
      state.calls[operation]? = some call ∧ call.timeoutMs = timeoutMs
  running : ∀ time, state.expiry = some time →
    ∃ operation call, stage = .pending operation ∧
      state.calls[operation]? = some call ∧ call.timeoutMs ≠ 0#32 ∧ call.deadline ≤ time
  disarmed : state.starting = none → state.expiry = none → ∀ operation,
    stage = .pending operation →
      ∃ call, state.calls[operation]? = some call ∧ call.timeoutMs = 0#32
  reported : ∀ events, state.descriptor.report = some events →
    events = EPOLLIN ∧ state.expired = true
  tasks : ∀ task, task ∈ state.descriptor.tasks → task.code = ec.OK ∧ state.expired = true
  completed : ∀ completion, stage = .completing completion → completion.ec = ec.OK →
    state.Due completion.operation state.now
  notEarly : NotEarly state
  armed : ∀ operation, stage = .pending operation → state.Told operation ec.OK
  settled : ∀ completion, stage = .completing completion →
    ∃ call, state.calls[completion.operation]? = some call ∧ call.result = completion.ec ∧
      (call.timeoutMs ≠ 0#32 ∨ call.result ≠ ec.OK)
  told : ∀ callback, callback ∈ state.descriptor.callbacks →
    state.Told callback.operation callback.ec

theorem timed_init (fd : Int) (strand : StrandId) : Timed (init fd strand) .idle := by
  constructor
  · exact Descriptor.single_init .timer strand
  · exact Descriptor.answered_init .timer strand
  · rfl
  · intro call impossible
    cases impossible
  · rfl
  · intro timeoutMs impossible
    cases impossible
  · intro time impossible
    cases impossible
  · intro _ _ operation impossible
    cases impossible
  · intro events impossible
    cases impossible
  · intro task impossible
    cases impossible
  · intro completion impossible
    cases impossible
  · intro index callback time impossible
    cases impossible
  · intro operation impossible
    cases impossible
  · intro completion impossible
    cases impossible
  · intro callback impossible
    cases impossible

/-- The timerfd runs for a pending operation only. -/
theorem Timed.expiry_eq_none {state : State} {stage : Stage} (held : Timed state stage)
    (still : stage.tokens = 0) : state.expiry = none := by
  cases running : state.expiry with
  | none => rfl
  | some time =>
      obtain ⟨operation, _, rfl, _⟩ := held.running time running
      cases still

theorem Timed.starting_eq_none {state : State} {stage : Stage} (held : Timed state stage)
    (still : stage.tokens = 0) : state.starting = none := by
  cases starting : state.starting with
  | none => rfl
  | some timeoutMs =>
      obtain ⟨_, operation, _, rfl, _⟩ := held.starting timeoutMs starting
      cases still

theorem State.Due.mono {state : State} {operation time later : Nat}
    (due : state.Due operation time) (passed : time ≤ later) : state.Due operation later := by
  obtain ⟨call, called, reached⟩ := due
  exact ⟨call, called, Nat.le_trans reached passed⟩

theorem State.Due.append {state next : State} {operation time : Nat} {more : List Call}
    (due : state.Due operation time) (same : next.calls = state.calls ++ more) :
    next.Due operation time := by
  obtain ⟨call, called, reached⟩ := due
  refine ⟨call, ?_, reached⟩
  rw [same, List.getElem?_append_left (List.getElem?_eq_some_iff.mp called).1]
  exact called

theorem State.Told.append {state next : State} {operation : Nat} {code : ErrorCode}
    {more : List Call} (told : state.Told operation code)
    (same : next.calls = state.calls ++ more) : next.Told operation code := by
  obtain ⟨call, called, known⟩ := told
  refine ⟨call, ?_, known⟩
  rw [same]
  exact Descriptor.getElem?_append_of_some called more

theorem expired_advance {state : State} (nanoseconds : Nat) (expired : state.expired = true) :
    State.expired { state with now := state.now + nanoseconds } = true := by
  obtain ⟨time, running, reached⟩ := (expired_iff state).mp expired
  exact (expired_iff _).mpr ⟨time, running, Nat.le_trans reached (Nat.le_add_right _ _)⟩

theorem timed_advance {state : State} {stage : Stage} (held : Timed state stage)
    (nanoseconds : Nat) : Timed { state with now := state.now + nanoseconds } stage := by
  constructor
  · exact held.single
  · exact held.answered
  · exact held.called
  · intro call member
    exact Nat.le_trans (held.past call member) (Nat.le_add_right _ _)
  · exact held.timed
  · exact held.starting
  · exact held.running
  · exact held.disarmed
  · intro events pending
    obtain ⟨same, expired⟩ := held.reported events pending
    exact ⟨same, expired_advance nanoseconds expired⟩
  · intro task member
    obtain ⟨code, expired⟩ := held.tasks task member
    exact ⟨code, expired_advance nanoseconds expired⟩
  · intro completion completing succeeded
    exact State.Due.mono (held.completed completion completing succeeded)
      (Nat.le_add_right _ _)
  · exact held.notEarly
  · exact held.armed
  · exact held.settled
  · exact held.told

theorem timed_timeout {state : State} (held : Timed state .idle) (timeoutMs : BitVec 32)
    (result : ErrorCode) :
    Timed { state with
      descriptor := Descriptor.initiate state.descriptor .read result
      calls := state.calls ++ [{ timeoutMs := timeoutMs, result := result, time := state.now }]
      starting := if result = ec.OK then some timeoutMs else none }
      (Descriptor.initiatedStage state.descriptor.initiated.length result) := by
  have stopped := held.expiry_eq_none rfl
  obtain ⟨_, unreported, untasked⟩ := held.single.quiet rfl
  obtain ⟨_, initiated, _, callbacks, _, sameReport, sameTasks⟩ :=
    Descriptor.initiate_keeps state.descriptor .read result
  have report := sameReport.trans unreported
  have tasks := sameTasks.trans untasked
  have own : (state.calls ++
      [{ timeoutMs := timeoutMs, result := result, time := state.now : Call }])[
      state.descriptor.initiated.length]? =
        some { timeoutMs := timeoutMs, result := result, time := state.now } := by
    rw [← held.called]
    exact List.getElem?_concat_length
  constructor
  · exact Descriptor.single_initiate held.single result
  · exact Descriptor.answered_initiate held.answered result
  · change (state.calls ++ [_]).length = (Descriptor.initiate _ _ _).initiated.length
    rw [initiated, List.length_append, List.length_append, held.called]
    rfl
  · intro call member
    rcases List.mem_append.mp member with earlier | added
    · exact held.past call earlier
    · have latest := List.mem_singleton.mp added
      subst latest
      exact Nat.le_refl _
  · exact held.timed.trans (congrArg List.length callbacks.symm)
  · intro other starting
    refine ⟨stopped, ?_⟩
    change (if result = ec.OK then some timeoutMs else none) = some other at starting
    by_cases succeeded : result = ec.OK
    · rw [if_pos succeeded] at starting
      cases starting
      exact ⟨_, _, by rw [Descriptor.initiatedStage, if_pos succeeded], own, rfl⟩
    · rw [if_neg succeeded] at starting
      cases starting
  · intro time running
    change state.expiry = some time at running
    rw [stopped] at running
    cases running
  · intro waiting _ operation pending
    change (if result = ec.OK then some timeoutMs else none) = none at waiting
    unfold Descriptor.initiatedStage at pending
    by_cases succeeded : result = ec.OK
    · rw [if_pos succeeded] at waiting
      cases waiting
    · rw [if_neg succeeded] at pending
      cases pending
  · intro events pending
    change (Descriptor.initiate _ _ _).report = some events at pending
    rw [report] at pending
    cases pending
  · intro task member
    change task ∈ (Descriptor.initiate _ _ _).tasks at member
    rw [tasks] at member
    cases member
  · intro completion completing succeeded
    unfold Descriptor.initiatedStage at completing
    by_cases armed : result = ec.OK
    · rw [if_pos armed] at completing
      cases completing
    · rw [if_neg armed] at completing
      cases completing
      exact absurd succeeded armed
  · intro index callback time found timed succeeded
    change (Descriptor.initiate _ _ _).callbacks[index]? = _ at found
    rw [callbacks] at found
    exact (held.notEarly index callback time found timed succeeded).append rfl
  · intro operation pending
    unfold Descriptor.initiatedStage at pending
    by_cases succeeded : result = ec.OK
    · rw [if_pos succeeded] at pending
      cases pending
      exact ⟨_, own, succeeded⟩
    · rw [if_neg succeeded] at pending
      cases pending
  · intro completion completing
    unfold Descriptor.initiatedStage at completing
    by_cases succeeded : result = ec.OK
    · rw [if_pos succeeded] at completing
      cases completing
    · rw [if_neg succeeded] at completing
      cases completing
      exact ⟨_, own, rfl, Or.inr succeeded⟩
  · intro callback member
    change callback ∈ (Descriptor.initiate _ _ _).callbacks at member
    rw [callbacks] at member
    exact (held.told callback member).append rfl

theorem timed_initTimer {state : State} {stage : Stage} (held : Timed state stage)
    {timeoutMs : BitVec 32} (starting : state.starting = some timeoutMs) :
    Timed (initTimer state timeoutMs) stage := by
  obtain ⟨stopped, operation, call, rfl, called, same⟩ := held.starting timeoutMs starting
  have unexpired : ¬ state.expired = true := by
    rw [expired_iff, stopped]
    rintro ⟨time, impossible, _⟩
    cases impossible
  rw [initTimer_eq]
  constructor
  · exact held.single
  · exact held.answered
  · exact held.called
  · exact held.past
  · exact held.timed
  · intro other impossible
    cases impossible
  · intro time running
    change (if timeoutMs = 0#32 then none else some _) = some time at running
    by_cases zero : timeoutMs = 0#32
    · rw [if_pos zero] at running
      cases running
    · rw [if_neg zero] at running
      cases running
      refine ⟨operation, call, rfl, called, by rw [same]; exact zero, ?_⟩
      have before := held.past call (List.mem_of_getElem? called)
      unfold Call.deadline
      rw [same]
      omega
  · intro _ disarmed other pending
    cases pending
    refine ⟨call, called, ?_⟩
    by_contra nonzero
    rw [same] at nonzero
    change (if timeoutMs = 0#32 then none else some _) = none at disarmed
    rw [if_neg nonzero] at disarmed
    cases disarmed
  · intro events pending
    exact absurd (held.reported events pending).2 unexpired
  · intro task member
    exact absurd (held.tasks task member).2 unexpired
  · intro completion completing
    cases completing
  · exact held.notEarly
  · exact held.armed
  · exact held.settled
  · exact held.told

theorem timed_harvest {state : State} {stage : Stage} (held : Timed state stage)
    (expired : state.expired = true) (free : state.descriptor.report = none)
    (allowed : Descriptor.reportable state.descriptor.interest EPOLLIN = true) :
    Timed { state with descriptor := { state.descriptor with
      report := some EPOLLIN, interest := EventMask.empty } } stage := by
  constructor
  · exact Descriptor.single_harvest held.single free allowed
  · exact held.answered.of_same rfl rfl rfl rfl rfl
  · exact held.called
  · exact held.past
  · exact held.timed
  · exact held.starting
  · exact held.running
  · exact held.disarmed
  · intro events same
    cases same
    exact ⟨rfl, expired⟩
  · exact held.tasks
  · exact held.completed
  · exact held.notEarly
  · exact held.armed
  · exact held.settled
  · exact held.told

theorem tasks_handle {state : State} {stage : Stage} (held : Timed state stage)
    (result : ErrorCode) :
    ∀ task, task ∈ (Descriptor.handle state.descriptor EPOLLIN result).tasks →
      task ∈ state.descriptor.tasks ∨ task.code = ec.OK := by
  intro task member
  have cleared : (clearReported state.descriptor.eventMask EPOLLIN).nonzero = false := by
    rw [EventMask.nonzero_eq_false_iff]
    intro direction
    rw [clearReported_has]
    cases direction with
    | read => rw [show has EPOLLIN Direction.read.bit = true by decide, Bool.not_true,
        Bool.and_false]
    | write => rw [held.single.mask .write (by decide), Bool.false_and]
  change task ∈ state.descriptor.tasks ++ dispatches _ _ _ _ at member
  rcases List.mem_append.mp member with before | added
  · exact Or.inl before
  · rw [dispatches, rearmFails, cleared, Bool.false_and, if_neg Bool.false_ne_true] at added
    have only : dispatchReport EPOLLIN = [⟨.read, ec.OK⟩] := by decide
    rw [only] at added
    rw [List.mem_singleton.mp added]
    exact Or.inr rfl

theorem timed_handle {state : State} {stage : Stage} (held : Timed state stage)
    {events : Events} (pending : state.descriptor.report = some events) (result : ErrorCode) :
    Timed { state with descriptor := Descriptor.handle state.descriptor events result }
      stage := by
  obtain ⟨rfl, expired⟩ := held.reported events pending
  obtain ⟨kind, initiated, calls, callbacks, strand, report⟩ :=
    Descriptor.handle_keeps state.descriptor EPOLLIN result
  constructor
  · exact Descriptor.single_handle held.single pending result
  · exact held.answered.of_same kind initiated calls callbacks strand
  · exact held.called.trans (congrArg List.length initiated.symm)
  · exact held.past
  · exact held.timed.trans (congrArg List.length callbacks.symm)
  · exact held.starting
  · exact held.running
  · exact held.disarmed
  · intro events impossible
    change (Descriptor.handle _ _ _).report = some events at impossible
    rw [report] at impossible
    cases impossible
  · intro task member
    rcases tasks_handle held result task member with before | succeeded
    · exact held.tasks task before
    · exact ⟨succeeded, expired⟩
  · exact held.completed
  · intro index callback time found
    change (Descriptor.handle _ _ _).callbacks[index]? = _ at found
    rw [callbacks] at found
    exact held.notEarly index callback time found
  · exact held.armed
  · exact held.settled
  · intro callback member
    change callback ∈ (Descriptor.handle _ _ _).callbacks at member
    rw [callbacks] at member
    exact held.told callback member

/-- The task of a timer's `react` finds the closure and an expired timerfd. -/
theorem reads_task {state : State} {stage : Stage} (held : Timed state stage) {index : Nat}
    {task : Dispatch} (found : state.descriptor.tasks[index]? = some task) :
    reads state task = true ∧ state.expired = true := by
  obtain ⟨code, expired⟩ := held.tasks task (List.mem_of_getElem? found)
  obtain ⟨operation, _, same, react, _⟩ :=
    Descriptor.single_runTask held.single found (ec.OK, 0)
  refine ⟨?_, expired⟩
  unfold reads
  rw [code, same, react]
  rfl

theorem timed_runTask {state : State} {stage : Stage} (held : Timed state stage)
    {index : Nat} {task : Dispatch} (found : state.descriptor.tasks[index]? = some task) :
    ∃ next, Timed { state with
      descriptor := Descriptor.runTask state.descriptor index task (ec.OK, 0)
      expiry := none } next := by
  obtain ⟨code, expired⟩ := held.tasks task (List.mem_of_getElem? found)
  obtain ⟨time, running, reached⟩ := (expired_iff state).mp expired
  obtain ⟨operation, rfl, same, react, single⟩ :=
    Descriptor.single_runTask held.single found (ec.OK, 0)
  obtain ⟨current, call, pending, called, nonzero, deadline⟩ := held.running time running
  cases pending
  obtain ⟨own, called', succeeded⟩ := held.armed operation rfl
  rw [called] at called'
  cases called'
  have passed : (Descriptor.reactCall task operation (ec.OK, 0)).result.1 = ec.OK := by
    rw [Descriptor.reactCall, if_pos code]
    rfl
  have answered := @Descriptor.answered_runTask _ _ _ held.answered index task (ec.OK, 0)
    same react
  have waiting : state.starting = none := by
    cases starting : state.starting with
    | none => rfl
    | some timeoutMs =>
        rw [(held.starting timeoutMs starting).1] at running
        cases running
  have untasked := (single.quiet rfl).2
  rw [← same] at react
  refine ⟨.completing ⟨operation, (Descriptor.reactCall task operation (ec.OK, 0)).result.1,
    (Descriptor.reactCall task operation (ec.OK, 0)).result.2⟩, ?_⟩
  refine { single := single, answered := answered, called := ?called, past := held.past,
           timed := ?timed, starting := ?starting, running := ?running, disarmed := ?disarmed,
           reported := ?reported, tasks := ?tasks, completed := ?completed,
           notEarly := ?notEarly, armed := ?armed, settled := ?settled, told := ?told }
  case called =>
    rw [Descriptor.runTask_some react]
    exact held.called
  case timed =>
    rw [Descriptor.runTask_some react]
    exact held.timed
  case starting =>
    intro timeoutMs starting
    change state.starting = some timeoutMs at starting
    rw [waiting] at starting
    cases starting
  case running =>
    intro other impossible
    cases impossible
  case disarmed =>
    intro _ _ other impossible
    cases impossible
  case reported =>
    intro events impossible
    rw [untasked.1] at impossible
    cases impossible
  case tasks =>
    intro other impossible
    rw [untasked.2] at impossible
    cases impossible
  case completed =>
    intro completion completing _succeeded
    cases completing
    exact ⟨call, called, Nat.le_trans deadline reached⟩
  case notEarly =>
    intro position callback started inCallbacks
    rw [Descriptor.runTask_some react] at inCallbacks
    exact held.notEarly position callback started inCallbacks
  case armed =>
    intro other impossible
    cases impossible
  case settled =>
    intro completion completing
    cases completing
    exact ⟨call, called, succeeded.trans passed.symm, Or.inl nonzero⟩
  case told =>
    intro callback member
    rw [Descriptor.runTask_some react] at member
    exact held.told callback member

theorem timed_strandStep {state : State} {stage : Stage} (held : Timed state stage)
    {strand : StrandId} {direction : Direction} {rest : List Direction}
    (queued : state.descriptor.strandQueue strand = direction :: rest) :
    Timed { state with
      descriptor := Descriptor.runComplete state.descriptor strand direction rest
      times := state.times ++ [state.now] } .idle := by
  obtain ⟨completion, rfl, rfl, rfl, found, single⟩ :=
    Descriptor.single_runComplete held.single queued
  have answered := @Descriptor.answered_runComplete _ .timer _ held.answered rest found
  have event : state.descriptor.kind .read = .timer := congrFun held.answered.event _
  have stopped := held.expiry_eq_none rfl
  have quiet := single.quiet rfl
  refine { single := single, answered := answered, called := ?called, past := held.past,
           timed := ?timed, starting := ?starting, running := ?running, disarmed := ?disarmed,
           reported := ?reported, tasks := ?tasks, completed := ?completed,
           notEarly := ?notEarly, armed := ?armed, settled := ?settled, told := ?told }
  case called =>
    rw [Descriptor.runComplete_some found]
    exact held.called
  case timed =>
    rw [Descriptor.runComplete_some found]
    simp only [List.length_append, List.length_singleton]
    rw [held.timed]
  case starting =>
    intro timeoutMs starting
    change state.starting = some timeoutMs at starting
    rw [held.starting_eq_none rfl] at starting
    cases starting
  case running =>
    intro other running
    change state.expiry = some other at running
    rw [stopped] at running
    cases running
  case disarmed =>
    intro _ _ other impossible
    cases impossible
  case reported =>
    intro events impossible
    rw [quiet.2.1] at impossible
    cases impossible
  case tasks =>
    intro other impossible
    rw [quiet.2.2] at impossible
    cases impossible
  case completed =>
    intro other impossible
    cases impossible
  case notEarly =>
    intro position callback time inCallbacks timed succeeded
    rw [Descriptor.runComplete_some found, event] at inCallbacks
    change (state.descriptor.callbacks ++ [_])[position]? = _ at inCallbacks
    change (state.times ++ [state.now])[position]? = _ at timed
    by_cases last : position = state.descriptor.callbacks.length
    · subst last
      rw [List.getElem?_concat_length] at inCallbacks
      rw [← held.timed, List.getElem?_concat_length] at timed
      cases inCallbacks
      cases timed
      exact held.completed completion rfl succeeded
    · have inside : position < (state.descriptor.callbacks ++ [_]).length :=
        (List.getElem?_eq_some_iff.mp inCallbacks).1
      rw [List.length_append, List.length_singleton] at inside
      rw [List.getElem?_append_left (by omega)] at inCallbacks
      rw [List.getElem?_append_left (by rw [held.timed]; omega)] at timed
      exact held.notEarly position callback time inCallbacks timed succeeded
  case armed =>
    intro other impossible
    cases impossible
  case settled =>
    intro other impossible
    cases impossible
  case told =>
    intro callback member
    rw [Descriptor.runComplete_some found, event] at member
    rcases List.mem_append.mp member with earlier | added
    · exact held.told callback earlier
    · rw [List.mem_singleton.mp added]
      obtain ⟨call, called, same, _⟩ := held.settled completion rfl
      exact ⟨call, called, same⟩

/-! ### Every run -/

theorem timed_step {state next : State} {action : Action}
    (held : ∃ stage, Timed state stage) (stepped : step state action = some next) :
    ∃ stage, Timed next stage := by
  obtain ⟨stage, held⟩ := held
  cases action with
  | advance nanoseconds =>
      cases stepped
      exact ⟨stage, timed_advance held nanoseconds⟩
  | timeout timeoutMs result =>
      obtain ⟨descriptor, initiated, rfl⟩ := Option.map_eq_some_iff.mp stepped
      obtain ⟨_, _, free, rfl⟩ := Descriptor.step_initiate.mp initiated
      have idle := held.single.staged.idle_of_outstanding free
      rw [Descriptor.singleStage_self] at idle
      subst idle
      exact ⟨_, timed_timeout held timeoutMs result⟩
  | initTimer =>
      obtain ⟨timeoutMs, starting, rfl⟩ := Option.map_eq_some_iff.mp stepped
      exact ⟨stage, timed_initTimer held starting⟩
  | harvest =>
      simp only [step] at stepped
      split at stepped
      · rename_i expired
        obtain ⟨descriptor, harvested, rfl⟩ := Option.map_eq_some_iff.mp stepped
        obtain ⟨_, free, allowed, rfl⟩ := Descriptor.step_harvest.mp harvested
        exact ⟨stage, timed_harvest held expired free allowed⟩
      · cases stepped
  | handle result =>
      obtain ⟨descriptor, handled, rfl⟩ := Option.map_eq_some_iff.mp stepped
      obtain ⟨_, events, pending, rfl⟩ := Descriptor.step_handle.mp handled
      exact ⟨stage, timed_handle held pending result⟩
  | runTask index =>
      obtain ⟨task, found, ran⟩ := Option.bind_eq_some_iff.mp stepped
      obtain ⟨reading, expired⟩ := reads_task held found
      rw [if_pos reading, if_pos expired] at ran
      obtain ⟨descriptor, called, rfl⟩ := Option.map_eq_some_iff.mp ran
      obtain ⟨_, other, same, rfl⟩ := Descriptor.step_runTask.mp called
      rw [found] at same
      cases same
      exact timed_runTask held found
  | strandStep strand =>
      obtain ⟨descriptor, called, rfl⟩ := Option.map_eq_some_iff.mp stepped
      obtain ⟨_, direction, rest, queued, rfl⟩ := Descriptor.step_strandStep.mp called
      exact ⟨_, timed_strandStep held queued⟩

theorem calls_step {state next : State} {action : Action}
    (stepped : step state action = some next) :
    ∃ more, next.calls = state.calls ++ more ∧
      more.map (fun call => (call.timeoutMs, call.result)) = (timeout state action).toList := by
  cases action with
  | advance nanoseconds =>
      cases stepped
      exact ⟨[], (List.append_nil _).symm, rfl⟩
  | timeout timeoutMs result =>
      obtain ⟨descriptor, _, rfl⟩ := Option.map_eq_some_iff.mp stepped
      exact ⟨_, rfl, rfl⟩
  | initTimer =>
      obtain ⟨timeoutMs, _, rfl⟩ := Option.map_eq_some_iff.mp stepped
      refine ⟨[], ?_, rfl⟩
      rw [initTimer_eq]
      exact (List.append_nil _).symm
  | harvest =>
      simp only [step] at stepped
      split at stepped
      · obtain ⟨descriptor, _, rfl⟩ := Option.map_eq_some_iff.mp stepped
        exact ⟨[], (List.append_nil _).symm, rfl⟩
      · cases stepped
  | handle result =>
      obtain ⟨descriptor, _, rfl⟩ := Option.map_eq_some_iff.mp stepped
      exact ⟨[], (List.append_nil _).symm, rfl⟩
  | runTask index =>
      obtain ⟨task, _, ran⟩ := Option.bind_eq_some_iff.mp stepped
      refine ⟨[], ?_, rfl⟩
      rw [List.append_nil]
      split at ran
      · split at ran
        · obtain ⟨descriptor, _, rfl⟩ := Option.map_eq_some_iff.mp ran
          rfl
        · cases ran
      · obtain ⟨descriptor, _, rfl⟩ := Option.map_eq_some_iff.mp ran
        rfl
  | strandStep strand =>
      obtain ⟨descriptor, _, rfl⟩ := Option.map_eq_some_iff.mp stepped
      exact ⟨[], (List.append_nil _).symm, rfl⟩

theorem Timed.punctual {state : State} {stage : Stage} (held : Timed state stage) :
    Punctual state := by
  constructor
  · exact held.answered.answersInOrder held.single
  · exact held.timed
  · exact held.notEarly
  · exact held.told
  · intro index inside
    have found := List.getElem?_eq_getElem inside
    obtain ⟨reading, expired⟩ := reads_task held found
    have ran : Descriptor.step state.descriptor (.runTask index (ec.OK, 0)) =
        some (Descriptor.runTask state.descriptor index state.descriptor.tasks[index]
          (ec.OK, 0)) :=
      Descriptor.step_runTask.mpr ⟨held.single.running, _, found, rfl⟩
    simp only [step, found, Option.bind_some, reading, if_true, expired, ran, Option.map_some]
    rfl

theorem timed_of_run {fd : Int} {strand : StrandId} {actions : List Action} {final : State}
    (executed : Runs.exec step (init fd strand) actions = some final) :
    ∃ stage, Timed final stage :=
  Runs.exec_invariant (fun _ _ _ held stepped => timed_step held stepped)
    ⟨_, timed_init fd strand⟩ executed

/-- The calls that the state remembers are the ones that the run has made. -/
theorem calls_recorded {fd : Int} {strand : StrandId} {actions : List Action} {final : State}
    (executed : Runs.exec step (init fd strand) actions = some final) :
    final.calls.map (fun call => (call.timeoutMs, call.result)) =
      timeouts (init fd strand) actions := by
  refine Runs.trace_invariant
    (fun shown state => state.calls.map (fun call => (call.timeoutMs, call.result)) = shown)
    ?_ rfl (Runs.stepsMeet_true _ actions) executed
  intro shown state action next same _ stepped
  obtain ⟨more, added, named⟩ := calls_step stepped
  rw [added, List.map_append, same, named]

/-- In every run of a timer, with any interleaving and whichever arms fail. -/
theorem punctual_always (fd : Int) (strand : StrandId) (actions : List Action) :
    Runs.StatesMeet step Punctual (init fd strand) actions ∧
      ∀ final, Runs.exec step (init fd strand) actions = some final →
        final.calls.map (fun call => (call.timeoutMs, call.result)) =
          timeouts (init fd strand) actions := by
  have always : Runs.StatesMeet step (fun state => ∃ stage, Timed state stage)
      (init fd strand) actions :=
    Runs.statesMeet_of_invariant (fun _ _ _ held stepped => timed_step held stepped)
      actions ⟨_, timed_init fd strand⟩
  exact ⟨always.imp (fun state held => held.choose_spec.punctual),
    fun final executed => calls_recorded executed⟩

/-! ### Which timeouts are answered -/

/-- Some continuation answers the outstanding call; every continuation may pass time. -/
def CanAnswer (state : State) : Prop :=
  ∃ later final, Runs.exec step state later = some final ∧
    final.descriptor.outstanding .read = none

/-- A call of `timeout` that gets an answer: its arm failed, or its timeout is not zero. -/
def Expires (called : BitVec 32 × ErrorCode) : Prop :=
  called.2 ≠ ec.OK ∨ called.1 ≠ 0#32

theorem CanAnswer.of_step {state next : State} (action : Action)
    (stepped : step state action = some next) (answers : CanAnswer next) :
    CanAnswer state := by
  obtain ⟨later, final, executed, answered⟩ := answers
  exact ⟨action :: later, final, Runs.exec_cons_eq_some.mpr ⟨next, stepped, executed⟩,
    answered⟩

theorem canAnswer_completing {state : State} {completion : Descriptor.Completion}
    (held : Timed state (.completing completion)) : CanAnswer state := by
  have agreed := held.single.staged.stage .read
  rw [Descriptor.singleStage_self] at agreed
  have waiting : 0 < (state.descriptor.strandQueue state.descriptor.strand).count .read := by
    rw [agreed.strandTasks]
    exact Nat.one_pos
  cases queued : state.descriptor.strandQueue state.descriptor.strand with
  | nil =>
      rw [queued] at waiting
      cases waiting
  | cons direction rest =>
      have ran := Descriptor.step_strandStep.mpr
        ⟨held.single.running, direction, rest, queued, rfl⟩
      have kept := timed_strandStep held queued
      have freed := (kept.single.staged.stage .read).outstanding
      rw [Descriptor.singleStage_self] at freed
      refine ⟨[.strandStep state.descriptor.strand], _, ?_, freed⟩
      simp only [Runs.exec, step, ran, Option.map_some, Option.bind_some]

theorem canAnswer_task {state : State} {operation : Nat}
    (held : Timed state (.pending operation)) (tasks : state.descriptor.tasks ≠ []) :
    CanAnswer state := by
  have inside : 0 < state.descriptor.tasks.length := List.length_pos_iff.mpr tasks
  have found := List.getElem?_eq_getElem inside
  obtain ⟨reading, expired⟩ := reads_task held found
  obtain ⟨next, kept⟩ := timed_runTask held found
  have ran := Descriptor.step_runTask.mpr
    (⟨held.single.running, _, found, rfl⟩ : state.descriptor.terminated = false ∧
      ∃ task, state.descriptor.tasks[0]? = some task ∧
        Descriptor.runTask state.descriptor 0 task (ec.OK, 0) = _)
  obtain ⟨other, same, _, _, single⟩ := Descriptor.single_runTask held.single found (ec.OK, 0)
  have completing : ∃ completion, next = .completing completion := by
    have agreed := kept.single.staged.stage .read
    have known := single.staged.stage .read
    rw [Descriptor.singleStage_self] at agreed known
    have same := agreed.complete.symm.trans known.complete
    cases next with
    | completing completion => exact ⟨completion, rfl⟩
    | idle => cases same
    | pending operation => cases same
  obtain ⟨completion, rfl⟩ := completing
  refine CanAnswer.of_step (.runTask 0) ?_ (canAnswer_completing kept)
  simp only [step, found, Option.bind_some, reading, if_true, expired, ran, Option.map_some]

theorem canAnswer_report {state : State} {operation : Nat}
    (held : Timed state (.pending operation)) {events : Events}
    (pending : state.descriptor.report = some events) : CanAnswer state := by
  have handled := Descriptor.step_handle.mpr
    (⟨held.single.running, events, pending, rfl⟩ : state.descriptor.terminated = false ∧
      ∃ events, state.descriptor.report = some events ∧
        Descriptor.handle state.descriptor events ec.OK = _)
  have kept := timed_handle held pending ec.OK
  obtain ⟨rfl, _⟩ := held.reported events pending
  refine CanAnswer.of_step (.handle ec.OK) ?_ (canAnswer_task kept ?_)
  · simp only [step, handled, Option.map_some]
  · change state.descriptor.tasks ++ dispatches _ _ EPOLLIN ec.OK ≠ []
    rw [Descriptor.dispatches_ok]
    intro empty
    have none := (List.append_eq_nil_iff.mp empty).2
    exact absurd none (by decide)

theorem canAnswer_armed {state : State} {operation : Nat}
    (held : Timed state (.pending operation)) {time : Nat}
    (running : state.expiry = some time) (reached : time ≤ state.now) : CanAnswer state := by
  have expired := (expired_iff state).mpr ⟨time, running, reached⟩
  cases pending : state.descriptor.report with
  | some events => exact canAnswer_report held pending
  | none =>
      by_cases untasked : state.descriptor.tasks = []
      · obtain ⟨armed, readable⟩ := held.single.armed pending untasked
        have allowed : Descriptor.reportable state.descriptor.interest EPOLLIN = true := by
          have unwritable : has EPOLLIN EPOLLOUT = false := by decide
          simp only [Descriptor.reportable, armed, readable, unwritable]
          rfl
        have harvested := Descriptor.step_harvest.mpr
          ⟨held.single.running, pending, allowed, rfl⟩
        refine CanAnswer.of_step .harvest ?_
          (canAnswer_report (timed_harvest held expired pending allowed) rfl)
        simp only [step, expired, if_true, harvested, Option.map_some]
      · exact canAnswer_task held untasked

theorem canAnswer_running {state : State} {operation : Nat}
    (held : Timed state (.pending operation)) {time : Nat}
    (running : state.expiry = some time) : CanAnswer state :=
  CanAnswer.of_step (.advance (time - state.now)) rfl
    (canAnswer_armed (timed_advance held (time - state.now)) running (by
      change time ≤ state.now + (time - state.now)
      omega))

structure Waits (state : State) (operation : Nat) : Prop where
  timed : Timed state (.pending operation)
  zero : ∃ call, state.calls[operation]? = some call ∧ call.timeoutMs = 0#32

theorem Waits.stopped {state : State} {operation : Nat} (waits : Waits state operation) :
    state.expiry = none := by
  obtain ⟨call, called, zero⟩ := waits.zero
  cases running : state.expiry with
  | none => rfl
  | some time =>
      obtain ⟨other, call', pending, called', nonzero, _⟩ := waits.timed.running time running
      cases pending
      rw [called] at called'
      cases called'
      exact absurd zero nonzero

theorem Waits.unexpired {state : State} {operation : Nat} (waits : Waits state operation) :
    ¬ state.expired = true := by
  rw [expired_iff, waits.stopped]
  rintro ⟨time, impossible, _⟩
  cases impossible

theorem waits_step {state next : State} {operation : Nat} {action : Action}
    (waits : Waits state operation) (stepped : step state action = some next) :
    Waits next operation := by
  have agreed := waits.timed.single.staged.stage .read
  rw [Descriptor.singleStage_self] at agreed
  cases action with
  | advance nanoseconds =>
      cases stepped
      exact ⟨timed_advance waits.timed nanoseconds, waits.zero⟩
  | timeout timeoutMs result =>
      obtain ⟨descriptor, initiated, rfl⟩ := Option.map_eq_some_iff.mp stepped
      obtain ⟨_, _, free, _⟩ := Descriptor.step_initiate.mp initiated
      rw [agreed.outstanding] at free
      cases free
  | initTimer =>
      obtain ⟨timeoutMs, starting, rfl⟩ := Option.map_eq_some_iff.mp stepped
      refine ⟨timed_initTimer waits.timed starting, ?_⟩
      rw [initTimer_eq]
      exact waits.zero
  | harvest =>
      simp only [step] at stepped
      rw [if_neg waits.unexpired] at stepped
      cases stepped
  | handle result =>
      obtain ⟨descriptor, handled, rfl⟩ := Option.map_eq_some_iff.mp stepped
      obtain ⟨_, events, pending, _⟩ := Descriptor.step_handle.mp handled
      exact absurd (waits.timed.reported events pending).2 waits.unexpired
  | runTask index =>
      obtain ⟨task, found, _⟩ := Option.bind_eq_some_iff.mp stepped
      exact absurd (waits.timed.tasks task (List.mem_of_getElem? found)).2 waits.unexpired
  | strandStep strand =>
      obtain ⟨descriptor, called, rfl⟩ := Option.map_eq_some_iff.mp stepped
      obtain ⟨_, direction, rest, queued, _⟩ := Descriptor.step_strandStep.mp called
      obtain ⟨completion, impossible, _⟩ :=
        Descriptor.single_runComplete waits.timed.single queued
      cases impossible

theorem Waits.cannotAnswer {state : State} {operation : Nat} (waits : Waits state operation) :
    ¬ CanAnswer state := by
  rintro ⟨later, final, executed, answered⟩
  have still : Waits final operation :=
    Runs.exec_invariant (fun _ _ _ held stepped => waits_step held stepped) waits executed
  have agreed := (still.timed.single.staged.stage .read).outstanding
  rw [Descriptor.singleStage_self, answered] at agreed
  cases agreed

/-- In every state of every run the outstanding call can be answered exactly when its
timeout is not zero or its arm has failed. -/
theorem canAnswer_iff_expires (fd : Int) (strand : StrandId) (actions : List Action)
    (final : State) (executed : Runs.exec step (init fd strand) actions = some final)
    (operation : Nat) (outstanding : final.descriptor.outstanding .read = some operation) :
    ∃ called, (timeouts (init fd strand) actions)[operation]? = some called ∧
      (CanAnswer final ↔ Expires called) := by
  obtain ⟨stage, held⟩ := timed_of_run executed
  have agreed := held.single.staged.stage .read
  rw [Descriptor.singleStage_self] at agreed
  have current := agreed.outstanding
  rw [outstanding] at current
  have named : ∀ call, final.calls[operation]? = some call →
      (timeouts (init fd strand) actions)[operation]? = some (call.timeoutMs, call.result) := by
    intro call called
    rw [← calls_recorded executed, List.getElem?_map, called, Option.map_some]
  cases stage with
  | idle => cases current
  | completing completion =>
      obtain rfl : operation = completion.operation := Option.some.inj current
      obtain ⟨call, called, _, expires⟩ := held.settled completion rfl
      exact ⟨_, named call called, fun _ => expires.symm, fun _ => canAnswer_completing held⟩
  | pending other =>
      obtain rfl : operation = other := Option.some.inj current
      obtain ⟨call, called, armed⟩ := held.armed operation rfl
      refine ⟨_, named call called, ?_⟩
      constructor
      · intro answers
        refine Or.inr ?_
        intro zero
        exact Waits.cannotAnswer ⟨held, call, called, zero⟩ answers
      · rintro (failed | nonzero)
        · exact absurd armed failed
        · cases running : final.expiry with
          | some time => exact canAnswer_running held running
          | none =>
              cases starting : final.starting with
              | some timeoutMs =>
                  obtain ⟨_, other, call', same, called', timeout⟩ :=
                    held.starting timeoutMs starting
                  cases same
                  rw [called] at called'
                  cases called'
                  have started : (initTimer final timeoutMs).expiry =
                      some (final.now + timeoutMs.toNat * 1000000) := by
                    rw [initTimer_eq]
                    exact if_neg (by rw [← timeout]; exact nonzero)
                  refine CanAnswer.of_step .initTimer ?_
                    (canAnswer_running (timed_initTimer held starting) started)
                  simp only [step, starting, Option.map_some]
              | none =>
                  obtain ⟨call', called', zero⟩ := held.disarmed starting running operation rfl
                  rw [called] at called'
                  cases called'
                  exact absurd zero nonzero

/-- A zero timeout, which disarms, waits for ever. -/
theorem zeroTimeout_waits :
    ∃ final, Runs.exec step (init 3 0) [.timeout 0 ec.OK, .initTimer, .advance 7] =
        some final ∧
      ∃ called, (timeouts (init 3 0) [.timeout 0 ec.OK, .initTimer, .advance 7])[0]? =
          some called ∧
        (CanAnswer final ↔ Expires called) := by
  have executed : (Runs.exec step (init 3 0) [.timeout 0 ec.OK, .initTimer, .advance 7]).map
      (fun final => final.descriptor.outstanding .read) = some (some 0) := by
    decide +kernel
  obtain ⟨final, reached, outstanding⟩ := Option.map_eq_some_iff.mp executed
  exact ⟨final, reached, canAnswer_iff_expires 3 0 _ final reached 0 outstanding⟩

/-- Two timeouts, the second started in the callback of the first. -/
example : (Runs.exec step (init 3 0)
    [.timeout 2 ec.OK, .initTimer, .advance 2000000, .harvest, .handle ec.OK, .runTask 0,
      .strandStep 0, .timeout 1 ec.OK, .initTimer, .advance 1500000, .harvest, .handle ec.OK,
      .runTask 0, .strandStep 0]).map (fun state => state.times) =
    some [2000000, 3500000] := by
  decide +kernel

end BabaIo.TimerExpiry
