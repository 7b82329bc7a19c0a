import BabaIo.Library.RecursiveMutex
import BabaIo.Library.Runs
import BabaIo.ReactorWait
import Mathlib.Data.List.Count
import Mathlib.Logic.Function.Basic

/-
`in_scope_mtx` and `in_scope` of one `reactor_io_descriptor`.

Three pieces of code run under the mutex: `do_react` around the fin call, the
`complete` closure around the user callback, and the destructor of the owning
object.  Any thread may run any of them; a callback may run the destructor of
its own object, on the same thread and under the lock it already holds.

Reading `in_scope` and acting on it are separate steps, so that what is read
stays true only because of the mutex.
-/

set_option autoImplicit false

namespace BabaIo.ScopeLock

inductive Job where
  /-- `do_react` of an event. -/
  | react (direction : Direction)
  /-- The `complete` closure of an event. -/
  | complete (direction : Direction)
  /-- The destructor. -/
  | destroy
  deriving DecidableEq

/-- Where a job is: before `lock_guard`, in front of the test of `in_scope`, past
a test that succeeded, in the guarded code (the fin call, the user callback, the
destructor's clean-up), behind it, and past the end of `lock_guard`. -/
inductive Place where
  | waiting
  | locked
  | admitted
  | inside
  | leaving
  | released
  deriving DecidableEq

structure Frame where
  job : Job
  place : Place
  deriving DecidableEq

def Frame.holds (frame : Frame) : Bool :=
  frame.place ≠ .waiting && frame.place ≠ .released

variable {Thread : Type} [DecidableEq Thread]

structure State (Thread : Type) where
  inScopeMtx : RecursiveMutex Thread
  inScope : Bool
  /-- The object's descriptor is open. -/
  fdOpen : Bool
  /-- The thread on which the destructor was called. -/
  destructor : Option Thread
  stack : Thread → List Frame

def init : State Thread :=
  { inScopeMtx := RecursiveMutex.free
    inScope := true
    fdOpen := true
    destructor := none
    stack := fun _ => [] }

def State.setStack (state : State Thread) (thread : Thread) (frames : List Frame) :
    State Thread :=
  { state with stack := Function.update state.stack thread frames }

inductive Action (Thread : Type) where
  | start (thread : Thread) (job : Job)
  | lock (thread : Thread)
  | readInScope (thread : Thread)
  | enter (thread : Thread)
  | close (thread : Thread)
  | leave (thread : Thread)
  | unlock (thread : Thread)
  | finish (thread : Thread)

/-- A thread starts a task of its loop; the destructor is called once, from
anywhere or from inside a callback of the object. -/
def mayStart (state : State Thread) (thread : Thread) : Job → Bool
  | .react _ => state.stack thread = []
  | .complete _ => state.stack thread = []
  | .destroy => state.destructor.isNone &&
      match state.stack thread with
      | [] => true
      | [⟨.complete _, .inside⟩] => true
      | _ => false

def start (state : State Thread) (thread : Thread) (job : Job) : State Thread :=
  let called := match job with
    | .destroy => { state with destructor := some thread }
    | _ => state
  called.setStack thread (⟨job, .waiting⟩ :: state.stack thread)

def enter (state : State Thread) (thread : Thread) (job : Job) (rest : List Frame) :
    State Thread :=
  let entered := match job with
    | .destroy => { state with inScope := false }
    | _ => state
  entered.setStack thread (⟨job, .inside⟩ :: rest)

def step (state : State Thread) : Action Thread → Option (State Thread)
  | .start thread job =>
      if mayStart state thread job then some (start state thread job) else none
  | .lock thread =>
      match state.stack thread, state.inScopeMtx.lock thread with
      | ⟨job, .waiting⟩ :: rest, some mutex =>
          some ({ state with inScopeMtx := mutex }.setStack thread
            (⟨job, .locked⟩ :: rest))
      | _, _ => none
  | .readInScope thread =>
      match state.stack thread with
      | ⟨job, .locked⟩ :: rest =>
          some (state.setStack thread
            (⟨job, if state.inScope then .admitted else .leaving⟩ :: rest))
      | _ => none
  | .enter thread =>
      match state.stack thread with
      | ⟨job, .admitted⟩ :: rest => some (enter state thread job rest)
      | _ => none
  | .close thread =>
      match state.stack thread with
      | ⟨.destroy, .inside⟩ :: _ => some { state with fdOpen := false }
      | _ => none
  | .leave thread =>
      match state.stack thread with
      | ⟨job, .inside⟩ :: rest =>
          if job = .destroy ∧ state.fdOpen = true then none
          else some (state.setStack thread (⟨job, .leaving⟩ :: rest))
      | _ => none
  | .unlock thread =>
      match state.stack thread, state.inScopeMtx.unlock thread with
      | ⟨job, .leaving⟩ :: rest, some mutex =>
          some ({ state with inScopeMtx := mutex }.setStack thread
            (⟨job, .released⟩ :: rest))
      | _, _ => none
  | .finish thread =>
      match state.stack thread with
      | ⟨_, .released⟩ :: rest => some (state.setStack thread rest)
      | _ => none

/-! ### What must not happen -/

def Job.isCall : Job → Bool
  | .destroy => false
  | _ => true

/-- A fin call or a callback starts only while the object is in scope, and a
destructor returns only when no other thread is in one. -/
def Orderly (state : State Thread) : Action Thread → Prop
  | .enter thread => ∀ job rest, state.stack thread = ⟨job, .admitted⟩ :: rest →
      job.isCall = true → state.inScope = true
  | .finish thread => ∀ rest, state.stack thread = ⟨.destroy, .released⟩ :: rest →
      ∀ other, other ≠ thread → ∀ frame, frame ∈ state.stack other →
        frame.job.isCall = true → frame.place ≠ .inside
  | _ => True

/-- A fin call in progress is made on the open descriptor of the object. -/
def FinOnOpen (state : State Thread) : Prop :=
  ∀ thread direction, ⟨.react direction, .inside⟩ ∈ state.stack thread →
    state.fdOpen = true

/-! ### Inversion of the step function -/

inductive Moves (state : State Thread) : Action Thread → State Thread → Prop where
  | start (thread : Thread) (job : Job) (may : mayStart state thread job = true) :
      Moves state (.start thread job) (start state thread job)
  | lock (thread : Thread) (job : Job) (rest : List Frame)
      (mutex : RecursiveMutex Thread)
      (top : state.stack thread = ⟨job, .waiting⟩ :: rest)
      (locked : state.inScopeMtx.lock thread = some mutex) :
      Moves state (.lock thread)
        ({ state with inScopeMtx := mutex }.setStack thread (⟨job, .locked⟩ :: rest))
  | readInScope (thread : Thread) (job : Job) (rest : List Frame)
      (top : state.stack thread = ⟨job, .locked⟩ :: rest) :
      Moves state (.readInScope thread)
        (state.setStack thread
          (⟨job, if state.inScope then .admitted else .leaving⟩ :: rest))
  | enter (thread : Thread) (job : Job) (rest : List Frame)
      (top : state.stack thread = ⟨job, .admitted⟩ :: rest) :
      Moves state (.enter thread) (enter state thread job rest)
  | close (thread : Thread) (rest : List Frame)
      (top : state.stack thread = ⟨.destroy, .inside⟩ :: rest) :
      Moves state (.close thread) { state with fdOpen := false }
  | leave (thread : Thread) (job : Job) (rest : List Frame)
      (top : state.stack thread = ⟨job, .inside⟩ :: rest) :
      Moves state (.leave thread) (state.setStack thread (⟨job, .leaving⟩ :: rest))
  | unlock (thread : Thread) (job : Job) (rest : List Frame)
      (mutex : RecursiveMutex Thread)
      (top : state.stack thread = ⟨job, .leaving⟩ :: rest)
      (unlocked : state.inScopeMtx.unlock thread = some mutex) :
      Moves state (.unlock thread)
        ({ state with inScopeMtx := mutex }.setStack thread (⟨job, .released⟩ :: rest))
  | finish (thread : Thread) (job : Job) (rest : List Frame)
      (top : state.stack thread = ⟨job, .released⟩ :: rest) :
      Moves state (.finish thread) (state.setStack thread rest)

theorem step_moves {state next : State Thread} {action : Action Thread}
    (stepped : step state action = some next) : Moves state action next := by
  cases action with
  | start thread job =>
      simp only [step] at stepped
      split at stepped
      · cases stepped
        exact .start thread job ‹_›
      · cases stepped
  | lock thread =>
      simp only [step] at stepped
      split at stepped
      · cases stepped
        exact .lock thread _ _ _ ‹_› ‹_›
      · cases stepped
  | readInScope thread =>
      simp only [step] at stepped
      split at stepped
      · cases stepped
        exact .readInScope thread _ _ ‹_›
      · cases stepped
  | enter thread =>
      simp only [step] at stepped
      split at stepped
      · cases stepped
        exact .enter thread _ _ ‹_›
      · cases stepped
  | close thread =>
      simp only [step] at stepped
      split at stepped
      · cases stepped
        exact .close thread _ ‹_›
      · cases stepped
  | leave thread =>
      simp only [step] at stepped
      split at stepped
      · split at stepped
        · cases stepped
        · cases stepped
          exact .leave thread _ _ ‹_›
      · cases stepped
  | unlock thread =>
      simp only [step] at stepped
      split at stepped
      · cases stepped
        exact .unlock thread _ _ _ ‹_› ‹_›
      · cases stepped
  | finish thread =>
      simp only [step] at stepped
      split at stepped
      · cases stepped
        exact .finish thread _ _ ‹_›
      · cases stepped

/-! ### The lock invariant -/

def Place.afterReset : Place → Bool
  | .waiting => false
  | .locked => false
  | .admitted => false
  | _ => true

structure FrameKnows (state : State Thread) (thread : Thread) (frame : Frame) : Prop where
  destructor : frame.job = .destroy → state.destructor = some thread
  reset : frame.job = .destroy → state.inScope = !frame.place.afterReset
  admitted : frame.place = .admitted → state.inScope = true
  inside : frame.place = .inside → frame.job.isCall = true →
    state.inScope = true ∨
      (state.destructor = some thread ∧ ∃ direction, frame.job = .complete direction)

structure Guarded (state : State Thread) : Prop where
  depth : ∀ thread, state.inScopeMtx.depth thread =
    (state.stack thread).countP Frame.holds
  nested : ∀ thread frame rest, state.stack thread = frame :: rest → rest = [] ∨
    (frame.job = .destroy ∧ ∃ direction, rest = [⟨.complete direction, .inside⟩])
  knows : ∀ thread frame, frame ∈ state.stack thread → FrameKnows state thread frame
  closed : state.fdOpen = false → state.inScope = false
  begun : state.destructor = none → state.inScope = true

theorem guarded_init : Guarded (init : State Thread) := by
  constructor
  · exact fun _ => rfl
  · intro thread frame rest impossible
    cases impossible
  · intro thread frame impossible
    cases impossible
  · intro impossible
    cases impossible
  · exact fun _ => rfl

theorem State.stack_setStack (state : State Thread) (thread other : Thread)
    (frames : List Frame) :
    (state.setStack thread frames).stack other =
      if other = thread then frames else state.stack other := by
  unfold State.setStack
  exact Function.update_apply ..

/-- Two threads that are past the lock are the same thread. -/
theorem Guarded.exclusive {state : State Thread} (held : Guarded state)
    {first second : Thread} {firstFrame secondFrame : Frame}
    (firstIn : firstFrame ∈ state.stack first) (firstHolds : firstFrame.holds = true)
    (secondIn : secondFrame ∈ state.stack second)
    (secondHolds : secondFrame.holds = true) : first = second := by
  have firstDepth := held.depth first
  have secondDepth := held.depth second
  have someFirst : 0 < (state.stack first).countP Frame.holds :=
    List.countP_pos_iff.mpr ⟨firstFrame, firstIn, firstHolds⟩
  have someSecond : 0 < (state.stack second).countP Frame.holds :=
    List.countP_pos_iff.mpr ⟨secondFrame, secondIn, secondHolds⟩
  exact RecursiveMutex.depth_exclusive (firstDepth ▸ someFirst) (secondDepth ▸ someSecond)

theorem Guarded.of_stack {state next : State Thread} (held : Guarded state)
    {thread : Thread} {frames : List Frame}
    (stackOf : ∀ other, next.stack other =
      if other = thread then frames else state.stack other)
    (depth : next.inScopeMtx.depth thread = frames.countP Frame.holds)
    (otherDepth : ∀ other, other ≠ thread →
      next.inScopeMtx.depth other = state.inScopeMtx.depth other)
    (nested : ∀ frame rest, frames = frame :: rest → rest = [] ∨
      (frame.job = .destroy ∧ ∃ direction, rest = [⟨.complete direction, .inside⟩]))
    (knows : ∀ frame, frame ∈ frames → FrameKnows next thread frame)
    (otherKnows : ∀ other frame, other ≠ thread → frame ∈ state.stack other →
      FrameKnows next other frame)
    (closed : next.fdOpen = false → next.inScope = false)
    (begun : next.destructor = none → next.inScope = true) : Guarded next := by
  constructor
  · intro other
    rw [stackOf]
    by_cases same : other = thread
    · rw [if_pos same, same]
      exact depth
    · rw [if_neg same, otherDepth other same]
      exact held.depth other
  · intro other frame rest found
    rw [stackOf] at found
    by_cases same : other = thread
    · rw [if_pos same] at found
      exact nested frame rest found
    · rw [if_neg same] at found
      exact held.nested other frame rest found
  · intro other frame member
    rw [stackOf] at member
    by_cases same : other = thread
    · rw [if_pos same] at member
      subst other
      exact knows frame member
    · rw [if_neg same] at member
      exact otherKnows other frame same member
  · exact closed
  · exact begun

omit [DecidableEq Thread] in
theorem FrameKnows.of_same {state next : State Thread} {thread : Thread} {frame : Frame}
    (here : FrameKnows state thread frame) (inScope : next.inScope = state.inScope)
    (destructor : next.destructor = state.destructor) : FrameKnows next thread frame := by
  constructor
  · rw [destructor]
    exact here.destructor
  · rw [inScope]
    exact here.reset
  · rw [inScope]
    exact here.admitted
  · rw [inScope, destructor]
    exact here.inside

theorem Guarded.moveTop {state : State Thread} (held : Guarded state) {thread : Thread}
    {job : Job} {before after : Place} {rest : List Frame}
    (mutex : RecursiveMutex Thread)
    (top : state.stack thread = ⟨job, before⟩ :: rest)
    (depth : ∀ other, mutex.depth other +
        (if other = thread then (Frame.holds ⟨job, before⟩).toNat else 0) =
      state.inScopeMtx.depth other +
        (if other = thread then (Frame.holds ⟨job, after⟩).toNat else 0))
    (knows : FrameKnows state thread ⟨job, after⟩) :
    Guarded ({ state with inScopeMtx := mutex }.setStack thread
      (⟨job, after⟩ :: rest)) := by
  apply held.of_stack
    (fun other => State.stack_setStack { state with inScopeMtx := mutex } thread other _)
  · have counted := depth thread
    have old := held.depth thread
    change mutex.depth thread = _
    rw [top, List.countP_cons] at old
    rw [List.countP_cons]
    simp only [if_true] at counted
    cases wasHeld : Frame.holds ⟨job, before⟩ <;>
      cases isHeld : Frame.holds ⟨job, after⟩ <;>
      simp [wasHeld, isHeld] at counted old ⊢ <;> omega
  · intro other same
    have counted := depth other
    rw [if_neg same, if_neg same] at counted
    exact counted
  · intro frame left found
    cases found
    exact held.nested thread ⟨job, before⟩ rest top
  · intro frame member
    rcases List.mem_cons.mp member with isTop | below
    · subst frame
      exact knows.of_same rfl rfl
    · have old := held.knows thread frame (by rw [top]; exact List.mem_cons_of_mem _ below)
      exact old.of_same rfl rfl
  · intro other frame _ member
    exact (held.knows other frame member).of_same rfl rfl
  · exact held.closed
  · exact held.begun

theorem Guarded.top {state : State Thread} (held : Guarded state) {thread : Thread}
    {frame : Frame} {rest : List Frame} (top : state.stack thread = frame :: rest) :
    FrameKnows state thread frame :=
  held.knows thread frame (by rw [top]; exact List.mem_cons_self)

/-- The destructor starts while the object is in scope, on an idle thread or in a
callback, and every other frame keeps what it knows. -/
theorem guarded_start {state : State Thread} (held : Guarded state) {thread : Thread}
    {job : Job} (may : mayStart state thread job = true) :
    Guarded (start state thread job) := by
  have stackOf : ∀ other, (start state thread job).stack other =
      if other = thread then ⟨job, .waiting⟩ :: state.stack thread
      else state.stack other := by
    intro other
    unfold start
    rw [State.stack_setStack]
    cases job <;> rfl
  have scopeOf : (start state thread job).inScope = state.inScope := by
    cases job <;> rfl
  have kept : ∀ other frame, frame ∈ state.stack other →
      FrameKnows (start state thread job) other frame := by
    intro other frame member
    have old := held.knows other frame member
    cases job with
    | destroy =>
        simp only [mayStart, Bool.and_eq_true, Option.isNone_iff_eq_none] at may
        have inScope := held.begun may.1
        constructor
        · intro destroys
          rw [old.destructor destroys] at may
          cases may.1
        · exact old.reset
        · exact old.admitted
        · exact fun _ _ => Or.inl inScope
    | react direction => exact ⟨old.destructor, old.reset, old.admitted, old.inside⟩
    | complete direction => exact ⟨old.destructor, old.reset, old.admitted, old.inside⟩
  have fresh : FrameKnows (start state thread job) thread ⟨job, .waiting⟩ := by
    cases job with
    | destroy =>
        simp only [mayStart, Bool.and_eq_true, Option.isNone_iff_eq_none] at may
        constructor
        · exact fun _ => rfl
        · exact fun _ => held.begun may.1
        · intro impossible
          cases impossible
        · intro impossible
          cases impossible
    | react direction =>
        constructor <;> intro impossible <;> cases impossible
    | complete direction =>
        constructor <;> intro impossible <;> cases impossible
  have mutexOf : (start state thread job).inScopeMtx = state.inScopeMtx := by
    cases job <;> rfl
  apply held.of_stack stackOf
  · rw [mutexOf, held.depth thread, List.countP_cons]
    rfl
  · intro other _
    rw [mutexOf]
  · intro frame rest found
    cases found
    cases job with
    | react direction => exact Or.inl (by simpa [mayStart] using may)
    | complete direction => exact Or.inl (by simpa [mayStart] using may)
    | destroy =>
        simp only [mayStart, Bool.and_eq_true] at may
        have idle := may.2
        split at idle
        · rename_i none
          exact Or.inl none
        · rename_i direction inCallback
          exact Or.inr ⟨rfl, direction, inCallback⟩
        · cases idle
  · intro frame member
    rcases List.mem_cons.mp member with isTop | below
    · exact isTop ▸ fresh
    · exact kept thread frame below
  · exact fun other frame _ member => kept other frame member
  · intro closed
    rw [scopeOf]
    apply held.closed
    cases job <;> exact closed
  · intro none
    rw [scopeOf]
    apply held.begun
    cases job with
    | destroy => cases none
    | react direction => exact none
    | complete direction => exact none

/-- The destructor resets `in_scope` under the lock: no other thread is past the
lock, and below it there is at most the callback it was called from. -/
theorem guarded_enterDestroy {state : State Thread} (held : Guarded state)
    {thread : Thread} {rest : List Frame}
    (top : state.stack thread = ⟨.destroy, .admitted⟩ :: rest) :
    Guarded (enter state thread .destroy rest) := by
  have here := held.top top
  have destructor : state.destructor = some thread := here.destructor rfl
  have onTop : ⟨.destroy, .admitted⟩ ∈ state.stack thread := by
    rw [top]
    exact List.mem_cons_self
  have stackOf : ∀ other, (enter state thread .destroy rest).stack other =
      if other = thread then ⟨.destroy, .inside⟩ :: rest else state.stack other :=
    fun other => State.stack_setStack ..
  have outside : ∀ other frame, other ≠ thread → frame ∈ state.stack other →
      frame.holds = false := by
    intro other frame different member
    cases holds : frame.holds with
    | false => rfl
    | true => exact absurd (held.exclusive member holds onTop rfl) different
  apply held.of_stack stackOf
  · have old := held.depth thread
    rw [top] at old
    exact old
  · exact fun _ _ => rfl
  · intro frame left found
    cases found
    exact held.nested thread ⟨.destroy, .admitted⟩ rest top
  · intro frame member
    rcases List.mem_cons.mp member with isTop | below
    · subst frame
      constructor
      · exact fun _ => destructor
      · exact fun _ => rfl
      · intro impossible
        cases impossible
      · intro _ impossible
        cases impossible
    · rcases held.nested thread _ rest top with none | ⟨_, direction, callback⟩
      · rw [none] at below
        cases below
      · rw [callback, List.mem_singleton] at below
        subst frame
        constructor
        · intro impossible
          cases impossible
        · intro impossible
          cases impossible
        · intro impossible
          cases impossible
        · exact fun _ _ => Or.inr ⟨destructor, direction, rfl⟩
  · intro other frame different member
    have old := held.knows other frame member
    have free := outside other frame different member
    have notDestroy : frame.job ≠ .destroy := by
      intro destroys
      have again := old.destructor destroys
      rw [destructor] at again
      exact different (Option.some.inj again).symm
    constructor
    · exact fun destroys => absurd destroys notDestroy
    · exact fun destroys => absurd destroys notDestroy
    · intro admitted
      simp [Frame.holds, admitted] at free
    · intro inside
      simp [Frame.holds, inside] at free
  · exact fun _ => rfl
  · intro absent
    change state.destructor = none at absent
    rw [destructor] at absent
    cases absent

omit [DecidableEq Thread] in
/-- Outside the guarded code a frame knows its part of `in_scope` only. -/
theorem FrameKnows.move {state : State Thread} {thread : Thread} {job : Job}
    {before : Place} (here : FrameKnows state thread ⟨job, before⟩) (after : Place)
    (reset : after.afterReset = before.afterReset) (notAdmitted : after ≠ .admitted)
    (notInside : after ≠ .inside) : FrameKnows state thread ⟨job, after⟩ :=
  { destructor := here.destructor
    reset := fun destroys => by rw [here.reset destroys, reset]
    admitted := fun admitted => absurd admitted notAdmitted
    inside := fun inside => absurd inside notInside }

theorem guarded_readInScope {state : State Thread} (held : Guarded state)
    {thread : Thread} {job : Job} {rest : List Frame}
    (top : state.stack thread = ⟨job, .locked⟩ :: rest) :
    Guarded (state.setStack thread
      (⟨job, if state.inScope then .admitted else .leaving⟩ :: rest)) := by
  have here := held.top top
  cases inScope : state.inScope with
  | true =>
      apply held.moveTop state.inScopeMtx top
      · exact fun _ => rfl
      · exact
          { destructor := here.destructor
            reset := here.reset
            admitted := fun _ => inScope
            inside := fun impossible => by cases impossible }
  | false =>
      apply held.moveTop state.inScopeMtx top
      · exact fun _ => rfl
      · constructor
        · exact here.destructor
        · intro destroys
          have reset := here.reset destroys
          rw [inScope] at reset
          cases reset
        · intro impossible
          cases impossible
        · intro impossible
          cases impossible

theorem guarded_enterCall {state : State Thread} (held : Guarded state)
    {thread : Thread} {job : Job} {rest : List Frame}
    (top : state.stack thread = ⟨job, .admitted⟩ :: rest) (call : job.isCall = true) :
    Guarded (state.setStack thread (⟨job, .inside⟩ :: rest)) := by
  have here := held.top top
  have notDestroy : job ≠ .destroy := by
    intro same
    subst same
    cases call
  apply held.moveTop state.inScopeMtx top
  · exact fun _ => rfl
  · exact
      { destructor := here.destructor
        reset := fun destroys => absurd destroys notDestroy
        admitted := fun impossible => by cases impossible
        inside := fun _ _ => Or.inl (here.admitted rfl) }

theorem guarded_finish {state : State Thread} (held : Guarded state) {thread : Thread}
    {job : Job} {rest : List Frame}
    (top : state.stack thread = ⟨job, .released⟩ :: rest) :
    Guarded (state.setStack thread rest) := by
  apply held.of_stack (fun other => State.stack_setStack state thread other rest)
  · have old := held.depth thread
    rw [top, List.countP_cons] at old
    exact old
  · exact fun _ _ => rfl
  · intro frame left found
    rcases held.nested thread _ rest top with none | ⟨_, direction, callback⟩
    · rw [none] at found
      cases found
    · rw [callback] at found
      cases found
      exact Or.inl rfl
  · intro frame member
    have old := held.knows thread frame (by rw [top]; exact List.mem_cons_of_mem _ member)
    exact old.of_same rfl rfl
  · intro other frame _ member
    exact (held.knows other frame member).of_same rfl rfl
  · exact held.closed
  · exact held.begun

theorem guarded_step {state next : State Thread} {action : Action Thread}
    (held : Guarded state) (stepped : step state action = some next) : Guarded next := by
  cases step_moves stepped with
  | start thread job may => exact guarded_start held may
  | lock thread job rest mutex top locked =>
      apply held.moveTop mutex top
      · intro other
        rw [RecursiveMutex.depth_lock locked]
        split <;> rfl
      · exact (held.top top).move .locked rfl (by decide) (by decide)
  | readInScope thread job rest top => exact guarded_readInScope held top
  | enter thread job rest top =>
      cases job with
      | destroy => exact guarded_enterDestroy held top
      | react direction => exact guarded_enterCall held top rfl
      | complete direction => exact guarded_enterCall held top rfl
  | close thread rest top =>
      exact
        { depth := held.depth
          nested := held.nested
          knows := fun other frame member => (held.knows other frame member).of_same rfl rfl
          closed := fun _ => (held.top top).reset rfl
          begun := held.begun }
  | leave thread job rest top =>
      apply held.moveTop state.inScopeMtx top
      · exact fun _ => rfl
      · exact (held.top top).move .leaving rfl (by decide) (by decide)
  | unlock thread job rest mutex top unlocked =>
      apply held.moveTop mutex top
      · intro other
        rw [← RecursiveMutex.depth_unlock unlocked other]
        split <;> rfl
      · exact (held.top top).move .released rfl (by decide) (by decide)
  | finish thread job rest top => exact guarded_finish held top

/-! ### Nothing runs after destruction -/

theorem Guarded.orderly {state : State Thread} (held : Guarded state)
    (action : Action Thread) : Orderly state action := by
  cases action with
  | enter thread =>
      intro job rest top _call
      exact (held.top top).admitted rfl
  | finish thread =>
      intro rest top other different frame member call inside
      have here := held.top top
      have outOfScope : state.inScope = false := here.reset rfl
      rcases (held.knows other frame member).inside inside call with
        inScope | ⟨destructor, _⟩
      · rw [outOfScope] at inScope
        cases inScope
      · rw [here.destructor rfl] at destructor
        exact different (Option.some.inj destructor).symm
  | start thread job => trivial
  | lock thread => trivial
  | readInScope thread => trivial
  | close thread => trivial
  | leave thread => trivial
  | unlock thread => trivial

theorem Guarded.finOnOpen {state : State Thread} (held : Guarded state) :
    FinOnOpen state := by
  intro thread direction member
  have inScope : state.inScope = true := by
    rcases (held.knows thread _ member).inside rfl rfl with inScope | ⟨_, _, impossible⟩
    · exact inScope
    · cases impossible
  cases opened : state.fdOpen with
  | true => rfl
  | false =>
      rw [held.closed opened] at inScope
      cases inScope

/-- Along every run, whatever threads run the reacts, the completions and the
destructor: no fin call and no callback starts out of scope, none is in progress
on another thread when the destructor returns, and fin calls are made on the open
descriptor of the object. -/
theorem nothing_runs_after_destruction (actions : List (Action Thread)) :
    Runs.StepsMeet step Orderly (init : State Thread) actions ∧
      Runs.StatesMeet step FinOnOpen (init : State Thread) actions := by
  have guarded : Runs.StatesMeet step Guarded (init : State Thread) actions :=
    Runs.statesMeet_of_invariant (fun _ _ _ held stepped => guarded_step held stepped)
      actions guarded_init
  constructor
  · exact guarded.stepsMeet fun _ action held => held.orderly action
  · exact guarded.imp fun _ held => held.finOnOpen

end BabaIo.ScopeLock
