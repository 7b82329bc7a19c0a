import BabaIo.Library.Runs
import BabaIo.Library.Tally
import Mathlib.Data.List.Count
import Mathlib.Logic.Function.Basic

/-
One `cancellable_task` with the functions its `operator()` has wrapped.

A wrapped function holds a `weak_ptr`.  A call turns it into a `shared_ptr`, locks
`_in_scope_mtx`, a plain `std::mutex`, and runs the task under the lock while
`_in_scope` is set.  `cancel`, called by the destructor, takes the same mutex.

A task is user code: it may call wrapped functions of the same `cancellable_task`
and it may destroy the `cancellable_task`, as any thread may outside a task.
-/

set_option autoImplicit false

namespace BabaIo.CancellableTask

variable {Thread Task : Type} [DecidableEq Thread]

inductive Job (Task : Type) where
  /-- A call of the function that wraps `task`. -/
  | call (task : Task)
  /-- `~cancellable_task`, which calls `cancel`. -/
  | cancel
  deriving DecidableEq

/-- Where a job is: in front of `lock_guard`, under the lock in front of the access
to `_in_scope`, past a test that succeeded, in the task, behind the guarded code, and
past the end of `lock_guard`. -/
inductive Place where
  | waiting
  | locked
  | admitted
  | inside
  | leaving
  | released
  deriving DecidableEq

structure Frame (Task : Type) where
  job : Job Task
  place : Place
  deriving DecidableEq

def Frame.holds (frame : Frame Task) : Bool :=
  frame.place ≠ .waiting && frame.place ≠ .released

/-- The `cancellable_task` itself: not destroyed, its destructor called, and its
destructor returned on a thread. -/
inductive Owner (Thread : Type) where
  | live
  | destroying
  | destroyed (thread : Thread)
  deriving DecidableEq

structure State (Thread Task : Type) where
  owner : Owner Thread
  /-- The use count of the `cancellable_task_`. -/
  useCount : Nat
  inScopeMtx : Option Thread
  inScope : Bool
  stack : Thread → List (Frame Task)

def init : State Thread Task :=
  { owner := .live
    useCount := 1
    inScopeMtx := none
    inScope := true
    stack := fun _ => [] }

def State.setStack (state : State Thread Task) (thread : Thread)
    (frames : List (Frame Task)) : State Thread Task :=
  { state with stack := Function.update state.stack thread frames }

inductive Action (Thread Task : Type) where
  | call (thread : Thread) (task : Task)
  | destroy (thread : Thread)
  | lock (thread : Thread)
  | readInScope (thread : Thread)
  | resetInScope (thread : Thread)
  | enter (thread : Thread)
  | leave (thread : Thread)
  | unlock (thread : Thread)
  | finish (thread : Thread)

def inUserCode (state : State Thread Task) (thread : Thread) : Bool :=
  match state.stack thread with
  | [] => true
  | ⟨_, place⟩ :: _ => place = .inside

/-- `w.lock()` succeeds while a `shared_ptr` is left; otherwise the call returns. -/
def call (state : State Thread Task) (thread : Thread) (task : Task) : State Thread Task :=
  if state.useCount = 0 then state
  else { state with useCount := state.useCount + 1 }.setStack thread
    (⟨.call task, .waiting⟩ :: state.stack thread)

/-- The end of a job gives up its `shared_ptr`: the local one of a call, the member
of the `cancellable_task`. -/
def finish (state : State Thread Task) (thread : Thread) (job : Job Task)
    (rest : List (Frame Task)) : State Thread Task :=
  let owner := match job with
    | .call _ => state.owner
    | .cancel => .destroyed thread
  { state with owner := owner, useCount := state.useCount - 1 }.setStack thread rest

def step (state : State Thread Task) : Action Thread Task → Option (State Thread Task)
  | .call thread task =>
      if inUserCode state thread then some (call state thread task) else none
  | .destroy thread =>
      if inUserCode state thread ∧ state.owner = .live then
        some ({ state with owner := .destroying }.setStack thread
          (⟨.cancel, .waiting⟩ :: state.stack thread))
      else none
  | .lock thread =>
      match state.stack thread, state.inScopeMtx with
      | ⟨job, .waiting⟩ :: rest, none =>
          some ({ state with inScopeMtx := some thread }.setStack thread
            (⟨job, .locked⟩ :: rest))
      | _, _ => none
  | .readInScope thread =>
      match state.stack thread with
      | ⟨.call task, .locked⟩ :: rest =>
          some (state.setStack thread
            (⟨.call task, if state.inScope then .admitted else .leaving⟩ :: rest))
      | _ => none
  | .resetInScope thread =>
      match state.stack thread with
      | ⟨.cancel, .locked⟩ :: rest =>
          some ({ state with inScope := false }.setStack thread
            (⟨.cancel, .leaving⟩ :: rest))
      | _ => none
  | .enter thread =>
      match state.stack thread with
      | ⟨job, .admitted⟩ :: rest => some (state.setStack thread (⟨job, .inside⟩ :: rest))
      | _ => none
  | .leave thread =>
      match state.stack thread with
      | ⟨job, .inside⟩ :: rest => some (state.setStack thread (⟨job, .leaving⟩ :: rest))
      | _ => none
  | .unlock thread =>
      match state.stack thread with
      | ⟨job, .leaving⟩ :: rest =>
          some ({ state with inScopeMtx := none }.setStack thread (⟨job, .released⟩ :: rest))
      | _ => none
  | .finish thread =>
      match state.stack thread with
      | ⟨job, .released⟩ :: rest => some (finish state thread job rest)
      | _ => none

/-! ### What the class promises -/

def StartsInScope (state : State Thread Task) : Action Thread Task → Prop
  | .enter thread => ∀ job rest, state.stack thread = ⟨job, .admitted⟩ :: rest →
      ∀ last, state.owner ≠ .destroyed last
  | _ => True

def Cancelled (state : State Thread Task) : Prop :=
  ∀ thread, state.owner = .destroyed thread → ∀ other, other ≠ thread →
    ∀ frame, frame ∈ state.stack other → frame.place ≠ .inside

def NeverBlocksItself (state : State Thread Task) : Prop :=
  ∀ thread job rest, state.stack thread = ⟨job, .waiting⟩ :: rest →
    state.inScopeMtx ≠ some thread

/-- A call whose task is over returns by steps of its own thread that nothing can
delay. -/
def ReturnsWithTask (state : State Thread Task) : Prop :=
  ∀ thread job rest, state.stack thread = ⟨job, .leaving⟩ :: rest →
    ∃ next, Runs.exec step state [.unlock thread, .finish thread] = some next ∧
      next.stack thread = rest

/-! ### Inversion of the step function -/

inductive Moves (state : State Thread Task) :
    Action Thread Task → State Thread Task → Prop where
  | expired (thread : Thread) (task : Task) (gone : state.useCount = 0) :
      Moves state (.call thread task) state
  | call (thread : Thread) (task : Task) (user : inUserCode state thread = true)
      (shared : state.useCount ≠ 0) :
      Moves state (.call thread task)
        ({ state with useCount := state.useCount + 1 }.setStack thread
          (⟨.call task, .waiting⟩ :: state.stack thread))
  | destroy (thread : Thread) (user : inUserCode state thread = true)
      (live : state.owner = .live) :
      Moves state (.destroy thread)
        ({ state with owner := .destroying }.setStack thread
          (⟨.cancel, .waiting⟩ :: state.stack thread))
  | lock (thread : Thread) (job : Job Task) (rest : List (Frame Task))
      (top : state.stack thread = ⟨job, .waiting⟩ :: rest)
      (free : state.inScopeMtx = none) :
      Moves state (.lock thread)
        ({ state with inScopeMtx := some thread }.setStack thread
          (⟨job, .locked⟩ :: rest))
  | readInScope (thread : Thread) (task : Task) (rest : List (Frame Task))
      (top : state.stack thread = ⟨.call task, .locked⟩ :: rest) :
      Moves state (.readInScope thread)
        (state.setStack thread
          (⟨.call task, if state.inScope then .admitted else .leaving⟩ :: rest))
  | resetInScope (thread : Thread) (rest : List (Frame Task))
      (top : state.stack thread = ⟨.cancel, .locked⟩ :: rest) :
      Moves state (.resetInScope thread)
        ({ state with inScope := false }.setStack thread (⟨.cancel, .leaving⟩ :: rest))
  | enter (thread : Thread) (job : Job Task) (rest : List (Frame Task))
      (top : state.stack thread = ⟨job, .admitted⟩ :: rest) :
      Moves state (.enter thread) (state.setStack thread (⟨job, .inside⟩ :: rest))
  | leave (thread : Thread) (job : Job Task) (rest : List (Frame Task))
      (top : state.stack thread = ⟨job, .inside⟩ :: rest) :
      Moves state (.leave thread) (state.setStack thread (⟨job, .leaving⟩ :: rest))
  | unlock (thread : Thread) (job : Job Task) (rest : List (Frame Task))
      (top : state.stack thread = ⟨job, .leaving⟩ :: rest) :
      Moves state (.unlock thread)
        ({ state with inScopeMtx := none }.setStack thread (⟨job, .released⟩ :: rest))
  | finish (thread : Thread) (job : Job Task) (rest : List (Frame Task))
      (top : state.stack thread = ⟨job, .released⟩ :: rest) :
      Moves state (.finish thread) (finish state thread job rest)

theorem step_moves {state next : State Thread Task} {action : Action Thread Task}
    (stepped : step state action = some next) : Moves state action next := by
  cases action with
  | call thread task =>
      simp only [step] at stepped
      split at stepped
      · cases stepped
        unfold call
        split
        · exact .expired thread task ‹_›
        · exact .call thread task ‹_› ‹_›
      · cases stepped
  | destroy thread =>
      simp only [step] at stepped
      split at stepped
      · rename_i enabled
        cases stepped
        exact .destroy thread enabled.1 enabled.2
      · cases stepped
  | lock thread =>
      simp only [step] at stepped
      split at stepped
      · cases stepped
        exact .lock thread _ _ ‹_› ‹_›
      · cases stepped
  | readInScope thread =>
      simp only [step] at stepped
      split at stepped
      · cases stepped
        exact .readInScope thread _ _ ‹_›
      · cases stepped
  | resetInScope thread =>
      simp only [step] at stepped
      split at stepped
      · cases stepped
        exact .resetInScope thread _ ‹_›
      · cases stepped
  | enter thread =>
      simp only [step] at stepped
      split at stepped
      · cases stepped
        exact .enter thread _ _ ‹_›
      · cases stepped
  | leave thread =>
      simp only [step] at stepped
      split at stepped
      · cases stepped
        exact .leave thread _ _ ‹_›
      · cases stepped
  | unlock thread =>
      simp only [step] at stepped
      split at stepped
      · cases stepped
        exact .unlock thread _ _ ‹_›
      · cases stepped
  | finish thread =>
      simp only [step] at stepped
      split at stepped
      · cases stepped
        exact .finish thread _ _ ‹_›
      · cases stepped

/-! ### The lock invariant -/

structure FrameKnows (inScope : Bool) (frame : Frame Task) : Prop where
  admitted : frame.place = .admitted ∨ frame.place = .inside → inScope = true
  cancelled : frame.job = .cancel → frame.place = .leaving ∨ frame.place = .released →
    inScope = false

structure Guarded (state : State Thread Task) : Prop where
  depth : ∀ thread, (state.stack thread).countP Frame.holds =
    if state.inScopeMtx = some thread then 1 else 0
  nested : ∀ thread frame rest, state.stack thread = frame :: rest → rest = [] ∨
    (frame.place = .waiting ∧ ∃ task, rest = [⟨.call task, .inside⟩])
  called : ∀ thread frame, frame ∈ state.stack thread →
    frame.place = .admitted ∨ frame.place = .inside → ∃ task, frame.job = .call task
  knows : ∀ thread frame, frame ∈ state.stack thread → FrameKnows state.inScope frame
  begun : ∀ thread frame, frame ∈ state.stack thread → frame.job = .cancel →
    state.owner ≠ .live
  destroyed : ∀ thread, state.owner = .destroyed thread → state.inScope = false

theorem guarded_init : Guarded (init : State Thread Task) := by
  constructor
  · exact fun _ => rfl
  · intro thread frame rest impossible
    cases impossible
  · intro thread frame impossible
    cases impossible
  · intro thread frame impossible
    cases impossible
  · intro thread frame impossible
    cases impossible
  · intro thread impossible
    cases impossible

theorem State.stack_setStack (state : State Thread Task) (thread other : Thread)
    (frames : List (Frame Task)) :
    (state.setStack thread frames).stack other =
      if other = thread then frames else state.stack other := by
  unfold State.setStack
  exact Function.update_apply ..

theorem Guarded.of_stack {state next : State Thread Task} (held : Guarded state)
    {thread : Thread} {frames : List (Frame Task)}
    (stackOf : ∀ other, next.stack other =
      if other = thread then frames else state.stack other)
    (others : ∀ other, other ≠ thread →
      (next.inScopeMtx = some other ↔ state.inScopeMtx = some other))
    (depth : frames.countP Frame.holds = if next.inScopeMtx = some thread then 1 else 0)
    (nested : ∀ frame rest, frames = frame :: rest → rest = [] ∨
      (frame.place = .waiting ∧ ∃ task, rest = [⟨.call task, .inside⟩]))
    (called : ∀ frame, frame ∈ frames →
      frame.place = .admitted ∨ frame.place = .inside → ∃ task, frame.job = .call task)
    (knows : ∀ frame, frame ∈ frames → FrameKnows next.inScope frame)
    (otherKnows : ∀ other frame, other ≠ thread → frame ∈ state.stack other →
      FrameKnows next.inScope frame)
    (begun : ∀ frame, frame ∈ frames → frame.job = .cancel → next.owner ≠ .live)
    (dying : state.owner ≠ .live → next.owner ≠ .live)
    (destroyed : ∀ last, next.owner = .destroyed last → next.inScope = false) :
    Guarded next := by
  constructor
  · intro other
    rw [stackOf]
    by_cases same : other = thread
    · rw [if_pos same, same]
      exact depth
    · rw [if_neg same, held.depth other]
      exact if_congr (others other same).symm rfl rfl
  · intro other frame rest found
    rw [stackOf] at found
    by_cases same : other = thread
    · rw [if_pos same] at found
      exact nested frame rest found
    · rw [if_neg same] at found
      exact held.nested other frame rest found
  · intro other frame member
    rw [stackOf] at member
    by_cases same : other = thread
    · rw [if_pos same] at member
      exact called frame member
    · rw [if_neg same] at member
      exact held.called other frame member
  · intro other frame member
    rw [stackOf] at member
    by_cases same : other = thread
    · rw [if_pos same] at member
      exact knows frame member
    · rw [if_neg same] at member
      exact otherKnows other frame same member
  · intro other frame member isCancel
    rw [stackOf] at member
    by_cases same : other = thread
    · rw [if_pos same] at member
      exact begun frame member isCancel
    · rw [if_neg same] at member
      exact dying (held.begun other frame member isCancel)
  · exact destroyed

omit [DecidableEq Thread] in
theorem State.top_mem {state : State Thread Task} {thread : Thread}
    {frame : Frame Task} {rest : List (Frame Task)}
    (top : state.stack thread = frame :: rest) : frame ∈ state.stack thread := by
  rw [top]
  exact List.mem_cons_self

/-- A frame that holds the mutex is the only one of its thread. -/
theorem Guarded.alone {state : State Thread Task} (held : Guarded state)
    {thread : Thread} {frame : Frame Task} {rest : List (Frame Task)}
    (top : state.stack thread = frame :: rest) (running : frame.place ≠ .waiting) :
    rest = [] := by
  rcases held.nested thread frame rest top with empty | ⟨waiting, _⟩
  · exact empty
  · exact absurd waiting running

/-- The thread of a frame under the lock owns the mutex. -/
theorem Guarded.owns {state : State Thread Task} (held : Guarded state)
    {thread : Thread} {frame : Frame Task} (member : frame ∈ state.stack thread)
    (holds : frame.holds = true) : state.inScopeMtx = some thread := by
  have counted := held.depth thread
  have positive : 0 < (state.stack thread).countP Frame.holds :=
    List.countP_pos_iff.mpr ⟨frame, member, holds⟩
  by_cases owner : state.inScopeMtx = some thread
  · exact owner
  · rw [if_neg owner] at counted
    omega

theorem Guarded.moveTop {state : State Thread Task} (held : Guarded state)
    {thread : Thread} {job : Job Task} {before after : Place} {rest : List (Frame Task)}
    (mutex : Option Thread)
    (top : state.stack thread = ⟨job, before⟩ :: rest) (alone : rest = [])
    (others : ∀ other, other ≠ thread →
      (mutex = some other ↔ state.inScopeMtx = some other))
    (depth : (if Frame.holds (⟨job, after⟩ : Frame Task) then 1 else 0) =
      if mutex = some thread then 1 else 0)
    (called : after = .admitted ∨ after = .inside → ∃ task, job = .call task)
    (knows : FrameKnows state.inScope (⟨job, after⟩ : Frame Task)) :
    Guarded ({ state with inScopeMtx := mutex }.setStack thread
      (⟨job, after⟩ :: rest)) := by
  subst alone
  apply held.of_stack
    (fun other => State.stack_setStack { state with inScopeMtx := mutex } thread other _)
    others
  · rw [List.countP_cons, List.countP_nil, Nat.zero_add]
    exact depth
  · intro frame left found
    cases found
    exact Or.inl rfl
  · intro frame member
    cases List.mem_singleton.mp member
    exact called
  · intro frame member
    cases List.mem_singleton.mp member
    exact knows
  · exact fun other frame _ member => held.knows other frame member
  · intro frame member isCancel
    cases List.mem_singleton.mp member
    exact held.begun thread ⟨job, before⟩ (State.top_mem top) isCancel
  · exact id
  · exact held.destroyed

theorem Guarded.start {state next : State Thread Task} (held : Guarded state)
    {thread : Thread} (user : inUserCode state thread = true) {job : Job Task}
    (stackOf : ∀ other, next.stack other =
      if other = thread then ⟨job, .waiting⟩ :: state.stack thread
      else state.stack other)
    (mutex : next.inScopeMtx = state.inScopeMtx) (scope : next.inScope = state.inScope)
    (begun : job = .cancel → next.owner ≠ .live)
    (dying : state.owner ≠ .live → next.owner ≠ .live)
    (destroyed : ∀ last, next.owner = .destroyed last → next.inScope = false) :
    Guarded next := by
  apply held.of_stack stackOf
  · intro other _
    rw [mutex]
  · rw [mutex, List.countP_cons, held.depth thread]
    rfl
  · intro frame rest found
    cases found
    cases below : state.stack thread with
    | nil => exact Or.inl rfl
    | cons top rest =>
        right
        refine ⟨rfl, ?_⟩
        obtain ⟨topJob, place⟩ := top
        have running : place = .inside := by
          simpa only [inUserCode, below, decide_eq_true_eq] using user
        subst running
        have single := held.alone below (by intro impossible; cases impossible)
        obtain ⟨task, isCall⟩ := held.called thread _ (State.top_mem below) (Or.inr rfl)
        change topJob = .call task at isCall
        exact ⟨task, by rw [single, isCall]⟩
  · intro frame member
    rcases List.mem_cons.mp member with isTop | below
    · subst isTop
      intro impossible
      rcases impossible with impossible | impossible <;> cases impossible
    · exact held.called thread frame below
  · intro frame member
    rw [scope]
    rcases List.mem_cons.mp member with isTop | below
    · subst isTop
      constructor
      · intro impossible
        rcases impossible with impossible | impossible <;> cases impossible
      · intro _ impossible
        rcases impossible with impossible | impossible <;> cases impossible
    · exact held.knows thread frame below
  · intro other frame _ member
    rw [scope]
    exact held.knows other frame member
  · intro frame member isCancel
    rcases List.mem_cons.mp member with isTop | below
    · subst isTop
      exact begun isCancel
    · exact dying (held.begun thread frame below isCancel)
  · exact dying
  · exact destroyed

/-- No frame of another thread is past its test while the thread holds the mutex. -/
theorem Guarded.resetInScope {state : State Thread Task} (held : Guarded state)
    {thread : Thread} {rest : List (Frame Task)}
    (top : state.stack thread = ⟨.cancel, .locked⟩ :: rest) :
    Guarded ({ state with inScope := false }.setStack thread
      (⟨.cancel, .leaving⟩ :: rest)) := by
  have alone := held.alone top (by intro impossible; cases impossible)
  subst alone
  have mine := held.owns (State.top_mem top) rfl
  apply held.of_stack
    (fun other => State.stack_setStack { state with inScope := false } thread other _)
  · exact fun _ _ => Iff.rfl
  · change 1 = if state.inScopeMtx = some thread then 1 else 0
    rw [if_pos mine]
  · intro frame left found
    cases found
    exact Or.inl rfl
  · intro frame member
    cases List.mem_singleton.mp member
    intro impossible
    rcases impossible with impossible | impossible <;> cases impossible
  · intro frame member
    cases List.mem_singleton.mp member
    constructor
    · intro impossible
      rcases impossible with impossible | impossible <;> cases impossible
    · exact fun _ _ => rfl
  · intro other frame different member
    constructor
    · intro past
      have holds : frame.holds = true := by
        rcases past with past | past <;> simp [Frame.holds, past]
      have theirs := held.owns member holds
      rw [mine] at theirs
      exact absurd (Option.some.inj theirs).symm different
    · exact fun _ _ => rfl
  · intro frame member _
    exact held.begun thread ⟨.cancel, .locked⟩ (State.top_mem top) rfl
  · exact id
  · exact fun _ _ => rfl

theorem Guarded.finish {state : State Thread Task} (held : Guarded state)
    {thread : Thread} {job : Job Task} {rest : List (Frame Task)}
    (top : state.stack thread = ⟨job, .released⟩ :: rest) :
    Guarded (finish state thread job rest) := by
  have alone := held.alone top (by intro impossible; cases impossible)
  subst alone
  have depth := held.depth thread
  rw [top] at depth
  have stackOf : ∀ other, (CancellableTask.finish state thread job []).stack other =
      if other = thread then [] else state.stack other :=
    fun other => State.stack_setStack _ thread other []
  apply held.of_stack stackOf
  · exact fun _ _ => Iff.rfl
  · exact depth
  · intro frame left impossible
    cases impossible
  · intro frame impossible
    cases impossible
  · intro frame impossible
    cases impossible
  · exact fun other frame _ member => held.knows other frame member
  · intro frame impossible
    cases impossible
  · intro dying
    cases job with
    | call task => exact dying
    | cancel =>
        intro impossible
        cases impossible
  · intro last ended
    cases job with
    | call task => exact held.destroyed last ended
    | cancel =>
        exact (held.knows thread _ (State.top_mem top)).cancelled rfl (Or.inr rfl)

theorem guarded_step {state next : State Thread Task} {action : Action Thread Task}
    (held : Guarded state) (stepped : step state action = some next) : Guarded next := by
  cases step_moves stepped with
  | expired thread task gone => exact held
  | call thread task user shared =>
      refine held.start user (fun other => State.stack_setStack _ thread other _)
        rfl rfl ?_ id held.destroyed
      intro impossible
      cases impossible
  | destroy thread user live =>
      refine held.start user (fun other => State.stack_setStack _ thread other _)
        rfl rfl ?_ ?_ ?_
      · intro _ impossible
        cases impossible
      · intro _ impossible
        cases impossible
      · intro last impossible
        cases impossible
  | lock thread job rest top free =>
      have alone : rest = [] := by
        rcases held.nested thread _ rest top with empty | ⟨_, task, below⟩
        · exact empty
        · have member : ⟨.call task, .inside⟩ ∈ state.stack thread := by
            rw [top, below]
            exact List.mem_cons_of_mem _ List.mem_cons_self
          have owned := held.owns member rfl
          rw [free] at owned
          cases owned
      apply held.moveTop (some thread) top alone
      · intro other different
        rw [free]
        constructor
        · intro same
          exact absurd (Option.some.inj same).symm different
        · intro impossible
          cases impossible
      · rw [if_pos rfl]
        rfl
      · intro impossible
        rcases impossible with impossible | impossible <;> cases impossible
      · constructor
        · intro impossible
          rcases impossible with impossible | impossible <;> cases impossible
        · intro _ impossible
          rcases impossible with impossible | impossible <;> cases impossible
  | readInScope thread task rest top =>
      have alone := held.alone top (by intro impossible; cases impossible)
      have mine := held.owns (State.top_mem top) rfl
      apply held.moveTop state.inScopeMtx top alone (fun _ _ => Iff.rfl)
      · rw [if_pos mine]
        cases state.inScope <;> rfl
      · exact fun _ => ⟨task, rfl⟩
      · constructor
        · intro past
          cases scope : state.inScope with
          | true => rfl
          | false =>
              rw [scope] at past
              rcases past with impossible | impossible <;> cases impossible
        · intro impossible
          cases impossible
  | resetInScope thread rest top => exact held.resetInScope top
  | enter thread job rest top =>
      have alone := held.alone top (by intro impossible; cases impossible)
      have mine := held.owns (State.top_mem top) rfl
      have knows := held.knows thread _ (State.top_mem top)
      apply held.moveTop state.inScopeMtx top alone (fun _ _ => Iff.rfl)
      · rw [if_pos mine]
        rfl
      · exact fun _ => held.called thread _ (State.top_mem top) (Or.inl rfl)
      · constructor
        · exact fun _ => knows.admitted (Or.inl rfl)
        · intro _ impossible
          rcases impossible with impossible | impossible <;> cases impossible
  | leave thread job rest top =>
      have alone := held.alone top (by intro impossible; cases impossible)
      have mine := held.owns (State.top_mem top) rfl
      obtain ⟨task, isCall⟩ := held.called thread _ (State.top_mem top) (Or.inr rfl)
      apply held.moveTop state.inScopeMtx top alone (fun _ _ => Iff.rfl)
      · rw [if_pos mine]
        rfl
      · intro impossible
        rcases impossible with impossible | impossible <;> cases impossible
      · constructor
        · intro impossible
          rcases impossible with impossible | impossible <;> cases impossible
        · intro isCancel
          change job = .call task at isCall
          change job = .cancel at isCancel
          rw [isCall] at isCancel
          cases isCancel
  | unlock thread job rest top =>
      have alone := held.alone top (by intro impossible; cases impossible)
      have mine := held.owns (State.top_mem top) rfl
      have knows := held.knows thread _ (State.top_mem top)
      apply held.moveTop none top alone
      · intro other different
        rw [mine]
        constructor
        · intro impossible
          cases impossible
        · intro same
          exact absurd (Option.some.inj same).symm different
      · rfl
      · intro impossible
        rcases impossible with impossible | impossible <;> cases impossible
      · constructor
        · intro impossible
          rcases impossible with impossible | impossible <;> cases impossible
        · exact fun isCancel _ => knows.cancelled isCancel (Or.inl rfl)
  | finish thread job rest top => exact held.finish top

/-! ### The use count -/

def Owner.count : Owner Thread → Nat
  | .live => 1
  | _ => 0

/-- The use count is that of the member, of the calls in progress and of the
destructor in progress. -/
def Counted (state : State Thread Task) : Prop :=
  ∃ threads : Finset Thread, (∀ thread, thread ∉ threads → state.stack thread = []) ∧
    state.useCount = state.owner.count + ∑ thread ∈ threads, (state.stack thread).length

omit [DecidableEq Thread] in
theorem counted_init : Counted (init : State Thread Task) :=
  ⟨∅, fun _ _ => rfl, rfl⟩

theorem Counted.at {state : State Thread Task} (counted : Counted state)
    (thread : Thread) : ∃ threads : Finset Thread, thread ∈ threads ∧
      (∀ other, other ∉ threads → state.stack other = []) ∧
      state.useCount = state.owner.count +
        ∑ other ∈ threads, (state.stack other).length := by
  obtain ⟨threads, idle, total⟩ := counted
  by_cases member : thread ∈ threads
  · exact ⟨threads, member, idle, total⟩
  · refine ⟨insert thread threads, Finset.mem_insert_self _ _, ?_, ?_⟩
    · intro other absent
      exact idle other (fun present => absent (Finset.mem_insert_of_mem present))
    · rw [Finset.sum_insert member, idle thread member, total, List.length_nil,
        Nat.zero_add]

theorem Counted.of_stack {state next : State Thread Task} (counted : Counted state)
    {thread : Thread} {frames : List (Frame Task)}
    (stackOf : next.stack = Function.update state.stack thread frames)
    (moved : next.useCount + state.owner.count + (state.stack thread).length =
      state.useCount + next.owner.count + frames.length) : Counted next := by
  obtain ⟨threads, member, idle, total⟩ := counted.at thread
  have changed := sum_update threads (fun _ frames => List.length frames)
    state.stack member frames
  refine ⟨threads, ?_, ?_⟩
  · intro other absent
    have different : other ≠ thread := by
      intro same
      subst same
      exact absent member
    rw [stackOf, Function.update_of_ne different]
    exact idle other absent
  · rw [stackOf]
    omega

theorem Counted.useCount_pos {state : State Thread Task} (counted : Counted state)
    {thread : Thread} {frame : Frame Task} {rest : List (Frame Task)}
    (top : state.stack thread = frame :: rest) : 0 < state.useCount := by
  obtain ⟨threads, present, _, total⟩ := counted.at thread
  rw [← Finset.add_sum_erase threads _ present, top, List.length_cons] at total
  omega

theorem counted_step {state next : State Thread Task} {action : Action Thread Task}
    (held : Guarded state) (counted : Counted state) (stepped : step state action = some next) :
    Counted next := by
  cases step_moves stepped with
  | expired thread task gone => exact counted
  | call thread task user shared =>
      apply counted.of_stack rfl
      change state.useCount + 1 + state.owner.count + _ =
        state.useCount + state.owner.count + (_ + 1)
      omega
  | destroy thread user live =>
      apply counted.of_stack rfl
      rw [live]
      change state.useCount + 1 + _ = state.useCount + 0 + (_ + 1)
      omega
  | lock thread job rest top free =>
      apply counted.of_stack rfl
      rw [top]
      rfl
  | readInScope thread task rest top =>
      apply counted.of_stack rfl
      rw [top]
      rfl
  | resetInScope thread rest top =>
      apply counted.of_stack rfl
      rw [top]
      rfl
  | enter thread job rest top =>
      apply counted.of_stack rfl
      rw [top]
      rfl
  | leave thread job rest top =>
      apply counted.of_stack rfl
      rw [top]
      rfl
  | unlock thread job rest top =>
      apply counted.of_stack rfl
      rw [top]
      rfl
  | finish thread job rest top =>
      have shared := counted.useCount_pos top
      apply counted.of_stack rfl
      rw [top]
      cases job with
      | call task =>
          change state.useCount - 1 + state.owner.count + (_ + 1) =
            state.useCount + state.owner.count + _
          omega
      | cancel =>
          have dying := held.begun thread _ (State.top_mem top) rfl
          have released : state.owner.count = 0 := by
            cases owner : state.owner with
            | live => exact absurd owner dying
            | destroying => rfl
            | destroyed last => rfl
          change state.useCount - 1 + state.owner.count + (_ + 1) = state.useCount + 0 + _
          omega

/-! ### Every run -/

structure Invariant (state : State Thread Task) : Prop where
  guarded : Guarded state
  counted : Counted state

theorem invariant_init : Invariant (init : State Thread Task) :=
  ⟨guarded_init, counted_init⟩

theorem invariant_step {state next : State Thread Task} {action : Action Thread Task}
    (held : Invariant state) (stepped : step state action = some next) : Invariant next :=
  ⟨guarded_step held.guarded stepped, counted_step held.guarded held.counted stepped⟩

theorem Invariant.cancelled {state : State Thread Task} (held : Invariant state) :
    Cancelled state := by
  intro thread ended other _different frame member inside
  have outOfScope := held.guarded.destroyed thread ended
  have inScope := (held.guarded.knows other frame member).admitted (Or.inr inside)
  rw [outOfScope] at inScope
  cases inScope

theorem Invariant.startsInScope {state : State Thread Task} (held : Invariant state)
    (action : Action Thread Task) : StartsInScope state action := by
  cases action with
  | enter thread =>
      intro job rest top last ended
      have inScope := (held.guarded.knows thread _ (State.top_mem top)).admitted
        (Or.inl rfl)
      rw [held.guarded.destroyed last ended] at inScope
      cases inScope
  | _ => trivial

theorem returnsWithTask (state : State Thread Task) : ReturnsWithTask state := by
  intro thread job rest top
  let unlocked : State Thread Task := { state with inScopeMtx := none }.setStack thread
    (⟨job, .released⟩ :: rest)
  have first : step state (.unlock thread) = some unlocked := by
    simp only [step, top, unlocked]
  have second : step unlocked (.finish thread) =
      some (finish unlocked thread job rest) := by
    simp only [step, unlocked, State.setStack, Function.update_self]
  refine ⟨finish unlocked thread job rest, ?_, ?_⟩
  · rw [Runs.exec_cons, first, Option.bind_some, Runs.exec_cons, second]
    rfl
  · exact (State.stack_setStack _ thread thread rest).trans (if_pos rfl)

/-! ### When no thread blocks itself -/

/-- Wrapped functions are called and the `cancellable_task` is destroyed from outside
its own tasks. -/
def StartsOutside (state : State Thread Task) : Action Thread Task → Prop
  | .call thread _ => state.stack thread = []
  | .destroy thread => state.stack thread = []
  | _ => True

instance (state : State Thread Task) (action : Action Thread Task) :
    Decidable (StartsOutside state action) :=
  match action with
  | .call thread _ => inferInstanceAs (Decidable (state.stack thread = []))
  | .destroy thread => inferInstanceAs (Decidable (state.stack thread = []))
  | .lock _ => .isTrue trivial
  | .readInScope _ => .isTrue trivial
  | .resetInScope _ => .isTrue trivial
  | .enter _ => .isTrue trivial
  | .leave _ => .isTrue trivial
  | .unlock _ => .isTrue trivial
  | .finish _ => .isTrue trivial

/-- A job that starts in a task waits for the mutex its thread holds. -/
theorem Guarded.blocks_of_nested {state next : State Thread Task} (held : Guarded state)
    {thread : Thread} {job : Job Task} (user : inUserCode state thread = true)
    (stackOf : next.stack thread = ⟨job, .waiting⟩ :: state.stack thread)
    (mutex : next.inScopeMtx = state.inScopeMtx) (free : NeverBlocksItself next) :
    state.stack thread = [] := by
  cases below : state.stack thread with
  | nil => rfl
  | cons top rest =>
      obtain ⟨topJob, place⟩ := top
      have running : place = .inside := by
        simpa only [inUserCode, below, decide_eq_true_eq] using user
      subst running
      have mine := held.owns (State.top_mem below) rfl
      exact absurd (mutex.trans mine) (free thread job _ stackOf)

/-- The thread that moves does not come to wait, and no other thread gets the mutex. -/
theorem NeverBlocksItself.of_moved {state next : State Thread Task}
    (free : NeverBlocksItself state) {thread : Thread} {frames : List (Frame Task)}
    (stackOf : ∀ other, next.stack other =
      if other = thread then frames else state.stack other)
    (others : ∀ other, other ≠ thread → next.inScopeMtx = some other →
      state.inScopeMtx = some other)
    (moved : ∀ job rest, frames = ⟨job, .waiting⟩ :: rest →
      next.inScopeMtx ≠ some thread) : NeverBlocksItself next := by
  intro other job rest top owned
  rw [stackOf] at top
  by_cases same : other = thread
  · rw [if_pos same] at top
    exact moved job rest top (same ▸ owned)
  · rw [if_neg same] at top
    exact free other job rest top (others other same owned)

/-- A job that starts on an idle thread does not find the mutex with it. -/
theorem Guarded.neverBlocks_of_idle {state next : State Thread Task}
    (held : Guarded state) (free : NeverBlocksItself state) {thread : Thread}
    {frames : List (Frame Task)} (idle : state.stack thread = [])
    (stackOf : ∀ other, next.stack other =
      if other = thread then frames else state.stack other)
    (mutex : next.inScopeMtx = state.inScopeMtx) : NeverBlocksItself next := by
  apply free.of_moved stackOf
  · intro other _ owned
    rw [← mutex]
    exact owned
  · intro job rest _ owned
    have depth := held.depth thread
    rw [idle, ← mutex, if_pos owned] at depth
    cases depth

theorem neverBlocks_step_iff {state next : State Thread Task} {action : Action Thread Task}
    (held : Invariant state) (free : NeverBlocksItself state)
    (stepped : step state action = some next) :
    NeverBlocksItself next ↔ StartsOutside state action := by
  cases step_moves stepped with
  | expired thread task gone =>
      constructor
      · intro _
        cases idle : state.stack thread with
        | nil => exact idle
        | cons frame rest =>
            have shared := held.counted.useCount_pos idle
            omega
      · exact fun _ => free
  | call thread task user shared =>
      constructor
      · intro later
        exact held.guarded.blocks_of_nested user
          ((State.stack_setStack _ thread thread _).trans (if_pos rfl)) rfl later
      · intro idle
        exact held.guarded.neverBlocks_of_idle free idle
          (fun other => State.stack_setStack _ thread other _) rfl
  | destroy thread user live =>
      constructor
      · intro later
        exact held.guarded.blocks_of_nested user
          ((State.stack_setStack _ thread thread _).trans (if_pos rfl)) rfl later
      · intro idle
        exact held.guarded.neverBlocks_of_idle free idle
          (fun other => State.stack_setStack _ thread other _) rfl
  | lock thread job rest top unowned =>
      refine iff_of_true ?_ trivial
      refine free.of_moved (fun other => State.stack_setStack _ thread other _) ?_ ?_
      · intro other different owned
        exact absurd (Option.some.inj owned).symm different
      · intro job left impossible
        cases impossible
  | readInScope thread task rest top =>
      refine iff_of_true ?_ trivial
      refine free.of_moved (fun other => State.stack_setStack _ thread other _) ?_ ?_
      · exact fun _ _ owned => owned
      · intro job left found
        cases scope : state.inScope <;> rw [scope] at found <;> cases found
  | resetInScope thread rest top =>
      refine iff_of_true ?_ trivial
      refine free.of_moved (fun other => State.stack_setStack _ thread other _) ?_ ?_
      · exact fun _ _ owned => owned
      · intro job left impossible
        cases impossible
  | enter thread job rest top =>
      refine iff_of_true ?_ trivial
      refine free.of_moved (fun other => State.stack_setStack _ thread other _) ?_ ?_
      · exact fun _ _ owned => owned
      · intro job left impossible
        cases impossible
  | leave thread job rest top =>
      refine iff_of_true ?_ trivial
      refine free.of_moved (fun other => State.stack_setStack _ thread other _) ?_ ?_
      · exact fun _ _ owned => owned
      · intro job left impossible
        cases impossible
  | unlock thread job rest top =>
      refine iff_of_true ?_ trivial
      refine free.of_moved (fun other => State.stack_setStack _ thread other _) ?_ ?_
      · intro other _ impossible
        cases impossible
      · intro job left impossible
        cases impossible
  | finish thread job rest top =>
      refine iff_of_true ?_ trivial
      have alone := held.guarded.alone top (by intro impossible; cases impossible)
      subst alone
      have stackOf : ∀ other, (finish state thread job []).stack other =
          if other = thread then [] else state.stack other :=
        fun other => State.stack_setStack _ thread other []
      apply free.of_moved stackOf
      · exact fun _ _ owned => owned
      · intro job left impossible
        cases impossible

omit [DecidableEq Thread] in
theorem neverBlocks_init : NeverBlocksItself (init : State Thread Task) := by
  intro thread job rest impossible
  cases impossible

/-- What the class promises, of every state and every step of a run. -/
def CancelsWithoutBlocking (actions : List (Action Thread Task)) : Prop :=
  Runs.StepsMeet step StartsInScope init actions ∧
    Runs.StatesMeet step (fun state =>
      Cancelled state ∧ ReturnsWithTask state ∧ NeverBlocksItself state) init actions

/-- The destructor cancels in every run; no thread blocks itself in exactly the runs
in which tasks neither call wrapped functions nor destroy their `cancellable_task`. -/
theorem cancelsWithoutBlocking_iff {actions : List (Action Thread Task)}
    {final : State Thread Task} (executed : Runs.exec step init actions = some final) :
    CancelsWithoutBlocking actions ↔ Runs.StepsMeet step StartsOutside init actions := by
  have always : Runs.StatesMeet step Invariant (init : State Thread Task) actions :=
    Runs.statesMeet_of_invariant (fun _ _ _ held stepped => invariant_step held stepped)
      actions invariant_init
  have blocking : Runs.StatesMeet step NeverBlocksItself init actions ↔
      Runs.StepsMeet step StartsOutside init actions :=
    Runs.statesMeet_iff_stepsMeet
      (fun _ _ _ held _ _ stepped => invariant_step held stepped)
      (fun _ _ _ held free stepped => neverBlocks_step_iff held free stepped)
      invariant_init neverBlocks_init executed
  constructor
  · intro promised
    exact blocking.mp (promised.2.imp (fun _ all => all.2.2))
  · intro outside
    refine ⟨always.stepsMeet (fun _ action held => held.startsInScope action), ?_⟩
    have both : Runs.StatesMeet step
        (fun state => Invariant state ∧ NeverBlocksItself state) init actions :=
      Runs.statesMeet_of_preserved
        (fun _ _ _ held starts stepped => ⟨invariant_step held.1 stepped,
          (neverBlocks_step_iff held.1 held.2 stepped).mpr starts⟩)
        ⟨invariant_init, neverBlocks_init⟩ outside
    exact both.imp (fun state held =>
      ⟨held.1.cancelled, returnsWithTask state, held.2⟩)

/-- The destructor returns while another thread's call waits; that call finds
`_in_scope` reset. -/
def cancelledCall : List (Action Nat Nat) :=
  [.call 1 0, .destroy 0, .lock 0, .resetInScope 0, .unlock 0, .finish 0, .lock 1,
    .readInScope 1, .unlock 1, .finish 1, .call 1 0]

theorem cancelledCall_cancels :
    (Runs.exec step init cancelledCall).isSome = true ∧
      CancelsWithoutBlocking cancelledCall := by
  have executed : (Runs.exec step init cancelledCall).isSome = true := by decide
  obtain ⟨final, reached⟩ := Option.isSome_iff_exists.mp executed
  exact ⟨executed, (cancelsWithoutBlocking_iff reached).mpr (by decide)⟩

def ownReset : List (Action Nat Nat) :=
  [.call 0 0, .lock 0, .readInScope 0, .enter 0, .destroy 0]

theorem cancelsWithoutBlocking_false :
    ¬ ∀ actions : List (Action Nat Nat),
      (Runs.exec step init actions).isSome = true → CancelsWithoutBlocking actions := by
  intro promised
  have executed : (Runs.exec step init ownReset).isSome = true := by decide
  obtain ⟨final, reached⟩ := Option.isSome_iff_exists.mp executed
  have free := ((promised ownReset executed).2.final reached).2.2
  have blocked : (Runs.exec step init ownReset).map
      (fun state => (state.stack 0, state.inScopeMtx)) =
        some ([⟨.cancel, .waiting⟩, ⟨.call 0, .inside⟩], some 0) := by
    decide
  rw [reached, Option.map_some, Option.some.injEq, Prod.mk.injEq] at blocked
  exact free 0 _ _ blocked.1 blocked.2

end BabaIo.CancellableTask
