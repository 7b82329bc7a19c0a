import BabaIo.Library.RecursiveMutex
import BabaIo.Library.Runs
import Mathlib.Algebra.Group.Fin.Basic
import Mathlib.Data.List.Count
import Mathlib.Data.List.Nodup
import Mathlib.Logic.Function.Basic

/-
The `in_scope_mtx` of every object of a service at once.

A strand's thread runs the `complete` closures of the objects on that strand, each
under the mutex of its own object.  A user callback inside may call destructors,
and a destructor takes the mutex of the object it destroys.  Which objects a
callback destroys is up to the user, so it is a parameter: the order in which one
thread takes two mutexes comes from there.

Only threads that wait for an `in_scope_mtx` matter here.  The locks of the queues are
held for a few instructions and never around such a wait.  `event_registrar::give` can
hold its lock around one, when the closures it destroys hold the last reference to an
object; such a call does not return at all (`BabaIo.GiveReentry`) and is left out here.
-/

set_option autoImplicit false

namespace BabaIo.DestroyInCallback

inductive Thread (Strand : Type*) where
  /-- The thread that runs a strand. -/
  | strand (strand : Strand)
  /-- A reactor task thread or a thread of the user. -/
  | other (index : Nat)
  deriving DecidableEq

inductive Job where
  /-- `do_react` of an event. -/
  | react
  /-- The `complete` closure of an event. -/
  | complete
  /-- The destructor. -/
  | destroy
  deriving DecidableEq

/-- In front of `lock_guard`, in front of the test of `in_scope`, in the code the
test guards, and behind it. -/
inductive Place where
  | waiting
  | locked
  | inside
  | leaving
  deriving DecidableEq

structure Frame (Object : Type*) where
  object : Object
  job : Job
  place : Place
  deriving DecidableEq

variable {Object Strand : Type} [DecidableEq Object] [DecidableEq Strand]

def Frame.holds (frame : Frame Object) : Bool :=
  frame.place ≠ .waiting

structure Program (Object Strand : Type) where
  /-- The strand an object was made with. -/
  strandOf : Object → Strand
  /-- A callback of the first may run the destructor of the second. -/
  destroys : Object → Object → Bool

structure State (Object Strand : Type) where
  inScopeMtx : Object → RecursiveMutex (Thread Strand)
  inScope : Object → Bool
  /-- The destructor was called. -/
  destroyed : Object → Bool
  stack : Thread Strand → List (Frame Object)

def init : State Object Strand :=
  { inScopeMtx := fun _ => RecursiveMutex.free
    inScope := fun _ => true
    destroyed := fun _ => false
    stack := fun _ => [] }

def State.setStack (state : State Object Strand) (thread : Thread Strand)
    (frames : List (Frame Object)) : State Object Strand :=
  { state with stack := Function.update state.stack thread frames }

def State.setMutex (state : State Object Strand) (object : Object)
    (mutex : RecursiveMutex (Thread Strand)) : State Object Strand :=
  { state with inScopeMtx := Function.update state.inScopeMtx object mutex }

omit [DecidableEq Object] in
@[simp] theorem State.setStack_same (state : State Object Strand)
    (thread : Thread Strand) (frames : List (Frame Object)) :
    (state.setStack thread frames).stack thread = frames := by
  simp only [State.setStack, Function.update_self]

inductive Action (Object Strand : Type) where
  | start (thread : Thread Strand) (job : Job) (object : Object)
  | lock (thread : Thread Strand)
  | enter (thread : Thread Strand)
  | leave (thread : Thread Strand)
  | unlock (thread : Thread Strand)

/-- A task starts on an idle thread, a `complete` closure on its strand's; a
destructor runs once, also from inside a callback. -/
def mayStart (program : Program Object Strand) (state : State Object Strand)
    (thread : Thread Strand) (object : Object) : Job → Bool
  | .react =>
      match thread with
      | .strand _ => false
      | .other _ => (state.stack thread).isEmpty
  | .complete =>
      decide (thread = .strand (program.strandOf object)) &&
        (state.stack thread).isEmpty
  | .destroy => !state.destroyed object &&
      match state.stack thread with
      | [] => true
      | [⟨owner, .complete, .inside⟩] => program.destroys owner object
      | _ => false

def start (state : State Object Strand) (thread : Thread Strand) (object : Object)
    (job : Job) : State Object Strand :=
  let called := match job with
    | .destroy =>
        { state with destroyed := Function.update state.destroyed object true }
    | _ => state
  called.setStack thread (⟨object, job, .waiting⟩ :: state.stack thread)

/-- The destructor sets `in_scope` to false; what is out of scope is left alone. -/
def enter (state : State Object Strand) (thread : Thread Strand) (object : Object)
    (job : Job) (rest : List (Frame Object)) : State Object Strand :=
  if state.inScope object then
    let entered := match job with
      | .destroy => { state with inScope := Function.update state.inScope object false }
      | _ => state
    entered.setStack thread (⟨object, job, .inside⟩ :: rest)
  else state.setStack thread (⟨object, job, .leaving⟩ :: rest)

def step (program : Program Object Strand) (state : State Object Strand) :
    Action Object Strand → Option (State Object Strand)
  | .start thread job object =>
      if mayStart program state thread object job then
        some (start state thread object job)
      else none
  | .lock thread =>
      match state.stack thread with
      | ⟨object, job, .waiting⟩ :: rest =>
          ((state.inScopeMtx object).lock thread).map fun mutex =>
            (state.setMutex object mutex).setStack thread (⟨object, job, .locked⟩ :: rest)
      | _ => none
  | .enter thread =>
      match state.stack thread with
      | ⟨object, job, .locked⟩ :: rest => some (enter state thread object job rest)
      | _ => none
  | .leave thread =>
      match state.stack thread with
      | ⟨object, job, .inside⟩ :: rest =>
          some (state.setStack thread (⟨object, job, .leaving⟩ :: rest))
      | _ => none
  | .unlock thread =>
      match state.stack thread with
      | ⟨object, _, .leaving⟩ :: rest =>
          ((state.inScopeMtx object).unlock thread).map fun mutex =>
            (state.setMutex object mutex).setStack thread rest
      | _ => none

/-! ### Deadlock -/

def State.Awaits (state : State Object Strand) (thread : Thread Strand)
    (object : Object) : Prop :=
  ∃ job rest, state.stack thread = ⟨object, job, .waiting⟩ :: rest

def State.WaitsFor (state : State Object Strand) (first second : Thread Strand) : Prop :=
  ∃ object, state.Awaits first object ∧
    0 < (state.inScopeMtx object).depth second ∧ second ≠ first

/-- There is a cycle of threads each of which waits for the next. -/
def State.Deadlocked (state : State Object Strand) : Prop :=
  ∃ (last : Nat) (thread : Fin (last + 1) → Thread Strand),
    Function.Injective thread ∧ ∀ index, state.WaitsFor (thread index) (thread (index + 1))

/-- Two or more objects on strands of their own: a callback of each may destroy the
next, and one of the last may destroy the first. -/
def Program.Crossing (program : Program Object Strand) : Prop :=
  ∃ (more : Nat) (object : Fin (more + 2) → Object),
    Function.Injective (fun index => program.strandOf (object index)) ∧
    ∀ index, program.destroys (object index) (object (index + 1)) = true

/-! ### Inversion of the step function -/

inductive Moves (program : Program Object Strand) (state : State Object Strand) :
    Action Object Strand → State Object Strand → Prop where
  | start (thread : Thread Strand) (job : Job) (object : Object)
      (may : mayStart program state thread object job = true) :
      Moves program state (.start thread job object) (start state thread object job)
  | lock (thread : Thread Strand) (object : Object) (job : Job)
      (rest : List (Frame Object)) (mutex : RecursiveMutex (Thread Strand))
      (top : state.stack thread = ⟨object, job, .waiting⟩ :: rest)
      (locked : (state.inScopeMtx object).lock thread = some mutex) :
      Moves program state (.lock thread)
        ((state.setMutex object mutex).setStack thread (⟨object, job, .locked⟩ :: rest))
  | enter (thread : Thread Strand) (object : Object) (job : Job)
      (rest : List (Frame Object))
      (top : state.stack thread = ⟨object, job, .locked⟩ :: rest) :
      Moves program state (.enter thread) (enter state thread object job rest)
  | leave (thread : Thread Strand) (object : Object) (job : Job)
      (rest : List (Frame Object))
      (top : state.stack thread = ⟨object, job, .inside⟩ :: rest) :
      Moves program state (.leave thread)
        (state.setStack thread (⟨object, job, .leaving⟩ :: rest))
  | unlock (thread : Thread Strand) (object : Object) (job : Job)
      (rest : List (Frame Object)) (mutex : RecursiveMutex (Thread Strand))
      (top : state.stack thread = ⟨object, job, .leaving⟩ :: rest)
      (unlocked : (state.inScopeMtx object).unlock thread = some mutex) :
      Moves program state (.unlock thread)
        ((state.setMutex object mutex).setStack thread rest)

theorem step_moves {program : Program Object Strand} {state next : State Object Strand}
    {action : Action Object Strand} (stepped : step program state action = some next) :
    Moves program state action next := by
  cases action with
  | start thread job object =>
      by_cases may : mayStart program state thread object job = true
      · rw [step, if_pos may] at stepped
        cases stepped
        exact .start thread job object may
      · rw [step, if_neg may] at stepped
        cases stepped
  | lock thread =>
      simp only [step] at stepped
      split at stepped
      · obtain ⟨mutex, locked, same⟩ := Option.map_eq_some_iff.mp stepped
        cases same
        exact .lock thread _ _ _ mutex ‹_› locked
      · cases stepped
  | enter thread =>
      simp only [step] at stepped
      split at stepped
      · cases stepped
        exact .enter thread _ _ _ ‹_›
      · cases stepped
  | leave thread =>
      simp only [step] at stepped
      split at stepped
      · cases stepped
        exact .leave thread _ _ _ ‹_›
      · cases stepped
  | unlock thread =>
      simp only [step] at stepped
      split at stepped
      · obtain ⟨mutex, unlocked, same⟩ := Option.map_eq_some_iff.mp stepped
        cases same
        exact .unlock thread _ _ _ mutex ‹_› unlocked
      · cases stepped

/-! ### What a thread's stack looks like -/

inductive Shaped (program : Program Object Strand) (thread : Thread Strand) :
    List (Frame Object) → Prop where
  | idle : Shaped program thread []
  | job (frame : Frame Object)
      (own : frame.job = .complete →
        thread = .strand (program.strandOf frame.object)) :
      Shaped program thread [frame]
  | nested (owner object : Object) (place : Place)
      (own : thread = .strand (program.strandOf owner))
      (may : program.destroys owner object = true) :
      Shaped program thread [⟨object, .destroy, place⟩, ⟨owner, .complete, .inside⟩]

def locksOf (object : Object) (frames : List (Frame Object)) : Nat :=
  frames.countP fun frame => decide (frame.object = object) && frame.holds

structure Guarded (program : Program Object Strand) (state : State Object Strand) :
    Prop where
  shaped : ∀ thread, Shaped program thread (state.stack thread)
  held : ∀ object thread,
    (state.inScopeMtx object).depth thread = locksOf object (state.stack thread)

variable {program : Program Object Strand} {thread : Thread Strand}

omit [DecidableEq Object] [DecidableEq Strand] in
theorem Shaped.move {object : Object} {job : Job} {place next : Place}
    {rest : List (Frame Object)}
    (shaped : Shaped program thread (⟨object, job, place⟩ :: rest)) :
    Shaped program thread (⟨object, job, next⟩ :: rest) := by
  cases shaped with
  | job _ own => exact .job _ own
  | nested owner _ _ own may => exact .nested owner object next own may

omit [DecidableEq Object] [DecidableEq Strand] in
theorem Shaped.pop {frame : Frame Object} {rest : List (Frame Object)}
    (shaped : Shaped program thread (frame :: rest)) : Shaped program thread rest := by
  cases shaped with
  | job _ own => exact .idle
  | nested owner object place own may => exact .job _ fun _ => own

omit [DecidableEq Object] in
theorem Shaped.push {state : State Object Strand} {object : Object} {job : Job}
    (shaped : Shaped program thread (state.stack thread))
    (may : mayStart program state thread object job = true) :
    Shaped program thread (⟨object, job, .waiting⟩ :: state.stack thread) := by
  cases job with
  | react =>
      cases thread with
      | strand index => cases may
      | other index =>
          have idle : state.stack (.other index) = [] := List.isEmpty_iff.mp may
          rw [idle]
          exact .job _ fun isComplete => nomatch isComplete
  | complete =>
      simp only [mayStart, Bool.and_eq_true, decide_eq_true_eq, List.isEmpty_iff] at may
      rw [may.2]
      exact .job _ fun _ => may.1
  | destroy =>
      simp only [mayStart, Bool.and_eq_true] at may
      have inside := may.2
      split at inside
      · rename_i idle
        rw [idle]
        exact .job _ fun isComplete => nomatch isComplete
      · rename_i owner running
        rw [running] at shaped ⊢
        cases shaped with
        | job _ own => exact .nested owner object .waiting (own rfl) inside
      · cases inside

omit [DecidableEq Strand] in
theorem locksOf_cons (object : Object) (frame : Frame Object) (rest : List (Frame Object)) :
    locksOf object (frame :: rest) =
      locksOf object rest + if frame.object = object ∧ frame.holds = true then 1 else 0 := by
  simp only [locksOf, List.countP_cons, Bool.and_eq_true, decide_eq_true_eq]

/-! ### One step -/

theorem Guarded.update {state next : State Object Strand} {frames : List (Frame Object)}
    (guarded : Guarded program state)
    (stacked : next.stack = Function.update state.stack thread frames)
    (shaped : Shaped program thread frames)
    (mine : ∀ object, (next.inScopeMtx object).depth thread = locksOf object frames)
    (others : ∀ object other, other ≠ thread →
      (next.inScopeMtx object).depth other = (state.inScopeMtx object).depth other) :
    Guarded program next where
  shaped := by
    intro other
    rw [stacked]
    by_cases same : other = thread
    · subst other
      rw [Function.update_self]
      exact shaped
    · rw [Function.update_of_ne same]
      exact guarded.shaped other
  held := by
    intro object other
    rw [stacked]
    by_cases same : other = thread
    · subst other
      rw [Function.update_self]
      exact mine object
    · rw [Function.update_of_ne same, others object other same]
      exact guarded.held object other

theorem Guarded.keeps {state next : State Object Strand} {frames : List (Frame Object)}
    (guarded : Guarded program state)
    (stacked : next.stack = Function.update state.stack thread frames)
    (mutexes : next.inScopeMtx = state.inScopeMtx)
    (shaped : Shaped program thread frames)
    (locks : ∀ object, locksOf object frames = locksOf object (state.stack thread)) :
    Guarded program next := by
  refine guarded.update stacked shaped ?_ ?_
  · intro object
    rw [mutexes, locks object]
    exact guarded.held object thread
  · intro object other _different
    rw [mutexes]

theorem guarded_start {state : State Object Strand} {object : Object} {job : Job}
    (guarded : Guarded program state)
    (may : mayStart program state thread object job = true) :
    Guarded program (start state thread object job) := by
  have shaped := Shaped.push (guarded.shaped thread) may
  refine guarded.keeps ?_ ?_ shaped ?_
  · cases job <;> rfl
  · cases job <;> rfl
  · intro other
    rw [locksOf_cons]
    simp [Frame.holds]

theorem Guarded.relocks {state : State Object Strand} {object : Object}
    {frames : List (Frame Object)} {mutex : RecursiveMutex (Thread Strand)}
    (guarded : Guarded program state) (shaped : Shaped program thread frames)
    (mine : mutex.depth thread = locksOf object frames)
    (others : ∀ other, other ≠ thread →
      mutex.depth other = (state.inScopeMtx object).depth other)
    (elsewhere : ∀ other, other ≠ object →
      locksOf other frames = locksOf other (state.stack thread)) :
    Guarded program ((state.setMutex object mutex).setStack thread frames) := by
  refine guarded.update rfl shaped ?_ ?_
  · intro other
    change (Function.update state.inScopeMtx object mutex other).depth thread = _
    by_cases same : other = object
    · subst other
      rw [Function.update_self]
      exact mine
    · rw [Function.update_of_ne same, elsewhere other same]
      exact guarded.held other thread
  · intro other holder different
    change (Function.update state.inScopeMtx object mutex other).depth holder = _
    by_cases same : other = object
    · subst other
      rw [Function.update_self]
      exact others holder different
    · rw [Function.update_of_ne same]

theorem guarded_lock {state : State Object Strand} {object : Object} {job : Job}
    {rest : List (Frame Object)} {mutex : RecursiveMutex (Thread Strand)}
    (guarded : Guarded program state)
    (top : state.stack thread = ⟨object, job, .waiting⟩ :: rest)
    (locked : (state.inScopeMtx object).lock thread = some mutex) :
    Guarded program
      ((state.setMutex object mutex).setStack thread (⟨object, job, .locked⟩ :: rest)) := by
  have shaped := guarded.shaped thread
  have held := guarded.held object thread
  rw [top] at shaped held
  have depth := RecursiveMutex.depth_lock locked
  refine guarded.relocks shaped.move ?_ ?_ ?_
  · rw [depth, if_pos rfl, held, locksOf_cons, locksOf_cons]
    simp [Frame.holds]
  · intro other different
    rw [depth, if_neg different, Nat.add_zero]
  · intro other different
    rw [top, locksOf_cons, locksOf_cons]
    simp [Ne.symm different]

theorem guarded_enter {state : State Object Strand} {object : Object} {job : Job}
    {rest : List (Frame Object)} (guarded : Guarded program state)
    (top : state.stack thread = ⟨object, job, .locked⟩ :: rest) :
    Guarded program (enter state thread object job rest) := by
  have shaped := guarded.shaped thread
  rw [top] at shaped
  have locks : ∀ place, place ≠ Place.waiting → ∀ other,
      locksOf other (⟨object, job, place⟩ :: rest) = locksOf other (state.stack thread) := by
    intro place past other
    rw [top, locksOf_cons, locksOf_cons]
    simp [Frame.holds, past]
  by_cases inside : state.inScope object = true
  · have kept : (enter state thread object job rest).inScopeMtx = state.inScopeMtx ∧
        (enter state thread object job rest).stack =
          Function.update state.stack thread (⟨object, job, .inside⟩ :: rest) := by
      cases job <;> simp [enter, inside, State.setStack]
    exact guarded.keeps kept.2 kept.1 shaped.move (locks .inside (by decide))
  · have skipped : enter state thread object job rest =
        state.setStack thread (⟨object, job, .leaving⟩ :: rest) := by
      simp [enter, inside]
    rw [skipped]
    exact guarded.keeps rfl rfl shaped.move (locks .leaving (by decide))

theorem guarded_leave {state : State Object Strand} {object : Object} {job : Job}
    {rest : List (Frame Object)} (guarded : Guarded program state)
    (top : state.stack thread = ⟨object, job, .inside⟩ :: rest) :
    Guarded program (state.setStack thread (⟨object, job, .leaving⟩ :: rest)) := by
  have shaped := guarded.shaped thread
  rw [top] at shaped
  refine guarded.keeps rfl rfl shaped.move ?_
  intro other
  rw [top, locksOf_cons, locksOf_cons]
  simp [Frame.holds]

theorem guarded_unlock {state : State Object Strand} {object : Object} {job : Job}
    {rest : List (Frame Object)} {mutex : RecursiveMutex (Thread Strand)}
    (guarded : Guarded program state)
    (top : state.stack thread = ⟨object, job, .leaving⟩ :: rest)
    (unlocked : (state.inScopeMtx object).unlock thread = some mutex) :
    Guarded program ((state.setMutex object mutex).setStack thread rest) := by
  have shaped := guarded.shaped thread
  have held := guarded.held object thread
  rw [top] at shaped held
  have depth := RecursiveMutex.depth_unlock unlocked
  refine guarded.relocks shaped.pop ?_ ?_ ?_
  · have before := depth thread
    rw [held, locksOf_cons] at before
    simpa [Frame.holds] using before
  · intro other different
    rw [← depth other, if_neg different, Nat.add_zero]
  · intro other different
    rw [top, locksOf_cons]
    simp [Ne.symm different]

theorem guarded_step {state next : State Object Strand} {action : Action Object Strand}
    (guarded : Guarded program state) (stepped : step program state action = some next) :
    Guarded program next := by
  cases step_moves stepped with
  | start thread job object may => exact guarded_start guarded may
  | lock thread object job rest mutex top locked => exact guarded_lock guarded top locked
  | enter thread object job rest top => exact guarded_enter guarded top
  | leave thread object job rest top => exact guarded_leave guarded top
  | unlock thread object job rest mutex top unlocked =>
      exact guarded_unlock guarded top unlocked

theorem guarded_init : Guarded program (init : State Object Strand) where
  shaped := fun _ => .idle
  held := fun _ _ => rfl

theorem guarded_run {state : State Object Strand} {actions : List (Action Object Strand)}
    (executed : Runs.exec (step program) init actions = some state) :
    Guarded program state := by
  refine Runs.exec_invariant ?_ guarded_init executed
  intro before action after holds stepped
  exact guarded_step holds stepped

/-! ### A deadlock crosses strands -/

/-- Who waits for one mutex and holds another is in a destructor that a callback
of the held object called. -/
theorem Guarded.waits_holding {state : State Object Strand} {held wanted : Object}
    (guarded : Guarded program state) (waits : state.Awaits thread wanted)
    (holds : 0 < (state.inScopeMtx held).depth thread) :
    thread = .strand (program.strandOf held) ∧ program.destroys held wanted = true := by
  obtain ⟨job, rest, top⟩ := waits
  rw [guarded.held held thread, top, locksOf_cons] at holds
  have shaped := guarded.shaped thread
  rw [top] at shaped
  cases shaped with
  | job _ own => simp [locksOf, Frame.holds] at holds
  | nested owner _ _ own may =>
      have same : owner = held := by
        by_contra different
        simp [locksOf, Frame.holds, different] at holds
      subst owner
      exact ⟨own, may⟩

theorem Guarded.crossing {state : State Object Strand} (guarded : Guarded program state)
    (deadlocked : state.Deadlocked) : program.Crossing := by
  obtain ⟨last, thread, distinct, waitsFor⟩ := deadlocked
  have wants : ∀ index, ∃ object, state.Awaits (thread index) object ∧
      0 < (state.inScopeMtx object).depth (thread (index + 1)) ∧
        thread (index + 1) ≠ thread index := waitsFor
  choose wanted awaits holds others using wants
  have callback := fun index => guarded.waits_holding (awaits (index + 1)) (holds index)
  cases last with
  | zero =>
      have alone : thread (0 + 1) = thread 0 := congrArg thread (Fin.fin_one_eq_zero _)
      exact absurd alone (others 0)
  | succ more =>
      refine ⟨more, wanted, ?_, fun index => (callback index).2⟩
      intro first second same
      have sameThread : thread (first + 1) = thread (second + 1) := by
        rw [(callback first).1, (callback second).1]
        exact congrArg Thread.strand same
      exact add_right_cancel (distinct sameThread)

/-! ### Crossing callbacks deadlock -/

def Program.threadOf (program : Program Object Strand) (object : Object) :
    Thread Strand :=
  .strand (program.strandOf object)

def callbackOf (program : Program Object Strand) (object : Object) :
    List (Action Object Strand) :=
  [.start (program.threadOf object) .complete object, .lock (program.threadOf object),
    .enter (program.threadOf object)]

theorem step_startComplete {state : State Object Strand} {object : Object}
    (idle : state.stack (program.threadOf object) = []) :
    step program state (.start (program.threadOf object) .complete object) =
      some (state.setStack (program.threadOf object) [⟨object, .complete, .waiting⟩]) := by
  have may : mayStart program state (program.threadOf object) object .complete = true := by
    simp only [mayStart, Bool.and_eq_true, decide_eq_true_eq, List.isEmpty_iff]
    exact ⟨rfl, idle⟩
  rw [step, if_pos may]
  simp only [start, idle]

theorem step_lock {state : State Object Strand} {object : Object} {job : Job}
    {rest : List (Frame Object)} {mutex : RecursiveMutex (Thread Strand)}
    (top : state.stack thread = ⟨object, job, .waiting⟩ :: rest)
    (locked : (state.inScopeMtx object).lock thread = some mutex) :
    step program state (.lock thread) =
      some ((state.setMutex object mutex).setStack thread
        (⟨object, job, .locked⟩ :: rest)) := by
  simp only [step, top, locked, Option.map_some]

theorem step_enterComplete {state : State Object Strand} {object : Object}
    {rest : List (Frame Object)}
    (top : state.stack thread = ⟨object, .complete, .locked⟩ :: rest)
    (alive : state.inScope object = true) :
    step program state (.enter thread) =
      some (state.setStack thread (⟨object, .complete, .inside⟩ :: rest)) := by
  simp only [step, top, enter, alive, if_true]

theorem step_startDestroy {state : State Object Strand} {owner object : Object}
    (running : state.stack thread = [⟨owner, .complete, .inside⟩])
    (may : program.destroys owner object = true)
    (alive : state.destroyed object = false) :
    step program state (.start thread .destroy object) =
      some (start state thread object .destroy) := by
  have allowed : mayStart program state thread object .destroy = true := by
    simp [mayStart, running, may, alive]
  rw [step, if_pos allowed]

/-- A strand that is idle gets into the callback of an object whose mutex is free. -/
theorem exec_callbackOf {state : State Object Strand} {object : Object}
    (idle : state.stack (program.threadOf object) = [])
    (unlocked : state.inScopeMtx object = RecursiveMutex.free)
    (alive : state.inScope object = true) :
    Runs.exec (step program) state (callbackOf program object) =
      some ((state.setMutex object ⟨some (program.threadOf object, 0)⟩).setStack
        (program.threadOf object) [⟨object, .complete, .inside⟩]) := by
  have locked : (state.inScopeMtx object).lock (program.threadOf object) =
      some ⟨some (program.threadOf object, 0)⟩ := by
    rw [unlocked]
    rfl
  refine Runs.exec_cons_eq_some.mpr ⟨_, step_startComplete idle, ?_⟩
  refine Runs.exec_cons_eq_some.mpr
    ⟨_, step_lock (State.setStack_same _ _ _) locked, ?_⟩
  refine Runs.exec_cons_eq_some.mpr
    ⟨_, step_enterComplete (State.setStack_same _ _ _) alive, ?_⟩
  simp only [Runs.exec_nil, State.setStack, State.setMutex, Function.update_idem]

structure Entered (program : Program Object Strand) {Index : Type} [DecidableEq Index]
    (object : Index → Object) (entered : List Index) (state : State Object Strand) :
    Prop where
  inside : ∀ index, state.stack (program.threadOf (object index)) =
    if index ∈ entered then [⟨object index, .complete, .inside⟩] else []
  locked : ∀ index, state.inScopeMtx (object index) =
    if index ∈ entered then ⟨some (program.threadOf (object index), 0)⟩
    else RecursiveMutex.free
  alive : ∀ index, state.inScope (object index) = true
  owned : ∀ index, state.destroyed (object index) = false

/-- All of them run, and those called wait in the destructor of the next object. -/
structure Called (program : Program Object Strand) {Index : Type} [DecidableEq Index]
    (object : Index → Object) (next : Index → Index) (called : List Index)
    (state : State Object Strand) : Prop where
  waiting : ∀ index, state.stack (program.threadOf (object index)) =
    (if index ∈ called then [⟨object (next index), .destroy, .waiting⟩] else []) ++
      [⟨object index, .complete, .inside⟩]
  locked : ∀ index, state.inScopeMtx (object index) =
    ⟨some (program.threadOf (object index), 0)⟩
  owned : ∀ index, index ∉ called → state.destroyed (object (next index)) = false

section

variable {Index : Type} [DecidableEq Index] {object : Index → Object}

omit [DecidableEq Object] [DecidableEq Strand] [DecidableEq Index] in
theorem threadOf_injective
    (distinct : Function.Injective fun index => program.strandOf (object index)) :
    Function.Injective fun index => program.threadOf (object index) := by
  intro first second same
  exact distinct (Thread.strand.inj same)

theorem Entered.enter
    (distinct : Function.Injective fun index => program.strandOf (object index))
    {entered : List Index} {index : Index} {state : State Object Strand}
    (fresh : index ∉ entered) (holds : Entered program object entered state) :
    ∃ after, Runs.exec (step program) state (callbackOf program (object index)) =
        some after ∧ Entered program object (index :: entered) after := by
  have idle := holds.inside index
  have unlocked := holds.locked index
  rw [if_neg fresh] at idle unlocked
  refine ⟨_, exec_callbackOf idle unlocked (holds.alive index), ?_⟩
  refine ⟨?_, ?_, holds.alive, holds.owned⟩
  · intro other
    by_cases same : other = index
    · subst other
      simp [State.setStack]
    · have apart : program.threadOf (object other) ≠ program.threadOf (object index) :=
        fun equal => same (threadOf_injective distinct equal)
      have before := holds.inside other
      simp only [State.setStack, State.setMutex, Function.update_of_ne apart,
        List.mem_cons, same, false_or]
      exact before
  · intro other
    by_cases same : other = index
    · subst other
      simp [State.setStack, State.setMutex]
    · have apart : object other ≠ object index := fun equal =>
        same (distinct (congrArg program.strandOf equal))
      have before := holds.locked other
      simp only [State.setStack, State.setMutex, Function.update_of_ne apart,
        List.mem_cons, same, false_or]
      exact before

theorem Called.call {next : Index → Index}
    (distinct : Function.Injective fun index => program.strandOf (object index))
    (injective : Function.Injective next)
    (destroys : ∀ index, program.destroys (object index) (object (next index)) = true)
    {called : List Index} {index : Index} {state : State Object Strand}
    (fresh : index ∉ called) (holds : Called program object next called state) :
    ∃ after, Runs.exec (step program) state
        [.start (program.threadOf (object index)) .destroy (object (next index))] =
        some after ∧ Called program object next (index :: called) after := by
  have running := holds.waiting index
  rw [if_neg fresh, List.nil_append] at running
  have stepped := step_startDestroy running (destroys index) (holds.owned index fresh)
  refine ⟨_, Runs.exec_cons_eq_some.mpr ⟨_, stepped, rfl⟩, ?_⟩
  refine ⟨?_, holds.locked, ?_⟩
  · intro other
    by_cases same : other = index
    · subst other
      simp [start, running]
    · have apart : program.threadOf (object other) ≠ program.threadOf (object index) :=
        fun equal => same (threadOf_injective distinct equal)
      have before := holds.waiting other
      simp only [start, State.setStack, Function.update_of_ne apart, List.mem_cons, same,
        false_or]
      exact before
  · intro other uncalled
    have different : other ≠ index := fun same =>
      uncalled (same ▸ List.mem_cons_self)
    have before : other ∉ called := fun member =>
      uncalled (List.mem_cons_of_mem index member)
    have apart : object (next other) ≠ object (next index) := fun equal =>
      different (injective (distinct (congrArg program.strandOf equal)))
    simp only [start, State.setStack, Function.update_of_ne apart]
    exact holds.owned other before

end

/-- Every strand enters its callback before any of them calls a destructor: then
each destructor meets a mutex that is held. -/
theorem exec_crossing (crossing : program.Crossing) :
    ∃ actions state, Runs.exec (step program) init actions = some state ∧
      state.Deadlocked := by
  obtain ⟨more, object, distinct, destroys⟩ := crossing
  have everyIndex : ∀ index, index ∈ (List.finRange (more + 2)).reverse ++ [] := by
    intro index
    rw [List.append_nil, List.mem_reverse]
    exact List.mem_finRange index
  have once : ((List.finRange (more + 2)).reverse ++ []).Nodup := by
    rw [List.append_nil, List.nodup_reverse]
    exact List.nodup_finRange (more + 2)
  have initial : Entered program object [] init :=
    ⟨fun _ => rfl, fun _ => rfl, fun _ => rfl, fun _ => rfl⟩
  obtain ⟨inside, entered, allInside⟩ := Runs.exec_each
    (fun done index state fresh holds => Entered.enter distinct fresh holds) initial once
  have uncalled : Called program object (fun index => index + 1) [] inside := by
    refine ⟨?_, ?_, fun index _ => allInside.owned (index + 1)⟩
    · intro index
      have here := allInside.inside index
      rw [if_pos (everyIndex index)] at here
      exact here
    · intro index
      have here := allInside.locked index
      rw [if_pos (everyIndex index)] at here
      exact here
  obtain ⟨stuck, called, allCalled⟩ := Runs.exec_each
    (fun done index state fresh holds =>
      Called.call distinct (add_left_injective 1) destroys fresh holds) uncalled once
  refine ⟨_, stuck, Runs.exec_trans entered called, more + 1,
    fun index => program.threadOf (object index), threadOf_injective distinct, ?_⟩
  intro index
  have waits := allCalled.waiting index
  rw [if_pos (everyIndex index)] at waits
  refine ⟨object (index + 1), ⟨.destroy, _, waits⟩, ?_, ?_⟩
  · rw [allCalled.locked (index + 1)]
    simp [RecursiveMutex.depth]
  · intro same
    have fixed : index + 1 = index := threadOf_injective distinct same
    exact one_ne_zero (add_eq_left.mp fixed)

/-- No run deadlocks exactly where no callbacks cross. -/
theorem deadlockFree_iff_noCrossing (program : Program Object Strand) :
    (∀ actions state, Runs.exec (step program) init actions = some state →
      ¬ state.Deadlocked) ↔ ¬ program.Crossing := by
  constructor
  · intro never crossing
    obtain ⟨actions, state, executed, deadlocked⟩ := exec_crossing crossing
    exact never actions state executed deadlocked
  · intro straight actions state executed deadlocked
    exact straight ((guarded_run executed).crossing deadlocked)

omit [DecidableEq Object] [DecidableEq Strand] in
/-- Callbacks that destroy objects of their own strand only, their own object
included, never deadlock: the mutex they wait for is held by no other strand. -/
theorem ownStrand_noCrossing
    (own : ∀ owner object, program.destroys owner object = true →
      program.strandOf owner = program.strandOf object) : ¬ program.Crossing := by
  intro crossing
  obtain ⟨more, object, distinct, destroys⟩ := crossing
  have same : (0 : Fin (more + 2)) = 0 + 1 := distinct (own _ _ (destroys 0))
  exact one_ne_zero (add_eq_left.mp same.symm)

def twoConnections : Program (Fin 2) (Fin 2) :=
  { strandOf := id
    destroys := fun owner object => decide (owner ≠ object) }

/-- Both strands are inside a callback before either calls the destructor. -/
def crossedRun : List (Action (Fin 2) (Fin 2)) :=
  callbackOf twoConnections 0 ++ callbackOf twoConnections 1 ++
    [.start (.strand 0) .destroy 1, .start (.strand 1) .destroy 0]

theorem crossedRun_deadlocks :
    ∃ state, Runs.exec (step twoConnections) init crossedRun = some state ∧
      state.Deadlocked := by
  refine ⟨_, rfl, 1, Thread.strand, fun first second same => Thread.strand.inj same, ?_⟩
  intro index
  refine ⟨index + 1, ⟨.destroy, [⟨index, .complete, .inside⟩], ?_⟩, ?_, ?_⟩
  · revert index
    decide
  · revert index
    decide
  · revert index
    decide

end BabaIo.DestroyInCallback
