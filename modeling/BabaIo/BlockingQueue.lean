import Mathlib.Data.List.Basic
import Mathlib.Logic.Function.Basic

/-
`blocking_queue`: a queue whose readers sleep on a condition variable.

Every member function is one critical section.  `wait` tests under the lock and
goes to sleep in the same section; a thread that is woken takes the lock again and
repeats the test.  `notify_all` wakes every sleeper.
-/

set_option autoImplicit false

namespace BabaIo

structure BlockingQueue (Thread Element : Type) where
  active : Bool
  queue : List Element
  /-- The threads inside `_signaller.wait`. -/
  asleep : Thread → Bool

namespace BlockingQueue

variable {Thread Element : Type} [DecidableEq Thread]

def empty : BlockingQueue Thread Element :=
  { active := true
    queue := []
    asleep := fun _ => false }

def notifyAll (blocking : BlockingQueue Thread Element) : BlockingQueue Thread Element :=
  { blocking with asleep := fun _ => false }

def enqueue (blocking : BlockingQueue Thread Element) (element : Element) :
    BlockingQueue Thread Element :=
  { blocking with queue := blocking.queue ++ [element] }.notifyAll

def dequeue (blocking : BlockingQueue Thread Element) :
    Option Element × BlockingQueue Thread Element :=
  match blocking.queue with
  | [] => (none, blocking)
  | element :: rest => (some element, { blocking with queue := rest })

/-- The test `_active && _queue.size() == 0` of `wait`. -/
def mustWait (blocking : BlockingQueue Thread Element) : Bool :=
  blocking.active && blocking.queue.isEmpty

def sleep (blocking : BlockingQueue Thread Element) (thread : Thread) :
    BlockingQueue Thread Element :=
  { blocking with asleep := Function.update blocking.asleep thread true }

def wakeSpuriously (blocking : BlockingQueue Thread Element) (thread : Thread) :
    BlockingQueue Thread Element :=
  { blocking with asleep := Function.update blocking.asleep thread false }

def stop (blocking : BlockingQueue Thread Element) : BlockingQueue Thread Element :=
  { blocking with active := false }.notifyAll

/-! ### Sleepers have nothing to read -/

def Restful (blocking : BlockingQueue Thread Element) : Prop :=
  ∀ thread, blocking.asleep thread = true → blocking.mustWait = true

omit [DecidableEq Thread] in
theorem restful_empty : Restful (empty : BlockingQueue Thread Element) := by
  intro thread impossible
  cases impossible

omit [DecidableEq Thread] in
theorem restful_notifyAll (blocking : BlockingQueue Thread Element) :
    blocking.notifyAll.Restful := by
  intro thread impossible
  cases impossible

omit [DecidableEq Thread] in
theorem Restful.dequeue {blocking : BlockingQueue Thread Element}
    (restful : blocking.Restful) : blocking.dequeue.2.Restful := by
  intro thread sleeps
  cases content : blocking.queue with
  | nil =>
      simp only [BlockingQueue.dequeue, content] at sleeps ⊢
      exact restful thread sleeps
  | cons element rest =>
      simp only [BlockingQueue.dequeue, content] at sleeps
      have blocked := restful thread sleeps
      simp [mustWait, content] at blocked

theorem Restful.sleep {blocking : BlockingQueue Thread Element} {thread : Thread}
    (must : blocking.mustWait = true) : (blocking.sleep thread).Restful :=
  fun _ _ => must

theorem Restful.wakeSpuriously {blocking : BlockingQueue Thread Element}
    (restful : blocking.Restful) (thread : Thread) :
    (blocking.wakeSpuriously thread).Restful := by
  intro other sleeps
  apply restful other
  by_cases same : other = thread
  · subst same
    simp [BlockingQueue.wakeSpuriously] at sleeps
  · simpa [BlockingQueue.wakeSpuriously, Function.update_of_ne same] using sleeps

omit [DecidableEq Thread] in
theorem Restful.queue_eq_nil {blocking : BlockingQueue Thread Element}
    (restful : blocking.Restful) {thread : Thread} (sleeps : blocking.asleep thread = true) :
    blocking.queue = [] := by
  have must := restful thread sleeps
  simp only [mustWait, Bool.and_eq_true, List.isEmpty_iff] at must
  exact must.2

omit [DecidableEq Thread] in
theorem Restful.active {blocking : BlockingQueue Thread Element}
    (restful : blocking.Restful) {thread : Thread} (sleeps : blocking.asleep thread = true) :
    blocking.active = true := by
  have must := restful thread sleeps
  simp only [mustWait, Bool.and_eq_true] at must
  exact must.1

end BlockingQueue

end BabaIo
