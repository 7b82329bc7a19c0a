import BabaIo.EventMask

/-
One iteration of the loop in `epoll_reactor::wait`, for a descriptor other than
the interrupter.

The loop clears the reported bits, re-arms the descriptor when bits are left
over (EPOLLONESHOT has disarmed it) and then dispatches: EBADF to every event
of the descriptor when the re-arm fails, otherwise one `react` for EPOLLIN and
one for EPOLLOUT.  EPOLLERR and EPOLLHUP only choose the error code of a
dispatch that EPOLLOUT or EPOLLIN causes.
-/

set_option autoImplicit false

namespace BabaIo

/-- `error_code` is `int`; zero is success. -/
abbrev ErrorCode := Int

namespace ec

def OK : ErrorCode := 0
def EC_PEER_SOCKET_CLOSED : ErrorCode := 9000

end ec

def EBADF : ErrorCode := 9

structure Dispatch where
  direction : Direction
  code : ErrorCode
  deriving DecidableEq, Repr

def clearReported (mask : EventMask) (events : Events) : EventMask :=
  let mask := if has events EPOLLIN then mask.clearReadMask else mask
  if has events EPOLLOUT then mask.clearWriteMask else mask

def reportCode (events : Events) : Direction → ErrorCode
  | .read => if has events EPOLLHUP then (EPOLLHUP.toNat : Int) else ec.OK
  | .write => if has events EPOLLERR then (EPOLLERR.toNat : Int) else ec.OK

/-- Tasks for a failed re-arm: EBADF to each event the descriptor has. -/
def dispatchRearmError (present : Direction → Bool) : List Dispatch :=
  (if present .read then [⟨.read, EBADF⟩] else []) ++
    (if present .write then [⟨.write, EBADF⟩] else [])

def dispatchReport (events : Events) : List Dispatch :=
  (if has events EPOLLIN then [⟨.read, reportCode events .read⟩] else []) ++
    (if has events EPOLLOUT then [⟨.write, reportCode events .write⟩] else [])

/-- Whether the re-arm is attempted and fails, `result` being what
`epoll_impl::arm` returns. -/
def rearmFails (mask : EventMask) (result : ErrorCode) : Bool :=
  mask.nonzero && result != ec.OK

/-- The tasks enqueued for a report, once `mask` is the mask left after
clearing the reported bits. -/
def dispatches (present : Direction → Bool) (mask : EventMask)
    (events : Events) (result : ErrorCode) : List Dispatch :=
  if rearmFails mask result then dispatchRearmError present
  else dispatchReport events

def tasksFor (tasks : List Dispatch) (direction : Direction) : Nat :=
  tasks.countP (fun task => task.direction = direction)

@[simp] theorem clearReported_has (mask : EventMask) (events : Events)
    (direction : Direction) :
    (clearReported mask events).has direction =
      (mask.has direction && !has events direction.bit) := by
  unfold clearReported EventMask.clearReadMask EventMask.clearWriteMask
  cases readable : has events EPOLLIN <;> cases writable : has events EPOLLOUT <;>
    cases direction <;> simp [Direction.bit, readable, writable]

theorem mem_dispatchRearmError (present : Direction → Bool) (task : Dispatch) :
    task ∈ dispatchRearmError present ↔
      present task.direction = true ∧ task.code = EBADF := by
  obtain ⟨direction, code⟩ := task
  unfold dispatchRearmError
  cases readable : present .read <;> cases writable : present .write <;>
    cases direction <;> simp [readable, writable]

@[simp] theorem tasksFor_nil (direction : Direction) : tasksFor [] direction = 0 := rfl

@[simp] theorem tasksFor_append (first second : List Dispatch)
    (direction : Direction) :
    tasksFor (first ++ second) direction =
      tasksFor first direction + tasksFor second direction := by
  unfold tasksFor
  exact List.countP_append

theorem tasksFor_eq_zero (tasks : List Dispatch) (direction : Direction) :
    tasksFor tasks direction = 0 ↔
      ∀ task, task ∈ tasks → task.direction ≠ direction := by
  unfold tasksFor
  rw [List.countP_eq_zero]
  simp

@[simp] theorem tasksFor_dispatchReport (events : Events) (direction : Direction) :
    tasksFor (dispatchReport events) direction =
      if has events direction.bit then 1 else 0 := by
  unfold dispatchReport tasksFor
  cases readable : has events EPOLLIN <;> cases writable : has events EPOLLOUT <;>
    cases direction <;> simp [Direction.bit, readable, writable]

@[simp] theorem tasksFor_dispatchRearmError (present : Direction → Bool)
    (direction : Direction) :
    tasksFor (dispatchRearmError present) direction =
      if present direction then 1 else 0 := by
  unfold dispatchRearmError tasksFor
  cases readable : present .read <;> cases writable : present .write <;>
    cases direction <;> simp [readable, writable]

theorem tasksFor_eraseIdx (tasks : List Dispatch) (index : Nat) (task : Dispatch)
    (found : tasks[index]? = some task) (direction : Direction) :
    tasksFor tasks direction =
      tasksFor (tasks.eraseIdx index) direction +
        if task.direction = direction then 1 else 0 := by
  induction tasks generalizing index with
  | nil => simp at found
  | cons head rest ih =>
      cases index with
      | zero =>
          have same : head = task := by simpa using found
          subst same
          simp [tasksFor, List.countP_cons]
      | succ index =>
          have later : rest[index]? = some task := by simpa using found
          have counted := ih index later
          simp only [tasksFor, List.eraseIdx_cons_succ, List.countP_cons] at counted ⊢
          omega

end BabaIo
