import BabaIo.ReactorWait
import Mathlib.Logic.Function.Basic

/-
The kernel's side of `epoll_impl`: the table of open file descriptors and the
registrations of one epoll instance.

A registration lives as long as the open file it was made for: EPOLL_CTL_DEL
removes it, and so does closing the number.  A closed number may be handed out
again, and the new file starts without a registration.
-/

set_option autoImplicit false

namespace BabaIo

abbrev Fd := Nat

abbrev ObjectId := Nat

def ENOENT : ErrorCode := 2
def EEXIST : ErrorCode := 17

/-- `data.ptr` of a registration is the descriptor of an object. -/
structure Registration where
  ptr : ObjectId
  interest : EventMask
  deriving DecidableEq

structure Kernel where
  /-- The object that opened the file behind a number. -/
  owner : Fd → Option ObjectId
  epoll : Fd → Option Registration

namespace Kernel

def init : Kernel :=
  { owner := fun _ => none
    epoll := fun _ => none }

def openFile (kernel : Kernel) (fd : Fd) (object : ObjectId) : Kernel :=
  { kernel with owner := Function.update kernel.owner fd (some object) }

def close (kernel : Kernel) (fd : Fd) : Kernel :=
  { owner := Function.update kernel.owner fd none
    epoll := Function.update kernel.epoll fd none }

def modify (kernel : Kernel) (fd : Fd) (event : Registration) : Kernel × ErrorCode :=
  match kernel.owner fd, kernel.epoll fd with
  | none, _ => (kernel, EBADF)
  | some _, none => (kernel, ENOENT)
  | some _, some _ =>
      ({ kernel with epoll := Function.update kernel.epoll fd (some event) }, ec.OK)

def add (kernel : Kernel) (fd : Fd) (event : Registration) : Kernel × ErrorCode :=
  match kernel.owner fd, kernel.epoll fd with
  | none, _ => (kernel, EBADF)
  | some _, some _ => (kernel, EEXIST)
  | some _, none =>
      ({ kernel with epoll := Function.update kernel.epoll fd (some event) }, ec.OK)

/-- `epoll_impl::arm`: MOD, and ADD when there is no registration yet. -/
def arm (kernel : Kernel) (fd : Fd) (events : EventMask) (data : ObjectId) :
    Kernel × ErrorCode :=
  let event : Registration := { ptr := data, interest := events }
  let (modified, errno) := kernel.modify fd event
  if errno = ec.OK then (modified, ec.OK)
  else if errno ≠ ENOENT then (kernel, errno)
  else kernel.add fd event

/-- `epoll_impl::remove`; an error is only logged. -/
def remove (kernel : Kernel) (fd : Fd) : Kernel :=
  { kernel with epoll := Function.update kernel.epoll fd none }

/-- EPOLLONESHOT: a reported descriptor stays registered without interest. -/
def disarm (kernel : Kernel) (fds : List Fd) : Kernel :=
  { kernel with
    epoll := fun fd =>
      if fd ∈ fds then
        (kernel.epoll fd).map fun event => { event with interest := EventMask.empty }
      else kernel.epoll fd }

/-- An arm fails on a closed number and succeeds on an open one, whoever opened
it. -/
theorem arm_eq (kernel : Kernel) (fd : Fd) (events : EventMask) (data : ObjectId) :
    kernel.arm fd events data =
      if kernel.owner fd = none then (kernel, EBADF)
      else ({ kernel with
              epoll := Function.update kernel.epoll fd
                (some { ptr := data, interest := events }) }, ec.OK) := by
  cases opened : kernel.owner fd with
  | none => simp [arm, modify, opened, EBADF, ENOENT, ec.OK]
  | some object =>
      cases registered : kernel.epoll fd with
      | none => simp [arm, modify, add, opened, registered, ENOENT, ec.OK]
      | some event => simp [arm, modify, opened, registered]

@[simp] theorem arm_owner (kernel : Kernel) (fd : Fd) (events : EventMask)
    (data : ObjectId) : (kernel.arm fd events data).1.owner = kernel.owner := by
  rw [arm_eq]
  split <;> rfl

theorem arm_succeeds_iff (kernel : Kernel) (fd : Fd) (events : EventMask)
    (data : ObjectId) :
    (kernel.arm fd events data).2 = ec.OK ↔ kernel.owner fd ≠ none := by
  rw [arm_eq]
  by_cases closed : kernel.owner fd = none
  · simp [closed, EBADF, ec.OK]
  · simp [closed]

theorem disarm_epoll {kernel : Kernel} {fds : List Fd} {fd : Fd}
    {event : Registration} (registered : (kernel.disarm fds).epoll fd = some event) :
    ∃ before, kernel.epoll fd = some before ∧ before.ptr = event.ptr := by
  unfold disarm at registered
  by_cases reported : fd ∈ fds
  · simp only [reported, if_true, Option.map_eq_some_iff] at registered
    obtain ⟨before, found, rfl⟩ := registered
    exact ⟨before, found, rfl⟩
  · simp only [reported, if_false] at registered
    exact ⟨event, registered, rfl⟩

end Kernel

end BabaIo
