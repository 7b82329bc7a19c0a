import Mathlib.Tactic.Common

/-
A recursive mutex: the thread that holds it may lock it again, and gives it up
with the last unlock.  A state names the holder together with the number of
nested locks, so a free mutex has no depth and a held one is held at least once.
-/

set_option autoImplicit false

namespace BabaIo

structure RecursiveMutex (Thread : Type) where
  /-- The holder and how often it has locked the mutex again. -/
  holder : Option (Thread × Nat)
  deriving DecidableEq

namespace RecursiveMutex

variable {Thread : Type} [DecidableEq Thread]

def free : RecursiveMutex Thread := ⟨none⟩

/-- The lock is granted unless another thread holds the mutex. -/
def lock (mutex : RecursiveMutex Thread) (thread : Thread) :
    Option (RecursiveMutex Thread) :=
  match mutex.holder with
  | none => some ⟨some (thread, 0)⟩
  | some (holder, again) =>
      if holder = thread then some ⟨some (thread, again + 1)⟩ else none

def unlock (mutex : RecursiveMutex Thread) (thread : Thread) :
    Option (RecursiveMutex Thread) :=
  match mutex.holder with
  | none => none
  | some (holder, again) =>
      if holder = thread then
        match again with
        | 0 => some ⟨none⟩
        | again + 1 => some ⟨some (thread, again)⟩
      else none

def depth (mutex : RecursiveMutex Thread) (thread : Thread) : Nat :=
  match mutex.holder with
  | none => 0
  | some (holder, again) => if holder = thread then again + 1 else 0

/-- At most one thread holds the mutex. -/
theorem depth_exclusive {mutex : RecursiveMutex Thread} {first second : Thread}
    (firstHolds : 0 < mutex.depth first) (secondHolds : 0 < mutex.depth second) :
    first = second := by
  unfold depth at firstHolds secondHolds
  cases held : mutex.holder with
  | none => simp [held] at firstHolds
  | some holder =>
      by_cases isFirst : holder.1 = first
      · by_cases isSecond : holder.1 = second
        · rw [← isFirst, isSecond]
        · simp [held, isSecond] at secondHolds
      · simp [held, isFirst] at firstHolds

theorem depth_lock {mutex next : RecursiveMutex Thread} {thread : Thread}
    (locked : mutex.lock thread = some next) (other : Thread) :
    next.depth other = mutex.depth other + if other = thread then 1 else 0 := by
  unfold lock at locked
  cases held : mutex.holder with
  | none =>
      simp only [held, Option.some.injEq] at locked
      subst next
      by_cases same : other = thread
      · simp [depth, held, same]
      · simp [depth, held, same, Ne.symm same]
  | some holder =>
      obtain ⟨owner, again⟩ := holder
      simp only [held] at locked
      by_cases mine : owner = thread
      · simp only [mine, if_true, Option.some.injEq] at locked
        subst next
        by_cases same : other = thread
        · simp [depth, held, mine, same]
        · simp [depth, held, mine, same, Ne.symm same]
      · simp [mine] at locked

theorem depth_unlock {mutex next : RecursiveMutex Thread} {thread : Thread}
    (unlocked : mutex.unlock thread = some next) (other : Thread) :
    next.depth other + (if other = thread then 1 else 0) = mutex.depth other := by
  unfold unlock at unlocked
  cases held : mutex.holder with
  | none => simp [held] at unlocked
  | some holder =>
      obtain ⟨owner, again⟩ := holder
      simp only [held] at unlocked
      by_cases mine : owner = thread
      · rw [if_pos mine] at unlocked
        subst owner
        by_cases same : other = thread
        · subst other
          cases again <;> cases unlocked <;> simp [depth, held]
        · cases again <;> cases unlocked <;>
            simp [depth, held, same, Ne.symm same]
      · simp [mine] at unlocked

end RecursiveMutex

end BabaIo
