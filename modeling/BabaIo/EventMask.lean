import Mathlib.Tactic.Common

/-
The 32-bit event masks of epoll and the mask operations of
`reactor_io_descriptor`.

A descriptor listens for at most one read event and one write event, so its
`event_mask` never holds a bit other than EPOLLIN and EPOLLOUT.  The type
`EventMask` carries that fact; a report of the kernel is an unrestricted word.
-/

set_option autoImplicit false

namespace BabaIo

/-- A word of epoll event bits, `uint32_t` in the source. -/
abbrev Events := BitVec 32

def EPOLLIN : Events := 0x001#32
def EPOLLOUT : Events := 0x004#32
def EPOLLERR : Events := 0x008#32
def EPOLLHUP : Events := 0x010#32

inductive Direction where
  | read
  | write
  deriving DecidableEq, Repr

def Direction.bit : Direction → Events
  | .read => EPOLLIN
  | .write => EPOLLOUT

def has (events flag : Events) : Bool := events &&& flag != 0#32

theorem has_twoPow (events : Events) (index : Nat) (inside : index < 32) :
    has events (BitVec.twoPow 32 index) = events.getLsbD index := by
  unfold has
  rw [BitVec.and_twoPow]
  cases present : events.getLsbD index with
  | false => simp
  | true =>
      have nonzero : BitVec.twoPow 32 index ≠ 0#32 := by
        intro zero
        have bitEq := congrArg (fun word => word.getLsbD index) zero
        simp [inside] at bitEq
      simpa using nonzero

def Direction.index : Direction → Nat
  | .read => 0
  | .write => 2

theorem Direction.bit_eq_twoPow (direction : Direction) :
    direction.bit = BitVec.twoPow 32 direction.index := by
  cases direction <;> rfl

theorem Direction.index_lt (direction : Direction) : direction.index < 32 := by
  cases direction <;> decide

theorem Direction.index_inj (left right : Direction) :
    left.index = right.index ↔ left = right := by
  cases left <;> cases right <;> decide

theorem has_bit (events : Events) (direction : Direction) :
    has events direction.bit = events.getLsbD direction.index := by
  rw [direction.bit_eq_twoPow, has_twoPow events _ direction.index_lt]

theorem Direction.getLsbD_bit (direction : Direction) (index : Nat) :
    direction.bit.getLsbD index = decide (direction.index = index) := by
  rw [direction.bit_eq_twoPow, BitVec.getLsbD_twoPow]
  simp [direction.index_lt]

/-! ### The mask of a descriptor -/

/-- `event_mask` of `reactor_io_descriptor`. -/
structure EventMask where
  bits : Events
  onlyDirections : bits &&& ~~~(EPOLLIN ||| EPOLLOUT) = 0#32
  deriving DecidableEq

def EventMask.empty : EventMask := ⟨0#32, by decide⟩

def EventMask.has (mask : EventMask) (direction : Direction) : Bool :=
  BabaIo.has mask.bits direction.bit

private theorem setBit_onlyDirections (bits : Events) (direction : Direction)
    (only : bits &&& ~~~(EPOLLIN ||| EPOLLOUT) = 0#32) :
    (bits ||| direction.bit) &&& ~~~(EPOLLIN ||| EPOLLOUT) = 0#32 := by
  rw [BitVec.and_or_distrib_right, only]
  cases direction <;> decide

private theorem clearBit_onlyDirections (bits : Events) (direction : Direction)
    (only : bits &&& ~~~(EPOLLIN ||| EPOLLOUT) = 0#32) :
    (bits &&& ~~~direction.bit) &&& ~~~(EPOLLIN ||| EPOLLOUT) = 0#32 := by
  rw [BitVec.and_assoc, BitVec.and_comm (~~~direction.bit), ← BitVec.and_assoc,
    only, BitVec.zero_and]

def EventMask.setMask (mask : EventMask) (direction : Direction) : EventMask :=
  ⟨mask.bits ||| direction.bit,
    setBit_onlyDirections mask.bits direction mask.onlyDirections⟩

def EventMask.clearMask (mask : EventMask) (direction : Direction) : EventMask :=
  ⟨mask.bits &&& ~~~direction.bit,
    clearBit_onlyDirections mask.bits direction mask.onlyDirections⟩

def EventMask.setReadMask (mask : EventMask) : EventMask := mask.setMask .read
def EventMask.setWriteMask (mask : EventMask) : EventMask := mask.setMask .write
def EventMask.clearReadMask (mask : EventMask) : EventMask :=
  mask.clearMask .read
def EventMask.clearWriteMask (mask : EventMask) : EventMask :=
  mask.clearMask .write

def EventMask.nonzero (mask : EventMask) : Bool := mask.bits != 0#32

@[simp] theorem EventMask.has_empty (direction : Direction) :
    EventMask.empty.has direction = false := by
  cases direction <;> decide

@[simp] theorem EventMask.has_setMask (mask : EventMask)
    (changed direction : Direction) :
    (mask.setMask changed).has direction =
      (decide (direction = changed) || mask.has direction) := by
  unfold EventMask.has EventMask.setMask
  rw [has_bit, has_bit, BitVec.getLsbD_or,
    changed.getLsbD_bit, Bool.or_comm]
  simp only [Direction.index_inj, eq_comm]

@[simp] theorem EventMask.has_clearMask (mask : EventMask)
    (changed direction : Direction) :
    (mask.clearMask changed).has direction =
      (decide (direction ≠ changed) && mask.has direction) := by
  unfold EventMask.has EventMask.clearMask
  rw [has_bit, has_bit, BitVec.getLsbD_and, BitVec.getLsbD_not,
    changed.getLsbD_bit, Bool.and_comm]
  simp [direction.index_lt, Direction.index_inj, eq_comm]

theorem EventMask.bits_eq_zero (mask : EventMask)
    (none : ∀ direction, mask.has direction = false) : mask.bits = 0#32 := by
  apply BitVec.eq_of_getLsbD_eq
  intro index inside
  by_cases named : ∃ direction : Direction, direction.index = index
  · obtain ⟨direction, rfl⟩ := named
    have cleared : mask.bits.getLsbD direction.index = false := by
      rw [← has_bit]
      exact none direction
    simpa using cleared
  · have unnamed : ∀ direction : Direction, direction.index ≠ index :=
      fun direction same => named ⟨direction, same⟩
    have allowed : (~~~(EPOLLIN ||| EPOLLOUT)).getLsbD index = true := by
      change (~~~(Direction.read.bit ||| Direction.write.bit)).getLsbD index = true
      rw [BitVec.getLsbD_not, BitVec.getLsbD_or,
        Direction.getLsbD_bit, Direction.getLsbD_bit]
      simp [inside, unnamed]
    have cleared := congrArg (fun word => word.getLsbD index) mask.onlyDirections
    simp only [BitVec.getLsbD_and, allowed, Bool.and_true] at cleared
    simpa using cleared

theorem EventMask.nonzero_iff (mask : EventMask) :
    mask.nonzero = true ↔ ∃ direction, mask.has direction = true := by
  constructor
  · intro nonzero
    by_contra absent
    have none : ∀ direction, mask.has direction = false := by
      intro direction
      cases present : mask.has direction with
      | false => rfl
      | true => exact False.elim (absent ⟨direction, present⟩)
    simp [EventMask.nonzero, mask.bits_eq_zero none] at nonzero
  · rintro ⟨direction, present⟩
    by_contra zero
    have bitsZero : mask.bits = 0#32 := by
      simpa [EventMask.nonzero] using zero
    simp [EventMask.has, BabaIo.has, bitsZero] at present

/-- A bit is set, cleared or kept: the mask is known by its two directions. -/
theorem EventMask.nonzero_eq_false_iff (mask : EventMask) :
    mask.nonzero = false ↔ ∀ direction, mask.has direction = false := by
  rw [← Bool.not_eq_true, mask.nonzero_iff]
  simp

end BabaIo
