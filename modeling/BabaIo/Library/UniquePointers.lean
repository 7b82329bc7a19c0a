import Mathlib.Logic.Function.Basic

/-
Pointers that own the cell they point to.

A cell lives as long as its one owner keeps it: it is deleted when the owner is
reset, is given a new cell or takes over the cell of another owner.  A store in
which two owners share a cell, or one points to a deleted cell, cannot be
built.
-/

set_option autoImplicit false

namespace BabaIo

abbrev CellId := Nat

structure UniquePointers (Owner Content : Type*) where
  pointer : Owner → Option CellId
  content : CellId → Option Content
  next : CellId
  allocated : ∀ owner cell, pointer owner = some cell → (content cell).isSome = true
  exclusive : ∀ first second cell,
    pointer first = some cell → pointer second = some cell → first = second
  unused : ∀ cell, next ≤ cell → content cell = none

namespace UniquePointers

variable {Owner Content : Type*}

def empty : UniquePointers Owner Content where
  pointer := fun _ => none
  content := fun _ => none
  next := 0
  allocated := fun _ _ points => by cases points
  exclusive := fun _ _ _ points => by cases points
  unused := fun _ _ => rfl

@[simp] theorem pointer_empty (owner : Owner) :
    (empty : UniquePointers Owner Content).pointer owner = none := rfl

def read (cells : UniquePointers Owner Content) (owner : Owner) : Option Content :=
  (cells.pointer owner).bind cells.content

def deleted (content : CellId → Option Content) : Option CellId → CellId → Option Content
  | none => content
  | some cell => Function.update content cell none

theorem deleted_eq_none {content : CellId → Option Content} {cell : CellId}
    (free : content cell = none) (gone : Option CellId) : deleted content gone cell = none := by
  cases gone with
  | none => exact free
  | some other =>
      by_cases same : cell = other
      · subst same
        exact Function.update_self ..
      · exact (Function.update_of_ne same ..).trans free

theorem deleted_of_ne {content : CellId → Option Content} {gone : Option CellId} {cell : CellId}
    (kept : gone ≠ some cell) : deleted content gone cell = content cell := by
  cases gone with
  | none => rfl
  | some other =>
      refine Function.update_of_ne ?_ ..
      intro same
      exact kept (same ▸ rfl)

theorem lt_next (cells : UniquePointers Owner Content) {owner : Owner} {cell : CellId}
    (points : cells.pointer owner = some cell) : cell < cells.next := by
  have present := cells.allocated owner cell points
  by_contra later
  rw [cells.unused cell (Nat.le_of_not_lt later)] at present
  cases present

/-- Another owner's cell outlives the deletion of what `owner` has. -/
theorem kept_of_ne (cells : UniquePointers Owner Content) {owner other : Owner} {cell : CellId}
    (different : other ≠ owner) (points : cells.pointer other = some cell) :
    deleted cells.content (cells.pointer owner) cell = cells.content cell := by
  refine deleted_of_ne ?_
  intro same
  exact different (cells.exclusive other owner cell points same)

theorem read_eq_none_iff (cells : UniquePointers Owner Content) (owner : Owner) :
    cells.read owner = none ↔ cells.pointer owner = none := by
  unfold read
  cases points : cells.pointer owner with
  | none => exact ⟨fun _ => rfl, fun _ => rfl⟩
  | some cell =>
      have present := cells.allocated owner cell points
      constructor
      · intro missing
        have absent : cells.content cell = none := missing
        rw [absent] at present
        cases present
      · intro missing
        cases missing

def write (cells : UniquePointers Owner Content) (cell : CellId) (value : Content) :
    UniquePointers Owner Content where
  pointer := cells.pointer
  content := Function.update cells.content cell ((cells.content cell).map fun _ => value)
  next := cells.next
  allocated := by
    intro owner other points
    have present := cells.allocated owner other points
    by_cases same : other = cell
    · subst same
      rw [Function.update_self, Option.isSome_map]
      exact present
    · rw [Function.update_of_ne same]
      exact present
  exclusive := cells.exclusive
  unused := by
    intro other later
    have absent := cells.unused other later
    by_cases same : other = cell
    · subst same
      rw [Function.update_self, absent]
      rfl
    · rw [Function.update_of_ne same]
      exact absent

@[simp] theorem pointer_write (cells : UniquePointers Owner Content) (cell : CellId)
    (value : Content) : (cells.write cell value).pointer = cells.pointer := rfl

theorem read_write {cells : UniquePointers Owner Content} {owner : Owner} {cell : CellId}
    (points : cells.pointer owner = some cell) (value : Content) :
    (cells.write cell value).read owner = some value := by
  have present := cells.allocated owner cell points
  unfold read
  rw [pointer_write, points]
  change Function.update cells.content cell _ cell = _
  rw [Function.update_self]
  obtain ⟨old, held⟩ := Option.isSome_iff_exists.mp present
  rw [held]
  rfl

theorem read_write_of_ne {cells : UniquePointers Owner Content} {owner : Owner} {cell : CellId}
    (other : cells.pointer owner ≠ some cell) (value : Content) :
    (cells.write cell value).read owner = cells.read owner := by
  unfold read
  rw [pointer_write]
  cases points : cells.pointer owner with
  | none => rfl
  | some mine =>
      refine Function.update_of_ne ?_ ..
      intro same
      exact other (points.trans (congrArg some same))

/-! ### Operations of the owners -/

variable [DecidableEq Owner]

def reset (cells : UniquePointers Owner Content) (owner : Owner) :
    UniquePointers Owner Content where
  pointer := Function.update cells.pointer owner none
  content := deleted cells.content (cells.pointer owner)
  next := cells.next
  allocated := by
    intro other cell points
    by_cases same : other = owner
    · subst same
      rw [Function.update_self] at points
      cases points
    · rw [Function.update_of_ne same] at points
      rw [cells.kept_of_ne same points]
      exact cells.allocated other cell points
  exclusive := by
    intro first second cell pointsFirst pointsSecond
    by_cases sameFirst : first = owner
    · subst sameFirst
      rw [Function.update_self] at pointsFirst
      cases pointsFirst
    · by_cases sameSecond : second = owner
      · subst sameSecond
        rw [Function.update_self] at pointsSecond
        cases pointsSecond
      · rw [Function.update_of_ne sameFirst] at pointsFirst
        rw [Function.update_of_ne sameSecond] at pointsSecond
        exact cells.exclusive first second cell pointsFirst pointsSecond
  unused := fun cell later => deleted_eq_none (cells.unused cell later) _

def alloc (cells : UniquePointers Owner Content) (owner : Owner) (value : Content) :
    UniquePointers Owner Content where
  pointer := Function.update (cells.reset owner).pointer owner (some cells.next)
  content := Function.update (cells.reset owner).content cells.next (some value)
  next := cells.next + 1
  allocated := by
    intro other cell points
    by_cases fresh : cell = cells.next
    · subst fresh
      rw [Function.update_self]
      rfl
    · by_cases same : other = owner
      · subst same
        rw [Function.update_self] at points
        exact absurd (Option.some.inj points).symm fresh
      · rw [Function.update_of_ne same] at points
        rw [Function.update_of_ne fresh]
        exact (cells.reset owner).allocated other cell points
  exclusive := by
    have below : ∀ other, other ≠ owner →
        Function.update (cells.reset owner).pointer owner (some cells.next) other ≠
          some cells.next := by
      intro other different points
      rw [Function.update_of_ne different] at points
      exact Nat.lt_irrefl _ ((cells.reset owner).lt_next points)
    intro first second cell pointsFirst pointsSecond
    by_cases sameFirst : first = owner
    · by_cases sameSecond : second = owner
      · rw [sameFirst, sameSecond]
      · subst sameFirst
        rw [Function.update_self] at pointsFirst
        exact absurd (pointsSecond.trans pointsFirst.symm) (below second sameSecond)
    · by_cases sameSecond : second = owner
      · subst sameSecond
        rw [Function.update_self] at pointsSecond
        exact absurd (pointsFirst.trans pointsSecond.symm) (below first sameFirst)
      · rw [Function.update_of_ne sameFirst] at pointsFirst
        rw [Function.update_of_ne sameSecond] at pointsSecond
        exact (cells.reset owner).exclusive first second cell pointsFirst pointsSecond
  unused := by
    intro cell later
    rw [Function.update_of_ne (Nat.ne_of_gt later)]
    exact (cells.reset owner).unused cell (Nat.le_of_succ_le later)

/-- Let `target` take over what `source` has, in place of its own cell. -/
def take (cells : UniquePointers Owner Content) (target source : Owner)
    (different : source ≠ target) : UniquePointers Owner Content where
  pointer := Function.update (Function.update cells.pointer target (cells.pointer source)) source none
  content := deleted cells.content (cells.pointer target)
  next := cells.next
  allocated := by
    intro owner cell points
    by_cases isSource : owner = source
    · subst isSource
      rw [Function.update_self] at points
      cases points
    · rw [Function.update_of_ne isSource] at points
      by_cases isTarget : owner = target
      · subst isTarget
        rw [Function.update_self] at points
        rw [cells.kept_of_ne different points]
        exact cells.allocated source cell points
      · rw [Function.update_of_ne isTarget] at points
        rw [cells.kept_of_ne isTarget points]
        exact cells.allocated owner cell points
  exclusive := by
    -- Every owner has a cell that one owner, and one only, had before.
    have before : ∀ owner cell,
        Function.update (Function.update cells.pointer target (cells.pointer source)) source none
            owner = some cell →
          owner ≠ source ∧
            cells.pointer (if owner = target then source else owner) = some cell := by
      intro owner cell points
      by_cases isSource : owner = source
      · subst isSource
        rw [Function.update_self] at points
        cases points
      · refine ⟨isSource, ?_⟩
        rw [Function.update_of_ne isSource] at points
        by_cases isTarget : owner = target
        · subst isTarget
          rw [Function.update_self] at points
          rw [if_pos rfl]
          exact points
        · rw [Function.update_of_ne isTarget] at points
          rw [if_neg isTarget]
          exact points
    intro first second cell pointsFirst pointsSecond
    obtain ⟨firstNe, hadFirst⟩ := before first cell pointsFirst
    obtain ⟨secondNe, hadSecond⟩ := before second cell pointsSecond
    have same := cells.exclusive _ _ cell hadFirst hadSecond
    by_cases firstTarget : first = target
    · by_cases secondTarget : second = target
      · rw [firstTarget, secondTarget]
      · rw [if_pos firstTarget, if_neg secondTarget] at same
        exact absurd same.symm secondNe
    · by_cases secondTarget : second = target
      · rw [if_neg firstTarget, if_pos secondTarget] at same
        exact absurd same firstNe
      · rw [if_neg firstTarget, if_neg secondTarget] at same
        exact same
  unused := fun cell later => deleted_eq_none (cells.unused cell later) _

/-- Assign one pointer to another; a pointer assigned to itself keeps its cell. -/
def move (cells : UniquePointers Owner Content) (target source : Owner) :
    UniquePointers Owner Content :=
  if different : source ≠ target then cells.take target source different else cells

/-! ### What the owners read afterwards -/

@[simp] theorem pointer_alloc_self (cells : UniquePointers Owner Content) (owner : Owner)
    (value : Content) : (cells.alloc owner value).pointer owner = some cells.next :=
  Function.update_self ..

theorem pointer_alloc_of_ne (cells : UniquePointers Owner Content) {owner other : Owner}
    (different : other ≠ owner) (value : Content) :
    (cells.alloc owner value).pointer other = cells.pointer other :=
  (Function.update_of_ne different ..).trans (Function.update_of_ne different ..)

@[simp] theorem pointer_reset_self (cells : UniquePointers Owner Content) (owner : Owner) :
    (cells.reset owner).pointer owner = none :=
  Function.update_self ..

theorem pointer_reset_of_ne (cells : UniquePointers Owner Content) {owner other : Owner}
    (different : other ≠ owner) : (cells.reset owner).pointer other = cells.pointer other :=
  Function.update_of_ne different ..

theorem pointer_move (cells : UniquePointers Owner Content) (target source owner : Owner) :
    (cells.move target source).pointer owner =
      if owner = target then cells.pointer source
      else if owner = source then none else cells.pointer owner := by
  unfold move
  by_cases different : source ≠ target
  · rw [dif_pos different]
    by_cases isTarget : owner = target
    · subst isTarget
      rw [if_pos rfl]
      exact (Function.update_of_ne different.symm ..).trans (Function.update_self ..)
    · rw [if_neg isTarget]
      by_cases isSource : owner = source
      · subst isSource
        rw [if_pos rfl]
        exact Function.update_self ..
      · rw [if_neg isSource]
        exact (Function.update_of_ne isSource ..).trans (Function.update_of_ne isTarget ..)
  · rw [dif_neg different]
    have same : source = target := not_not.mp different
    subst same
    by_cases isSource : owner = source
    · rw [if_pos isSource, isSource]
    · rw [if_neg isSource, if_neg isSource]

@[simp] theorem pointer_move_target (cells : UniquePointers Owner Content)
    (target source : Owner) : (cells.move target source).pointer target = cells.pointer source := by
  rw [pointer_move, if_pos rfl]

theorem read_reset_of_ne (cells : UniquePointers Owner Content) {owner other : Owner}
    (different : other ≠ owner) : (cells.reset owner).read other = cells.read other := by
  unfold read
  rw [pointer_reset_of_ne cells different]
  cases points : cells.pointer other with
  | none => rfl
  | some cell => exact cells.kept_of_ne different points

theorem read_alloc_self (cells : UniquePointers Owner Content) (owner : Owner)
    (value : Content) : (cells.alloc owner value).read owner = some value := by
  unfold read
  rw [pointer_alloc_self]
  exact Function.update_self ..

theorem read_alloc_of_ne (cells : UniquePointers Owner Content) {owner other : Owner}
    (different : other ≠ owner) (value : Content) :
    (cells.alloc owner value).read other = cells.read other := by
  have kept := cells.read_reset_of_ne different
  unfold read at kept ⊢
  rw [pointer_alloc_of_ne cells different]
  rw [pointer_reset_of_ne cells different] at kept
  cases points : cells.pointer other with
  | none => rfl
  | some cell =>
      rw [points] at kept
      exact (Function.update_of_ne (Nat.ne_of_lt (cells.lt_next points)) ..).trans kept

theorem read_move_target (cells : UniquePointers Owner Content) (target source : Owner) :
    (cells.move target source).read target = cells.read source := by
  unfold read
  rw [pointer_move_target]
  cases points : cells.pointer source with
  | none => rfl
  | some cell =>
      unfold move
      by_cases different : source ≠ target
      · rw [dif_pos different]
        exact cells.kept_of_ne different points
      · rw [dif_neg different]

theorem read_move_source (cells : UniquePointers Owner Content) {target source : Owner}
    (different : source ≠ target) : (cells.move target source).read source = none := by
  refine (read_eq_none_iff _ _).mpr ?_
  rw [pointer_move, if_neg different, if_pos rfl]

theorem read_move_of_ne (cells : UniquePointers Owner Content) {target source other : Owner}
    (notTarget : other ≠ target) (notSource : other ≠ source) :
    (cells.move target source).read other = cells.read other := by
  unfold read
  rw [pointer_move, if_neg notTarget, if_neg notSource]
  cases points : cells.pointer other with
  | none => rfl
  | some cell =>
      unfold move
      by_cases different : source ≠ target
      · rw [dif_pos different]
        exact cells.kept_of_ne notTarget points
      · rw [dif_neg different]

end UniquePointers

end BabaIo
