import BabaIo.Library.Tally
import Mathlib.Data.Finset.Basic

/-
Reference-counted cells that keep references to each other.

A cell is alive as long as its count is positive.  Giving up a reference lowers
a count; the cell whose count reaches zero is destroyed and gives up the
references it keeps.  Which cells a list of given-up references destroys depends
on the whole graph: exactly those that nothing outside holds and that only
destroyed cells keep.
-/

set_option autoImplicit false

namespace BabaIo.SharedRefs

variable {Cell : Type*} [DecidableEq Cell]

/-- Give up the pending references in order.  The result is the remaining counts
and the destroyed cells, in the order of their destruction. -/
def release (keeps : Cell → List Cell) :
    Nat → (Cell → Nat) → List Cell → (Cell → Nat) × List Cell
  | _, counts, [] => (counts, [])
  | 0, counts, _ :: _ => (counts, [])
  | fuel + 1, counts, cell :: pending =>
      let left := Function.update counts cell (counts cell - 1)
      if counts cell = 1 then
        let later := release keeps fuel left (keeps cell ++ pending)
        (later.1, cell :: later.2)
      else release keeps fuel left pending

@[simp] theorem release_nil (keeps : Cell → List Cell) (fuel : Nat)
    (counts : Cell → Nat) : release keeps fuel counts [] = (counts, []) := by
  cases fuel <;> rfl

def overLive (cells : Finset Cell) (counts : Cell → Nat) (amount : Cell → Nat) : Nat :=
  ∑ holder ∈ cells, if 0 < counts holder then amount holder else 0

/-- Fuel that suffices: each reference is given up at most once. -/
def weight (cells : Finset Cell) (keeps : Cell → List Cell) (counts : Cell → Nat) : Nat :=
  overLive cells counts fun holder => (keeps holder).length

/-- Every count is the number of references: those from outside, those that live
cells keep, and those about to be given up. -/
structure Balanced (cells : Finset Cell) (keeps : Cell → List Cell)
    (outside counts : Cell → Nat) (pending : List Cell) : Prop where
  known : ∀ cell, 0 < counts cell → cell ∈ cells
  counted : ∀ cell, counts cell =
    outside cell + overLive cells counts (fun holder => (keeps holder).count cell) +
      pending.count cell

/-- Nothing outside holds the cell, and only doomed cells keep it. -/
inductive Doomed (keeps : Cell → List Cell) (outside counts : Cell → Nat) :
    Cell → Prop where
  | intro (cell : Cell) (live : 0 < counts cell) (free : outside cell = 0)
      (holders : ∀ holder, 0 < counts holder → cell ∈ keeps holder →
        Doomed keeps outside counts holder) :
      Doomed keeps outside counts cell

variable {cells : Finset Cell} {keeps : Cell → List Cell}
variable {outside counts : Cell → Nat} {pending : List Cell}

/-! ### One reference -/

omit [DecidableEq Cell] in
theorem overLive_congr {other : Cell → Nat} (amount : Cell → Nat)
    (same : ∀ cell, 0 < other cell ↔ 0 < counts cell) :
    overLive cells other amount = overLive cells counts amount := by
  apply Finset.sum_congr rfl
  intro holder _member
  simp only [same]

theorem overLive_die (amount : Cell → Nat) {cell : Cell} (member : cell ∈ cells)
    (live : 0 < counts cell) :
    overLive cells counts amount =
      amount cell + overLive cells (Function.update counts cell 0) amount := by
  have split := sum_update cells (fun holder count => if 0 < count then amount holder else 0)
    counts member 0
  rw [if_pos live, if_neg (Nat.lt_irrefl 0)] at split
  unfold overLive
  omega

/-- References change hands without a change of the counts. -/
theorem Balanced.shift {elsewhere : Cell → Nat} {rest : List Cell}
    (balanced : Balanced cells keeps outside counts pending)
    (same : ∀ cell, elsewhere cell + rest.count cell = outside cell + pending.count cell) :
    Balanced cells keeps elsewhere counts rest := by
  refine ⟨balanced.known, fun cell => ?_⟩
  have counted := balanced.counted cell
  have moved := same cell
  omega

/-- References to live cells are copied. -/
theorem Balanced.copy {elsewhere : Cell → Nat} {copies : List Cell}
    (balanced : Balanced cells keeps outside counts pending)
    (live : ∀ cell ∈ copies, 0 < counts cell)
    (more : ∀ cell, elsewhere cell = outside cell + copies.count cell) :
    Balanced cells keeps elsewhere (fun cell => counts cell + copies.count cell)
      pending := by
  have alive : ∀ cell, 0 < counts cell + copies.count cell ↔ 0 < counts cell := by
    intro cell
    by_cases copied : cell ∈ copies
    · have positive := live cell copied
      omega
    · rw [List.count_eq_zero.mpr copied, Nat.add_zero]
  refine ⟨fun cell positive => balanced.known cell ((alive cell).mp positive), ?_⟩
  intro cell
  have counted := balanced.counted cell
  have copied := more cell
  rw [overLive_congr _ alive]
  omega

/-- A live cell keeps other references than before. -/
theorem Balanced.keep {elsewhere : Cell → Nat} {holder : Cell}
    (balanced : Balanced cells keeps outside counts pending) (live : 0 < counts holder)
    (refs : List Cell)
    (same : ∀ cell, elsewhere cell + refs.count cell =
      outside cell + (keeps holder).count cell) :
    Balanced cells (Function.update keeps holder refs) elsewhere counts pending := by
  refine ⟨balanced.known, fun cell => ?_⟩
  have counted := balanced.counted cell
  have moved := same cell
  have split := sum_update cells
    (fun other kept => if 0 < counts other then kept.count cell else 0) keeps
    (balanced.known holder live) refs
  rw [if_pos live, if_pos live] at split
  simp only [overLive] at counted ⊢
  omega

/-- A new cell with one reference to it, from outside. -/
theorem Balanced.add {elsewhere : Cell → Nat} {fresh : Cell}
    (balanced : Balanced cells keeps outside counts pending) (unused : fresh ∉ cells)
    (more : ∀ cell, elsewhere cell = outside cell + [fresh].count cell) :
    Balanced (insert fresh cells) (Function.update keeps fresh []) elsewhere
      (Function.update counts fresh 1) pending := by
  have none : counts fresh = 0 :=
    Nat.eq_zero_of_not_pos fun positive => unused (balanced.known fresh positive)
  constructor
  · intro cell positive
    by_cases same : cell = fresh
    · exact Finset.mem_insert.mpr (Or.inl same)
    · rw [Function.update_of_ne same] at positive
      exact Finset.mem_insert_of_mem (balanced.known cell positive)
  · intro cell
    have counted := balanced.counted cell
    have one := more cell
    have others : overLive (insert fresh cells) (Function.update counts fresh 1)
          (fun holder => (Function.update keeps fresh [] holder).count cell) =
        overLive cells counts (fun holder => (keeps holder).count cell) := by
      simp only [overLive]
      rw [Finset.sum_insert unused, Function.update_self, Function.update_self,
        List.count_nil, if_pos Nat.one_pos, Nat.zero_add]
      apply Finset.sum_congr rfl
      intro holder member
      have different : holder ≠ fresh := by
        intro same
        subst same
        exact unused member
      rw [Function.update_of_ne different, Function.update_of_ne different]
    rw [others]
    by_cases same : cell = fresh
    · subst cell
      rw [List.count_singleton_self] at one
      rw [Function.update_self]
      omega
    · rw [List.count_singleton, if_neg (by simpa using Ne.symm same)] at one
      rw [Function.update_of_ne same]
      omega

theorem Balanced.pendingLive {cell : Cell}
    (balanced : Balanced cells keeps outside counts (cell :: pending)) :
    0 < counts cell := by
  have counted := balanced.counted cell
  rw [List.count_cons_self] at counted
  omega

theorem Balanced.destroy {cell : Cell}
    (balanced : Balanced cells keeps outside counts (cell :: pending))
    (last : counts cell = 1) :
    Balanced cells keeps outside (Function.update counts cell (counts cell - 1))
      (keeps cell ++ pending) := by
  have live := balanced.pendingLive
  have member := balanced.known cell live
  have dead : counts cell - 1 = 0 := by omega
  rw [dead]
  constructor
  · intro other positive
    by_cases same : other = cell
    · rw [same, Function.update_self] at positive
      cases positive
    · rw [Function.update_of_ne same] at positive
      exact balanced.known other positive
  · intro other
    have counted := balanced.counted other
    have split := overLive_die (fun holder => (keeps holder).count other) member live
    rw [split] at counted
    rw [List.count_append]
    by_cases same : other = cell
    · subst other
      rw [List.count_cons_self, last] at counted
      rw [Function.update_self]
      omega
    · rw [List.count_cons_of_ne (Ne.symm same)] at counted
      rw [Function.update_of_ne same]
      omega

theorem Balanced.drop {cell : Cell}
    (balanced : Balanced cells keeps outside counts (cell :: pending))
    (shared : counts cell ≠ 1) :
    (∀ other, 0 < Function.update counts cell (counts cell - 1) other ↔ 0 < counts other) ∧
      Balanced cells keeps outside (Function.update counts cell (counts cell - 1))
        pending := by
  have live := balanced.pendingLive
  have alive : ∀ other,
      0 < Function.update counts cell (counts cell - 1) other ↔ 0 < counts other := by
    intro other
    by_cases same : other = cell
    · rw [same, Function.update_self]
      omega
    · rw [Function.update_of_ne same]
  refine ⟨alive, fun other positive => balanced.known other ((alive other).mp positive), ?_⟩
  intro other
  have counted := balanced.counted other
  rw [overLive_congr _ alive]
  by_cases same : other = cell
  · subst other
    rw [List.count_cons_self] at counted
    rw [Function.update_self]
    omega
  · rw [List.count_cons_of_ne (Ne.symm same)] at counted
    rw [Function.update_of_ne same]
    exact counted

/-! ### The whole cascade -/

theorem release_balanced {fuel : Nat}
    (balanced : Balanced cells keeps outside counts pending)
    (enough : weight cells keeps counts + pending.length ≤ fuel) :
    Balanced cells keeps outside (release keeps fuel counts pending).1 [] := by
  induction fuel generalizing counts pending with
  | zero =>
      cases pending with
      | nil => exact balanced
      | cons cell pending =>
          rw [List.length_cons] at enough
          omega
  | succ fuel ih =>
      cases pending with
      | nil => exact balanced
      | cons cell pending =>
          rw [List.length_cons] at enough
          unfold release
          by_cases last : counts cell = 1
          · have live := balanced.pendingLive
            have split := overLive_die (fun holder => (keeps holder).length)
              (balanced.known cell live) live
            have dead : counts cell - 1 = 0 := by omega
            rw [if_pos last]
            apply ih (balanced.destroy last)
            unfold weight at enough ⊢
            rw [split] at enough
            rw [List.length_append, dead]
            omega
          · obtain ⟨alive, dropped⟩ := balanced.drop last
            rw [if_neg last]
            apply ih dropped
            unfold weight at enough ⊢
            rw [overLive_congr _ alive]
            omega

theorem release_le (fuel : Nat) (counts : Cell → Nat) (pending : List Cell)
    (cell : Cell) : (release keeps fuel counts pending).1 cell ≤ counts cell := by
  have lowered : ∀ (counts : Cell → Nat) (lost : Cell),
      Function.update counts lost (counts lost - 1) cell ≤ counts cell := by
    intro counts lost
    by_cases same : cell = lost
    · rw [same, Function.update_self]
      exact Nat.sub_le _ _
    · rw [Function.update_of_ne same]
  induction fuel generalizing counts pending with
  | zero => cases pending <;> exact Nat.le_refl _
  | succ fuel ih =>
      cases pending with
      | nil => exact Nat.le_refl _
      | cons lost pending =>
          unfold release
          by_cases last : counts lost = 1
          · rw [if_pos last]
            exact (ih _ _).trans (lowered counts lost)
          · rw [if_neg last]
            exact (ih _ _).trans (lowered counts lost)

/-- The destroyed cells are those whose count went to zero. -/
theorem mem_release_iff (fuel : Nat) (counts : Cell → Nat) (pending : List Cell)
    (cell : Cell) :
    cell ∈ (release keeps fuel counts pending).2 ↔
      0 < counts cell ∧ (release keeps fuel counts pending).1 cell = 0 := by
  induction fuel generalizing counts pending with
  | zero =>
      cases pending <;> simp [release] <;> omega
  | succ fuel ih =>
      cases pending with
      | nil =>
          simp [release]
          omega
      | cons lost pending =>
          unfold release
          by_cases last : counts lost = 1
          · rw [if_pos last]
            have gone : (release keeps fuel (Function.update counts lost (counts lost - 1))
                (keeps lost ++ pending)).1 cell ≤
                  Function.update counts lost (counts lost - 1) cell :=
              release_le fuel _ _ cell
            simp only [List.mem_cons, ih]
            by_cases same : cell = lost
            · subst cell
              rw [Function.update_self] at gone
              simp only [true_or, true_iff]
              omega
            · rw [Function.update_of_ne same]
              simp only [same, false_or]
          · rw [if_neg last, ih]
            by_cases same : cell = lost
            · rw [same, Function.update_self]
              have alive : 0 < counts lost - 1 ↔ 0 < counts lost := by omega
              rw [alive]
            · rw [Function.update_of_ne same]

/-- No cell is destroyed twice. -/
theorem release_nodup (fuel : Nat) (counts : Cell → Nat) (pending : List Cell) :
    (release keeps fuel counts pending).2.Nodup := by
  induction fuel generalizing counts pending with
  | zero => cases pending <;> exact List.nodup_nil
  | succ fuel ih =>
      cases pending with
      | nil => exact List.nodup_nil
      | cons lost pending =>
          unfold release
          by_cases last : counts lost = 1
          · rw [if_pos last]
            refine List.nodup_cons.mpr ⟨?_, ih _ _⟩
            intro again
            have still := ((mem_release_iff fuel _ _ lost).mp again).1
            rw [Function.update_self] at still
            omega
          · rw [if_neg last]
            exact ih _ _

omit [DecidableEq Cell] in
/-- What is doomed once a doomed cell is gone was doomed before. -/
theorem Doomed.of_later {later : Cell → Nat} {cell : Cell}
    (doomed : Doomed keeps outside later cell)
    (fewer : ∀ holder, 0 < later holder → 0 < counts holder)
    (gone : ∀ holder, 0 < counts holder → later holder = 0 →
      Doomed keeps outside counts holder) :
    Doomed keeps outside counts cell := by
  induction doomed with
  | intro cell live free holders ih =>
      refine .intro cell (fewer cell live) free ?_
      intro holder holderLive kept
      by_cases still : 0 < later holder
      · exact ih holder still kept
      · exact gone holder holderLive (Nat.eq_zero_of_not_pos still)

theorem Balanced.lastHeld {cell : Cell}
    (balanced : Balanced cells keeps outside counts (cell :: pending))
    (last : counts cell = 1) : Doomed keeps outside counts cell := by
  have counted := balanced.counted cell
  rw [last, List.count_cons_self] at counted
  refine .intro cell balanced.pendingLive (by omega) ?_
  intro holder live kept
  have split := overLive_die (fun other => (keeps other).count cell)
    (balanced.known holder live) live
  have positive : 0 < (keeps holder).count cell := List.count_pos_iff.mpr kept
  omega

theorem doomed_of_mem_release {fuel : Nat}
    (balanced : Balanced cells keeps outside counts pending) {cell : Cell}
    (destroyed : cell ∈ (release keeps fuel counts pending).2) :
    Doomed keeps outside counts cell := by
  induction fuel generalizing counts pending with
  | zero => cases pending <;> cases destroyed
  | succ fuel ih =>
      cases pending with
      | nil => cases destroyed
      | cons lost pending =>
          unfold release at destroyed
          by_cases last : counts lost = 1
          · have lostDoomed := balanced.lastHeld last
            rw [if_pos last] at destroyed
            rcases List.mem_cons.mp destroyed with same | later
            · exact same ▸ lostDoomed
            · apply (ih (balanced.destroy last) later).of_later
              · intro holder live
                by_cases same : holder = lost
                · rw [same]
                  exact balanced.pendingLive
                · rwa [Function.update_of_ne same] at live
              · intro holder live dead
                by_cases same : holder = lost
                · exact same ▸ lostDoomed
                · rw [Function.update_of_ne same] at dead
                  omega
          · obtain ⟨alive, dropped⟩ := balanced.drop last
            rw [if_neg last] at destroyed
            apply (ih dropped destroyed).of_later
            · exact fun holder => (alive holder).mp
            · intro holder live dead
              have still := (alive holder).mpr live
              omega

/-- The cascade destroys exactly the doomed cells. -/
theorem mem_release_iff_doomed {fuel : Nat}
    (balanced : Balanced cells keeps outside counts pending)
    (enough : weight cells keeps counts + pending.length ≤ fuel) (cell : Cell) :
    cell ∈ (release keeps fuel counts pending).2 ↔
      Doomed keeps outside counts cell := by
  have settled := release_balanced balanced enough
  constructor
  · exact doomed_of_mem_release balanced
  · intro doomed
    induction doomed with
    | intro cell live free holders ih =>
        refine (mem_release_iff fuel counts pending cell).mpr ⟨live, ?_⟩
        rw [settled.counted cell, free, List.count_nil, Nat.zero_add, Nat.add_zero]
        apply Finset.sum_eq_zero
        intro holder _member
        by_cases still : 0 < (release keeps fuel counts pending).1 holder
        · have holderLive : 0 < counts holder :=
            Nat.lt_of_lt_of_le still (release_le fuel counts pending holder)
          rw [if_pos still]
          apply List.count_eq_zero.mpr
          intro kept
          have dead := ((mem_release_iff fuel counts pending holder).mp
            (ih holder holderLive kept)).2
          omega
        · rw [if_neg still]

end BabaIo.SharedRefs
