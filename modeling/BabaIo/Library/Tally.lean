import Mathlib.Algebra.BigOperators.Group.Finset.Basic
import Mathlib.Algebra.BigOperators.Intervals
import Mathlib.Algebra.Order.BigOperators.Group.Finset
import Mathlib.Data.List.Count
import Mathlib.Tactic.Common

/-
How often the entries of a numbered table hold a resource.

A table has finitely many entries in use.  Replacing one entry changes the tally
of a resource by what the two entries hold, so an account of resources can be
kept by linear arithmetic, one replaced entry at a time.
-/

set_option autoImplicit false

namespace BabaIo

theorem sum_update {Index Value : Type*} [DecidableEq Index] (indices : Finset Index)
    (amount : Index → Value → Nat) (values : Index → Value) {index : Index}
    (member : index ∈ indices) (value : Value) :
    (∑ other ∈ indices, amount other (Function.update values index value other)) +
        amount index (values index) =
      (∑ other ∈ indices, amount other (values other)) + amount index value := by
  have elsewhere : ∑ other ∈ indices.erase index,
        amount other (Function.update values index value other) =
      ∑ other ∈ indices.erase index, amount other (values other) := by
    apply Finset.sum_congr rfl
    intro other erased
    rw [Function.update_of_ne (Finset.ne_of_mem_erase erased)]
  rw [← Finset.add_sum_erase indices _ member,
    ← Finset.add_sum_erase indices (fun other => amount other (values other)) member,
    Function.update_self, elsewhere]
  omega

variable {Value Resource : Type*} [DecidableEq Resource]

def tally (holds : Value → List Resource) (values : Nat → Value) (bound : Nat)
    (resource : Resource) : Nat :=
  ∑ index ∈ Finset.range bound, (holds (values index)).count resource

variable {holds : Value → List Resource} {values : Nat → Value} {bound : Nat}

theorem tally_update (holds : Value → List Resource) (values : Nat → Value)
    {index : Nat} (known : index < bound) (value : Value) (resource : Resource) :
    tally holds (Function.update values index value) bound resource +
        (holds (values index)).count resource =
      tally holds values bound resource + (holds value).count resource :=
  sum_update _ (fun _ entry => (holds entry).count resource) values
    (Finset.mem_range.mpr known) value

theorem tally_add (holds : Value → List Resource) (values : Nat → Value)
    (bound : Nat) (value : Value) (resource : Resource) :
    tally holds (Function.update values bound value) (bound + 1) resource =
      tally holds values bound resource + (holds value).count resource := by
  unfold tally
  rw [Finset.sum_range_succ, Function.update_self]
  congr 1
  apply Finset.sum_congr rfl
  intro index member
  rw [Function.update_of_ne (Nat.ne_of_lt (Finset.mem_range.mp member))]

theorem tally_congr {other : Nat → Value} {otherHolds : Value → List Resource}
    (same : ∀ index, index < bound → otherHolds (other index) = holds (values index))
    (resource : Resource) :
    tally otherHolds other bound resource = tally holds values bound resource := by
  apply Finset.sum_congr rfl
  intro index member
  rw [same index (Finset.mem_range.mp member)]

theorem tally_eq_zero {resource : Resource}
    (free : ∀ index, index < bound → resource ∉ holds (values index)) :
    tally holds values bound resource = 0 := by
  apply Finset.sum_eq_zero
  intro index member
  exact List.count_eq_zero.mpr (free index (Finset.mem_range.mp member))

theorem count_le_tally (holds : Value → List Resource) (values : Nat → Value)
    {index : Nat} (known : index < bound) (resource : Resource) :
    (holds (values index)).count resource ≤ tally holds values bound resource := by
  unfold tally
  rw [← Finset.add_sum_erase _ (fun index => (holds (values index)).count resource)
    (Finset.mem_range.mpr known)]
  exact Nat.le_add_right _ _

theorem not_mem_of_tally_eq_zero {resource : Resource}
    (free : tally holds values bound resource = 0) {index : Nat} (known : index < bound) :
    resource ∉ holds (values index) := by
  intro held
  have counted := count_le_tally holds values known resource
  have one : 0 < (holds (values index)).count resource := List.count_pos_iff.mpr held
  omega

end BabaIo
