import Mathlib.Data.List.Basic

/-
A reliable one-way channel.

What has been taken out is a beginning of what has been put in, which the record carries
as a proof, and nothing is put in behind the end.  `Later` orders the states of one
channel by time: both lists only grow.
-/

set_option autoImplicit false

namespace BabaIo

structure Channel (Item : Type*) where
  put : List Item
  taken : List Item
  ended : Bool
  inOrder : taken <+: put

namespace Channel

variable {Item : Type*}

def Exhausted (channel : Channel Item) : Prop :=
  channel.ended = true ∧ channel.taken = channel.put

structure Later (before after : Channel Item) : Prop where
  put : before.put <+: after.put
  taken : before.taken <+: after.taken
  ended : before.ended = true → after.ended = true ∧ after.put = before.put

theorem Later.refl (channel : Channel Item) : Later channel channel :=
  ⟨List.prefix_rfl, List.prefix_rfl, fun ended => ⟨ended, rfl⟩⟩

theorem Later.trans {first second third : Channel Item} (left : Later first second)
    (right : Later second third) : Later first third := by
  refine ⟨left.put.trans right.put, left.taken.trans right.taken, ?_⟩
  intro ended
  obtain ⟨still, same⟩ := left.ended ended
  obtain ⟨last, equal⟩ := right.ended still
  exact ⟨last, equal.trans same⟩

/-- Nothing comes out of an exhausted channel any more. -/
theorem Exhausted.later {before after : Channel Item} (exhausted : before.Exhausted)
    (later : Later before after) : after.Exhausted ∧ after.taken = before.taken := by
  obtain ⟨ended, same⟩ := later.ended exhausted.1
  have grown : before.put <+: after.taken := by
    rw [← exhausted.2]
    exact later.taken
  have whole : after.taken = before.put := by
    apply List.IsPrefix.eq_of_length_le _ grown.length_le
    rw [← same]
    exact after.inOrder
  exact ⟨⟨ended, by rw [whole, same]⟩, by rw [whole, exhausted.2]⟩

end Channel

end BabaIo
