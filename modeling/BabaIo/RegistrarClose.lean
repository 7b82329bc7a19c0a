import Mathlib.Algebra.Order.BigOperators.Group.Finset
import BabaIo.GiveReentry

/-
`event_registrar::close`, which `~epoll_service` calls when no other thread is
left.

The loop walks through the register in the order of the ids and empties the
closures of every event it meets.  What a closure held last is destroyed on the
spot, and an async object that goes takes a final event for each of its events:
the register grows in front of the loop.  Ids only grow, so the new entries lie
ahead, and every object can be disposed only once, so they come to an end.
-/

set_option autoImplicit false

namespace BabaIo.Registrar

/-! ### The loop -/

def nextFrom (state : State) (cursor : EventId) : Option EventId :=
  (List.range' cursor (state.idGenerator - cursor)).find?
    fun id => (state.register id).isSome

def resetReact (state : State) (evt : EventId) (event : ReactorEvent) : Option State :=
  release (setEvent state evt { event with react := none }) (event.react.getD [])

def resetComplete (state : State) (evt : EventId) (event : ReactorEvent) : Option State :=
  release (setEvent state evt { event with complete := none })
    ((event.complete.map Complete.captures).getD [])

def visit (state : State) (evt : EventId) (event : ReactorEvent) : Option State :=
  (resetReact state evt event).bind fun reset =>
    (reset.register evt).bind fun left => resetComplete reset evt left

/-- The loop from the cursor on, with the entries it meets as it finds them. -/
def sweep : Nat → State → EventId → Option (State × List (EventId × ReactorEvent))
  | fuel, state, cursor =>
      match nextFrom state cursor with
      | none => some (state, [])
      | some evt =>
          match fuel with
          | 0 => none
          | fuel + 1 =>
              (state.register evt).bind fun event =>
                (visit state evt event).bind fun visited =>
                  (sweep fuel visited (evt + 1)).map fun swept =>
                    (swept.1, (evt, event) :: swept.2)

def eraseEntry (state : State) (evt : EventId) : Option State :=
  match state.register evt with
  | none => some state
  | some event =>
      release { state with register := Function.update state.register evt none } event.captures

/-- `_register.clear()`, which destroys the entries in an order of its own. -/
def clear (state : State) (order : List EventId) : Option State :=
  Runs.exec eraseEntry state order

def close (fuel : Nat) (state : State) (order : List EventId) : Option State :=
  (sweep fuel state 0).bind fun swept => clear swept.1 order

/-! ### What the register may hold -/

def eventsOf (state : State) (cell : Cell) : List EventId :=
  (state.objects cell).flatMap AsyncObject.events

/-- The references are counted, ids are used in order, and the mutex is free; an
event may hold a `react` and a `complete`. -/
structure Content (state : State) (pending : List Cell) : Prop where
  balanced : SharedRefs.Balanced (Finset.range state.cells) state.keeps
    (outside state) state.counts pending
  bounded : ∀ id : Nat, state.idGenerator ≤ id → state.register id = none
  free : state.mutex = false

structure Exclusive (state : State) : Prop where
  cell : ∀ first second evt, evt ∈ eventsOf state first → evt ∈ eventsOf state second →
    first = second
  object : ∀ cell, (eventsOf state cell).Nodup

def disposable (state : State) : Nat :=
  ∑ cell ∈ Finset.range state.cells, (eventsOf state cell).length

/-! ### Disposals -/

/-- What the destructors of async objects add to a state: a final event for each
event in the list. -/
structure Disposals (base : State) (disposed : List EventId) (state : State) : Prop where
  free : state.mutex = false
  grown : state.idGenerator = base.idGenerator + disposed.length
  older : ∀ id : Nat, id < base.idGenerator → state.register id = base.register id
  taken : ∀ (index : Nat) evt, disposed[index]? = some evt →
    ∃ event, state.register (base.idGenerator + index) = some event ∧
      event.react = none ∧ event.complete = some (.final evt)
  bounded : ∀ id : Nat, state.idGenerator ≤ id → state.register id = none
  captured : ∀ cell, captured state.register state.idGenerator cell =
    captured base.register base.idGenerator cell
  counts : state.counts = base.counts
  cells : state.cells = base.cells
  keeps : state.keeps = base.keeps
  roots : state.roots = base.roots
  holders : state.holders = base.holders

theorem disposals_refl {base : State} (free : base.mutex = false)
    (bounded : ∀ id : Nat, base.idGenerator ≤ id → base.register id = none) :
    Disposals base [] base where
  free := free
  grown := rfl
  older := fun _ _ => rfl
  taken := fun _ _ impossible => by cases impossible
  bounded := bounded
  captured := fun _ => rfl
  counts := rfl
  cells := rfl
  keeps := rfl
  roots := rfl
  holders := rfl

def withFinal (state : State) (evt : EventId) : State :=
  { state with
    register := Function.update state.register state.idGenerator (some (finalEvent state evt))
    idGenerator := state.idGenerator + 1
    deletionQueue := state.deletionQueue ++ [state.idGenerator] }

theorem dispose_free {state : State} (free : state.mutex = false) (evt : EventId) :
    dispose state evt = some (withFinal state evt) := by
  have idle : ¬state.mutex = true := by
    rw [free]
    exact Bool.false_ne_true
  unfold dispose take
  rw [if_neg idle]
  rfl

theorem Disposals.withFinal {base state : State} {disposed : List EventId}
    (so : Disposals base disposed state) (evt : EventId) :
    Disposals base (disposed ++ [evt]) (withFinal state evt) := by
  have grown := so.grown
  constructor
  · exact so.free
  · rw [List.length_append]
    change state.idGenerator + 1 = _
    rw [grown]
    rfl
  · intro id old
    have different : id ≠ state.idGenerator := by omega
    exact (Function.update_of_ne different ..).trans (so.older id old)
  · intro index other found
    by_cases last : index = disposed.length
    · rw [last, List.getElem?_append_right (Nat.le_refl _), Nat.sub_self] at found
      cases found
      refine ⟨finalEvent state evt, ?_, rfl, rfl⟩
      rw [last, ← grown]
      exact Function.update_self ..
    · have inside : index < disposed.length := by
        have bound := (List.getElem?_eq_some_iff.mp found).1
        rw [List.length_append, List.length_singleton] at bound
        omega
      rw [List.getElem?_append_left inside] at found
      obtain ⟨event, registered, rest⟩ := so.taken index other found
      refine ⟨event, ?_, rest⟩
      have different : base.idGenerator + index ≠ state.idGenerator := by omega
      exact (Function.update_of_ne different ..).trans registered
  · intro id beyond
    exact (Function.update_of_ne (Nat.ne_of_gt beyond) ..).trans
      (so.bounded id (Nat.le_of_succ_le beyond))
  · intro cell
    exact (captured_take state.register state.idGenerator rfl cell).trans (so.captured cell)
  · exact so.counts
  · exact so.cells
  · exact so.keeps
  · exact so.roots
  · exact so.holders

theorem Disposals.destroyObject {base state : State} {disposed : List EventId}
    (so : Disposals base disposed state) (object : AsyncObject) :
    ∃ next, destroyObject state object = some next ∧ next.objects = state.objects ∧
      Disposals base (disposed ++ object.events) next := by
  have one : ∀ parts before evt,
      before.objects = state.objects ∧ Disposals base parts before →
        ∃ next, dispose before evt = some next ∧
          next.objects = state.objects ∧ Disposals base (parts ++ [evt]) next := by
    intro parts before evt so
    exact ⟨Registrar.withFinal before evt, dispose_free so.2.free evt, so.1, so.2.withFinal evt⟩
  have all := Runs.exec_accumulates one ⟨rfl, so⟩ object.events
  rw [List.flatMap_singleton'] at all
  exact all

theorem Disposals.destroyCell {base state : State} {disposed : List EventId}
    (so : Disposals base disposed state) (cell : Cell) :
    ∃ next, destroyCell state cell = some next ∧
      next.objects = Function.update state.objects cell [] ∧
      Disposals base (disposed ++ eventsOf state cell) next := by
  have one : ∀ parts before object,
      before.objects = state.objects ∧ Disposals base parts before →
        ∃ next, Registrar.destroyObject before object = some next ∧
          next.objects = state.objects ∧
          Disposals base (parts ++ object.events) next := by
    intro parts before object so
    obtain ⟨next, destroyed, same, more⟩ := so.2.destroyObject object
    exact ⟨next, destroyed, same.trans so.1, more⟩
  obtain ⟨last, executed, same, all⟩ :=
    Runs.exec_accumulates one ⟨rfl, so⟩ (state.objects cell)
  refine ⟨{ last with objects := Function.update last.objects cell [] }, ?_, ?_, ?_⟩
  · unfold Registrar.destroyCell
    rw [executed]
    rfl
  · change Function.update last.objects cell [] = _
    rw [same]
  · exact ⟨all.free, all.grown, all.older, all.taken, all.bounded, all.captured, all.counts,
      all.cells, all.keeps, all.roots, all.holders⟩

theorem Disposals.destroyCells {base state : State} {disposed : List EventId}
    (so : Disposals base disposed state) {cells : List Cell} (distinct : cells.Nodup) :
    ∃ next, Runs.exec Registrar.destroyCell state cells = some next ∧
      (∀ cell, next.objects cell = if cell ∈ cells then [] else state.objects cell) ∧
      Disposals base (disposed ++ cells.flatMap (eventsOf state)) next := by
  induction cells generalizing state disposed with
  | nil =>
      refine ⟨state, rfl, ?_, ?_⟩
      · intro cell
        rw [if_neg List.not_mem_nil]
      · rw [List.flatMap_nil, List.append_nil]
        exact so
  | cons cell rest ih =>
      obtain ⟨notAgain, restDistinct⟩ := List.nodup_cons.mp distinct
      obtain ⟨next, destroyed, objects, added⟩ := so.destroyCell cell
      obtain ⟨final, executed, gone, all⟩ := ih added restDistinct
      have others : rest.flatMap (eventsOf next) = rest.flatMap (eventsOf state) := by
        refine List.flatMap_congr ?_
        intro other member
        have different : other ≠ cell := fun same => notAgain (same ▸ member)
        unfold eventsOf
        rw [objects, Function.update_of_ne different]
      refine ⟨final, ?_, ?_, ?_⟩
      · rw [Runs.exec_cons, destroyed]
        exact executed
      · intro other
        rw [gone other, objects]
        by_cases same : other = cell
        · subst same
          rw [if_neg notAgain, Function.update_self, if_pos List.mem_cons_self]
        · rw [Function.update_of_ne same]
          by_cases member : other ∈ rest
          · rw [if_pos member, if_pos (List.mem_cons_of_mem _ member)]
          · rw [if_neg member, if_neg]
            intro present
            rcases List.mem_cons.mp present with isCell | inRest
            · exact same isCell
            · exact member inRest
      · rw [List.flatMap_cons, ← List.append_assoc, ← others]
        exact all

/-! ### One cascade -/

/-- What is given up goes, with the objects of the cells that die. -/
theorem Content.release {state : State} {pending : List Cell}
    (content : Content state pending) :
    ∃ next, release state pending = some next ∧
      next.counts = (released state pending).1 ∧
      (∀ cell, next.objects cell =
        if cell ∈ (released state pending).2 then [] else state.objects cell) ∧
      Disposals { state with counts := (released state pending).1 }
        ((released state pending).2.flatMap (eventsOf state)) next ∧
      Content next [] := by
  have start : Disposals { state with counts := (released state pending).1 } []
      { state with counts := (released state pending).1 } :=
    disposals_refl content.free content.bounded
  obtain ⟨next, executed, objects, all⟩ :=
    start.destroyCells (SharedRefs.release_nodup _ state.counts pending)
  rw [List.nil_append] at all
  have settled := SharedRefs.release_balanced content.balanced (Nat.le_refl _)
  have same : ∀ cell, outside next cell = outside state cell := by
    intro cell
    unfold outside
    rw [all.roots, all.holders, all.captured cell]
  refine ⟨next, executed, all.counts, objects, all, ?_, all.bounded, all.free⟩
  rw [all.cells, all.keeps, all.counts]
  refine settled.shift ?_
  intro cell
  rw [same cell]

/-! ### The sweep -/

def disposedBy (start : State) (destroyed : List Cell) : List EventId :=
  destroyed.flatMap (eventsOf start)

/-- The sweep of `start` has emptied the entries below `done` and has not touched
those from `ahead` on; `destroyed` are the cells that have gone. -/
structure Sweeping (start : State) (done ahead : Nat) (pending destroyed : List Cell)
    (state : State) : Prop where
  content : Content state pending
  grown : state.idGenerator = start.idGenerator + (disposedBy start destroyed).length
  emptied : ∀ (id : Nat) event, id < done → state.register id = some event →
    event.react = none ∧ event.complete = none
  kept : ∀ id : Nat, id < state.idGenerator →
    ((state.register id).isSome = true ↔
      (start.register id).isSome = true ∨ start.idGenerator ≤ id)
  untouched : ∀ id : Nat, ahead ≤ id → id < start.idGenerator →
    state.register id = start.register id
  taken : ∀ (index : Nat) evt, (disposedBy start destroyed)[index]? = some evt →
    ahead ≤ start.idGenerator + index →
      ∃ event, state.register (start.idGenerator + index) = some event ∧
        event.complete = some (.final evt)
  distinct : destroyed.Nodup
  gone : ∀ cell, cell ∈ destroyed ↔ 0 < start.counts cell ∧ state.counts cell = 0
  fewer : ∀ cell, state.counts cell ≤ start.counts cell
  objects : ∀ cell, state.objects cell = if cell ∈ destroyed then [] else start.objects cell

theorem sweeping_start {start : State} (content : Content start []) :
    Sweeping start 0 0 [] [] start where
  content := content
  grown := rfl
  emptied := fun _ _ impossible => absurd impossible (Nat.not_lt_zero _)
  kept := by
    intro id known
    exact ⟨Or.inl, fun either => either.resolve_right (Nat.not_le_of_lt known)⟩
  untouched := fun _ _ _ => rfl
  taken := fun _ _ impossible => by cases impossible
  distinct := List.nodup_nil
  gone := by
    intro cell
    constructor
    · intro impossible
      cases impossible
    · intro both
      exact absurd both.2 (Nat.ne_of_gt both.1)
  fewer := fun _ => Nat.le_refl _
  objects := fun _ => (if_neg List.not_mem_nil).symm

section Sweeping

variable {start state : State} {done ahead : Nat} {pending destroyed : List Cell}

theorem Sweeping.eventsOf_eq (sweeping : Sweeping start done ahead pending destroyed state)
    {cell : Cell} (stays : cell ∉ destroyed) : eventsOf state cell = eventsOf start cell := by
  unfold eventsOf
  rw [sweeping.objects cell, if_neg stays]

theorem Sweeping.release (sweeping : Sweeping start done ahead pending destroyed state)
    (known : done ≤ state.idGenerator) :
    ∃ next more, release state pending = some next ∧
      Sweeping start done ahead [] (destroyed ++ more) next ∧
      ∀ id : Nat, id < state.idGenerator → next.register id = state.register id := by
  obtain ⟨next, ran, counts, objects, disposals, content⟩ := sweeping.content.release
  have died : ∀ cell, cell ∈ (released state pending).2 ↔
      0 < state.counts cell ∧ next.counts cell = 0 := by
    intro cell
    rw [counts]
    exact SharedRefs.mem_release_iff _ state.counts pending cell
  have lower : ∀ cell, next.counts cell ≤ state.counts cell := by
    intro cell
    rw [counts]
    exact SharedRefs.release_le _ state.counts pending cell
  have apart : ∀ cell, cell ∈ (released state pending).2 → cell ∉ destroyed := by
    intro cell member already
    have dead := ((sweeping.gone cell).mp already).2
    exact absurd ((died cell).mp member).1 (by rw [dead]; exact Nat.lt_irrefl 0)
  have disposed : disposedBy start (destroyed ++ (released state pending).2) =
      disposedBy start destroyed ++ (released state pending).2.flatMap (eventsOf state) := by
    unfold disposedBy
    rw [List.flatMap_append]
    congr 1
    refine List.flatMap_congr ?_
    intro cell member
    exact (sweeping.eventsOf_eq (apart cell member)).symm
  have grown : next.idGenerator = state.idGenerator +
      ((released state pending).2.flatMap (eventsOf state)).length := disposals.grown
  have older : ∀ id : Nat, id < state.idGenerator → next.register id = state.register id :=
    disposals.older
  have before := sweeping.grown
  refine ⟨next, (released state pending).2, ran, ?_, older⟩
  constructor
  · exact content
  · rw [disposed, List.length_append, grown, before]
    omega
  · intro id event below registered
    rw [older id (Nat.lt_of_lt_of_le below known)] at registered
    exact sweeping.emptied id event below registered
  · intro id inside
    by_cases old : id < state.idGenerator
    · rw [older id old]
      exact sweeping.kept id old
    · refine iff_of_true ?_ (Or.inr (by omega))
      have place : id - state.idGenerator <
          ((released state pending).2.flatMap (eventsOf state)).length := by omega
      obtain ⟨event, registered, _⟩ := disposals.taken (id - state.idGenerator) _
        (List.getElem?_eq_getElem place)
      change next.register (state.idGenerator + (id - state.idGenerator)) = _ at registered
      rw [show state.idGenerator + (id - state.idGenerator) = id by omega] at registered
      rw [registered]
      rfl
  · intro id atLeast inside
    rw [older id (by omega)]
    exact sweeping.untouched id atLeast inside
  · intro index evt found atLeast
    rw [disposed] at found
    by_cases old : index < (disposedBy start destroyed).length
    · rw [List.getElem?_append_left old] at found
      rw [older (start.idGenerator + index) (by omega)]
      exact sweeping.taken index evt found atLeast
    · rw [List.getElem?_append_right (Nat.le_of_not_lt old)] at found
      obtain ⟨event, registered, _, final⟩ := disposals.taken _ evt found
      refine ⟨event, ?_, final⟩
      have place : state.idGenerator + (index - (disposedBy start destroyed).length) =
          start.idGenerator + index := by omega
      change next.register
        (state.idGenerator + (index - (disposedBy start destroyed).length)) = _ at registered
      rw [place] at registered
      exact registered
  · refine List.nodup_append'.mpr
      ⟨sweeping.distinct, SharedRefs.release_nodup _ state.counts pending, ?_⟩
    intro cell already member
    exact apart cell member already
  · intro cell
    rw [List.mem_append, sweeping.gone cell, died cell]
    have first := sweeping.fewer cell
    have second := lower cell
    omega
  · intro cell
    exact (lower cell).trans (sweeping.fewer cell)
  · intro cell
    rw [objects cell, sweeping.objects cell]
    by_cases member : cell ∈ (released state pending).2
    · rw [if_pos member, if_pos (List.mem_append_right _ member)]
    · rw [if_neg member]
      by_cases already : cell ∈ destroyed
      · rw [if_pos already, if_pos (List.mem_append_left _ already)]
      · rw [if_neg already, if_neg]
        intro either
        rcases List.mem_append.mp either with inFirst | inSecond
        · exact already inFirst
        · exact member inSecond

theorem Content.known {evt : Nat} {event : ReactorEvent} (content : Content state pending)
    (found : state.register evt = some event) : evt < state.idGenerator := by
  by_contra beyond
  rw [content.bounded evt (Nat.le_of_not_lt beyond)] at found
  cases found

theorem Sweeping.setEvent (sweeping : Sweeping start done ahead [] destroyed state)
    {evt : Nat} {old event : ReactorEvent} (found : state.register evt = some old)
    (past : ahead ≤ evt + 1) (notYet : done ≤ evt) {refs : List Cell}
    (moved : ∀ cell, event.captures.count cell + refs.count cell = old.captures.count cell) :
    Sweeping start done (evt + 1) refs destroyed (setEvent state evt event) := by
  have known := sweeping.content.known found
  have others : ∀ id : Nat, id ≠ evt →
      (Registrar.setEvent state evt event).register id = state.register id :=
    fun id different => Function.update_of_ne different ..
  constructor
  · refine ⟨?_, ?_, sweeping.content.free⟩
    · refine sweeping.content.balanced.shift ?_
      intro cell
      have split := outside_setEvent known found event cell
      have shifted := moved cell
      rw [List.count_nil]
      omega
    · intro id beyond
      have later : state.idGenerator ≤ id := beyond
      rw [others id (by omega)]
      exact sweeping.content.bounded id later
  · exact sweeping.grown
  · intro id other below registered
    rw [others id (by omega)] at registered
    exact sweeping.emptied id other below registered
  · intro id inside
    by_cases same : id = evt
    · subst same
      have before := sweeping.kept id inside
      rw [found] at before
      refine iff_of_true ?_ (before.mp rfl)
      change (Function.update state.register id (some event) id).isSome = true
      rw [Function.update_self]
      rfl
    · rw [others id same]
      exact sweeping.kept id inside
  · intro id atLeast inside
    rw [others id (by omega)]
    exact sweeping.untouched id (by omega) inside
  · intro index owner present atLeast
    rw [others (start.idGenerator + index) (by omega)]
    exact sweeping.taken index owner present (by omega)
  · exact sweeping.distinct
  · exact sweeping.gone
  · exact sweeping.fewer
  · exact sweeping.objects

theorem Sweeping.advance (sweeping : Sweeping start done ahead pending destroyed state)
    {next : Nat}
    (passed : ∀ (id : Nat) event, done ≤ id → id < next → state.register id = some event →
      event.react = none ∧ event.complete = none) (further : ahead ≤ next) :
    Sweeping start next next pending destroyed state := by
  refine ⟨sweeping.content, sweeping.grown, ?_, sweeping.kept, ?_, ?_, sweeping.distinct,
    sweeping.gone, sweeping.fewer, sweeping.objects⟩
  · intro id event below registered
    by_cases early : id < done
    · exact sweeping.emptied id event early registered
    · exact passed id event (Nat.le_of_not_lt early) below registered
  · intro id atLeast inside
    exact sweeping.untouched id (further.trans atLeast) inside
  · intro index evt found atLeast
    exact sweeping.taken index evt found (further.trans atLeast)

theorem Sweeping.visit {evt : Nat} (sweeping : Sweeping start evt evt [] destroyed state)
    {event : ReactorEvent} (found : state.register evt = some event) :
    ∃ next more, visit state evt event = some next ∧
      Sweeping start (evt + 1) (evt + 1) [] (destroyed ++ more) next := by
  have known := sweeping.content.known found
  let unreacting : ReactorEvent := { event with react := none }
  let empty : ReactorEvent := { unreacting with complete := none }
  have reactMoved : ∀ cell, unreacting.captures.count cell + (event.react.getD []).count cell =
      event.captures.count cell := by
    intro cell
    unfold ReactorEvent.captures
    rw [List.count_append, List.count_append]
    rfl
  obtain ⟨reset, first, ranReact, sweptReact, keptReact⟩ :=
    (sweeping.setEvent found (Nat.le_succ evt) (Nat.le_refl evt) reactMoved).release
      (Nat.le_of_lt known)
  have left : reset.register evt = some unreacting :=
    (keptReact evt known).trans (Function.update_self ..)
  have stillKnown := sweptReact.content.known left
  have completeMoved : ∀ cell, empty.captures.count cell +
      ((unreacting.complete.map Complete.captures).getD []).count cell =
        unreacting.captures.count cell := by
    intro cell
    unfold ReactorEvent.captures
    rw [List.count_append, List.count_append]
    exact (Nat.zero_add _).trans (Nat.add_zero _).symm
  obtain ⟨next, second, ranComplete, sweptComplete, keptComplete⟩ :=
    (sweptReact.setEvent left (Nat.le_refl _) (Nat.le_refl evt) completeMoved).release
      (Nat.le_of_lt stillKnown)
  have emptied : next.register evt = some empty :=
    (keptComplete evt stillKnown).trans (Function.update_self ..)
  refine ⟨next, first ++ second, ?_, ?_⟩
  · unfold Registrar.visit resetReact resetComplete
    rw [ranReact, Option.bind_some, left, Option.bind_some]
    exact ranComplete
  · rw [← List.append_assoc]
    refine sweptComplete.advance ?_ (Nat.le_refl _)
    intro id other atLeast below registered
    have same : id = evt := Nat.le_antisymm (Nat.le_of_lt_succ below) atLeast
    rw [same, emptied] at registered
    cases registered
    exact ⟨rfl, rfl⟩

end Sweeping

/-! ### The end of the loop -/

theorem nextFrom_eq_none {state : State} (bounded : ∀ id : Nat, state.idGenerator ≤ id →
    state.register id = none) {cursor : Nat} (last : nextFrom state cursor = none) {id : Nat}
    (atLeast : cursor ≤ id) : state.register id = none := by
  by_cases inside : id < state.idGenerator
  · have member : id ∈ List.range' cursor (state.idGenerator - cursor) := by
      rw [List.mem_range'_1]
      omega
    have missing := List.find?_eq_none.mp last id member
    rw [Option.isSome_iff_ne_none, not_not] at missing
    exact missing
  · exact bounded id (Nat.le_of_not_lt inside)

theorem nextFrom_eq_some {state : State} {cursor evt : Nat}
    (found : nextFrom state cursor = some evt) :
    cursor ≤ evt ∧ evt < state.idGenerator ∧ (∃ event, state.register evt = some event) ∧
      ∀ id, cursor ≤ id → id < evt → state.register id = none := by
  obtain ⟨present, member, earlier⟩ := List.find?_range'_eq_some.mp found
  rw [List.mem_range'_1] at member
  refine ⟨member.1, by omega, Option.isSome_iff_exists.mp present, ?_⟩
  intro id atLeast before
  have missing := earlier id atLeast before
  rw [Bool.not_eq_true', Option.isSome_eq_false_iff, Option.isNone_iff_eq_none] at missing
  exact missing

/-- Every object can be disposed, and no event more than once. -/
theorem disposedBy_length_le {start state : State} {done ahead : Nat}
    {pending destroyed : List Cell} (content : Content start [])
    (sweeping : Sweeping start done ahead pending destroyed state) :
    (disposedBy start destroyed).length ≤ disposable start := by
  have inside : destroyed.toFinset ⊆ Finset.range start.cells := by
    intro cell member
    have live := ((sweeping.gone cell).mp (List.mem_toFinset.mp member)).1
    exact content.balanced.known cell live
  unfold disposedBy disposable
  rw [List.length_flatMap]
  calc (destroyed.map fun cell => (eventsOf start cell).length).sum
      = ∑ cell ∈ destroyed.toFinset, (eventsOf start cell).length :=
        (List.sum_toFinset _ sweeping.distinct).symm
    _ ≤ ∑ cell ∈ Finset.range start.cells, (eventsOf start cell).length :=
        Finset.sum_le_sum_of_subset inside

/-- What the loop has met from the cursor on: the entries in order, and the final
events of the objects that went. -/
structure Met (start final : State) (cursor : Nat) (destroyed : List Cell)
    (visited : List (EventId × ReactorEvent)) : Prop where
  all : ∀ id : Nat, id ∈ visited.map Prod.fst ↔
    cursor ≤ id ∧ (final.register id).isSome = true
  inOrder : (visited.map Prod.fst).Pairwise (· < ·)
  finals : ∀ (id : Nat) event, (id, event) ∈ visited → start.idGenerator ≤ id →
    ∃ evt, (disposedBy start destroyed)[id - start.idGenerator]? = some evt ∧
      event.complete = some (.final evt)

theorem Sweeping.stop {start state : State} {cursor : Nat} {destroyed : List Cell}
    (sweeping : Sweeping start cursor cursor [] destroyed state)
    (last : nextFrom state cursor = none) (fuel : Nat) :
    ∃ final visited more, sweep fuel state cursor = some (final, visited) ∧
      Sweeping start final.idGenerator final.idGenerator [] (destroyed ++ more) final ∧
      state.idGenerator ≤ final.idGenerator ∧
      Met start final cursor (destroyed ++ more) visited := by
  have grown := sweeping.grown
  have absent : ∀ id : Nat, cursor ≤ id → state.register id = none :=
    fun id atLeast => nextFrom_eq_none sweeping.content.bounded last atLeast
  refine ⟨state, [], [], ?_, ?_, Nat.le_refl _, ?_⟩
  · rw [sweep, last]
  · rw [List.append_nil]
    refine ⟨sweeping.content, grown, ?_, sweeping.kept, ?_, ?_, sweeping.distinct,
      sweeping.gone, sweeping.fewer, sweeping.objects⟩
    · intro id event _ registered
      by_cases passed : id < cursor
      · exact sweeping.emptied id event passed registered
      · rw [absent id (Nat.le_of_not_lt passed)] at registered
        cases registered
    · intro id atLeast inside
      omega
    · intro index evt found atLeast
      have inside := (List.getElem?_eq_some_iff.mp found).1
      omega
  · rw [List.append_nil]
    constructor
    · intro id
      constructor
      · intro impossible
        cases impossible
      · intro both
        rw [absent id both.1] at both
        exact absurd both.2 Bool.false_ne_true
    · exact List.Pairwise.nil
    · intro id event impossible
      cases impossible

/-- The entry at the cursor and what the loop meets after it. -/
theorem Met.cons {start state final : State} {cursor evt : Nat} {destroyed more : List Cell}
    {visited : List (EventId × ReactorEvent)} {event : ReactorEvent}
    (sweeping : Sweeping start evt evt [] destroyed state)
    (found : state.register evt = some event)
    (swept : Sweeping start final.idGenerator final.idGenerator [] (destroyed ++ more) final)
    (further : state.idGenerator ≤ final.idGenerator) (atLeast : cursor ≤ evt)
    (skipped : ∀ id : Nat, cursor ≤ id → id < evt → state.register id = none)
    (later : Met start final (evt + 1) (destroyed ++ more) visited) :
    Met start final cursor (destroyed ++ more) ((evt, event) :: visited) := by
  have known := sweeping.content.known found
  have same : ∀ id : Nat, id < state.idGenerator →
      ((final.register id).isSome = true ↔ (state.register id).isSome = true) := by
    intro id inside
    rw [sweeping.kept id inside, swept.kept id (Nat.lt_of_lt_of_le inside further)]
  constructor
  · intro id
    rw [List.map_cons, List.mem_cons, later.all id]
    constructor
    · intro either
      rcases either with isEvt | ⟨after, present⟩
      · rw [isEvt]
        refine ⟨atLeast, (same evt known).mpr ?_⟩
        rw [found]
        rfl
      · exact ⟨by omega, present⟩
    · intro both
      by_cases isEvt : id = evt
      · exact Or.inl isEvt
      · by_cases before : id < evt
        · have present := (same id (Nat.lt_trans before known)).mp both.2
          rw [skipped id both.1 before] at present
          exact absurd present Bool.false_ne_true
        · exact Or.inr ⟨by omega, both.2⟩
  · refine List.pairwise_cons.mpr ⟨?_, later.inOrder⟩
    intro id member
    exact ((later.all id).mp member).1
  · intro id other member taken
    rcases List.mem_cons.mp member with isHead | inTail
    · cases isHead
      have grown := sweeping.grown
      have inside : evt - start.idGenerator < (disposedBy start destroyed).length := by omega
      obtain ⟨closed, registered, final⟩ := sweeping.taken (evt - start.idGenerator) _
        (List.getElem?_eq_getElem inside) (by omega)
      rw [show start.idGenerator + (evt - start.idGenerator) = evt by omega, found] at registered
      cases registered
      refine ⟨_, ?_, final⟩
      unfold disposedBy at inside ⊢
      rw [List.flatMap_append, List.getElem?_append_left inside]
      exact List.getElem?_eq_getElem inside
    · exact later.finals id other inTail taken

theorem sweep_met {start : State} (content : Content start []) (fuel : Nat) {state : State}
    {cursor : Nat} {destroyed : List Cell}
    (sweeping : Sweeping start cursor cursor [] destroyed state)
    (enough : start.idGenerator + disposable start - cursor ≤ fuel) :
    ∃ final visited more, sweep fuel state cursor = some (final, visited) ∧
      Sweeping start final.idGenerator final.idGenerator [] (destroyed ++ more) final ∧
      state.idGenerator ≤ final.idGenerator ∧
      Met start final cursor (destroyed ++ more) visited := by
  induction fuel generalizing state cursor destroyed with
  | zero =>
      cases following : nextFrom state cursor with
      | none => exact sweeping.stop following _
      | some evt =>
          -- The entry lies below the bound, which the cursor has reached.
          obtain ⟨atLeast, below, _⟩ := nextFrom_eq_some following
          have bound := disposedBy_length_le content sweeping
          have grown := sweeping.grown
          omega
  | succ fuel ih =>
      cases following : nextFrom state cursor with
      | none => exact sweeping.stop following _
      | some evt =>
          obtain ⟨atLeast, below, ⟨event, found⟩, skipped⟩ := nextFrom_eq_some following
          have here : Sweeping start evt evt [] destroyed state := by
            refine sweeping.advance ?_ atLeast
            intro id other after before registered
            rw [skipped id after before] at registered
            cases registered
          obtain ⟨next, first, visitedHere, swept⟩ := here.visit found
          obtain ⟨final, visited, second, executed, sweptAll, further, met⟩ :=
            ih swept (by omega)
          have grownNext : state.idGenerator ≤ next.idGenerator := by
            rw [here.grown, swept.grown]
            unfold disposedBy
            rw [List.flatMap_append, List.length_append]
            omega
          rw [List.append_assoc] at sweptAll met
          refine ⟨final, (evt, event) :: visited, first ++ second, ?_, sweptAll,
            grownNext.trans further, ?_⟩
          · rw [sweep, following]
            dsimp only
            rw [found, Option.bind_some, visitedHere, Option.bind_some, executed]
            rfl
          · exact met.cons here found sweptAll (grownNext.trans further) atLeast skipped

/-- More fuel changes nothing. -/
theorem sweep_mono {fuel more : Nat} (fits : fuel ≤ more) {state : State} {cursor : EventId}
    {swept : State × List (EventId × ReactorEvent)}
    (executed : sweep fuel state cursor = some swept) :
    sweep more state cursor = some swept := by
  induction fuel generalizing more state cursor swept with
  | zero =>
      rw [sweep] at executed ⊢
      cases following : nextFrom state cursor with
      | none =>
          rw [following] at executed
          exact executed
      | some evt =>
          rw [following] at executed
          cases executed
  | succ fuel ih =>
      rw [sweep] at executed ⊢
      cases following : nextFrom state cursor with
      | none =>
          rw [following] at executed
          exact executed
      | some evt =>
          rw [following] at executed
          obtain ⟨rest, same⟩ := Nat.exists_eq_add_of_le fits
          subst same
          rw [show fuel + 1 + rest = fuel + rest + 1 by omega]
          dsimp only at executed ⊢
          obtain ⟨event, found, executed⟩ := Option.bind_eq_some_iff.mp executed
          obtain ⟨next, visitedHere, executed⟩ := Option.bind_eq_some_iff.mp executed
          obtain ⟨later, sweptLater, same⟩ := Option.map_eq_some_iff.mp executed
          rw [found, Option.bind_some, visitedHere, Option.bind_some,
            ih (Nat.le_add_right fuel rest) sweptLater, Option.map_some, same]

/-! ### What is left to clear -/

theorem release_nothing (state : State) : release state [] = some state := by
  unfold release
  dsimp only
  rw [SharedRefs.release_nil]
  rfl

theorem clear_empty {state : State}
    (empty : ∀ id event, state.register id = some event →
      event.react = none ∧ event.complete = none) (order : List EventId) :
    clear state order = some { state with
      register := fun id => if id ∈ order then none else state.register id } := by
  unfold clear
  induction order generalizing state with
  | nil =>
      simp
  | cons evt rest ih =>
      have erased : eraseEntry state evt =
          some { state with register := Function.update state.register evt none } := by
        unfold eraseEntry
        cases found : state.register evt with
        | none =>
            have same : Function.update state.register evt none = state.register := by
              rw [← found, Function.update_eq_self]
            rw [same]
        | some event =>
            obtain ⟨react, complete⟩ := empty evt event found
            have nothing : event.captures = [] := by
              unfold ReactorEvent.captures
              rw [react, complete]
              rfl
            dsimp only
            rw [nothing, release_nothing]
      rw [Runs.exec_cons, erased, Option.bind_some, ih]
      · congr 2
        funext id
        change (if id ∈ rest then none else Function.update state.register evt none id) = _
        by_cases member : id ∈ rest
        · rw [if_pos member, if_pos (List.mem_cons_of_mem _ member)]
        · rw [if_neg member]
          by_cases same : id = evt
          · subst same
            rw [Function.update_self, if_pos List.mem_cons_self]
          · rw [Function.update_of_ne same, if_neg]
            intro either
            rcases List.mem_cons.mp either with isEvt | inRest
            · exact same isEvt
            · exact member inRest
      · intro id event registered
        change Function.update state.register evt none id = some event at registered
        by_cases same : id = evt
        · subst same
          rw [Function.update_self] at registered
          cases registered
        · rw [Function.update_of_ne same] at registered
          exact empty id event registered

/-! ### The whole of close -/

structure Empties (start final : State) (visited : List (EventId × ReactorEvent)) : Prop where
  /-- The entries at the start and those taken on the way are met. -/
  visitsAll : ∀ id : Nat, id ∈ visited.map Prod.fst ↔
    (start.register id).isSome = true ∨ start.idGenerator ≤ id ∧ id < final.idGenerator
  inOrder : (visited.map Prod.fst).Pairwise (· < ·)
  /-- The final events taken on the way are those of the objects that go, one for
  each event. -/
  disposesReleased : ∀ evt,
    (∃ entry ∈ visited, start.idGenerator ≤ entry.1 ∧ entry.2.complete = some (.final evt)) ↔
      ∃ cell, 0 < start.counts cell ∧ final.counts cell = 0 ∧ evt ∈ eventsOf start cell
  disposesOnce : ∀ first ∈ visited, ∀ second ∈ visited, ∀ evt,
    start.idGenerator ≤ first.1 → start.idGenerator ≤ second.1 →
    first.2.complete = some (.final evt) → second.2.complete = some (.final evt) →
    first.1 = second.1
  emptied : ∀ id event, final.register id = some event →
    event.react = none ∧ event.complete = none
  /-- The ids stay below this bound. -/
  idsUsed : final.idGenerator ≤ start.idGenerator + disposable start

theorem disposedBy_nodup {start state : State} {done ahead : Nat}
    {pending destroyed : List Cell} (exclusive : Exclusive start)
    (sweeping : Sweeping start done ahead pending destroyed state) :
    (disposedBy start destroyed).Nodup := by
  unfold disposedBy
  rw [List.nodup_flatMap]
  refine ⟨fun cell _ => exclusive.object cell, ?_⟩
  refine sweeping.distinct.imp ?_
  intro first second different evt inFirst inSecond
  exact different (exclusive.cell first second evt inFirst inSecond)

theorem Met.empties {start final : State} {destroyed : List Cell}
    {visited : List (EventId × ReactorEvent)} (content : Content start [])
    (exclusive : Exclusive start)
    (swept : Sweeping start final.idGenerator final.idGenerator [] destroyed final)
    (met : Met start final 0 destroyed visited) : Empties start final visited := by
  have grown := swept.grown
  have distinct := disposedBy_nodup exclusive swept
  have length := disposedBy_length_le content swept
  have visits : ∀ id : Nat, id ∈ visited.map Prod.fst ↔
      (start.register id).isSome = true ∨ start.idGenerator ≤ id ∧ id < final.idGenerator := by
    intro id
    rw [met.all id]
    by_cases inside : id < final.idGenerator
    · rw [swept.kept id inside]
      constructor
      · intro both
        exact both.2.imp_right fun later => ⟨later, inside⟩
      · intro either
        exact ⟨Nat.zero_le _, either.imp_right And.left⟩
    · rw [swept.content.bounded id (Nat.le_of_not_lt inside),
        content.bounded id (by omega)]
      simp only [Option.isSome_none, Bool.false_eq_true, and_false, false_or, false_iff, not_and]
      exact fun _ => inside
  constructor
  · exact visits
  · exact met.inOrder
  · intro evt
    constructor
    · intro disposed
      obtain ⟨entry, member, later, final⟩ := disposed
      obtain ⟨other, found, alsoFinal⟩ := met.finals entry.1 entry.2 member later
      rw [final] at alsoFinal
      cases alsoFinal
      obtain ⟨cell, went, owns⟩ := List.mem_flatMap.mp (List.mem_of_getElem? found)
      exact ⟨cell, ((swept.gone cell).mp went).1, ((swept.gone cell).mp went).2, owns⟩
    · intro released
      obtain ⟨cell, live, dead, owns⟩ := released
      have member : evt ∈ disposedBy start destroyed :=
        List.mem_flatMap.mpr ⟨cell, (swept.gone cell).mpr ⟨live, dead⟩, owns⟩
      obtain ⟨index, found⟩ := List.mem_iff_getElem?.mp member
      have inside := (List.getElem?_eq_some_iff.mp found).1
      have id : start.idGenerator + index ∈ visited.map Prod.fst :=
        (visits _).mpr (Or.inr ⟨Nat.le_add_right _ _, by omega⟩)
      obtain ⟨entry, present, same⟩ := List.mem_map.mp id
      have later : start.idGenerator ≤ entry.1 := by
        rw [same]
        exact Nat.le_add_right _ _
      obtain ⟨other, foundOther, final⟩ := met.finals entry.1 entry.2 present later
      rw [same, Nat.add_sub_cancel_left, found] at foundOther
      cases foundOther
      exact ⟨entry, present, later, final⟩
  · intro first firstMember second secondMember evt firstLater secondLater firstFinal secondFinal
    obtain ⟨one, foundOne, oneFinal⟩ := met.finals first.1 first.2 firstMember firstLater
    obtain ⟨two, foundTwo, twoFinal⟩ := met.finals second.1 second.2 secondMember secondLater
    rw [firstFinal] at oneFinal
    rw [secondFinal] at twoFinal
    cases oneFinal
    cases twoFinal
    have inside := (List.getElem?_eq_some_iff.mp foundOne).1
    have same := (List.getElem?_inj inside distinct).mp (foundOne.trans foundTwo.symm)
    calc first.1
        = first.1 - start.idGenerator + start.idGenerator := (Nat.sub_add_cancel firstLater).symm
      _ = second.1 - start.idGenerator + start.idGenerator :=
          congrArg (· + start.idGenerator) same
      _ = second.1 := Nat.sub_add_cancel secondLater
  · intro id event registered
    exact swept.emptied id event (swept.content.known registered) registered
  · omega

/-- `close` returns: the loop meets every entry there is or will be, disposes every
object that goes once and leaves no closure, so that clearing the map destroys
no user data and takes no event. -/
theorem close_releasesEverything {state : State} (content : Content state [])
    (exclusive : Exclusive state) :
    ∃ final visited, Empties state final visited ∧
      ∀ fuel, state.idGenerator + disposable state ≤ fuel →
        sweep fuel state 0 = some (final, visited) ∧
          ∀ order, (∀ id, (final.register id).isSome = true → id ∈ order) →
            close fuel state order = some { final with register := fun _ => none } := by
  obtain ⟨final, visited, destroyed, executed, swept, _, met⟩ :=
    sweep_met content (state.idGenerator + disposable state) (sweeping_start content)
      (Nat.sub_le _ _)
  have empties := met.empties content exclusive swept
  refine ⟨final, visited, empties, ?_⟩
  intro fuel enough
  have returned := sweep_mono enough executed
  refine ⟨returned, ?_⟩
  intro order covers
  unfold close
  rw [returned, Option.bind_some, clear_empty empties.emptied order]
  congr 2
  funext id
  by_cases member : id ∈ order
  · rw [if_pos member]
  · rw [if_neg member]
    cases present : final.register id with
    | none => rfl
    | some event =>
        refine absurd (covers id ?_) member
        rw [present]
        rfl

/-! ### The states that a program reaches -/

def Fewer (state next : State) : Prop :=
  ∀ cell, (eventsOf next cell).Sublist (eventsOf state cell)

theorem fewer_of_same {state next : State} (same : next.objects = state.objects) :
    Fewer state next := by
  intro cell
  unfold eventsOf
  rw [same]

theorem Fewer.trans {state middle next : State} (first : Fewer state middle)
    (second : Fewer middle next) : Fewer state next :=
  fun cell => (second cell).trans (first cell)

theorem fewer_update {state next : State} {cell : Cell} {objects : List AsyncObject}
    (part : objects.Sublist (state.objects cell))
    (updated : next.objects = Function.update state.objects cell objects) :
    Fewer state next := by
  intro other
  unfold eventsOf
  rw [updated]
  by_cases same : other = cell
  · subst same
    rw [Function.update_self]
    exact part.flatMap _
  · rw [Function.update_of_ne same]

theorem Exclusive.fewer {state next : State} (exclusive : Exclusive state)
    (fewer : Fewer state next) : Exclusive next where
  cell := fun first second evt inFirst inSecond =>
    exclusive.cell first second evt ((fewer first).subset inFirst) ((fewer second).subset inSecond)
  object := fun cell => (exclusive.object cell).sublist (fewer cell)

theorem take_eq_some {state next : State} {event : ReactorEvent}
    (taken : take state event = some next) :
    next.objects = state.objects ∧ next.idGenerator = state.idGenerator + 1 := by
  unfold take at taken
  split at taken
  · cases taken
  · cases taken
    exact ⟨rfl, rfl⟩

theorem destroyObject_objects {state next : State} {object : AsyncObject}
    (destroyed : destroyObject state object = some next) : next.objects = state.objects := by
  have preserved : ∀ before evt after, before.objects = state.objects →
      dispose before evt = some after → after.objects = state.objects := by
    intro before evt after same disposed
    obtain ⟨taken, took, final⟩ := Option.map_eq_some_iff.mp disposed
    subst final
    exact (take_eq_some took).1.trans same
  exact Runs.exec_invariant preserved rfl destroyed

theorem fewer_destroyCell {state next : State} {cell : Cell}
    (destroyed : destroyCell state cell = some next) : Fewer state next := by
  obtain ⟨middle, ran, same⟩ := Option.map_eq_some_iff.mp destroyed
  have preserved : ∀ before object after, before.objects = state.objects →
      destroyObject before object = some after → after.objects = state.objects :=
    fun _ _ _ same destroyed => (destroyObject_objects destroyed).trans same
  have kept : middle.objects = state.objects := Runs.exec_invariant preserved rfl ran
  have emptied : next.objects = Function.update state.objects cell [] := by
    rw [← same, ← kept]
  exact fewer_update (List.nil_sublist _) emptied

theorem fewer_release {state next : State} {pending : List Cell}
    (ran : release state pending = some next) : Fewer state next := by
  have preserved : ∀ before cell after, Fewer state before →
      destroyCell before cell = some after → Fewer state after :=
    fun _ _ _ fewer destroyed => fewer.trans (fewer_destroyCell destroyed)
  have start : Fewer state { state with counts := (released state pending).1 } :=
    fewer_of_same rfl
  exact Runs.exec_invariant preserved start ran

theorem fewer_give {state next : State} {evt : EventId} (given : give state evt = some next) :
    Fewer state next := by
  unfold give at given
  split at given
  · cases given
  · split at given
    · cases given
    · obtain ⟨erased, ran, same⟩ := Option.map_eq_some_iff.mp given
      subst same
      exact fun cell => fewer_release ran cell

theorem fewer_completeFinal {state next : State} {final evt : EventId}
    {strand : Option StrandId} (completed : completeFinal state final evt strand = some next) :
    Fewer state next := by
  unfold completeFinal at completed
  split at completed
  · cases completed
  · split at completed
    · obtain ⟨name, _, same⟩ := Option.map_eq_some_iff.mp completed
      subst same
      exact fewer_of_same rfl
    · obtain ⟨erased, given, ran⟩ := Option.bind_eq_some_iff.mp completed
      exact (fewer_give given).trans (fewer_give ran)

theorem Exclusive.add {state next : State} (exclusive : Exclusive state)
    (owned : ∀ cell object evt, object ∈ state.objects cell → evt ∈ object.events →
      evt < state.idGenerator) {cell : Cell} {object : AsyncObject}
    (added : next.objects = Function.update state.objects cell (object :: state.objects cell))
    (fresh : ∀ evt ∈ object.events, state.idGenerator ≤ evt)
    (distinct : object.events.Nodup) : Exclusive next := by
  have known : ∀ other evt, evt ∈ eventsOf state other → evt < state.idGenerator := by
    intro other evt member
    obtain ⟨found, present, owns⟩ := List.mem_flatMap.mp member
    exact owned other found evt present owns
  have here : eventsOf next cell = object.events ++ eventsOf state cell := by
    unfold eventsOf
    rw [added, Function.update_self, List.flatMap_cons]
  have elsewhere : ∀ other, other ≠ cell → eventsOf next other = eventsOf state other := by
    intro other different
    unfold eventsOf
    rw [added, Function.update_of_ne different]
  have old : ∀ other evt, evt ∈ eventsOf next other →
      evt ∈ eventsOf state other ∨ other = cell ∧ state.idGenerator ≤ evt := by
    intro other evt member
    by_cases same : other = cell
    · rw [same, here] at member
      rcases List.mem_append.mp member with new | before
      · exact Or.inr ⟨same, fresh evt new⟩
      · exact Or.inl (same ▸ before)
    · rw [elsewhere other same] at member
      exact Or.inl member
  constructor
  · intro first second evt inFirst inSecond
    rcases old first evt inFirst with before | ⟨isCell, new⟩
    · rcases old second evt inSecond with alsoBefore | ⟨_, new⟩
      · exact exclusive.cell first second evt before alsoBefore
      · exact absurd (known first evt before) (Nat.not_lt_of_le new)
    · rcases old second evt inSecond with before | ⟨alsoCell, _⟩
      · exact absurd (known second evt before) (Nat.not_lt_of_le new)
      · rw [isCell, alsoCell]
  · intro other
    by_cases same : other = cell
    · rw [same, here]
      refine List.nodup_append'.mpr ⟨distinct, exclusive.object cell, ?_⟩
      intro evt new before
      exact absurd (known cell evt before) (Nat.not_lt_of_le (fresh evt new))
    · rw [elsewhere other same]
      exact exclusive.object other

theorem exclusive_construct {state next : State} (exclusive : Exclusive state)
    (settled : Settled state) {cell : Cell} {strand : StrandId} {sender : Bool}
    (constructed : construct state cell strand sender = some next) : Exclusive next := by
  obtain ⟨taken, took, rest⟩ := Option.bind_eq_some_iff.mp constructed
  obtain ⟨sameObjects, grown⟩ := take_eq_some took
  cases sender with
  | false =>
      cases rest
      have added : Function.update taken.objects cell
          (⟨state.idGenerator, none⟩ :: taken.objects cell) =
            Function.update state.objects cell
              (⟨state.idGenerator, none⟩ :: state.objects cell) := by
        rw [sameObjects]
      refine exclusive.add settled.sound.owned added ?_ (List.nodup_singleton _)
      intro evt member
      rw [List.mem_singleton.mp member]
  | true =>
      obtain ⟨second, tookSecond, same⟩ := Option.map_eq_some_iff.mp rest
      obtain ⟨alsoSame, _⟩ := take_eq_some tookSecond
      have added : next.objects = Function.update state.objects cell
          (⟨state.idGenerator, some taken.idGenerator⟩ :: state.objects cell) := by
        rw [← same, ← sameObjects, ← alsoSame]
      refine exclusive.add settled.sound.owned added ?_ ?_
      · intro evt member
        rcases List.mem_cons.mp member with isFirst | isSecond
        · rw [isFirst]
        · rw [List.mem_singleton.mp isSecond, grown]
          exact Nat.le_succ _
      · change [state.idGenerator, taken.idGenerator].Nodup
        rw [grown]
        simp

theorem exclusive_step {state next : State} {action : Action} (exclusive : Exclusive state)
    (settled : Settled state) (stepped : step state action = some next) : Exclusive next := by
  have same : next.objects = state.objects → Exclusive next :=
    fun same => exclusive.fewer (fewer_of_same same)
  cases action with
  | make =>
      cases stepped
      exact exclusive.fewer (fewer_update (List.nil_sublist _) rfl)
  | construct cell strand sender =>
      obtain ⟨_, constructed⟩ := Option.ite_none_right_eq_some.mp stepped
      exact exclusive_construct exclusive settled constructed
  | share cell =>
      obtain ⟨_, shared⟩ := Option.ite_none_right_eq_some.mp stepped
      cases shared
      exact same rfl
  | store holder cell =>
      obtain ⟨_, stored⟩ := Option.ite_none_right_eq_some.mp stepped
      cases stored
      exact same rfl
  | fetch holder cell =>
      obtain ⟨_, fetched⟩ := Option.ite_none_right_eq_some.mp stepped
      cases fetched
      exact same rfl
  | drop cell =>
      obtain ⟨_, ran⟩ := Option.ite_none_right_eq_some.mp stepped
      exact exclusive.fewer fun other => fewer_release ran other
  | destroyObject cell object =>
      obtain ⟨_, destroyed⟩ := Option.ite_none_right_eq_some.mp stepped
      exact exclusive.fewer (fewer_update List.erase_sublist (destroyObject_objects destroyed))
  | initiate cell evt captures armed =>
      simp only [step] at stepped
      split at stepped
      · obtain ⟨_, initiated⟩ := Option.ite_none_right_eq_some.mp stepped
        cases initiated
        cases armed
        · exact same rfl
        · exact same rfl
      · cases stepped
  | dispatch evt =>
      simp only [step] at stepped
      split at stepped
      · cases stepped
      · cases stepped
        exact same rfl
  | runTask task =>
      obtain ⟨_, ran⟩ := Option.ite_none_right_eq_some.mp stepped
      cases task with
      | react evt =>
          dsimp only at ran
          split at ran
          · cases ran
            exact same rfl
          · cases ran
      | enqueueFinal evt =>
          dsimp only at ran
          split at ran
          · cases ran
            exact same rfl
          · cases ran
  | processDeletionQueue =>
      cases stepped
      exact same rfl
  | strandStep strand =>
      simp only [step] at stepped
      split at stepped
      · cases stepped
      · split at stepped
        · cases stepped
        · split at stepped
          · cases stepped
          · cases stepped
            exact same rfl
          · exact exclusive.fewer fun other => fewer_completeFinal stepped other
  | finishCallback captures =>
      obtain ⟨_, ran⟩ := Option.ite_none_right_eq_some.mp stepped
      exact exclusive.fewer fun other => fewer_release ran other

theorem Settled.content {state : State} (settled : Settled state) : Content state [] :=
  ⟨settled.sound.balanced, settled.sound.registered.bounded, settled.free⟩

/-- Every state that a program reaches can be closed. -/
theorem closable_of_run {actions : List Action} {state : State}
    (executed : Runs.exec step init actions = some state) :
    Content state [] ∧ Exclusive state := by
  have start : Settled init ∧ Exclusive init := by
    refine ⟨settled_init, ?_⟩
    constructor
    · intro first second evt impossible
      cases impossible
    · intro cell
      exact List.nodup_nil
  have preserved : ∀ before action after, Settled before ∧ Exclusive before →
      step before action = some after → Settled after ∧ Exclusive after :=
    fun _ _ _ both stepped =>
      ⟨settled_step both.1 stepped, exclusive_step both.2 both.1 stepped⟩
  obtain ⟨settled, exclusive⟩ := Runs.exec_invariant preserved start executed
  exact ⟨settled.content, exclusive⟩

/-- A socket that only its own outstanding recv keeps alive. -/
def selfReference : List Action :=
  [.make, .construct 0 0 true, .initiate 0 0 [0] true, .drop 0]

theorem selfReference_closes :
    ∃ state final visited, Runs.exec step init selfReference = some state ∧
      Empties state final visited ∧ sweep 4 state 0 = some (final, visited) ∧
      final.counts 0 = 0 ∧ final.idGenerator = 4 := by
  have facts : (Runs.exec step init selfReference).map (fun state =>
      (state.idGenerator + disposable state,
        (sweep 4 state 0).map fun swept => (swept.1.counts 0, swept.1.idGenerator))) =
      some (4, some (0, 4)) := by
    decide +kernel
  obtain ⟨state, executed, both⟩ := Option.map_eq_some_iff.mp facts
  obtain ⟨enough, outcome⟩ := Prod.mk.inj both
  obtain ⟨content, exclusive⟩ := closable_of_run executed
  obtain ⟨final, visited, empties, returns⟩ := close_releasesEverything content exclusive
  have returned := (returns 4 (Nat.le_of_eq enough)).1
  rw [returned, Option.map_some] at outcome
  obtain ⟨dead, used⟩ := Prod.mk.inj (Option.some.inj outcome)
  exact ⟨state, final, visited, executed, empties, returned, dead, used⟩

end BabaIo.Registrar
