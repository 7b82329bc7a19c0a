import BabaIo.EventRegistrar

/-
When `event_registrar::give` returns.

`give` destroys the closures of an event while it holds the registrar's mutex.
It returns exactly when the cascade of destructors that this starts reaches no
async object in scope, for the disposal of such an object takes a final event.
-/

set_option autoImplicit false

namespace BabaIo.Registrar

/-- Ids are used in order, a final event is younger than its event, and an event
holds a `react` or a `complete`, not both. -/
structure Registered (register : EventId → Option ReactorEvent)
    (idGenerator : Nat) : Prop where
  bounded : ∀ id, idGenerator ≤ id → register id = none
  finals : ∀ id event evt, register id = some event →
    event.complete = some (.final evt) → evt < id
  stages : ∀ id event, register id = some event →
    event.react = none ∨ event.complete = none

/-- What holds between two steps, with `pending` the references of a thread that
is about to give them up. -/
structure Sound (state : State) (pending : List Cell) : Prop where
  balanced : SharedRefs.Balanced (Finset.range state.cells) state.keeps
    (outside state) state.counts pending
  registered : Registered state.register state.idGenerator
  owned : ∀ cell object evt, object ∈ state.objects cell → evt ∈ object.events →
    evt < state.idGenerator

/-! ### The register -/

theorem Registered.known {register : EventId → Option ReactorEvent} {bound : Nat}
    (registered : Registered register bound) {id : EventId} {event : ReactorEvent}
    (found : register id = some event) : id < bound := by
  by_contra beyond
  rw [registered.bounded id (Nat.le_of_not_lt beyond)] at found
  cases found

theorem Registered.update {register : EventId → Option ReactorEvent} {bound : Nat}
    (registered : Registered register bound) {id : EventId} (known : id < bound)
    {entry : Option ReactorEvent}
    (final : ∀ event evt, entry = some event → event.complete = some (.final evt) →
      evt < id)
    (stage : ∀ event, entry = some event → event.react = none ∨ event.complete = none) :
    Registered (Function.update register id entry) bound := by
  constructor
  · intro other beyond
    have different : other ≠ id := by
      intro same
      subst same
      exact Nat.lt_irrefl _ (Nat.lt_of_lt_of_le known beyond)
    rw [Function.update_of_ne different]
    exact registered.bounded other beyond
  · intro other event evt found
    by_cases same : other = id
    · rw [same, Function.update_self] at found
      exact same ▸ final event evt found
    · rw [Function.update_of_ne same] at found
      exact registered.finals other event evt found
  · intro other event found
    by_cases same : other = id
    · rw [same, Function.update_self] at found
      exact stage event found
    · rw [Function.update_of_ne same] at found
      exact registered.stages other event found

theorem Registered.next {register : EventId → Option ReactorEvent} {bound : Nat}
    (registered : Registered register bound) : Registered register (bound + 1) :=
  { bounded := fun id beyond => registered.bounded id (Nat.le_of_succ_le beyond)
    finals := registered.finals
    stages := registered.stages }

/-! ### References held by closures -/

theorem captured_update (register : EventId → Option ReactorEvent) {bound id : Nat}
    (known : id < bound) (value : Option ReactorEvent) (cell : Cell) :
    captured (Function.update register id value) bound cell +
        (closureRefs (register id)).count cell =
      captured register bound cell + (closureRefs value).count cell :=
  tally_update closureRefs register known value cell

theorem captured_take (register : EventId → Option ReactorEvent) (bound : Nat)
    {event : ReactorEvent} (empty : event.captures = []) (cell : Cell) :
    captured (Function.update register bound (some event)) (bound + 1) cell =
      captured register bound cell := by
  have added := tally_add closureRefs register bound (some event) cell
  change _ = _ + event.captures.count cell at added
  rw [empty, List.count_nil, Nat.add_zero] at added
  exact added

/-! ### Disposal -/

theorem Sound.take {state next : State} {pending : List Cell}
    (sound : Sound state pending) {event : ReactorEvent} (react : event.react = none)
    (empty : event.captures = [])
    (earlier : ∀ evt, event.complete = some (.final evt) → evt < state.idGenerator)
    (taken : take state event = some next) : Sound next pending := by
  unfold Registrar.take at taken
  split at taken
  · cases taken
  · cases taken
    constructor
    · apply sound.balanced.shift
      intro cell
      simp only [outside, captured_take state.register state.idGenerator empty]
    · apply sound.registered.next.update (Nat.lt_succ_self _)
      · intro other evt same final
        cases same
        exact earlier evt final
      · intro other same
        cases same
        exact Or.inl react
    · intro cell object evt member owns
      exact Nat.lt_succ_of_lt (sound.owned cell object evt member owns)

/-- What the destructors of async objects keep: nothing is given up, and the
mutex stays as it is. -/
structure Disposing (mutex : Bool) (bound : Nat) (pending : List Cell)
    (state : State) : Prop where
  sound : Sound state pending
  bound : bound ≤ state.idGenerator
  mutex : state.mutex = mutex

theorem disposing_dispose {mutex : Bool} {bound : Nat} {pending : List Cell}
    {state next : State} (held : Disposing mutex bound pending state) {evt : EventId}
    (known : evt < bound) (disposed : dispose state evt = some next) :
    Disposing mutex bound pending next := by
  obtain ⟨taken, took, rfl⟩ := Option.map_eq_some_iff.mp disposed
  have sound := held.sound.take rfl rfl
    (fun other final => by
      cases final
      exact Nat.lt_of_lt_of_le known held.bound) took
  unfold take at took
  split at took
  · cases took
  · cases took
    refine ⟨⟨sound.balanced, sound.registered, sound.owned⟩,
      Nat.le_succ_of_le held.bound, held.mutex⟩

theorem disposing_destroyObject {mutex : Bool} {bound : Nat} {pending : List Cell}
    {state next : State} (held : Disposing mutex bound pending state)
    {object : AsyncObject} (known : ∀ evt ∈ object.events, evt < bound)
    (destroyed : destroyObject state object = some next) :
    Disposing mutex bound pending next :=
  Runs.exec_invariant_of_mem
    (fun _ evt _ member before disposed =>
      disposing_dispose before (known evt member) disposed)
    held destroyed

theorem disposing_destroyCell {mutex : Bool} {bound : Nat} {pending : List Cell}
    {state next : State} (held : Disposing mutex bound pending state) {cell : Cell}
    (destroyed : destroyCell state cell = some next) :
    Disposing mutex bound pending next := by
  obtain ⟨middle, ran, rfl⟩ := Option.map_eq_some_iff.mp destroyed
  have whole : Disposing mutex state.idGenerator pending state :=
    ⟨held.sound, Nat.le_refl _, held.mutex⟩
  have after : Disposing mutex state.idGenerator pending middle :=
    Runs.exec_invariant_of_mem
      (fun _ object _ member before destroyed =>
        disposing_destroyObject before
          (fun evt owns => held.sound.owned cell object evt member owns) destroyed)
      whole ran
  have sound := after.sound
  refine ⟨⟨sound.balanced, sound.registered, ?_⟩,
    held.bound.trans after.bound, after.mutex⟩
  intro other object evt member owns
  change object ∈ Function.update middle.objects cell [] other at member
  by_cases same : other = cell
  · rw [same, Function.update_self] at member
    cases member
  · rw [Function.update_of_ne same] at member
    exact sound.owned other object evt member owns

def released (state : State) (pending : List Cell) : (Cell → Nat) × List Cell :=
  SharedRefs.release state.keeps
    (SharedRefs.weight (Finset.range state.cells) state.keeps state.counts +
      pending.length) state.counts pending

theorem disposing_release {state next : State} {pending : List Cell}
    (sound : Sound state pending) (ran : release state pending = some next) :
    Disposing state.mutex state.idGenerator [] next := by
  have settled := SharedRefs.release_balanced sound.balanced (Nat.le_refl _)
  have start : Disposing state.mutex state.idGenerator []
      { state with counts := (released state pending).1 } :=
    ⟨⟨settled, sound.registered, sound.owned⟩,
      Nat.le_refl _, rfl⟩
  exact Runs.exec_invariant_of_mem
    (fun _ _ _ _ before destroyed => disposing_destroyCell before destroyed) start ran

/-! ### Destructors under the mutex -/

/-- With the mutex held only the data of a cell without async objects can be
destroyed. -/
theorem destroyCell_locked {state next : State} (locked : state.mutex = true)
    {cell : Cell} :
    destroyCell state cell = some next ↔ state.objects cell = [] ∧ next = state := by
  unfold destroyCell
  cases objects : state.objects cell with
  | nil =>
      have same : Function.update state.objects cell [] = state.objects := by
        rw [← objects, Function.update_eq_self]
      simp only [Runs.exec_nil, Option.map_some, Option.some.injEq, same, true_and]
      exact eq_comm
  | cons object rest =>
      have blocked : destroyObject state object = none := by
        unfold destroyObject AsyncObject.events
        rw [Runs.exec_cons]
        simp only [dispose, take, if_pos locked, Option.map_none, Option.bind_none]
      rw [Runs.exec_cons, blocked]
      simp

theorem exec_destroyCell_locked {state next : State} (locked : state.mutex = true)
    {cells : List Cell} :
    Runs.exec destroyCell state cells = some next ↔
      (∀ cell ∈ cells, state.objects cell = []) ∧ next = state := by
  induction cells with
  | nil =>
      rw [Runs.exec_nil, Option.some.injEq]
      exact ⟨fun same => ⟨fun _ impossible => (List.not_mem_nil impossible).elim, same.symm⟩,
        fun both => both.2.symm⟩
  | cons cell rest ih =>
      rw [Runs.exec_cons_eq_some, List.forall_mem_cons]
      constructor
      · rintro ⟨middle, destroyed, later⟩
        obtain ⟨empty, rfl⟩ := (destroyCell_locked locked).mp destroyed
        obtain ⟨others, same⟩ := ih.mp later
        exact ⟨⟨empty, others⟩, same⟩
      · rintro ⟨⟨empty, others⟩, same⟩
        exact ⟨state, (destroyCell_locked locked).mpr ⟨empty, rfl⟩,
          ih.mpr ⟨others, same⟩⟩

/-! ### One call of give -/

theorem Sound.erase {state : State} (sound : Sound state []) {evt : EventId}
    {event : ReactorEvent} (found : state.register evt = some event) :
    Sound { state with register := Function.update state.register evt none }
      event.captures := by
  have known := sound.registered.known found
  constructor
  · apply sound.balanced.shift
    intro cell
    have split := captured_update state.register known none cell
    rw [found] at split
    change _ + event.captures.count cell = _ + 0 at split
    simp only [outside, List.count_nil]
    omega
  · apply sound.registered.update known <;> intro _ <;> intros <;> contradiction
  · exact sound.owned

/-- The call returns if nothing kept alive by the event holds an async object, and
then it only erases the event and gives up references. -/
theorem give_eq_some_iff {state next : State} (sound : Sound state [])
    (free : state.mutex = false) {evt : EventId} {event : ReactorEvent}
    (found : state.register evt = some event) :
    give state evt = some next ↔
      (∀ cell, KeptAliveBy state evt cell → state.objects cell = []) ∧
        next = { state with
          register := Function.update state.register evt none
          counts := (released { state with
            register := Function.update state.register evt none } event.captures).1 } := by
  have erased := sound.erase found
  have doomed := SharedRefs.mem_release_iff_doomed erased.balanced (Nat.le_refl _)
  unfold give release
  rw [if_neg (by rw [free]; exact Bool.false_ne_true), found]
  simp only [Option.map_eq_some_iff]
  constructor
  · rintro ⟨middle, ran, rfl⟩
    obtain ⟨empty, rfl⟩ := (exec_destroyCell_locked rfl).mp ran
    refine ⟨fun cell kept => empty cell ((doomed cell).mpr kept), ?_⟩
    simp only [free]
    rfl
  · rintro ⟨empty, rfl⟩
    refine ⟨_, (exec_destroyCell_locked rfl).mpr
      ⟨fun cell destroyed => empty cell ((doomed cell).mp destroyed), rfl⟩, ?_⟩
    simp only [free]
    rfl

/-! ### Steps -/

/-- Between two steps nobody holds the mutex and nothing is about to be given
up. -/
structure Settled (state : State) : Prop where
  sound : Sound state []
  free : state.mutex = false

theorem settled_init : Settled init := by
  refine ⟨⟨⟨fun _ impossible => (Nat.lt_irrefl 0 impossible).elim, fun _ => rfl⟩,
    ⟨fun _ _ => rfl, fun _ _ _ impossible => ?_, fun _ _ impossible => ?_⟩,
    fun _ _ _ impossible => (List.not_mem_nil impossible).elim⟩, rfl⟩
  · cases impossible
  · cases impossible

theorem Disposing.settled {state : State} {bound : Nat}
    (held : Disposing false bound [] state) : Settled state :=
  ⟨held.sound, held.mutex⟩

theorem settled_release {state next : State} {pending : List Cell}
    (sound : Sound state pending) (free : state.mutex = false)
    (ran : release state pending = some next) : Settled next := by
  have after := disposing_release sound ran
  rw [free] at after
  exact after.settled

theorem outside_setEvent {state : State} {evt : EventId} {old : ReactorEvent}
    (known : evt < state.idGenerator) (found : state.register evt = some old)
    (event : ReactorEvent) (cell : Cell) :
    outside (setEvent state evt event) cell + old.captures.count cell =
      outside state cell + event.captures.count cell := by
  have split := captured_update state.register known (some event) cell
  rw [found] at split
  change _ + old.captures.count cell = _ + event.captures.count cell at split
  simp only [outside, setEvent]
  omega

theorem settled_make {state : State} (held : Settled state) : Settled (make state) := by
  have sound := held.sound
  refine ⟨⟨?_, sound.registered, ?_⟩, held.free⟩
  · change SharedRefs.Balanced (Finset.range (state.cells + 1)) _ _ _ _
    rw [Finset.range_add_one]
    apply sound.balanced.add Finset.notMem_range_self
    intro cell
    simp only [outside, make, List.count_cons, List.count_nil]
    omega
  · intro cell object evt member
    change object ∈ Function.update state.objects state.cells [] cell at member
    by_cases same : cell = state.cells
    · rw [same, Function.update_self] at member
      cases member
    · rw [Function.update_of_ne same] at member
      exact sound.owned cell object evt member

theorem settled_share {state : State} (held : Settled state) {cell : Cell}
    (live : 0 < state.counts cell) : Settled (share state cell) := by
  refine ⟨⟨?_, held.sound.registered, held.sound.owned⟩, held.free⟩
  apply held.sound.balanced.copy
  · intro other member
    rw [List.mem_singleton.mp member]
    exact live
  · intro other
    simp only [outside, share, copy, List.count_cons, List.count_nil]
    omega

theorem settled_store {state : State} (held : Settled state) {holder cell : Cell}
    (live : 0 < state.counts holder) (root : cell ∈ state.roots) :
    Settled (store state holder cell) := by
  refine ⟨⟨?_, held.sound.registered, held.sound.owned⟩, held.free⟩
  apply held.sound.balanced.keep live
  intro other
  have split := (List.perm_cons_erase root).count_eq other
  rw [List.count_cons] at split
  simp only [outside, store, List.count_cons]
  omega

theorem settled_fetch {state : State} (held : Settled state) {holder cell : Cell}
    (live : 0 < state.counts holder) (kept : cell ∈ state.keeps holder) :
    Settled (fetch state holder cell) := by
  refine ⟨⟨?_, held.sound.registered, held.sound.owned⟩, held.free⟩
  apply held.sound.balanced.keep live
  intro other
  have split := (List.perm_cons_erase kept).count_eq other
  rw [List.count_cons] at split
  simp only [outside, fetch, List.count_cons]
  omega

theorem settled_drop {state next : State} (held : Settled state) {cell : Cell}
    (root : cell ∈ state.roots)
    (ran : release { state with roots := state.roots.erase cell } [cell] = some next) :
    Settled next := by
  have sound : Sound { state with roots := state.roots.erase cell } [cell] := by
    refine ⟨held.sound.balanced.shift fun other => ?_, held.sound.registered,
      held.sound.owned⟩
    have split := (List.perm_cons_erase root).count_eq other
    rw [List.count_cons] at split
    simp only [outside, List.count_cons, List.count_nil]
    omega
  exact settled_release sound held.free ran

theorem settled_finishCallback {state next : State} (held : Settled state)
    {captures : List Cell} (inProgress : captures ∈ state.holders)
    (ran : release { state with holders := state.holders.erase captures } captures =
      some next) : Settled next := by
  have sound : Sound { state with holders := state.holders.erase captures } captures := by
    refine ⟨held.sound.balanced.shift fun other => ?_, held.sound.registered,
      held.sound.owned⟩
    have split := (List.perm_cons_erase inProgress).flatten.count_eq other
    rw [List.flatten_cons, List.count_append] at split
    simp only [outside, List.count_nil]
    omega
  exact settled_release sound held.free ran

theorem settled_destroyObject {state next : State} (held : Settled state) {cell : Cell}
    {object : AsyncObject} (member : object ∈ state.objects cell)
    (ran : destroyObject { state with
      objects := Function.update state.objects cell ((state.objects cell).erase object) }
        object = some next) : Settled next := by
  have sound := held.sound
  have start : Disposing false state.idGenerator [] { state with
      objects := Function.update state.objects cell
        ((state.objects cell).erase object) } := by
    refine ⟨⟨sound.balanced, sound.registered, ?_⟩, Nat.le_refl _, held.free⟩
    intro other owned evt present
    change owned ∈ Function.update state.objects cell _ other at present
    by_cases same : other = cell
    · rw [same, Function.update_self] at present
      exact sound.owned cell owned evt (List.mem_of_mem_erase present)
    · rw [Function.update_of_ne same] at present
      exact sound.owned other owned evt present
  exact (disposing_destroyObject start
    (fun evt owns => sound.owned cell object evt member owns) ran).settled

theorem settled_construct {state next : State} (held : Settled state) {cell : Cell}
    {strand : StrandId} {sender : Bool}
    (constructed : construct state cell strand sender = some next) : Settled next := by
  have earlier : ∀ evt bound, (none : Option Complete) = some (.final evt) → evt < bound := by
    intro evt bound impossible
    cases impossible
  obtain ⟨taken, took, rest⟩ := Option.bind_eq_some_iff.mp constructed
  have first := held.sound.take rfl rfl (fun evt => earlier evt _) took
  have grown : taken.idGenerator = state.idGenerator + 1 ∧ taken.mutex = false := by
    unfold take at took
    rw [if_neg (by rw [held.free]; exact Bool.false_ne_true)] at took
    cases took
    exact ⟨rfl, held.free⟩
  have owns : ∀ (before : State), Sound before [] → ∀ object : AsyncObject,
      (∀ evt ∈ object.events, evt < before.idGenerator) →
      Sound { before with
        objects := Function.update before.objects cell (object :: before.objects cell) }
          [] := by
    intro before sound object known
    refine ⟨sound.balanced, sound.registered, ?_⟩
    intro other owned evt member present
    change owned ∈ Function.update before.objects cell _ other at member
    by_cases same : other = cell
    · rw [same, Function.update_self] at member
      rcases List.mem_cons.mp member with isNew | old
      · exact known evt (isNew ▸ present)
      · exact sound.owned cell owned evt old present
    · rw [Function.update_of_ne same] at member
      exact sound.owned other owned evt member present
  cases sender with
  | false =>
      cases rest
      refine ⟨owns taken first ⟨state.idGenerator, none⟩ ?_, grown.2⟩
      intro evt member
      rw [List.mem_singleton.mp member, grown.1]
      exact Nat.lt_succ_self _
  | true =>
      obtain ⟨second, tookSecond, rfl⟩ := Option.map_eq_some_iff.mp rest
      have sound := first.take rfl rfl (fun evt => earlier evt _) tookSecond
      unfold take at tookSecond
      rw [if_neg (by rw [grown.2]; exact Bool.false_ne_true)] at tookSecond
      cases tookSecond
      refine ⟨owns _ sound ⟨state.idGenerator, some taken.idGenerator⟩ ?_, grown.2⟩
      intro evt member
      change evt < taken.idGenerator + 1
      simp only [AsyncObject.events, Option.toList_some, List.mem_cons, List.not_mem_nil,
        or_false] at member
      rcases member with rfl | rfl
      · rw [grown.1]
        exact Nat.lt_succ_of_lt (Nat.lt_succ_self _)
      · exact Nat.lt_succ_self _

/-- An event changes without becoming a final event; what its closures hold comes
from the pending references or goes to other holders. -/
theorem Sound.setEvent (state : State) {pending : List Cell}
    (registered : Registered state.register state.idGenerator)
    (owned : ∀ cell object evt, object ∈ state.objects cell → evt ∈ object.events →
      evt < state.idGenerator) {evt : EventId} {old event : ReactorEvent}
    (found : state.register evt = some old)
    (final : ∀ owner, event.complete = some (.final owner) →
      old.complete = some (.final owner))
    (stage : event.react = none ∨ event.complete = none)
    (balanced : SharedRefs.Balanced (Finset.range state.cells) state.keeps
      (outside (Registrar.setEvent state evt event)) state.counts pending) :
    Sound (Registrar.setEvent state evt event) pending := by
  have known := registered.known found
  refine ⟨balanced, registered.update known ?_ ?_, owned⟩
  · intro other owner same finalOther
    cases same
    exact registered.finals evt old owner found (final owner finalOther)
  · intro other same
    cases same
    exact stage

theorem settled_initiate {state : State} (held : Settled state) {evt : EventId}
    {strand : StrandId} {active : Bool}
    (found : state.register evt = some ⟨some strand, none, none, active⟩)
    {captures : List Cell} (live : ∀ cell ∈ captures, 0 < state.counts cell)
    (armed : Bool) :
    Settled (initiate state evt ⟨some strand, none, none, active⟩ strand captures armed) := by
  have sound := held.sound
  have known := sound.registered.known found
  have copied : ∀ event : ReactorEvent, event.captures = captures →
      (∀ owner, event.complete ≠ some (.final owner)) →
      (event.react = none ∨ event.complete = none) →
      Sound (Registrar.setEvent (copy state captures) evt event) [] := by
    intro event holds notFinal stage
    refine Sound.setEvent (copy state captures) sound.registered sound.owned found
      (fun owner impossible => absurd impossible (notFinal owner)) stage ?_
    apply sound.balanced.copy live
    intro cell
    have split := outside_setEvent known found event cell
    rw [holds] at split
    exact split
  cases armed with
  | true =>
      refine ⟨copied ⟨some strand, some captures, none, active⟩ rfl ?_ (Or.inr rfl),
        held.free⟩
      intro owner impossible
      cases impossible
  | false =>
      have sound := copied ⟨some strand, none, some (.callback captures), active⟩
        (List.append_nil captures) (by intro owner impossible; cases impossible)
        (Or.inl rfl)
      exact ⟨⟨sound.balanced, sound.registered, sound.owned⟩, held.free⟩

theorem settled_dispatch {state : State} (held : Settled state) {evt : EventId}
    {event : ReactorEvent} (found : state.register evt = some event)
    (tasks : List ReactorTask) :
    Settled { setEvent state evt { event with hasActiveEvent := true } with
      taskQueue := tasks } := by
  have sound := held.sound
  have known := sound.registered.known found
  have changed : Sound (setEvent state evt { event with hasActiveEvent := true }) [] := by
    refine Sound.setEvent state sound.registered sound.owned found (fun _ final => final)
      (sound.registered.stages evt event found) ?_
    apply sound.balanced.shift
    intro cell
    have split := outside_setEvent known found { event with hasActiveEvent := true } cell
    change _ + event.captures.count cell = _ + event.captures.count cell at split
    omega
  exact ⟨⟨changed.balanced, changed.registered, changed.owned⟩, held.free⟩

theorem settled_forCompletion {state : State} (held : Settled state) {evt : EventId}
    {strand : StrandId} {captures : List Cell} {complete : Option Complete}
    {active : Bool}
    (found : state.register evt = some ⟨some strand, some captures, complete, active⟩) :
    Settled (forCompletion state evt ⟨some strand, some captures, complete, active⟩
      strand captures) := by
  have sound := held.sound
  have known := sound.registered.known found
  have stage : complete = none := by
    rcases sound.registered.stages evt _ found with impossible | none
    · cases impossible
    · exact none
  subst complete
  have changed : Sound (setEvent state evt
      ⟨some strand, none, some (.callback captures), active⟩) [] := by
    refine Sound.setEvent state sound.registered sound.owned found
      (fun _ impossible => by cases impossible) (Or.inl rfl) ?_
    apply sound.balanced.shift
    intro cell
    have split := outside_setEvent known found
      ⟨some strand, none, some (.callback captures), active⟩ cell
    simp only [ReactorEvent.captures, Complete.captures, Option.map_none, Option.map_some,
      Option.getD_none, Option.getD_some, List.nil_append, List.append_nil] at split
    omega
  exact ⟨⟨changed.balanced, changed.registered, changed.owned⟩, held.free⟩

theorem settled_beginCallback {state : State} (held : Settled state) {evt : EventId}
    {event : ReactorEvent} {captures : List Cell}
    (found : state.register evt = some event)
    (complete : event.complete = some (.callback captures)) :
    Settled (beginCallback state evt event captures) := by
  have sound := held.sound
  have known := sound.registered.known found
  have changed : Sound (setEvent state evt
      { event with complete := none, hasActiveEvent := false }) captures := by
    refine Sound.setEvent state sound.registered sound.owned found
      (fun _ impossible => by cases impossible) (Or.inr rfl) ?_
    apply sound.balanced.shift
    intro cell
    have split := outside_setEvent known found
      { event with complete := none, hasActiveEvent := false } cell
    simp only [ReactorEvent.captures, complete, Complete.captures, Option.map_none,
      Option.map_some, Option.getD_none, Option.getD_some, List.nil_append,
      List.count_append] at split
    rw [List.count_nil]
    omega
  refine ⟨⟨changed.balanced.shift fun cell => ?_, changed.registered, changed.owned⟩,
    held.free⟩
  simp only [outside, beginCallback, setEvent, List.flatten_cons, List.count_append,
    List.count_nil]
  omega

/-! ### Final events -/

theorem settled_give {state next : State} (held : Settled state) {evt : EventId}
    (given : give state evt = some next) : Settled next := by
  unfold give at given
  rw [if_neg (by rw [held.free]; exact Bool.false_ne_true)] at given
  split at given
  · cases given
  · rename_i event found
    obtain ⟨erased, ran, rfl⟩ := Option.map_eq_some_iff.mp given
    have sound := held.sound.erase found
    have locked : Sound { state with
        mutex := true
        register := Function.update state.register evt none } event.captures :=
      ⟨sound.balanced, sound.registered, sound.owned⟩
    have after := (disposing_release locked ran).sound
    exact ⟨⟨after.balanced, after.registered, after.owned⟩, rfl⟩

theorem give_empty {state : State} (held : Settled state) {evt : EventId}
    {event : ReactorEvent} (found : state.register evt = some event)
    (empty : event.captures = []) :
    give state evt =
      some { state with register := Function.update state.register evt none } := by
  apply (give_eq_some_iff held.sound held.free found).mpr
  rw [empty]
  constructor
  · intro cell kept
    have erased := held.sound.erase found
    rw [empty] at erased
    have destroyed := (SharedRefs.mem_release_iff_doomed erased.balanced
      (Nat.le_refl _) cell).mpr kept
    rw [SharedRefs.release_nil] at destroyed
    cases destroyed
  · simp only [released, SharedRefs.release_nil]

theorem Sound.final_empty {state : State} {pending : List Cell}
    (sound : Sound state pending) {final evt : EventId} {event : ReactorEvent}
    (found : state.register final = some event)
    (complete : event.complete = some (.final evt)) : event.captures = [] := by
  rcases sound.registered.stages final event found with react | impossible
  · simp only [ReactorEvent.captures, complete, react, Option.map_some, Option.getD_some,
      Complete.captures, Option.getD_none, List.append_nil]
  · rw [complete] at impossible
    cases impossible

theorem giveBoth_eq_some_iff {state next : State} (held : Settled state)
    {final evt : EventId} {event finalEvent : ReactorEvent}
    (found : state.register evt = some event)
    (foundFinal : state.register final = some finalEvent)
    (complete : finalEvent.complete = some (.final evt)) :
    ((give state evt).bind fun erased => give erased final) = some next ↔
      (∀ cell, KeptAliveBy state evt cell → state.objects cell = []) ∧
        next = { state with
          register := Function.update (Function.update state.register evt none) final none
          counts := (released { state with
            register := Function.update state.register evt none } event.captures).1 } := by
  have older : evt < final :=
    held.sound.registered.finals final finalEvent evt foundFinal complete
  have second : ∀ erased, give state evt = some erased →
      give erased final =
        some { erased with register := Function.update erased.register final none } := by
    intro erased given
    have after := settled_give held given
    obtain ⟨_, rfl⟩ := (give_eq_some_iff held.sound held.free found).mp given
    apply give_empty after
    · change Function.update state.register evt none final = some finalEvent
      rw [Function.update_of_ne (Nat.ne_of_gt older)]
      exact foundFinal
    · exact held.sound.final_empty foundFinal complete
  rw [Option.bind_eq_some_iff]
  constructor
  · rintro ⟨erased, given, ran⟩
    rw [second erased given] at ran
    obtain ⟨empty, rfl⟩ := (give_eq_some_iff held.sound held.free found).mp given
    cases ran
    exact ⟨empty, rfl⟩
  · rintro ⟨empty, rfl⟩
    have given := (give_eq_some_iff held.sound held.free found).mpr ⟨empty, rfl⟩
    exact ⟨_, given, second _ given⟩

theorem settled_completeFinal {state next : State} (held : Settled state)
    {final evt : EventId} {strand : Option StrandId}
    (completed : completeFinal state final evt strand = some next) : Settled next := by
  unfold completeFinal at completed
  split at completed
  · cases completed
  · split at completed
    · obtain ⟨name, _, rfl⟩ := Option.map_eq_some_iff.mp completed
      exact ⟨⟨held.sound.balanced, held.sound.registered, held.sound.owned⟩, held.free⟩
    · obtain ⟨erased, given, ran⟩ := Option.bind_eq_some_iff.mp completed
      exact settled_give (settled_give held given) ran

theorem settled_step {state next : State} {action : Action} (held : Settled state)
    (stepped : step state action = some next) : Settled next := by
  cases action with
  | make =>
      cases stepped
      exact settled_make held
  | construct cell strand sender =>
      simp only [step] at stepped
      split at stepped
      · exact settled_construct held stepped
      · cases stepped
  | share cell =>
      simp only [step] at stepped
      split at stepped
      · cases stepped
        exact settled_share held ‹_›
      · cases stepped
  | store holder cell =>
      simp only [step] at stepped
      split at stepped
      · rename_i both
        cases stepped
        exact settled_store held both.1 both.2
      · cases stepped
  | fetch holder cell =>
      simp only [step] at stepped
      split at stepped
      · rename_i both
        cases stepped
        exact settled_fetch held both.1 both.2
      · cases stepped
  | drop cell =>
      simp only [step] at stepped
      split at stepped
      · exact settled_drop held ‹_› stepped
      · cases stepped
  | destroyObject cell object =>
      simp only [step] at stepped
      split at stepped
      · exact settled_destroyObject held ‹_› stepped
      · cases stepped
  | initiate cell evt captures armed =>
      simp only [step] at stepped
      split at stepped
      · split at stepped
        · rename_i found both
          cases stepped
          exact settled_initiate held found both.2 armed
        · cases stepped
      · cases stepped
  | dispatch evt =>
      simp only [step] at stepped
      split at stepped
      · cases stepped
      · cases stepped
        exact settled_dispatch held ‹_› _
  | runTask task =>
      have started : Settled { state with taskQueue := state.taskQueue.erase task } :=
        ⟨⟨held.sound.balanced, held.sound.registered, held.sound.owned⟩, held.free⟩
      simp only [step] at stepped
      split at stepped
      · split at stepped
        · split at stepped
          · rename_i found
            cases stepped
            exact settled_forCompletion started found
          · cases stepped
        · split at stepped
          · cases stepped
            exact ⟨⟨held.sound.balanced, held.sound.registered, held.sound.owned⟩,
              held.free⟩
          · cases stepped
      · cases stepped
  | processDeletionQueue =>
      cases stepped
      exact ⟨⟨held.sound.balanced, held.sound.registered, held.sound.owned⟩, held.free⟩
  | strandStep strand =>
      simp only [step] at stepped
      split at stepped
      · cases stepped
      · rename_i evt rest queued
        have popped : Settled { state with
            strandQueue := Function.update state.strandQueue strand rest } :=
          ⟨⟨held.sound.balanced, held.sound.registered, held.sound.owned⟩, held.free⟩
        split at stepped
        · cases stepped
        · rename_i event found
          split at stepped
          · cases stepped
          · rename_i captures complete
            cases stepped
            exact settled_beginCallback popped found complete
          · exact settled_completeFinal popped stepped
  | finishCallback captures =>
      simp only [step] at stepped
      split at stepped
      · exact settled_finishCallback held ‹_› stepped
      · cases stepped

/-! ### When final events return -/

theorem handed_eq_some {state : State} {strand : StrandId} {evt final : EventId}
    (hands : handed state strand = some (evt, final)) :
    ∃ rest finalEvent event, state.strandQueue strand = final :: rest ∧
      state.register final = some finalEvent ∧
      finalEvent.complete = some (.final evt) ∧
      state.register evt = some event ∧ event.hasActiveEvent = false := by
  unfold handed at hands
  split at hands
  · cases hands
  · rename_i first rest queued
    split at hands
    · rename_i owner complete
      split at hands
      · rename_i event found
        split at hands
        · cases hands
        · rename_i inactive
          cases hands
          obtain ⟨finalEvent, foundFinal, isFinal⟩ := Option.bind_eq_some_iff.mp complete
          exact ⟨rest, finalEvent, event, queued, foundFinal, isFinal, found,
            Bool.eq_false_iff.mpr inactive⟩
      · cases hands
    · cases hands

/-- What a final event does when its event has no completion in the strand. -/
theorem step_handed {state : State} {strand : StrandId} {evt final : EventId}
    {rest : List EventId} {finalEvent event : ReactorEvent}
    (queued : state.strandQueue strand = final :: rest)
    (foundFinal : state.register final = some finalEvent)
    (complete : finalEvent.complete = some (.final evt))
    (found : state.register evt = some event)
    (inactive : event.hasActiveEvent = false) :
    step state (.strandStep strand) =
      (give { state with
        strandQueue := Function.update state.strandQueue strand rest } evt).bind
        fun erased => give erased final := by
  simp only [step, queued, foundFinal, complete, completeFinal, found, inactive]
  rfl

theorem finalReturns_iff {state : State} (held : Settled state) (action : Action) :
    FinalReturns state action ↔ HandsOverNoOwner state action := by
  cases action with
  | strandStep strand =>
      apply forall_congr'
      intro evt
      apply forall_congr'
      intro final
      apply forall_congr'
      intro hands
      obtain ⟨rest, finalEvent, event, queued, foundFinal, complete, found, inactive⟩ :=
        handed_eq_some hands
      have popped : Settled { state with
          strandQueue := Function.update state.strandQueue strand rest } :=
        ⟨⟨held.sound.balanced, held.sound.registered, held.sound.owned⟩, held.free⟩
      rw [step_handed queued foundFinal complete found inactive]
      constructor
      · rintro ⟨next, ran, _⟩
        exact ((giveBoth_eq_some_iff popped found foundFinal complete).mp ran).1
      · intro empty
        have ran := (giveBoth_eq_some_iff popped found foundFinal complete).mpr ⟨empty, rfl⟩
        refine ⟨_, ran, ?_, ?_⟩
        · intro id _known
          simp only [Function.update_apply]
          by_cases isFinal : id = final
          · rw [if_pos isFinal, if_pos (Or.inr isFinal)]
          · by_cases isEvt : id = evt
            · rw [if_neg isFinal, if_pos isEvt, if_pos (Or.inl isEvt)]
            · rw [if_neg isFinal, if_neg isEvt, if_neg (not_or.mpr ⟨isEvt, isFinal⟩)]
        · intro cell live dead object member
          have erased := popped.sound.erase found
          have destroyed := (SharedRefs.mem_release_iff _ _ _ cell).mpr ⟨live, dead⟩
          have kept := SharedRefs.doomed_of_mem_release erased.balanced destroyed
          rw [empty cell kept] at member
          cases member
  | make => exact Iff.rfl
  | construct cell strand sender => exact Iff.rfl
  | share cell => exact Iff.rfl
  | store holder cell => exact Iff.rfl
  | fetch holder cell => exact Iff.rfl
  | drop cell => exact Iff.rfl
  | destroyObject cell object => exact Iff.rfl
  | initiate cell evt captures armed => exact Iff.rfl
  | dispatch evt => exact Iff.rfl
  | runTask task => exact Iff.rfl
  | processDeletionQueue => exact Iff.rfl
  | finishCallback captures => exact Iff.rfl

/-- Along every run all final events return if and only if none of them hands over
an event that keeps an async object in scope alive. -/
theorem finalsReturn_iff_handOverNoOwner (actions : List Action) :
    Runs.StepsMeet step FinalReturns init actions ↔
      Runs.StepsMeet step HandsOverNoOwner init actions :=
  Runs.stepsMeet_congr (fun _ _ _ held stepped => settled_step held stepped)
    (fun _ action held => finalReturns_iff held action) actions settled_init

/-- Timer 1 is destroyed while the callback of its pending timeout holds the last
reference to timer 0. -/
def lastReferencePending : List Action :=
  [.make, .construct 0 0 false, .make, .construct 1 0 false,
    .initiate 1 1 [0] true, .drop 0, .drop 1, .processDeletionQueue,
    .runTask (.enqueueFinal 2)]

theorem finalsAlwaysReturn_false :
    ¬ ∀ actions : List Action, Runs.StepsMeet step FinalReturns init actions := by
  intro always
  have hands : (Runs.exec step init lastReferencePending).bind
      (fun state => handed state 0) = some (1, 2) := by
    decide +kernel
  have blocked : ((Runs.exec step init lastReferencePending).bind
      (fun state => step state (.strandStep 0))).isNone = true := by
    decide +kernel
  obtain ⟨state, executed, handsOver⟩ := Option.bind_eq_some_iff.mp hands
  rw [executed, Option.bind_some, Option.isNone_iff_eq_none] at blocked
  have returns := (always (lastReferencePending ++ [.strandStep 0])).last executed
  obtain ⟨next, ran, _⟩ := returns 1 2 handsOver
  rw [blocked] at ran
  cases ran

end BabaIo.Registrar
