import BabaIo.Library.Runs
import BabaIo.Library.SharedRefs
import BabaIo.Library.Tally

/-
`event_registrar` and the closures its events hold.

User data lives in cells behind a `shared_ptr`: a cell keeps references to other
cells and holds async objects.  Variables of the program, running callbacks, the
cells themselves and the closures `react` and `complete` of registered events
hold references; an operation copies its callback, with all it captures, into
`react`, and `for_completion` passes it on to `complete`.

The cell whose last reference goes is destroyed on the spot: its async objects
dispose their events, and each disposal takes a final event from the registrar.
The registrar's mutex is not recursive, so a `take` or a `give` by the thread
that already holds it does not return (`none`).  Which callbacks run is left to
the user: what they do are further steps.
-/

set_option autoImplicit false

namespace BabaIo.Registrar

abbrev EventId := Nat
abbrev StrandId := Nat
abbrev Cell := Nat

/-- `complete` holds the user's callback, or deletes `evt` in a final event. -/
inductive Complete where
  | callback (captures : List Cell)
  | final (evt : EventId)
  deriving DecidableEq

structure ReactorEvent where
  strand : Option StrandId
  react : Option (List Cell)
  complete : Option Complete
  hasActiveEvent : Bool
  deriving DecidableEq

def Complete.captures : Complete → List Cell
  | .callback captures => captures
  | .final _ => []

/-- The references its closures hold, in the order they are given up. -/
def ReactorEvent.captures (event : ReactorEvent) : List Cell :=
  (event.complete.map Complete.captures).getD [] ++ event.react.getD []

/-- An async object in scope: a timer, an acceptor, a connector or a receiver has
one event, a socket has a sender's event as well. -/
structure AsyncObject where
  evt : EventId
  senderEvt : Option EventId
  deriving DecidableEq

def AsyncObject.events (object : AsyncObject) : List EventId :=
  object.evt :: object.senderEvt.toList

inductive ReactorTask where
  /-- `evt->react(..)`. -/
  | react (evt : EventId)
  /-- `evt->strand->enqueue(evt)` for a final event. -/
  | enqueueFinal (evt : EventId)
  deriving DecidableEq

structure State where
  /-- The registrar's mutex is held. -/
  mutex : Bool
  register : EventId → Option ReactorEvent
  idGenerator : Nat
  deletionQueue : List EventId
  taskQueue : List ReactorTask
  strandQueue : StrandId → List EventId
  /-- How many cells were ever made. -/
  cells : Nat
  counts : Cell → Nat
  keeps : Cell → List Cell
  objects : Cell → List AsyncObject
  roots : List Cell
  /-- What the `holder`s of the callbacks in progress captured. -/
  holders : List (List Cell)

def init : State :=
  { mutex := false
    register := fun _ => none
    idGenerator := 0
    deletionQueue := []
    taskQueue := []
    strandQueue := fun _ => []
    cells := 0
    counts := fun _ => 0
    keeps := fun _ => []
    objects := fun _ => []
    roots := []
    holders := [] }

/-! ### The registrar and the destructors -/

def take (state : State) (event : ReactorEvent) : Option State :=
  if state.mutex then none
  else some { state with
    register := Function.update state.register state.idGenerator (some event)
    idGenerator := state.idGenerator + 1 }

def finalEvent (state : State) (evt : EventId) : ReactorEvent :=
  { strand := (state.register evt).bind ReactorEvent.strand
    react := none
    complete := some (.final evt)
    hasActiveEvent := false }

def dispose (state : State) (evt : EventId) : Option State :=
  (take state (finalEvent state evt)).map fun taken =>
    { taken with deletionQueue := taken.deletionQueue ++ [state.idGenerator] }

def destroyObject (state : State) (object : AsyncObject) : Option State :=
  Runs.exec dispose state object.events

def destroyCell (state : State) (cell : Cell) : Option State :=
  (Runs.exec destroyObject state (state.objects cell)).map fun destroyed =>
    { destroyed with objects := Function.update destroyed.objects cell [] }

/-- Give up references; the destructors run in the order in which the cells die.
They do not look at the counts. -/
def release (state : State) (pending : List Cell) : Option State :=
  let fuel := SharedRefs.weight (Finset.range state.cells) state.keeps state.counts +
    pending.length
  let released := SharedRefs.release state.keeps fuel state.counts pending
  Runs.exec destroyCell { state with counts := released.1 } released.2

/-- `event_registrar::give`: the entry and its closures are destroyed while the
mutex is held. -/
def give (state : State) (evt : EventId) : Option State :=
  if state.mutex then none
  else
    match state.register evt with
    | none => none
    | some event =>
        (release { state with
          mutex := true
          register := Function.update state.register evt none } event.captures).map
          fun erased => { erased with mutex := false }

/-! ### User data -/

def construct (state : State) (cell : Cell) (strand : StrandId) (sender : Bool) :
    Option State :=
  let event : ReactorEvent :=
    { strand := some strand, react := none, complete := none, hasActiveEvent := false }
  let first := state.idGenerator
  (take state event).bind fun taken =>
    if sender then
      (take taken event).map fun second =>
        { second with
          objects := Function.update second.objects cell
            (⟨first, some taken.idGenerator⟩ :: second.objects cell) }
    else
      some { taken with
        objects := Function.update taken.objects cell
          (⟨first, none⟩ :: taken.objects cell) }

def make (state : State) : State :=
  { state with
    cells := state.cells + 1
    counts := Function.update state.counts state.cells 1
    keeps := Function.update state.keeps state.cells []
    objects := Function.update state.objects state.cells []
    roots := state.cells :: state.roots }

def copy (state : State) (refs : List Cell) : State :=
  { state with counts := fun cell => state.counts cell + refs.count cell }

def share (state : State) (cell : Cell) : State :=
  { copy state [cell] with roots := cell :: state.roots }

def store (state : State) (holder cell : Cell) : State :=
  { state with
    roots := state.roots.erase cell
    keeps := Function.update state.keeps holder (cell :: state.keeps holder) }

def fetch (state : State) (holder cell : Cell) : State :=
  { state with
    roots := cell :: state.roots
    keeps := Function.update state.keeps holder ((state.keeps holder).erase cell) }

/-! ### Operations -/

def setEvent (state : State) (evt : EventId) (event : ReactorEvent) : State :=
  { state with register := Function.update state.register evt (some event) }

def enqueue (state : State) (strand : StrandId) (evt : EventId) : State :=
  { state with
    strandQueue := Function.update state.strandQueue strand
      (state.strandQueue strand ++ [evt]) }

def initiate (state : State) (evt : EventId) (event : ReactorEvent) (strand : StrandId)
    (captures : List Cell) (armed : Bool) : State :=
  let copied := copy state captures
  if armed then setEvent copied evt { event with react := some captures }
  else enqueue (setEvent copied evt { event with complete := some (.callback captures) })
    strand evt

def forCompletion (state : State) (evt : EventId) (event : ReactorEvent)
    (strand : StrandId) (captures : List Cell) : State :=
  enqueue (setEvent state evt
    { event with react := none, complete := some (.callback captures) }) strand evt

def beginCallback (state : State) (evt : EventId) (event : ReactorEvent)
    (captures : List Cell) : State :=
  { setEvent state evt { event with complete := none, hasActiveEvent := false } with
    holders := captures :: state.holders }

def completeFinal (state : State) (final evt : EventId) (strand : Option StrandId) :
    Option State :=
  match state.register evt with
  | none => none
  | some event =>
      if event.hasActiveEvent then strand.map fun strand => enqueue state strand final
      else (give state evt).bind fun erased => give erased final

/-! ### Steps -/

inductive Action where
  | make
  | construct (cell : Cell) (strand : StrandId) (sender : Bool)
  | share (cell : Cell)
  | store (holder cell : Cell)
  | fetch (holder cell : Cell)
  | drop (cell : Cell)
  | destroyObject (cell : Cell) (object : AsyncObject)
  | initiate (cell : Cell) (evt : EventId) (captures : List Cell) (armed : Bool)
  | dispatch (evt : EventId)
  | runTask (task : ReactorTask)
  | processDeletionQueue
  | strandStep (strand : StrandId)
  | finishCallback (captures : List Cell)

def step (state : State) : Action → Option State
  | .make => some (make state)
  | .construct cell strand sender =>
      if 0 < state.counts cell then construct state cell strand sender else none
  | .share cell => if 0 < state.counts cell then some (share state cell) else none
  | .store holder cell =>
      if 0 < state.counts holder ∧ cell ∈ state.roots then
        some (store state holder cell)
      else none
  | .fetch holder cell =>
      if 0 < state.counts holder ∧ cell ∈ state.keeps holder then
        some (fetch state holder cell)
      else none
  | .drop cell =>
      if cell ∈ state.roots then
        release { state with roots := state.roots.erase cell } [cell]
      else none
  | .destroyObject cell object =>
      if object ∈ state.objects cell then
        destroyObject { state with
          objects := Function.update state.objects cell
            ((state.objects cell).erase object) } object
      else none
  | .initiate cell evt captures armed =>
      match state.register evt with
      | some ⟨some strand, none, none, active⟩ =>
          if evt ∈ (state.objects cell).flatMap AsyncObject.events ∧
              ∀ captured ∈ captures, 0 < state.counts captured then
            some (initiate state evt ⟨some strand, none, none, active⟩ strand captures armed)
          else none
      | _ => none
  | .dispatch evt =>
      match state.register evt with
      | none => none
      | some event =>
          some { setEvent state evt { event with hasActiveEvent := true } with
            taskQueue := state.taskQueue ++ [.react evt] }
  | .runTask task =>
      if task ∈ state.taskQueue then
        let started := { state with taskQueue := state.taskQueue.erase task }
        match task with
        | .react evt =>
            match state.register evt with
            | some ⟨some strand, some captures, complete, active⟩ =>
                some (forCompletion started evt
                  ⟨some strand, some captures, complete, active⟩ strand captures)
            | _ => none
        | .enqueueFinal evt =>
            match state.register evt with
            | some ⟨some strand, _, _, _⟩ => some (enqueue started strand evt)
            | _ => none
      else none
  | .processDeletionQueue =>
      some { state with
        deletionQueue := []
        taskQueue := state.taskQueue ++ state.deletionQueue.map .enqueueFinal }
  | .strandStep strand =>
      match state.strandQueue strand with
      | [] => none
      | evt :: rest =>
          let popped := { state with
            strandQueue := Function.update state.strandQueue strand rest }
          match state.register evt with
          | none => none
          | some event =>
              match event.complete with
              | none => none
              | some (.callback captures) => some (beginCallback popped evt event captures)
              | some (.final owner) => completeFinal popped evt owner event.strand
  | .finishCallback captures =>
      if captures ∈ state.holders then
        release { state with holders := state.holders.erase captures } captures
      else none

/-! ### What a final event is to do -/

/-- The event that the next task of a strand hands to `give`, and the final event
that does it. -/
def handed (state : State) (strand : StrandId) : Option (EventId × EventId) :=
  match state.strandQueue strand with
  | [] => none
  | final :: _ =>
      match (state.register final).bind ReactorEvent.complete with
      | some (.final evt) =>
          match state.register evt with
          | some event => if event.hasActiveEvent then none else some (evt, final)
          | none => none
      | _ => none

def Disposed (state : State) (object : AsyncObject) : Prop :=
  ∀ evt ∈ object.events, ∃ final ∈ state.deletionQueue,
    (state.register final).bind ReactorEvent.complete = some (.final evt)

/-- The final event returns.  Of the events there were it removes its event and
itself and no other, and every object destroyed on the way is disposed. -/
def FinalReturns (state : State) : Action → Prop
  | .strandStep strand => ∀ evt final, handed state strand = some (evt, final) →
      ∃ next, step state (.strandStep strand) = some next ∧
        (∀ id, id < state.idGenerator → next.register id =
          if id = evt ∨ id = final then none else state.register id) ∧
        ∀ cell, 0 < state.counts cell → next.counts cell = 0 →
          ∀ object ∈ state.objects cell, Disposed next object
  | _ => True

/-! ### Who is kept alive only by an event -/

def closureRefs (entry : Option ReactorEvent) : List Cell :=
  (entry.map ReactorEvent.captures).getD []

def captured (register : EventId → Option ReactorEvent) (idGenerator : Nat)
    (cell : Cell) : Nat :=
  tally closureRefs register idGenerator cell

def outside (state : State) (cell : Cell) : Nat :=
  state.roots.count cell + state.holders.flatten.count cell +
    captured state.register state.idGenerator cell

/-- The cells that only the closures of `evt` keep alive, directly or through
other such cells. -/
def KeptAliveBy (state : State) (evt : EventId) : Cell → Prop :=
  SharedRefs.Doomed state.keeps
    (outside { state with register := Function.update state.register evt none })
    state.counts

/-- No async object in scope is kept alive by the closures of the event that is
handed to `give`. -/
def HandsOverNoOwner (state : State) : Action → Prop
  | .strandStep strand => ∀ evt final, handed state strand = some (evt, final) →
      ∀ cell, KeptAliveBy state evt cell → state.objects cell = []
  | _ => True

end BabaIo.Registrar
