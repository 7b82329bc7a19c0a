import BabaIo.PublicHandles

/-
Which operations on the public handles find every `_pimpl` in place.

Whether a handle has lost its pimpl can be told from the history of moves alone.
The history is compared with the pimpls step by step, and a run leaves every
target of an assignment or of an accept as promised when no such operation
reaches for a handle that the history has emptied and every accept finds its
variable, once a connection comes in, as it was when the accept was made.
-/

set_option autoImplicit false

namespace BabaIo.Handles

/-! ### What a handle observes -/

inductive Observation where
  | value (impl : Impl)
  | io (strand : Option StrandId) (fd : Option IoHandle) (endpoint : IpEndpoint)
  deriving DecidableEq

def Impl.observed (strand : Option StrandId) : Impl → Observation
  | .tcp object | .connector object | .acceptor object =>
      .io strand object.descriptor object.endpoint
  | other => .value other

def observe (state : State) (var : Var) : Option Observation :=
  (state.cells.read var).map (Impl.observed (state.strands var))

/-- The peer variable still has the pimpl that the accept refers to, and the strand that it
was given. -/
def Untouched (state : State) (pending : PendingAccept) : Prop :=
  state.cells.pointer pending.target = some pending.peer ∧
    state.strands pending.target = pending.targetStrand

instance (state : State) (pending : PendingAccept) : Decidable (Untouched state pending) :=
  inferInstanceAs (Decidable (_ ∧ _))

/-- An operation with an assignment target or an accept target dereferences no empty or
deleted pimpl, and the target observes the new value: what the source observed, or the
connection once the accept completes, whichever connection that is. -/
def TargetSurvives (state : State) (op : Op) (next : State) : Prop :=
  match op with
  | .moveAssign target source | .copyAssign target source | .assignConnector target source =>
      next.crashed = false ∧ observe next target = observe state source
  | .accept acceptor peerStrand peer =>
      next.crashed = false ∧
        next.strands peer = peerStrand.or (state.strands acceptor)
  | .complete index (some _) =>
      next.crashed = false ∧
        ∀ pending, state.accepts[index]? = some pending → ∀ accepted after,
          step state (.complete index (some accepted)) = some after →
            observe after pending.target =
              some (.io pending.targetStrand (some accepted.fd) accepted.endpoint)
  | _ => True

def HandlesSurvive (ops : List Op) : Prop :=
  Runs.StepsMeet step
    (fun state op => ∀ next, step state op = some next → TargetSurvives state op next)
    init ops

/-! ### Which handles a history has emptied -/

/-- What the operations say of the variables, without a look at the pimpls. -/
structure History where
  classes : Var → Option Class
  emptied : Var → Bool
  next : Var

namespace History

def start : History :=
  { classes := fun _ => none
    emptied := fun _ => false
    next := 0 }

def declare (history : History) (cls : Class) (emptied : Bool) : History :=
  { classes := Function.update history.classes history.next (some cls)
    emptied := Function.update history.emptied history.next emptied
    next := history.next + 1 }

def empty (history : History) (var : Var) : History :=
  { history with emptied := Function.update history.emptied var true }

def construct (history : History) (cls : Class) : History := declare history cls false

def moveConstruct (history : History) (source : Var) : History :=
  match history.classes source with
  | none => history
  | some cls =>
      if cls.copyable then construct history cls
      else declare (empty history source) cls (history.emptied source)

def moveAssign (history : History) (target source : Var) : History :=
  if target = source then history
  else
    empty { history with
      emptied := Function.update history.emptied target (history.emptied source) } source

def copyConstruct (history : History) (source : Var) : History :=
  match history.classes source with
  | none => history
  | some cls => construct history cls

/-- Only two kinds of moves take a pimpl from a handle, and only a move
assignment gives one back. -/
def after (history : History) : Op → History
  | .default cls => construct history cls
  | .address _ => construct history .ipAddress
  | .endpoint _ | .endpointOf .. | .endpointOfMoved .. => construct history .ipEndpoint
  | .reuseAddress _ => construct history .reuseAddress
  | .setOutgoingInterface _ => construct history .setOutgoingInterface
  | .joinGroup .. => construct history .joinGroup
  | .socket .. | .fromConnector _ => construct history .tcpSocket
  | .connector .. => construct history .tcpConnector
  | .acceptor .. => construct history .tcpAcceptor
  | .moveConstruct source => moveConstruct history source
  | .moveAssign target source => moveAssign history target source
  | .copyConstruct source => copyConstruct history source
  | .copyAssign .. | .assignConnector .. | .connect .. | .accept .. | .complete .. => history
  | .destroy var => { history with classes := Function.update history.classes var none }

/-- Neither side of a copy assignment, of an assignment from a connector or of an
accept is a handle that has been emptied. -/
def Filled (history : History) : Op → Prop
  | .copyAssign first second | .assignConnector first second | .accept first _ second =>
      history.emptied first = false ∧ history.emptied second = false
  | _ => True

end History

def UsesFilled : History → List Op → Prop
  | _, [] => True
  | history, op :: rest => history.Filled op ∧ UsesFilled (history.after op) rest

/-- Every accept that completes with a connection finds its variable untouched. -/
def FindsTarget (state : State) : Op → Prop
  | .complete index (some _) =>
      ∀ pending, state.accepts[index]? = some pending → Untouched state pending
  | _ => True

instance (state : State) (op : Op) : Decidable (FindsTarget state op) :=
  match op with
  | .complete index (some _) =>
      decidable_of_iff (∀ pending ∈ state.accepts[index]?, Untouched state pending) Iff.rfl
  | .complete _ none => .isTrue trivial
  | .default .. | .address .. | .endpoint .. | .endpointOf .. | .endpointOfMoved ..
  | .reuseAddress .. | .setOutgoingInterface .. | .joinGroup .. | .socket .. | .connector ..
  | .acceptor .. | .moveConstruct .. | .moveAssign .. | .copyConstruct .. | .copyAssign ..
  | .fromConnector .. | .assignConnector .. | .connect .. | .accept .. | .destroy .. =>
      .isTrue trivial

def AcceptsFindTargets (ops : List Op) : Prop := Runs.StepsMeet step FindsTarget init ops

instance (ops : List Op) : Decidable (AcceptsFindTargets ops) :=
  inferInstanceAs (Decidable (Runs.StepsMeet step FindsTarget init ops))

/-! ### Dereferences -/

theorem step_alive {state : State} (alive : state.crashed = false) (op : Op) :
    step state op = perform state op := by
  rw [step, alive]
  exact if_neg Bool.false_ne_true

theorem deref_cases {state next : State} {var : Var} {use : Impl → Option State}
    (done : deref state var use = some next) :
    (state.cells.read var = none ∧ next = { state with crashed := true }) ∨
      ∃ impl, state.cells.read var = some impl ∧ use impl = some next := by
  unfold deref at done
  cases held : state.cells.read var with
  | none =>
      rw [held] at done
      exact .inl ⟨rfl, (Option.some.inj done).symm⟩
  | some impl =>
      rw [held] at done
      exact .inr ⟨impl, rfl, done⟩

theorem derefBoth_cases {state next : State} {first second : Var}
    {use : Impl → Impl → Option State}
    (done : derefBoth state first second use = some next) :
    ((state.cells.read first = none ∨ state.cells.read second = none) ∧
        next = { state with crashed := true }) ∨
      ∃ impl other, state.cells.read first = some impl ∧
        state.cells.read second = some other ∧ use impl other = some next := by
  rcases deref_cases done with ⟨empty, crashed⟩ | ⟨impl, held, later⟩
  · exact .inl ⟨.inl empty, crashed⟩
  · rcases deref_cases later with ⟨empty, crashed⟩ | ⟨other, alsoHeld, used⟩
    · exact .inl ⟨.inr empty, crashed⟩
    · exact .inr ⟨impl, other, held, alsoHeld, used⟩

/-- A step that dereferenced no empty `_pimpl` has used what it found. -/
theorem deref_alive {state next : State} {var : Var} {use : Impl → Option State}
    (done : deref state var use = some next) (alive : next.crashed = false) :
    ∃ impl, state.cells.read var = some impl ∧ use impl = some next := by
  rcases deref_cases done with ⟨_, crashed⟩ | found
  · subst crashed
    cases alive
  · exact found

theorem derefBoth_alive {state next : State} {first second : Var}
    {use : Impl → Impl → Option State}
    (done : derefBoth state first second use = some next)
    (alive : next.crashed = false) :
    ∃ impl other, state.cells.read first = some impl ∧
      state.cells.read second = some other ∧ use impl other = some next := by
  rcases derefBoth_cases done with ⟨_, crashed⟩ | found
  · subst crashed
    cases alive
  · exact found

@[simp] theorem write_nextVar (state : State) (var : Var) (impl : Impl) :
    (write state var impl).nextVar = state.nextVar := by
  unfold write
  split <;> rfl

@[simp] theorem write_classes (state : State) (var : Var) (impl : Impl) :
    (write state var impl).classes = state.classes := by
  unfold write
  split <;> rfl

@[simp] theorem write_strands (state : State) (var : Var) (impl : Impl) :
    (write state var impl).strands = state.strands := by
  unfold write
  split <;> rfl

@[simp] theorem write_crashed (state : State) (var : Var) (impl : Impl) :
    (write state var impl).crashed = state.crashed := by
  unfold write
  split <;> rfl

@[simp] theorem write_pointer (state : State) (var : Var) (impl : Impl) :
    (write state var impl).cells.pointer = state.cells.pointer := by
  unfold write
  split <;> rfl

theorem read_write_self {state : State} {var : Var} {old : Impl}
    (held : state.cells.read var = some old) (impl : Impl) :
    (write state var impl).cells.read var = some impl := by
  unfold write
  cases points : state.cells.pointer var with
  | none =>
      rw [(state.cells.read_eq_none_iff var).mpr points] at held
      cases held
  | some cell => exact UniquePointers.read_write points impl

theorem read_write_other {state : State} {var other : Var} (different : other ≠ var)
    (impl : Impl) : (write state var impl).cells.read other = state.cells.read other := by
  unfold write
  cases points : state.cells.pointer var with
  | none => rfl
  | some cell =>
      refine UniquePointers.read_write_of_ne ?_ impl
      intro same
      exact different (state.cells.exclusive other var cell same points)

theorem copyAssign_cases {state next : State} {target source : Var}
    (done : copyAssign state target source = some next) :
    ((state.cells.read target = none ∨ state.cells.read source = none) ∧
        next.crashed = true) ∨
      ∃ old impl, state.cells.read target = some old ∧ state.cells.read source = some impl ∧
        next = write state target impl := by
  rcases derefBoth_cases done with ⟨empty, crashed⟩ | ⟨old, impl, targetHeld, sourceHeld, used⟩
  · exact .inl ⟨empty, congrArg State.crashed crashed⟩
  · exact .inr ⟨old, impl, targetHeld, sourceHeld, (Option.some.inj used).symm⟩

theorem assignConnector_cases {state next : State} {target connector : Var}
    (done : assignConnector state target connector = some next) :
    ((state.cells.read target = none ∨ state.cells.read connector = none) ∧
        next.crashed = true) ∨
      ∃ socket object strand fd, state.cells.read target = some (.tcp socket) ∧
        state.cells.read connector = some (.connector object) ∧
        object.descriptor = some fd ∧
        next = write
          (write (setStrand state target (state.strands connector)) connector
            (.connector object.converted))
          target
          (.tcp { socket with
            strand := some strand
            descriptor := some fd
            endpoint := object.endpoint }) := by
  rcases derefBoth_cases done with ⟨empty, crashed⟩ | ⟨impl, source, targetHeld, heldSource, used⟩
  · exact .inl ⟨empty, congrArg State.crashed crashed⟩
  · split at used
    · rename_i socket object
      split at used
      · rename_i strand fd _ described
        exact .inr ⟨socket, object, strand, fd, targetHeld, heldSource, described,
          (Option.some.inj used).symm⟩
      · cases used
    · cases used

theorem accept_cases {state next : State} {acceptor peer : Var} {peerStrand : Option StrandId}
    (done : accept state acceptor peerStrand peer = some next) :
    ((state.cells.read acceptor = none ∨ state.cells.read peer = none) ∧
        next.crashed = true) ∨
      ∃ acceptorImpl peerImpl accepts, state.cells.read acceptor = some acceptorImpl ∧
        state.cells.read peer = some peerImpl ∧
        next = { setStrand state peer (peerStrand.or (state.strands acceptor)) with
          accepts := accepts } := by
  rcases derefBoth_cases done with
    ⟨empty, crashed⟩ | ⟨acceptorImpl, peerImpl, acceptorHeld, peerHeld, used⟩
  · exact .inl ⟨empty, congrArg State.crashed crashed⟩
  · split at used
    · obtain ⟨_, used⟩ := Option.ite_none_right_eq_some.mp used
      exact .inr ⟨_, peerImpl, _, acceptorHeld, peerHeld, (Option.some.inj used).symm⟩
    · cases used

/-- A completed accept leaves the variables alone, writes to the peer's pimpl, or finds
that one deleted. -/
theorem complete_cases {state next : State} {index : Nat} {result : Option Accepted}
    (done : complete state index result = some next) :
    ∃ pending, state.accepts[index]? = some pending ∧
      (next = { state with accepts := state.accepts.eraseIdx index } ∧ result = none ∨
        result.isSome = true ∧ state.cells.content pending.peer = none ∧
          next = { state with accepts := state.accepts.eraseIdx index, crashed := true } ∨
        ∃ accepted old strand, result = some accepted ∧
          state.cells.content pending.peer = some (.tcp old) ∧
          next = { state with
            accepts := state.accepts.eraseIdx index
            cells := state.cells.write pending.peer
              (.tcp
                { strandForUser := some strand
                  strand := some strand
                  descriptor := some accepted.fd
                  endpoint := accepted.endpoint }) }) := by
  unfold complete at done
  cases found : state.accepts[index]? with
  | none =>
      rw [found] at done
      cases done
  | some pending =>
      rw [found] at done
      refine ⟨pending, rfl, ?_⟩
      cases result with
      | none => exact .inl ⟨(Option.some.inj done).symm, rfl⟩
      | some accepted =>
          right
          dsimp only at done
          split at done
          · rename_i object old held peerHeld
            obtain ⟨strand, _, written⟩ := Option.map_eq_some_iff.mp done
            exact .inr ⟨accepted, old, strand, rfl, peerHeld, written.symm⟩
          · rename_i gone
            exact .inl ⟨rfl, gone, (Option.some.inj done).symm⟩
          · cases done

/-! ### The history tells which pimpls are gone -/

def Impl.cls : Impl → Class
  | .address _ => .ipAddress
  | .endpoint _ => .ipEndpoint
  | .reuseAddress _ => .reuseAddress
  | .setOutgoingInterface _ => .setOutgoingInterface
  | .joinGroup _ => .joinGroup
  | .tcp _ => .tcpSocket
  | .connector _ => .tcpConnector
  | .acceptor _ => .tcpAcceptor

theorem Impl.cls_default (cls : Class) : (Impl.default cls).cls = cls := by
  cases cls <;> rfl

theorem Impl.cls_left (impl : Impl) : impl.left.cls = impl.cls := by
  cases impl <;> rfl

/-- The getters of a class that can be copied do not read a strand. -/
theorem Impl.observed_of_copyable {impl : Impl} (copyable : impl.cls.copyable = true)
    (first second : Option StrandId) : impl.observed first = impl.observed second := by
  cases impl with
  | tcp object => cases copyable
  | connector object => cases copyable
  | acceptor object => cases copyable
  | _ => rfl

structure Agrees (state : State) (history : History) : Prop where
  next : history.next = state.nextVar
  classes : history.classes = state.classes
  below : ∀ var cls, state.classes var = some cls → var < state.nextVar
  emptied : ∀ var cls, state.classes var = some cls →
    history.emptied var = (state.cells.pointer var).isNone
  typed : ∀ var cls impl, state.classes var = some cls →
    state.cells.read var = some impl → impl.cls = cls

theorem agrees_start : Agrees init .start where
  next := rfl
  classes := rfl
  below := fun _ _ inScope => by cases inScope
  emptied := fun _ _ inScope => by cases inScope
  typed := fun _ _ _ inScope => by cases inScope

section Agrees

variable {state : State} {history : History}

theorem Agrees.filled_iff (agrees : Agrees state history) {var : Var} {cls : Class}
    (inScope : state.classes var = some cls) :
    history.emptied var = false ↔ state.cells.read var ≠ none := by
  rw [agrees.emptied var cls inScope, ne_eq, UniquePointers.read_eq_none_iff]
  cases state.cells.pointer var with
  | none => simp
  | some cell => simp

theorem Agrees.of_cells {next : State} {later : History} (agrees : Agrees state history)
    (sameNext : next.nextVar = state.nextVar) (sameClasses : next.classes = state.classes)
    (laterNext : later.next = history.next) (laterClasses : later.classes = history.classes)
    (emptied : ∀ var cls, state.classes var = some cls →
      later.emptied var = (next.cells.pointer var).isNone)
    (typed : ∀ var cls impl, state.classes var = some cls →
      next.cells.read var = some impl → impl.cls = cls) :
    Agrees next later where
  next := laterNext.trans (agrees.next.trans sameNext.symm)
  classes := laterClasses.trans (agrees.classes.trans sameClasses.symm)
  below := by
    rw [sameNext, sameClasses]
    exact agrees.below
  emptied := by
    rw [sameClasses]
    exact emptied
  typed := by
    rw [sameClasses]
    exact typed

theorem Agrees.of_same {next : State} (agrees : Agrees state history)
    (sameNext : next.nextVar = state.nextVar) (sameClasses : next.classes = state.classes)
    (sameCells : next.cells = state.cells) : Agrees next history := by
  refine agrees.of_cells sameNext sameClasses rfl rfl ?_ ?_
  · rw [sameCells]
    exact agrees.emptied
  · rw [sameCells]
    exact agrees.typed

theorem Agrees.write (agrees : Agrees state history) {var : Var} {old impl : Impl}
    (held : state.cells.read var = some old) (fits : impl.cls = old.cls) :
    Agrees (write state var impl) history := by
  refine agrees.of_cells (write_nextVar ..) (write_classes ..) rfl rfl ?_ ?_
  · rw [write_pointer]
    exact agrees.emptied
  · intro other cls value inScope reads
    by_cases same : other = var
    · subst same
      rw [read_write_self held] at reads
      rw [← Option.some.inj reads, fits]
      exact agrees.typed other cls old inScope held
    · rw [read_write_other same] at reads
      exact agrees.typed other cls value inScope reads

theorem Agrees.declare (agrees : Agrees state history) {cls : Class}
    {strand : Option StrandId} {cells : UniquePointers Var Impl} {emptied : Bool}
    (others : ∀ var, var ≠ state.nextVar → cells.pointer var = state.cells.pointer var ∧
      cells.read var = state.cells.read var)
    (own : emptied = (cells.pointer state.nextVar).isNone)
    (fits : ∀ impl, cells.read state.nextVar = some impl → impl.cls = cls) :
    Agrees (declare state cls strand cells) (history.declare cls emptied) where
  next := congrArg (· + 1) agrees.next
  classes := by
    change Function.update history.classes history.next _ = _
    rw [agrees.classes, agrees.next]
    rfl
  below := by
    intro var found inScope
    by_cases fresh : var = state.nextVar
    · exact Nat.lt_succ_of_le (Nat.le_of_eq fresh)
    · exact Nat.lt_succ_of_lt
        (agrees.below var found ((Function.update_of_ne fresh ..).symm.trans inScope))
  emptied := by
    intro var found inScope
    change Function.update history.emptied history.next emptied var = _
    rw [agrees.next]
    by_cases fresh : var = state.nextVar
    · subst fresh
      rw [Function.update_self]
      exact own
    · rw [Function.update_of_ne fresh]
      change _ = (cells.pointer var).isNone
      rw [(others var fresh).1]
      exact agrees.emptied var found ((Function.update_of_ne fresh ..).symm.trans inScope)
  typed := by
    intro var found impl inScope reads
    by_cases fresh : var = state.nextVar
    · subst fresh
      change Function.update state.classes state.nextVar (some cls) state.nextVar = _ at inScope
      rw [Function.update_self] at inScope
      rw [← Option.some.inj inScope]
      exact fits impl reads
    · rw [show (Handles.declare state cls strand cells).cells.read var = state.cells.read var from
        (others var fresh).2] at reads
      exact agrees.typed var found impl ((Function.update_of_ne fresh ..).symm.trans inScope)
        reads

theorem Agrees.construct (agrees : Agrees state history) {cls : Class}
    {strand : Option StrandId} {impl : Impl} (fits : impl.cls = cls) :
    Agrees (construct state cls strand impl) (history.construct cls) := by
  refine agrees.declare ?_ ?_ ?_
  · intro var different
    exact ⟨state.cells.pointer_alloc_of_ne different impl,
      state.cells.read_alloc_of_ne different impl⟩
  · rw [UniquePointers.pointer_alloc_self]
    rfl
  · intro found reads
    rw [UniquePointers.read_alloc_self] at reads
    rw [← Option.some.inj reads]
    exact fits

theorem Agrees.move (agrees : Agrees state history) {target source : Var} {cls : Class}
    (targetClass : state.classes target = some cls)
    (sourceClass : state.classes source = some cls) (different : target ≠ source) :
    Agrees { state with cells := state.cells.move target source }
      (History.empty { history with
        emptied := Function.update history.emptied target (history.emptied source) } source) := by
  refine agrees.of_cells rfl rfl rfl rfl ?_ ?_
  · intro var found inScope
    change Function.update (Function.update history.emptied target _) source true var =
      ((state.cells.move target source).pointer var).isNone
    rw [UniquePointers.pointer_move]
    by_cases isSource : var = source
    · subst isSource
      rw [Function.update_self, if_neg (Ne.symm different), if_pos rfl]
      rfl
    · rw [Function.update_of_ne isSource, if_neg isSource]
      by_cases isTarget : var = target
      · subst isTarget
        rw [Function.update_self, if_pos rfl]
        exact agrees.emptied source cls sourceClass
      · rw [Function.update_of_ne isTarget, if_neg isTarget]
        exact agrees.emptied var found inScope
  · intro var found impl inScope reads
    by_cases isTarget : var = target
    · subst isTarget
      rw [UniquePointers.read_move_target] at reads
      rw [targetClass] at inScope
      rw [← Option.some.inj inScope]
      exact agrees.typed source cls impl sourceClass reads
    · by_cases isSource : var = source
      · subst isSource
        rw [UniquePointers.read_move_source _ isTarget] at reads
        cases reads
      · rw [UniquePointers.read_move_of_ne _ isTarget isSource] at reads
        exact agrees.typed var found impl inScope reads

theorem Agrees.steal (agrees : Agrees state history) {source : Var} {cls : Class}
    (inScope : state.classes source = some cls) (strand : Option StrandId) :
    Agrees (Handles.declare state cls strand (state.cells.move state.nextVar source))
      ((history.empty source).declare cls (history.emptied source)) := by
  have older : source ≠ state.nextVar := Nat.ne_of_lt (agrees.below source cls inScope)
  have left : Agrees { state with cells := state.cells.move state.nextVar source }
      (history.empty source) := by
    refine agrees.of_cells rfl rfl rfl rfl ?_ ?_
    · intro var found present
      have notNext : var ≠ state.nextVar := Nat.ne_of_lt (agrees.below var found present)
      change Function.update history.emptied source true var =
        ((state.cells.move state.nextVar source).pointer var).isNone
      rw [UniquePointers.pointer_move, if_neg notNext]
      by_cases isSource : var = source
      · subst isSource
        rw [Function.update_self, if_pos rfl]
        rfl
      · rw [Function.update_of_ne isSource, if_neg isSource]
        exact agrees.emptied var found present
    · intro var found impl present reads
      have notNext : var ≠ state.nextVar := Nat.ne_of_lt (agrees.below var found present)
      by_cases isSource : var = source
      · subst isSource
        rw [UniquePointers.read_move_source _ notNext] at reads
        cases reads
      · rw [UniquePointers.read_move_of_ne _ notNext isSource] at reads
        exact agrees.typed var found impl present reads
  refine left.declare (fun _ _ => ⟨rfl, rfl⟩) ?_ ?_
  · change history.emptied source =
      ((state.cells.move state.nextVar source).pointer state.nextVar).isNone
    rw [UniquePointers.pointer_move_target]
    exact agrees.emptied source cls inScope
  · intro impl reads
    have took : state.cells.read source = some impl :=
      (state.cells.read_move_target state.nextVar source).symm.trans reads
    exact agrees.typed source cls impl inScope took

theorem Agrees.destroy (agrees : Agrees state history) (var : Var) :
    Agrees (destroy state var)
      { history with classes := Function.update history.classes var none } := by
  have remains : ∀ other cls, Function.update state.classes var none other = some cls →
      other ≠ var ∧ state.classes other = some cls := by
    intro other cls inScope
    by_cases same : other = var
    · subst same
      rw [Function.update_self] at inScope
      cases inScope
    · rw [Function.update_of_ne same] at inScope
      exact ⟨same, inScope⟩
  constructor
  · exact agrees.next
  · exact congrArg (fun classes => Function.update classes var none) agrees.classes
  · intro other cls inScope
    exact agrees.below other cls (remains other cls inScope).2
  · intro other cls inScope
    obtain ⟨different, before⟩ := remains other cls inScope
    change _ = ((state.cells.reset var).pointer other).isNone
    rw [UniquePointers.pointer_reset_of_ne _ different]
    exact agrees.emptied other cls before
  · intro other cls impl inScope reads
    obtain ⟨different, before⟩ := remains other cls inScope
    have kept : state.cells.read other = some impl :=
      (state.cells.read_reset_of_ne different).symm.trans reads
    exact agrees.typed other cls impl before kept

/-- The connection of a completed accept replaces what the peer's pimpl held. -/
theorem Agrees.complete {next : State} (agrees : Agrees state history) {index : Nat}
    {result : Option Accepted} (done : complete state index result = some next) :
    Agrees next history := by
  obtain ⟨pending, _, ⟨failed, _⟩ | ⟨_, _, crashed⟩ |
    ⟨accepted, old, strand, _, peerHeld, written⟩⟩ := complete_cases done
  · subst failed
    exact agrees.of_same rfl rfl rfl
  · subst crashed
    exact agrees.of_same rfl rfl rfl
  · subst written
    refine agrees.of_cells rfl rfl rfl rfl agrees.emptied ?_
    intro var cls impl inScope reads
    by_cases owner : state.cells.pointer var = some pending.peer
    · have was : state.cells.read var = some (.tcp old) :=
        (congrArg (·.bind state.cells.content) owner).trans peerHeld
      have now := (UniquePointers.read_write owner _).symm.trans reads
      have same := agrees.typed var cls _ inScope was
      rw [← Option.some.inj now]
      exact same
    · have kept := (UniquePointers.read_write_of_ne owner _).symm.trans reads
      exact agrees.typed var cls impl inScope kept

theorem Agrees.moveConstruct {next : State} (agrees : Agrees state history) {source : Var}
    (done : Handles.perform state (.moveConstruct source) = some next)
    (alive : next.crashed = false) : Agrees next (history.moveConstruct source) := by
  obtain ⟨cls, inScope, done⟩ := Option.bind_eq_some_iff.mp done
  have known : history.classes source = some cls := agrees.classes ▸ inScope
  unfold Handles.moveConstruct at done
  unfold History.moveConstruct
  rw [known]
  dsimp only
  by_cases copyable : cls.copyable = true
  · rw [if_pos copyable] at done ⊢
    obtain ⟨impl, held, used⟩ := deref_alive done alive
    cases Option.some.inj used
    have fits : impl.cls = cls := agrees.typed source cls impl inScope held
    exact (agrees.write held (Impl.cls_left impl)).construct fits
  · rw [if_neg copyable] at done ⊢
    cases Option.some.inj done
    exact agrees.steal inScope (state.strands source)

theorem Agrees.moveAssign {next : State} (agrees : Agrees state history) {target source : Var}
    (done : Handles.perform state (.moveAssign target source) = some next) :
    Agrees next (history.moveAssign target source) := by
  obtain ⟨⟨present, sameClass⟩, done⟩ := Option.ite_none_right_eq_some.mp done
  obtain ⟨cls, targetClass⟩ := Option.isSome_iff_exists.mp present
  cases Option.some.inj done
  unfold History.moveAssign
  by_cases same : target = source
  · rw [if_pos same]
    refine agrees.of_cells ?_ ?_ rfl rfl ?_ ?_
    · unfold Handles.moveAssign
      rw [if_pos same]
      rfl
    · unfold Handles.moveAssign
      rw [if_pos same]
      rfl
    all_goals
      have kept : (Handles.moveAssign state target source).cells = state.cells :=
        dif_neg (not_not.mpr same.symm)
      rw [kept]
    · exact agrees.emptied
    · exact agrees.typed
  · rw [if_neg same]
    unfold Handles.moveAssign
    rw [if_neg same]
    exact (agrees.move targetClass (sameClass ▸ targetClass) same).of_same rfl rfl rfl

theorem Agrees.copyAssign {next : State} (agrees : Agrees state history) {target source : Var}
    (done : Handles.perform state (.copyAssign target source) = some next)
    (alive : next.crashed = false) : Agrees next history := by
  obtain ⟨cls, targetClass, done⟩ := Option.bind_eq_some_iff.mp done
  obtain ⟨⟨copyable, sourceClass⟩, done⟩ := Option.ite_none_right_eq_some.mp done
  rcases copyAssign_cases done with
    ⟨_, crashed⟩ | ⟨old, impl, targetHeld, sourceHeld, written⟩
  · exact absurd crashed (alive ▸ Bool.false_ne_true)
  subst written
  have fits : impl.cls = old.cls :=
    (agrees.typed source cls impl sourceClass sourceHeld).trans
      (agrees.typed target cls old targetClass targetHeld).symm
  exact agrees.write targetHeld fits

theorem Agrees.assignConnector {next : State} (agrees : Agrees state history)
    {target connector : Var}
    (done : Handles.perform state (.assignConnector target connector) = some next)
    (alive : next.crashed = false) : Agrees next history := by
  obtain ⟨⟨targetClass, connectorClass⟩, done⟩ := Option.ite_none_right_eq_some.mp done
  rcases assignConnector_cases done with
    ⟨_, crashed⟩ | ⟨socket, object, strand, fd, targetHeld, connectorHeld, _, written⟩
  · exact absurd crashed (alive ▸ Bool.false_ne_true)
  subst written
  have named : Agrees (setStrand state target (state.strands connector)) history :=
    agrees.of_same rfl rfl rfl
  have different : target ≠ connector := by
    intro same
    rw [same, connectorClass] at targetClass
    cases targetClass
  have converted : Agrees
      (Handles.write (setStrand state target (state.strands connector)) connector
        (.connector object.converted)) history :=
    named.write connectorHeld rfl
  refine converted.write ((read_write_other different _).trans targetHeld) rfl

theorem Agrees.perform {next : State} {op : Op} (agrees : Agrees state history)
    (done : perform state op = some next) (alive : next.crashed = false) :
    Agrees next (history.after op) := by
  cases op with
  | default cls =>
      cases Option.some.inj done
      exact agrees.construct (Impl.cls_default cls)
  | address value =>
      cases Option.some.inj done
      exact agrees.construct rfl
  | endpoint value =>
      cases Option.some.inj done
      exact agrees.construct rfl
  | endpointOf address memory port =>
      obtain ⟨inScope, done⟩ := Option.ite_none_right_eq_some.mp done
      obtain ⟨impl, held, used⟩ := deref_alive done alive
      split at used
      · cases Option.some.inj used
        exact agrees.construct rfl
      · cases used
  | endpointOfMoved address memory port =>
      obtain ⟨inScope, done⟩ := Option.ite_none_right_eq_some.mp done
      obtain ⟨impl, held, used⟩ := deref_alive done alive
      split at used
      · cases Option.some.inj used
        exact (agrees.write held (Impl.cls_left _)).construct rfl
      · cases used
  | reuseAddress yes =>
      cases Option.some.inj done
      exact agrees.construct rfl
  | setOutgoingInterface addr =>
      obtain ⟨inScope, done⟩ := Option.ite_none_right_eq_some.mp done
      obtain ⟨impl, held, used⟩ := deref_alive done alive
      split at used
      · cases Option.some.inj used
        exact agrees.construct rfl
      · cases used
  | joinGroup iface ifaceIndex mcast =>
      obtain ⟨inScope, done⟩ := Option.ite_none_right_eq_some.mp done
      obtain ⟨ifaceImpl, mcastImpl, _, _, used⟩ := derefBoth_alive done alive
      split at used
      · cases Option.some.inj used
        exact agrees.construct rfl
      · cases used
  | socket strand fd endpoint =>
      obtain ⟨inScope, done⟩ := Option.ite_none_right_eq_some.mp done
      obtain ⟨impl, held, used⟩ := deref_alive done alive
      split at used
      · cases Option.some.inj used
        exact agrees.construct rfl
      · cases used
  | connector strand fd =>
      cases Option.some.inj done
      exact agrees.construct rfl
  | acceptor strand fd =>
      cases Option.some.inj done
      exact agrees.construct rfl
  | moveConstruct source => exact agrees.moveConstruct done alive
  | moveAssign target source => exact agrees.moveAssign done
  | copyConstruct source =>
      obtain ⟨cls, inScope, done⟩ := Option.bind_eq_some_iff.mp done
      have known : history.classes source = some cls := agrees.classes ▸ inScope
      obtain ⟨copyable, done⟩ := Option.ite_none_right_eq_some.mp done
      obtain ⟨impl, held, used⟩ := deref_alive done alive
      cases Option.some.inj used
      change Agrees _ (history.copyConstruct source)
      unfold History.copyConstruct
      rw [known]
      exact agrees.construct (agrees.typed source cls impl inScope held)
  | copyAssign target source => exact agrees.copyAssign done alive
  | fromConnector connector =>
      obtain ⟨inScope, done⟩ := Option.ite_none_right_eq_some.mp done
      obtain ⟨impl, held, used⟩ := deref_alive done alive
      split at used
      · split at used
        · cases Option.some.inj used
          refine Agrees.construct ?_ rfl
          exact agrees.write held rfl
        · cases used
      · cases used
  | assignConnector target connector => exact agrees.assignConnector done alive
  | connect connector endpoint =>
      obtain ⟨inScope, done⟩ := Option.ite_none_right_eq_some.mp done
      obtain ⟨impl, value, held, _, used⟩ := derefBoth_alive done alive
      split at used
      · obtain ⟨_, used⟩ := Option.ite_none_right_eq_some.mp used
        cases Option.some.inj used
        exact agrees.write held rfl
      · cases used
  | accept acceptor peerStrand peer =>
      obtain ⟨inScope, done⟩ := Option.ite_none_right_eq_some.mp done
      rcases accept_cases done with ⟨_, crashed⟩ | ⟨_, _, accepts, _, _, started⟩
      · exact absurd crashed (alive ▸ Bool.false_ne_true)
      subst started
      exact agrees.of_same rfl rfl rfl
  | complete index result => exact agrees.complete done
  | destroy var =>
      obtain ⟨_, done⟩ := Option.ite_none_right_eq_some.mp done
      cases Option.some.inj done
      exact agrees.destroy var

/-! ### One operation -/

theorem Agrees.filledBoth_iff (agrees : Agrees state history) {first second : Var}
    {firstClass secondClass : Class} (firstScope : state.classes first = some firstClass)
    (secondScope : state.classes second = some secondClass) :
    (history.emptied first = false ∧ history.emptied second = false) ↔
      ¬(state.cells.read first = none ∨ state.cells.read second = none) := by
  rw [agrees.filled_iff firstScope, agrees.filled_iff secondScope, not_or]

/-- An operation that meets an empty pimpl crashes and was told of an emptied handle. -/
theorem Agrees.crashed_iff_filled (agrees : Agrees state history) {first second : Var}
    {firstClass secondClass : Class} (firstScope : state.classes first = some firstClass)
    (secondScope : state.classes second = some secondClass)
    (empty : state.cells.read first = none ∨ state.cells.read second = none)
    {next : State} (crashed : next.crashed = true) {kept : Prop} :
    (next.crashed = false ∧ kept) ↔
      history.emptied first = false ∧ history.emptied second = false := by
  rw [agrees.filledBoth_iff firstScope secondScope]
  constructor
  · intro survives
    exact absurd (crashed.symm.trans survives.1) (by decide)
  · intro filled
    exact absurd empty filled

/-- Where it finds both pimpls, neither handle had been emptied. -/
theorem Agrees.survives_iff_filled (agrees : Agrees state history) {first second : Var}
    {firstClass secondClass : Class} (firstScope : state.classes first = some firstClass)
    (secondScope : state.classes second = some secondClass) {left right : Impl}
    (firstHeld : state.cells.read first = some left)
    (secondHeld : state.cells.read second = some right) {survives : Prop} (holds : survives) :
    survives ↔ history.emptied first = false ∧ history.emptied second = false := by
  refine iff_of_true holds ?_
  rw [agrees.filledBoth_iff firstScope secondScope, firstHeld, secondHeld]
  simp

theorem observe_moveAssign (state : State) (target source : Var) :
    observe (moveAssign state target source) target = observe state source := by
  unfold observe
  have strands : (moveAssign state target source).strands target = state.strands source :=
    Function.update_self ..
  have reads : (moveAssign state target source).cells.read target = state.cells.read source :=
    state.cells.read_move_target target source
  rw [strands, reads]

theorem moveAssign_crashed (state : State) (target source : Var) :
    (moveAssign state target source).crashed = state.crashed := by
  unfold moveAssign
  by_cases same : target = source
  · rw [if_pos same]
    rfl
  · rw [if_neg same]
    rfl

theorem observe_write_self {var : Var} {old : Impl} (held : state.cells.read var = some old)
    (impl : Impl) :
    observe (write state var impl) var = some (impl.observed (state.strands var)) := by
  unfold observe
  rw [read_write_self held, write_strands]
  rfl

theorem targetSurvives_moveAssign (alive : state.crashed = false)
    (target source : Var) :
    TargetSurvives state (.moveAssign target source) (moveAssign state target source) :=
  ⟨(moveAssign_crashed ..).trans alive, observe_moveAssign state target source⟩

theorem targetSurvives_copyAssign_iff (agrees : Agrees state history)
    (alive : state.crashed = false) {target source : Var} {cls : Class}
    (copyable : cls.copyable = true) (targetClass : state.classes target = some cls)
    (sourceClass : state.classes source = some cls) {next : State}
    (done : copyAssign state target source = some next) :
    TargetSurvives state (.copyAssign target source) next ↔
      history.Filled (.copyAssign target source) := by
  rcases copyAssign_cases done with ⟨empty, crashed⟩ | ⟨old, impl, targetHeld, sourceHeld, written⟩
  · exact agrees.crashed_iff_filled targetClass sourceClass empty crashed
  · subst written
    have fits : impl.cls = cls := agrees.typed source cls impl sourceClass sourceHeld
    have copied : observe (Handles.write state target impl) target = observe state source := by
      rw [observe_write_self targetHeld]
      unfold observe
      rw [sourceHeld]
      exact congrArg some (Impl.observed_of_copyable (fits ▸ copyable) _ _)
    exact agrees.survives_iff_filled targetClass sourceClass targetHeld sourceHeld
      ⟨(write_crashed ..).trans alive, copied⟩

theorem targetSurvives_assignConnector_iff (agrees : Agrees state history)
    (alive : state.crashed = false) {target connector : Var}
    (targetClass : state.classes target = some .tcpSocket)
    (connectorClass : state.classes connector = some .tcpConnector) {next : State}
    (done : assignConnector state target connector = some next) :
    TargetSurvives state (.assignConnector target connector) next ↔
      history.Filled (.assignConnector target connector) := by
  rcases assignConnector_cases done with
    ⟨empty, crashed⟩ | ⟨socket, object, strand, fd, targetHeld, connectorHeld, described, written⟩
  · exact agrees.crashed_iff_filled targetClass connectorClass empty crashed
  · have different : target ≠ connector := by
      intro same
      rw [same, connectorClass] at targetClass
      cases targetClass
    subst written
    refine agrees.survives_iff_filled targetClass connectorClass targetHeld connectorHeld
      ⟨?_, ?_⟩
    · rw [write_crashed, write_crashed]
      exact alive
    · have held : (write (setStrand state target (state.strands connector)) connector
          (.connector object.converted)).cells.read target = some (.tcp socket) :=
        (read_write_other different _).trans targetHeld
      rw [observe_write_self held, write_strands]
      unfold observe
      rw [connectorHeld]
      change some (Observation.io (Function.update state.strands target
        (state.strands connector) target) (some fd) object.endpoint) =
          some (Observation.io (state.strands connector) object.descriptor object.endpoint)
      rw [Function.update_self, described]

theorem targetSurvives_accept_iff (agrees : Agrees state history)
    (alive : state.crashed = false) {acceptor peer : Var}
    {peerStrand : Option StrandId} (acceptorClass : state.classes acceptor = some .tcpAcceptor)
    (peerClass : state.classes peer = some .tcpSocket) {next : State}
    (done : accept state acceptor peerStrand peer = some next) :
    TargetSurvives state (.accept acceptor peerStrand peer) next ↔
      history.Filled (.accept acceptor peerStrand peer) := by
  rcases accept_cases done with
    ⟨empty, crashed⟩ | ⟨acceptorImpl, peerImpl, accepts, acceptorHeld, peerHeld, started⟩
  · exact agrees.crashed_iff_filled acceptorClass peerClass empty crashed
  · subst started
    exact agrees.survives_iff_filled acceptorClass peerClass acceptorHeld peerHeld
      ⟨alive, Function.update_self ..⟩

theorem observe_complete {index : Nat} {accepted : Accepted} {next : State}
    {pending : PendingAccept} (found : state.accepts[index]? = some pending)
    (alive : next.crashed = false)
    (done : complete state index (some accepted) = some next) :
    observe next pending.target =
      if state.cells.pointer pending.target = some pending.peer then
        some (.io (state.strands pending.target) (some accepted.fd) accepted.endpoint)
      else observe state pending.target := by
  obtain ⟨other, foundOther, ⟨_, failed⟩ | ⟨_, _, crashed⟩ |
    ⟨given, old, strand, completed, _, written⟩⟩ := complete_cases done
  · cases failed
  · subst crashed
    cases alive
  · rw [found] at foundOther
    cases foundOther
    cases completed
    subst written
    unfold observe
    by_cases owner : state.cells.pointer pending.target = some pending.peer
    · rw [if_pos owner, UniquePointers.read_write owner]
      rfl
    · rw [if_neg owner, UniquePointers.read_write_of_ne owner]

theorem complete_any {index : Nat} {accepted : Accepted} {next : State}
    (done : complete state index (some accepted) = some next) (other : Accepted) :
    ∃ after, complete state index (some other) = some after ∧ after.crashed = next.crashed := by
  unfold complete at done ⊢
  cases found : state.accepts[index]? with
  | none =>
      rw [found] at done
      cases done
  | some pending =>
      rw [found] at done
      dsimp only at done ⊢
      split at done
      · obtain ⟨strand, known, rfl⟩ := Option.map_eq_some_iff.mp done
        rw [known]
        exact ⟨_, rfl, rfl⟩
      · cases Option.some.inj done
        exact ⟨_, rfl, rfl⟩
      · cases done

/-- The target has the connection, whichever it is, exactly where it is untouched. -/
theorem targetSurvives_complete_iff (alive : state.crashed = false) {index : Nat}
    {result : Option Accepted} {next : State}
    (done : complete state index result = some next) :
    TargetSurvives state (.complete index result) next ↔
      FindsTarget state (.complete index result) := by
  obtain ⟨pending, found, ⟨_, failed⟩ | ⟨some, gone, crashed⟩ |
    ⟨accepted, old, strand, completed, held, written⟩⟩ := complete_cases done
  · subst failed
    exact Iff.rfl
  · obtain ⟨accepted, rfl⟩ := Option.isSome_iff_exists.mp some
    subst crashed
    refine iff_of_false (fun survives => absurd survives.1 (by simp)) ?_
    intro untouched
    have live := state.cells.allocated _ _ (untouched pending found).1
    rw [gone] at live
    cases live
  · subst completed
    have running : next.crashed = false := by
      subst written
      exact alive
    constructor
    · rintro ⟨_, observes⟩ other foundOther
      rw [found] at foundOther
      cases foundOther
      have told : ∀ given : Accepted,
          (if state.cells.pointer pending.target = Option.some pending.peer then
            Option.some (Observation.io (state.strands pending.target) (Option.some given.fd)
              given.endpoint)
          else observe state pending.target) =
            Option.some (.io pending.targetStrand (Option.some given.fd) given.endpoint) := by
        intro given
        obtain ⟨after, ended, same⟩ := complete_any done given
        rw [← observe_complete found (same.trans running) ended]
        exact observes pending found given after ((step_alive alive _).trans ended)
      by_cases owner : state.cells.pointer pending.target = Option.some pending.peer
      · have here := told accepted
        rw [if_pos owner] at here
        exact ⟨owner, by injection here with same; injection same⟩
      · -- what another variable's pimpl holds cannot be both of two connections
        have first := told { accepted with fd := 0 }
        have second := told { accepted with fd := 1 }
        rw [if_neg owner] at first second
        rw [first] at second
        simp at second
    · intro untouched
      refine ⟨running, ?_⟩
      intro other foundOther given after stepped
      rw [found] at foundOther
      cases foundOther
      rw [step_alive alive] at stepped
      have same : after.crashed = next.crashed := by
        obtain ⟨other, ended, same⟩ := complete_any done given
        cases Option.some.inj (ended.symm.trans stepped)
        exact same
      obtain ⟨owner, strand⟩ := untouched pending found
      rw [observe_complete found (same.trans running) stepped, if_pos owner, strand]

/-- An operation leaves its target as promised exactly when it reaches for no
emptied handle and, where it completes an accept, finds the variable untouched. -/
theorem targetSurvives_iff {next : State} {op : Op} (agrees : Agrees state history)
    (alive : state.crashed = false) (done : perform state op = some next) :
    TargetSurvives state op next ↔ history.Filled op ∧ FindsTarget state op := by
  have only : ∀ {survives filled : Prop}, (survives ↔ filled) → (survives ↔ filled ∧ True) :=
    fun same => by rw [and_true]; exact same
  cases op with
  | moveAssign target source =>
      obtain ⟨_, done⟩ := Option.ite_none_right_eq_some.mp done
      cases Option.some.inj done
      exact iff_of_true (targetSurvives_moveAssign alive target source) ⟨trivial, trivial⟩
  | copyAssign target source =>
      obtain ⟨cls, targetClass, done⟩ := Option.bind_eq_some_iff.mp done
      obtain ⟨⟨copyable, sourceClass⟩, done⟩ := Option.ite_none_right_eq_some.mp done
      exact only (targetSurvives_copyAssign_iff agrees alive copyable targetClass sourceClass
        done)
  | assignConnector target connector =>
      obtain ⟨⟨targetClass, connectorClass⟩, done⟩ := Option.ite_none_right_eq_some.mp done
      exact only (targetSurvives_assignConnector_iff agrees alive targetClass connectorClass
        done)
  | accept acceptor peerStrand peer =>
      obtain ⟨⟨acceptorClass, peerClass⟩, done⟩ := Option.ite_none_right_eq_some.mp done
      exact only (targetSurvives_accept_iff agrees alive acceptorClass peerClass done)
  | complete index result =>
      refine (targetSurvives_complete_iff alive done).trans ?_
      exact (and_iff_right trivial).symm
  | _ => exact only Iff.rfl

end Agrees

/-! ### A whole run -/

theorem survivesFrom_iff {ops : List Op} {state final : State} {history : History}
    (agrees : Agrees state history) (executed : Runs.exec step state ops = some final) :
    Runs.StepsMeet step
        (fun state op => ∀ next, step state op = some next → TargetSurvives state op next)
        state ops ↔
      UsesFilled history ops ∧ Runs.StepsMeet step FindsTarget state ops := by
  induction ops generalizing state history with
  | nil => exact ⟨fun _ => ⟨trivial, trivial⟩, fun _ => trivial⟩
  | cons op rest ih =>
      obtain ⟨next, stepped, later⟩ := Runs.exec_cons_eq_some.mp executed
      obtain ⟨notCrashed, done⟩ := Option.ite_none_left_eq_some.mp stepped
      have alive : state.crashed = false := Bool.not_eq_true _ ▸ notCrashed
      have first := targetSurvives_iff agrees alive done
      have only : ∀ {reached : State → Prop},
          (∀ other, step state op = some other → reached other) ↔ reached next := by
        intro reached
        constructor
        · exact fun all => all next stepped
        · intro holds other same
          cases Option.some.inj (stepped.symm.trans same)
          exact holds
      change ((∀ other, step state op = some other → TargetSurvives state op other) ∧
        ∀ other, step state op = some other → _) ↔
          (history.Filled op ∧ UsesFilled (history.after op) rest) ∧
            (FindsTarget state op ∧ ∀ other, step state op = some other → _)
      rw [only, only, only, first]
      by_cases crashed : next.crashed = true
      · -- the run ends here
        cases rest with
        | nil => exact ⟨fun both => ⟨⟨both.1.1, trivial⟩, both.1.2, trivial⟩,
            fun both => ⟨⟨both.1.1, both.2.1⟩, trivial⟩⟩
        | cons following others =>
            obtain ⟨_, impossible, _⟩ := Runs.exec_cons_eq_some.mp later
            rw [step, if_pos crashed] at impossible
            cases impossible
      · have running : next.crashed = false := Bool.not_eq_true _ ▸ crashed
        rw [ih (agrees.perform done running) later]
        exact and_and_and_comm

end BabaIo.Handles
