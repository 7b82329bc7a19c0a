import BabaIo.SingleEvent
import BabaIo.ConnectCallback
import BabaIo.Library.Progress

/-
The connections that an `async_acceptor` hands over.

Connections arrive in the backlog of the listening socket, and the kernel may take one
back before it has been accepted.  EPOLLIN says that the backlog is not empty.  `react`
calls `::accept`, which blocks on an empty backlog (the socket is a blocking one), and
leaves what it returns in `_peer_fd` and `_peer_ep` until the callback makes an `async_tcp`
of it.  The acceptor stays alive and is not moved.
-/

set_option autoImplicit false

namespace BabaIo.AcceptStream

open Descriptor (StrandId Stage Single Answered AnswersInOrder)

variable {Endpoint : Type}

structure Accepted (Endpoint : Type) where
  fd : Nat
  endpoint : Endpoint
  deriving DecidableEq

structure Handed (Endpoint : Type) where
  strand : StrandId
  fd : Int
  endpoint : Option Endpoint
  deriving DecidableEq

def INVALID_SOCKET : Int := -1

structure State (Endpoint : Type) where
  descriptor : Descriptor.State
  /-- All connections, in the order in which they have arrived. -/
  arrived : List Endpoint
  backlog : List Endpoint
  /-- How many connections the kernel has taken back. -/
  withdrawn : Nat
  peerFd : Int
  /-- `_peer_ep`, unless it is default constructed. -/
  peerEp : Option Endpoint
  /-- The strands for the peers, in the order of the calls of `accept`. -/
  strands : List StrandId
  accepted : List (Accepted Endpoint)
  handed : List (Handed Endpoint)

def init (strand : StrandId) : State Endpoint :=
  { descriptor := Descriptor.initSingle .accept strand
    arrived := []
    backlog := []
    withdrawn := 0
    peerFd := INVALID_SOCKET
    peerEp := none
    strands := []
    accepted := []
    handed := [] }

inductive Action (Endpoint : Type) where
  | arrive (endpoint : Endpoint)
  | withdraw (index : Nat)
  /-- `async_acceptor::accept` for a peer on a strand, with the result of `epoll_impl::arm`. -/
  | accept (peerStrand : StrandId) (result : ErrorCode)
  | harvest (events : Events)
  | handle (result : ErrorCode)
  /-- A reactor task, with the result of `::accept` should it be called. -/
  | runTask (index : Nat) (system : Except Errno Nat)
  | strandStep (strand : StrandId)

def accepts (state : State Endpoint) (task : Dispatch) : Bool :=
  task.code = ec.OK && (state.descriptor.event task.direction).react.isSome

/-- `react` of `epoll_accept::accept` with the fin lambda of `async_acceptor`, whose result
is an error code alone. -/
def runTask (state : State Endpoint) (index : Nat) (task : Dispatch)
    (system : Except Errno Nat) : Option (State Endpoint) :=
  if accepts state task then
    match system, state.backlog with
    | .error errno, _ =>
        some { state with
          descriptor := Descriptor.runTask state.descriptor index task (errno.code, 0)
          peerFd := INVALID_SOCKET
          peerEp := none }
    | .ok _, [] => none
    | .ok fd, endpoint :: rest =>
        some { state with
          descriptor := Descriptor.runTask state.descriptor index task (ec.OK, 0)
          backlog := rest
          peerFd := fd
          peerEp := some endpoint
          accepted := state.accepted ++ [{ fd := fd, endpoint := endpoint }] }
  else some { state with
    descriptor := Descriptor.runTask state.descriptor index task (ec.OK, 0) }

def nextCompletion (state : State Endpoint) (strand : StrandId) :
    Option Descriptor.Completion :=
  match state.descriptor.strandQueue strand with
  | [] => none
  | direction :: _ => (state.descriptor.event direction).complete

/-- `peer = async_tcp(peer_strand, _peer_fd, _peer_ep)` in the callback, for `ec::OK`. -/
def handsOver (state : State Endpoint) (completion : Descriptor.Completion) :
    List (Handed Endpoint) :=
  if completion.ec = ec.OK then
    state.strands[completion.operation]?.toList.map fun strand =>
      { strand := strand, fd := state.peerFd, endpoint := state.peerEp }
  else []

def step (state : State Endpoint) : Action Endpoint → Option (State Endpoint)
  | .arrive endpoint =>
      some { state with
        arrived := state.arrived ++ [endpoint]
        backlog := state.backlog ++ [endpoint] }
  | .withdraw index =>
      if index < state.backlog.length then
        some { state with
          backlog := state.backlog.eraseIdx index
          withdrawn := state.withdrawn + 1 }
      else none
  | .accept peerStrand result =>
      (Descriptor.step state.descriptor (.initiate .read result)).map fun descriptor =>
        { state with
          descriptor := descriptor
          strands := state.strands ++ [peerStrand] }
  | .harvest events =>
      if has events EPOLLIN && state.backlog.isEmpty then none
      else
        (Descriptor.step state.descriptor (.harvest events)).map fun descriptor =>
          { state with descriptor := descriptor }
  | .handle result =>
      (Descriptor.step state.descriptor (.handle result)).map fun descriptor =>
        { state with descriptor := descriptor }
  | .runTask index system =>
      if state.descriptor.terminated then none
      else state.descriptor.tasks[index]?.bind fun task => runTask state index task system
  | .strandStep strand =>
      (Descriptor.step state.descriptor (.strandStep strand)).map fun descriptor =>
        { state with
          descriptor := descriptor
          handed := state.handed ++
            (nextCompletion state strand).toList.flatMap (handsOver state) }

/-! ### What a user may rely on -/

def Accepted.registers (accepted : Accepted Endpoint) : Int × Option Endpoint :=
  (accepted.fd, some accepted.endpoint)

def Handed.registers (handed : Handed Endpoint) : Int × Option Endpoint :=
  (handed.fd, handed.endpoint)

def State.namedStrands (state : State Endpoint) : List (Option StrandId) :=
  (state.descriptor.callbacks.filter fun callback => callback.ec = ec.OK).map
    fun callback => state.strands[callback.operation]?

/-- Every `accept` is answered once and in order.  The connections are accepted in the
order in which they arrived, and handed over in that order, each once and on the strand
that was named for it; one at most is accepted and not handed over yet. -/
structure HandsOver (state : State Endpoint) : Prop where
  answers : AnswersInOrder .accept state.descriptor
  kernel : (state.accepted.map Accepted.endpoint ++ state.backlog).Sublist state.arrived
  noneLost : state.withdrawn = 0 →
    state.accepted.map Accepted.endpoint ++ state.backlog = state.arrived
  handed : ∃ held : List (Int × Option Endpoint), held.length ≤ 1 ∧
    (state.descriptor.outstanding .read = none → held = []) ∧
      state.handed.map Handed.registers ++ held = state.accepted.map Accepted.registers
  named : state.handed.map (fun handed => some handed.strand) = state.namedStrands
  neverBlocks : state.withdrawn = 0 → ∀ index system,
    index < state.descriptor.tasks.length → (step state (.runTask index system)).isSome = true

/-! ### The invariant -/

def State.underway (state : State Endpoint) : Stage → List (Int × Option Endpoint)
  | .completing completion =>
      if completion.ec = ec.OK then [(state.peerFd, state.peerEp)] else []
  | _ => []

structure Books (state : State Endpoint) (stage : Stage) : Prop where
  single : Single state.descriptor .read stage
  answered : Answered state.descriptor .accept stage
  called : state.strands.length = state.descriptor.initiated.length
  kernel : (state.accepted.map Accepted.endpoint ++ state.backlog).Sublist state.arrived
  noneLost : state.withdrawn = 0 →
    state.accepted.map Accepted.endpoint ++ state.backlog = state.arrived
  handed : state.handed.map Handed.registers ++ state.underway stage =
    state.accepted.map Accepted.registers
  named : state.handed.map (fun handed => some handed.strand) = state.namedStrands
  reported : state.withdrawn = 0 → ∀ events, state.descriptor.report = some events →
    has events EPOLLIN = true → state.backlog ≠ []
  tasks : state.withdrawn = 0 → ∀ task, task ∈ state.descriptor.tasks →
    task.code = ec.OK → state.backlog ≠ []

theorem books_init (strand : StrandId) : Books (init strand : State Endpoint) .idle := by
  constructor
  · exact Descriptor.single_init .accept strand
  · exact Descriptor.answered_init .accept strand
  · rfl
  · exact List.Sublist.refl _
  · exact fun _ => rfl
  · rfl
  · rfl
  · intro _ events impossible
    cases impossible
  · intro _ task impossible
    cases impossible

/-! ### The kernel -/

theorem books_arrive {state : State Endpoint} {stage : Stage} (books : Books state stage)
    (endpoint : Endpoint) :
    Books { state with
      arrived := state.arrived ++ [endpoint]
      backlog := state.backlog ++ [endpoint] } stage := by
  constructor
  · exact books.single
  · exact books.answered
  · exact books.called
  · change List.Sublist (_ ++ (state.backlog ++ [endpoint])) (state.arrived ++ [endpoint])
    rw [← List.append_assoc]
    exact books.kernel.append (List.Sublist.refl _)
  · intro none
    change _ ++ (state.backlog ++ [endpoint]) = state.arrived ++ [endpoint]
    rw [← List.append_assoc, books.noneLost none]
  · exact books.handed
  · exact books.named
  · intro _ _ _ _
    exact List.append_ne_nil_of_right_ne_nil _ (List.cons_ne_nil _ _)
  · intro _ _ _ _
    exact List.append_ne_nil_of_right_ne_nil _ (List.cons_ne_nil _ _)

theorem books_withdraw {state : State Endpoint} {stage : Stage} (books : Books state stage)
    (index : Nat) :
    Books { state with
      backlog := state.backlog.eraseIdx index
      withdrawn := state.withdrawn + 1 } stage := by
  constructor
  · exact books.single
  · exact books.answered
  · exact books.called
  · exact ((List.Sublist.refl _).append (List.eraseIdx_sublist ..)).trans books.kernel
  · intro impossible
    cases impossible
  · exact books.handed
  · exact books.named
  · intro impossible
    cases impossible
  · intro impossible
    cases impossible

/-! ### The descriptor -/

theorem books_accept {state : State Endpoint} (books : Books state .idle)
    (peerStrand : StrandId) (result : ErrorCode) :
    Books { state with
      descriptor := Descriptor.initiate state.descriptor .read result
      strands := state.strands ++ [peerStrand] }
      (Descriptor.initiatedStage state.descriptor.initiated.length result) := by
  obtain ⟨_, unreported, untasked⟩ := books.single.quiet rfl
  have keeps := Descriptor.initiate_keeps state.descriptor .read result
  have noneUnderway : State.underway { state with
      descriptor := Descriptor.initiate state.descriptor .read result
      strands := state.strands ++ [peerStrand] }
      (Descriptor.initiatedStage state.descriptor.initiated.length result) = [] := by
    unfold Descriptor.initiatedStage
    split
    · rfl
    · rename_i failed
      exact if_neg failed
  constructor
  · exact Descriptor.single_initiate books.single result
  · exact Descriptor.answered_initiate books.answered result
  · change (state.strands ++ [peerStrand]).length = (Descriptor.initiate _ _ _).initiated.length
    rw [keeps.initiated, List.length_append, List.length_append, books.called]
    rfl
  · exact books.kernel
  · exact books.noneLost
  · rw [noneUnderway]
    exact books.handed
  · refine books.named.trans ?_
    unfold State.namedStrands
    dsimp only
    rw [keeps.callbacks]
    apply List.map_congr_left
    intro callback member
    have below := books.answered.operation_lt (List.mem_of_mem_filter member)
    have numbered := books.answered.initiated
    rw [List.getElem?_append_left (by rw [books.called]; omega)]
  · intro _ events pending
    change (Descriptor.initiate _ _ _).report = some events at pending
    rw [keeps.report, unreported] at pending
    cases pending
  · intro _ task member
    change task ∈ (Descriptor.initiate _ _ _).tasks at member
    rw [keeps.tasks, untasked] at member
    cases member

theorem books_harvest {state : State Endpoint} {stage : Stage} (books : Books state stage)
    {events : Events} (backed : has events EPOLLIN = true → state.backlog ≠ [])
    (free : state.descriptor.report = none)
    (allowed : Descriptor.reportable state.descriptor.interest events = true) :
    Books { state with descriptor := { state.descriptor with
      report := some events, interest := EventMask.empty } } stage := by
  constructor
  · exact Descriptor.single_harvest books.single free allowed
  · exact books.answered.of_same rfl rfl rfl rfl rfl
  · exact books.called
  · exact books.kernel
  · exact books.noneLost
  · exact books.handed
  · exact books.named
  · intro _ other same readable
    cases same
    exact backed readable
  · exact books.tasks

theorem readable_of_dispatches {present : Direction → Bool} {mask : EventMask}
    {events : Events} {result : ErrorCode} {task : Dispatch}
    (member : task ∈ dispatches present mask events result)
    (reads : task.direction = .read) (code : task.code = ec.OK) :
    has events EPOLLIN = true := by
  unfold dispatches at member
  split at member
  · have failed := ((mem_dispatchRearmError present task).mp member).2
    rw [code] at failed
    exact absurd failed (by decide)
  · unfold dispatchReport at member
    rcases List.mem_append.mp member with reading | writing
    · by_contra unreadable
      rw [if_neg unreadable] at reading
      cases reading
    · split at writing
      · rw [List.mem_singleton.mp writing] at reads
        cases reads
      · cases writing

theorem books_handle {state : State Endpoint} {stage : Stage} (books : Books state stage)
    {events : Events} (pending : state.descriptor.report = some events) (result : ErrorCode) :
    Books { state with descriptor := Descriptor.handle state.descriptor events result }
      stage := by
  have keeps := Descriptor.handle_keeps state.descriptor events result
  have single := Descriptor.single_handle books.single pending result
  constructor
  · exact single
  · exact books.answered.of_same keeps.kind keeps.initiated keeps.reactCalls keeps.callbacks
      keeps.strand
  · exact books.called.trans (congrArg List.length keeps.initiated.symm)
  · exact books.kernel
  · exact books.noneLost
  · exact books.handed
  · refine books.named.trans ?_
    unfold State.namedStrands
    dsimp only
    rw [keeps.callbacks]
  · intro _ other impossible
    change (Descriptor.handle _ _ _).report = some other at impossible
    rw [keeps.report] at impossible
    cases impossible
  · intro none task member code
    have reads := single.tasks task member
    change task ∈ state.descriptor.tasks ++ dispatches _ _ _ _ at member
    rcases List.mem_append.mp member with before | added
    · exact books.tasks none task before code
    · exact books.reported none events pending (readable_of_dispatches added reads code)

/-! ### The task threads -/

def completionOf (task : Dispatch) (operation : Nat) (fin : ErrorCode × Int) :
    Descriptor.Completion :=
  { operation := operation
    ec := (Descriptor.reactCall task operation fin).result.1
    bytes := (Descriptor.reactCall task operation fin).result.2 }

/-- Once `react` has run, the rest of the books is what `::accept` has done. -/
theorem Books.completes {state next : State Endpoint} {stage : Stage}
    (books : Books state stage) {index : Nat} {task : Dispatch} {fin : ErrorCode × Int}
    (found : state.descriptor.tasks[index]? = some task)
    (descriptor : next.descriptor = Descriptor.runTask state.descriptor index task fin)
    (strands : next.strands = state.strands) (sameHanded : next.handed = state.handed)
    (kernel : (next.accepted.map Accepted.endpoint ++ next.backlog).Sublist next.arrived)
    (noneLost : next.withdrawn = 0 →
      next.accepted.map Accepted.endpoint ++ next.backlog = next.arrived)
    (handed : ∀ operation,
      next.handed.map Handed.registers ++
        next.underway (.completing (completionOf task operation fin)) =
      next.accepted.map Accepted.registers) :
    ∃ operation completion, stage = .pending operation ∧
      Books next (.completing completion) := by
  obtain ⟨operation, rfl, same, react, single⟩ :=
    Descriptor.single_runTask books.single found fin
  have answered := @Descriptor.answered_runTask _ _ _ books.answered index task fin same react
  obtain ⟨_, unreported, untasked⟩ := single.quiet rfl
  rw [← same] at react
  rw [← descriptor] at single answered unreported untasked
  refine ⟨operation, completionOf task operation fin, rfl, ?_⟩
  refine { single := single, answered := answered, called := ?called, kernel := kernel,
           noneLost := noneLost, handed := handed operation, named := ?named,
           reported := ?reported, tasks := ?tasks }
  case called =>
    rw [strands, descriptor, Descriptor.runTask_some react]
    exact books.called
  case named =>
    rw [sameHanded]
    refine books.named.trans ?_
    unfold State.namedStrands
    rw [strands, descriptor, Descriptor.runTask_some react]
    rfl
  case reported =>
    intro _ events impossible
    rw [unreported] at impossible
    cases impossible
  case tasks =>
    intro _ other impossible
    rw [untasked] at impossible
    cases impossible

/-- A task of the acceptor finds its closure, and calls `::accept` unless it hands on
an error. -/
theorem accepts_iff {state : State Endpoint} {stage : Stage} (books : Books state stage)
    {index : Nat} {task : Dispatch}
    (found : state.descriptor.tasks[index]? = some task) :
    accepts state task = true ↔ task.code = ec.OK := by
  obtain ⟨operation, _, same, react, _⟩ :=
    Descriptor.single_runTask books.single found (ec.OK, 0)
  unfold accepts
  rw [same, react]
  simp

theorem completionOf_ec (task : Dispatch) (operation : Nat) (fin : ErrorCode × Int) :
    (completionOf task operation fin).ec = if task.code = ec.OK then fin.1 else task.code := by
  unfold completionOf Descriptor.reactCall
  dsimp only
  split <;> rfl

theorem books_runTask {state next : State Endpoint} {stage : Stage} (books : Books state stage)
    {index : Nat} {task : Dispatch} (found : state.descriptor.tasks[index]? = some task)
    {system : Except Errno Nat} (ran : runTask state index task system = some next) :
    ∃ operation completion, stage = .pending operation ∧
      Books next (.completing completion) := by
  have pending : state.underway stage = [] := by
    obtain ⟨operation, rfl, _⟩ := Descriptor.single_runTask books.single found (ec.OK, 0)
    rfl
  have failing : ∀ (other : State Endpoint) (fin : ErrorCode × Int) (operation : Nat),
      (completionOf task operation fin).ec ≠ ec.OK → other.handed = state.handed →
        other.accepted = state.accepted →
      other.handed.map Handed.registers ++
        other.underway (.completing (completionOf task operation fin)) =
      other.accepted.map Accepted.registers := by
    intro other fin operation failed sameHanded sameAccepted
    have before := books.handed
    rw [pending] at before
    unfold State.underway
    dsimp only
    rw [if_neg failed, sameHanded, sameAccepted]
    exact before
  unfold runTask at ran
  by_cases calling : accepts state task = true
  · rw [if_pos calling] at ran
    have code := (accepts_iff books found).mp calling
    split at ran
    · rename_i errno
      cases ran
      have failed : ∀ operation, (completionOf task operation (errno.code, 0)).ec ≠ ec.OK := by
        intro operation
        rw [completionOf_ec, if_pos code]
        exact errno.nonzero
      exact books.completes found rfl rfl rfl books.kernel books.noneLost
        (fun operation => failing _ _ _ (failed operation) rfl rfl)
    · cases ran
    · rename_i fd endpoint rest backlog
      cases ran
      have succeeds : ∀ operation, (completionOf task operation (ec.OK, 0)).ec = ec.OK := by
        intro operation
        rw [completionOf_ec, if_pos code]
      have moved : (state.accepted ++ [({ fd := fd, endpoint := endpoint } :
          Accepted Endpoint)]).map Accepted.endpoint ++ rest =
          state.accepted.map Accepted.endpoint ++ state.backlog := by
        rw [List.map_append, backlog, List.append_assoc]
        rfl
      refine books.completes found rfl rfl rfl ?_ (fun none => moved.trans (books.noneLost none))
        ?_
      · exact moved.symm ▸ books.kernel
      · intro operation
        have before := books.handed
        rw [pending, List.append_nil] at before
        unfold State.underway
        dsimp only
        rw [if_pos (succeeds operation), List.map_append, before]
        rfl
  · rw [if_neg calling] at ran
    cases ran
    have code : task.code ≠ ec.OK := fun succeeded =>
      calling ((accepts_iff books found).mpr succeeded)
    have failed : ∀ operation, (completionOf task operation (ec.OK, 0)).ec ≠ ec.OK := by
      intro operation
      rw [completionOf_ec, if_neg code]
      exact code
    exact books.completes found rfl rfl rfl books.kernel books.noneLost
      (fun operation => failing _ _ _ (failed operation) rfl rfl)

/-! ### The callbacks -/

theorem books_strandStep {state : State Endpoint} {stage : Stage} (books : Books state stage)
    {strand : StrandId} {direction : Direction} {rest : List Direction}
    (queued : state.descriptor.strandQueue strand = direction :: rest) :
    ∃ completion, stage = .completing completion ∧
      Books { state with
        descriptor := Descriptor.runComplete state.descriptor strand direction rest
        handed := state.handed ++
          (nextCompletion state strand).toList.flatMap (handsOver state) } .idle := by
  obtain ⟨completion, rfl, rfl, rfl, found, single⟩ :=
    Descriptor.single_runComplete books.single queued
  have answered := @Descriptor.answered_runComplete _ .accept _ books.answered rest found
  have event : state.descriptor.kind .read = .accept := congrFun books.answered.event _
  have quiet := single.quiet rfl
  have current : completion.operation = state.descriptor.callbacks.length :=
    books.answered.current completion.operation rfl
  have numbered := books.answered.initiated
  have inside : completion.operation < state.strands.length := by
    rw [books.called, numbered, current]
    exact Nat.lt_succ_self _
  have next : nextCompletion state state.descriptor.strand = some completion := by
    unfold nextCompletion
    rw [queued]
    exact found
  have handing : (nextCompletion state state.descriptor.strand).toList.flatMap (handsOver state) =
      if completion.ec = ec.OK then
        [{ strand := state.strands[completion.operation], fd := state.peerFd,
           endpoint := state.peerEp }]
      else [] := by
    rw [next]
    change handsOver state completion ++ [] = _
    rw [List.append_nil, handsOver, List.getElem?_eq_getElem inside]
    rfl
  refine ⟨completion, rfl, ?_⟩
  rw [handing]
  refine { single := single, answered := answered, called := ?called, kernel := books.kernel,
           noneLost := books.noneLost, handed := ?handed, named := ?named,
           reported := ?reported, tasks := ?tasks }
  case called =>
    rw [Descriptor.runComplete_some found]
    exact books.called
  case handed =>
    have before := books.handed
    unfold State.underway at before ⊢
    dsimp only at before ⊢
    rw [← before, List.append_nil, List.map_append]
    by_cases succeeded : completion.ec = ec.OK
    · rw [if_pos succeeded, if_pos succeeded]
      rfl
    · rw [if_neg succeeded, if_neg succeeded]
      rfl
  case named =>
    have before := books.named
    unfold State.namedStrands at before ⊢
    rw [Descriptor.runComplete_some found, event]
    dsimp only
    rw [List.filter_append, List.map_append, List.map_append, before]
    congr 1
    dsimp only [Descriptor.callbackArguments]
    by_cases succeeded : completion.ec = ec.OK
    · rw [if_pos succeeded, List.filter_cons_of_pos (by simpa using succeeded)]
      simp [List.getElem?_eq_getElem inside]
    · rw [if_neg succeeded, List.filter_cons_of_neg (by simpa using succeeded)]
      rfl
  case reported =>
    intro _ events impossible
    rw [quiet.2.1] at impossible
    cases impossible
  case tasks =>
    intro _ other impossible
    rw [quiet.2.2] at impossible
    cases impossible

/-! ### Every run -/

theorem books_step {state next : State Endpoint} {action : Action Endpoint}
    (held : ∃ stage, Books state stage) (stepped : step state action = some next) :
    ∃ stage, Books next stage := by
  obtain ⟨stage, books⟩ := held
  cases action with
  | arrive endpoint =>
      cases stepped
      exact ⟨stage, books_arrive books endpoint⟩
  | withdraw index =>
      simp only [step] at stepped
      split at stepped
      · cases stepped
        exact ⟨stage, books_withdraw books index⟩
      · cases stepped
  | accept peerStrand result =>
      obtain ⟨descriptor, initiated, rfl⟩ := Option.map_eq_some_iff.mp stepped
      obtain ⟨_, _, free, rfl⟩ := Descriptor.step_initiate.mp initiated
      have idle := books.single.staged.idle_of_outstanding free
      rw [Descriptor.singleStage_self] at idle
      subst idle
      exact ⟨_, books_accept books peerStrand result⟩
  | harvest events =>
      simp only [step] at stepped
      split at stepped
      · cases stepped
      · rename_i backed
        obtain ⟨descriptor, harvested, rfl⟩ := Option.map_eq_some_iff.mp stepped
        obtain ⟨_, free, allowed, rfl⟩ := Descriptor.step_harvest.mp harvested
        refine ⟨stage, books_harvest books ?_ free allowed⟩
        intro readable none
        exact backed (by rw [readable, none]; rfl)
  | handle result =>
      obtain ⟨descriptor, handled, rfl⟩ := Option.map_eq_some_iff.mp stepped
      obtain ⟨_, events, pending, rfl⟩ := Descriptor.step_handle.mp handled
      exact ⟨stage, books_handle books pending result⟩
  | runTask index system =>
      simp only [step] at stepped
      split at stepped
      · cases stepped
      · obtain ⟨task, found, ran⟩ := Option.bind_eq_some_iff.mp stepped
        obtain ⟨_, completion, _, kept⟩ := books_runTask books found ran
        exact ⟨_, kept⟩
  | strandStep strand =>
      obtain ⟨descriptor, called, rfl⟩ := Option.map_eq_some_iff.mp stepped
      obtain ⟨_, direction, rest, queued, rfl⟩ := Descriptor.step_strandStep.mp called
      obtain ⟨_, _, kept⟩ := books_strandStep books queued
      exact ⟨_, kept⟩

theorem runTask_isSome {state : State Endpoint} (index : Nat) (task : Dispatch)
    (system : Except Errno Nat) (backed : task.code = ec.OK → state.backlog ≠ []) :
    (runTask state index task system).isSome = true := by
  unfold runTask
  split
  · rename_i calling
    split
    · rfl
    · rename_i none
      have code : task.code = ec.OK := by
        unfold accepts at calling
        rw [Bool.and_eq_true, decide_eq_true_eq] at calling
        exact calling.1
      exact absurd none (backed code)
    · rfl
  · rfl

theorem Books.handsOver {state : State Endpoint} {stage : Stage} (books : Books state stage) :
    HandsOver state := by
  constructor
  · exact books.answered.answersInOrder books.single
  · exact books.kernel
  · exact books.noneLost
  · refine ⟨state.underway stage, ?_, ?_, books.handed⟩
    · unfold State.underway
      split
      · split
        · exact Nat.le_refl 1
        · exact Nat.zero_le 1
      · exact Nat.zero_le 1
    · intro free
      have idle := books.single.staged.idle_of_outstanding free
      rw [Descriptor.singleStage_self] at idle
      rw [idle]
      rfl
  · exact books.named
  · intro none index system inside
    have found := List.getElem?_eq_getElem inside
    have backed := books.tasks none _ (List.mem_of_getElem? found)
    simp only [step, books.single.running, Bool.false_eq_true, if_false, found, Option.bind_some]
    exact runTask_isSome index _ system backed

/-- In every run of an acceptor, whichever calls of `epoll_ctl` and `::accept` fail. -/
theorem handsOver_always (strand : StrandId) (actions : List (Action Endpoint)) :
    Runs.StatesMeet step HandsOver (init strand : State Endpoint) actions := by
  have always : Runs.StatesMeet step (fun state => ∃ stage, Books state stage)
      (init strand : State Endpoint) actions :=
    Runs.statesMeet_of_invariant (fun _ _ _ held stepped => books_step held stepped)
      actions ⟨_, books_init strand⟩
  exact always.imp (fun state held => held.choose_spec.handsOver)

/-! ### Going on -/

def succeeds : Action Endpoint → Bool
  | .harvest events => events = EPOLLIN
  | .handle result => result = ec.OK
  | .runTask _ (.ok _) => true
  | .strandStep _ => true
  | _ => false

abbrev Faultless (Endpoint : Type) := { action : Action Endpoint // succeeds action = true }

def stepFaultless (state : State Endpoint) (action : Faultless Endpoint) :
    Option (State Endpoint) :=
  step state action.val

structure Undisturbed (state : State Endpoint) : Prop where
  waits : (state.descriptor.event .read).react.isSome = true
  report : ∀ events, state.descriptor.report = some events → has events EPOLLHUP = false
  tasks : ∀ task, task ∈ state.descriptor.tasks → task.code = ec.OK

/-- The outstanding `accept` has been answered, and what its `react` has accepted is
`connection`, unless an error had reached it before. -/
def AnswersWith (state : State Endpoint) (connection : Accepted Endpoint) : Prop :=
  ∃ next, Runs.Reaches stepFaultless state next ∧ Books next .idle ∧
    (Undisturbed state → next.accepted = state.accepted ++ [connection])

theorem AnswersWith.after {state next : State Endpoint} {connection : Accepted Endpoint}
    (answers : AnswersWith next connection) (action : Action Endpoint)
    (fails : succeeds action = true) (stepped : step state action = some next)
    (accepted : next.accepted = state.accepted)
    (undisturbed : Undisturbed state → Undisturbed next) : AnswersWith state connection := by
  obtain ⟨final, reaches, books, connected⟩ := answers
  have first : stepFaultless state ⟨action, fails⟩ = some next := stepped
  refine ⟨final, (Runs.Reaches.single first).trans reaches, books, ?_⟩
  intro before
  rw [connected (undisturbed before), accepted]

theorem reaches_idle {state : State Endpoint} {completion : Descriptor.Completion}
    (books : Books state (.completing completion)) :
    ∃ next, Runs.Reaches stepFaultless state next ∧ Books next .idle ∧
      next.accepted = state.accepted := by
  have agreed := books.single.staged.stage .read
  rw [Descriptor.singleStage_self] at agreed
  have waiting : 0 < (state.descriptor.strandQueue state.descriptor.strand).count .read := by
    rw [agreed.strandTasks]
    exact Nat.one_pos
  cases queued : state.descriptor.strandQueue state.descriptor.strand with
  | nil =>
      rw [queued] at waiting
      cases waiting
  | cons direction rest =>
      have ran := Descriptor.step_strandStep.mpr
        ⟨books.single.running, direction, rest, queued, rfl⟩
      obtain ⟨_, _, kept⟩ := books_strandStep books queued
      have stepped : stepFaultless state ⟨.strandStep state.descriptor.strand, rfl⟩ =
          some { state with
            descriptor := Descriptor.runComplete state.descriptor state.descriptor.strand
              direction rest
            handed := state.handed ++
              (nextCompletion state state.descriptor.strand).toList.flatMap
                (handsOver state) } := by
        simp only [stepFaultless, step, ran, Option.map_some]
      exact ⟨_, Runs.Reaches.single stepped, kept, rfl⟩

theorem undisturbed_handle {state : State Endpoint} (events : Events)
    (undisturbed : Undisturbed state)
    (tasks : ∀ task, task ∈ (Descriptor.handle state.descriptor events ec.OK).tasks →
      task.code = ec.OK) :
    Undisturbed { state with
      descriptor := Descriptor.handle state.descriptor events ec.OK } := by
  refine ⟨?_, ?_, tasks⟩
  · change (if tasksFor _ Direction.read = 0 then _ else _ :
      Descriptor.ReactorEvent).react.isSome = true
    split <;> exact undisturbed.waits
  · intro other impossible
    change (Descriptor.handle _ _ _).report = some other at impossible
    rw [(Descriptor.handle_keeps _ _ _).report] at impossible
    cases impossible

section Backed

variable {state : State Endpoint} {operation : Nat} {endpoint : Endpoint}
  {rest : List Endpoint}

theorem answers_task (books : Books state (.pending operation))
    (tasks : state.descriptor.tasks ≠ []) (backlog : state.backlog = endpoint :: rest)
    (fd : Nat) : AnswersWith state { fd := fd, endpoint := endpoint } := by
  have inside : 0 < state.descriptor.tasks.length := List.length_pos_iff.mpr tasks
  have found := List.getElem?_eq_getElem inside
  have backed : state.backlog ≠ [] := by
    rw [backlog]
    exact List.cons_ne_nil _ _
  obtain ⟨next, ran⟩ := Option.isSome_iff_exists.mp
    (runTask_isSome 0 state.descriptor.tasks[0] (.ok fd) (fun _ => backed))
  have stepped : stepFaultless state ⟨.runTask 0 (.ok fd), rfl⟩ = some next := by
    simp only [stepFaultless, step, books.single.running, Bool.false_eq_true, if_false, found,
      Option.bind_some, ran]
  obtain ⟨_, completion, _, kept⟩ := books_runTask books found ran
  obtain ⟨final, reaches, idle, same⟩ := reaches_idle kept
  refine ⟨final, (Runs.Reaches.single stepped).trans reaches, idle, ?_⟩
  intro undisturbed
  have code := undisturbed.tasks _ (List.mem_of_getElem? found)
  rw [same]
  unfold runTask at ran
  rw [if_pos ((accepts_iff books found).mpr code), backlog] at ran
  cases ran
  rfl

theorem answers_readable (books : Books state (.pending operation)) {events : Events}
    (pending : state.descriptor.report = some events) (readable : has events EPOLLIN = true)
    (backlog : state.backlog = endpoint :: rest) (fd : Nat) :
    AnswersWith state { fd := fd, endpoint := endpoint } := by
  have handled := Descriptor.step_handle.mpr
    (⟨books.single.running, events, pending, rfl⟩ : state.descriptor.terminated = false ∧
      ∃ events, state.descriptor.report = some events ∧
        Descriptor.handle state.descriptor events ec.OK = _)
  have kept := books_handle books pending ec.OK
  have tasksEq : (Descriptor.handle state.descriptor events ec.OK).tasks =
      state.descriptor.tasks ++ [⟨.read, reportCode events .read⟩] := by
    change state.descriptor.tasks ++ dispatches _ _ events ec.OK = _
    rw [Descriptor.dispatches_ok,
      Descriptor.dispatchReport_single (books.single.reported events pending)]
    exact congrArg _ (if_pos readable)
  have queued : (Descriptor.handle state.descriptor events ec.OK).tasks ≠ [] := by
    rw [tasksEq]
    exact List.append_ne_nil_of_right_ne_nil _ (List.cons_ne_nil _ _)
  refine (answers_task kept queued backlog fd).after (.handle ec.OK) rfl ?_ rfl ?_
  · simp only [step, handled, Option.map_some]
  · intro undisturbed
    apply undisturbed_handle events undisturbed
    intro task member
    rw [tasksEq] at member
    rcases List.mem_append.mp member with before | added
    · exact undisturbed.tasks task before
    · rw [List.mem_singleton.mp added]
      change (if has events EPOLLHUP = true then (EPOLLHUP.toNat : Int) else ec.OK) = ec.OK
      rw [if_neg (by rw [undisturbed.report events pending]; decide)]

theorem answers_armed (books : Books state (.pending operation))
    (unreported : state.descriptor.report = none) (untasked : state.descriptor.tasks = [])
    (backlog : state.backlog = endpoint :: rest) (fd : Nat) :
    AnswersWith state { fd := fd, endpoint := endpoint } := by
  obtain ⟨armed, readable⟩ := books.single.armed unreported untasked
  have allowed : Descriptor.reportable state.descriptor.interest EPOLLIN = true := by
    have unwritable : has EPOLLIN EPOLLOUT = false := by decide
    simp only [Descriptor.reportable, armed, readable, unwritable]
    rfl
  have harvested := Descriptor.step_harvest.mpr
    ⟨books.single.running, unreported, allowed, rfl⟩
  have backed : state.backlog ≠ [] := by
    rw [backlog]
    exact List.cons_ne_nil _ _
  have kept := books_harvest books (fun _ => backed) unreported allowed
  refine (answers_readable kept rfl (by decide) backlog fd).after (.harvest EPOLLIN)
    (by simp [succeeds]) ?_ rfl ?_
  · simp only [step, harvested, Option.map_some, backlog, List.isEmpty_cons, Bool.and_false,
      Bool.false_eq_true, if_false]
  · intro undisturbed
    refine ⟨undisturbed.waits, ?_, undisturbed.tasks⟩
    intro other same
    cases same
    decide

theorem answers_report (books : Books state (.pending operation)) {events : Events}
    (pending : state.descriptor.report = some events)
    (backlog : state.backlog = endpoint :: rest) (fd : Nat) :
    AnswersWith state { fd := fd, endpoint := endpoint } := by
  by_cases readable : has events EPOLLIN = true
  · exact answers_readable books pending readable backlog fd
  have handled := Descriptor.step_handle.mpr
    (⟨books.single.running, events, pending, rfl⟩ : state.descriptor.terminated = false ∧
      ∃ events, state.descriptor.report = some events ∧
        Descriptor.handle state.descriptor events ec.OK = _)
  have kept := books_handle books pending ec.OK
  have counted := books.single.oneToken
  unfold Descriptor.underWay at counted
  rw [pending, Option.isSome_some, Bool.toNat_true] at counted
  have untasked : state.descriptor.tasks = [] := by
    apply List.length_eq_zero_iff.mp
    simp only [Stage.tokens] at counted
    omega
  have tasksEq : (Descriptor.handle state.descriptor events ec.OK).tasks = [] := by
    change state.descriptor.tasks ++ dispatches _ _ events ec.OK = _
    rw [Descriptor.dispatches_ok,
      Descriptor.dispatchReport_single (books.single.reported events pending), untasked]
    exact if_neg readable
  have unreported := (Descriptor.handle_keeps state.descriptor events ec.OK).report
  refine (answers_armed kept unreported tasksEq backlog fd).after (.handle ec.OK) rfl ?_ rfl ?_
  · simp only [step, handled, Option.map_some]
  · intro undisturbed
    apply undisturbed_handle events undisturbed
    intro task impossible
    rw [tasksEq] at impossible
    cases impossible

theorem answers_pending (books : Books state (.pending operation))
    (backlog : state.backlog = endpoint :: rest) (fd : Nat) :
    AnswersWith state { fd := fd, endpoint := endpoint } := by
  cases pending : state.descriptor.report with
  | some events => exact answers_report books pending backlog fd
  | none =>
      by_cases untasked : state.descriptor.tasks = []
      · exact answers_armed books pending untasked backlog fd
      · exact answers_task books untasked backlog fd

end Backed

/-! ### No `accept` is stuck -/

/-- With a connection in the backlog the service can answer an outstanding `accept`,
and the first connection is handed over when no error has reached it. -/
structure Answerable (state : State Endpoint) : Prop where
  answers : state.backlog ≠ [] → state.descriptor.outstanding .read ≠ none →
    ∃ (actions : List (Faultless Endpoint)) (final : State Endpoint),
      Runs.exec stepFaultless state actions = some final ∧
        final.descriptor.outstanding .read = none
  hands : ∀ endpoint rest (fd : Nat), state.backlog = endpoint :: rest → Undisturbed state →
    ∃ (actions : List (Faultless Endpoint)) (final : State Endpoint),
      Runs.exec stepFaultless state actions = some final ∧
        final.handed.map Handed.registers =
          state.handed.map Handed.registers ++ [((fd : Int), some endpoint)]

theorem Books.unanswered {state : State Endpoint} (books : Books state .idle) :
    state.descriptor.outstanding .read = none := by
  have agreed := (books.single.staged.stage .read).outstanding
  rw [Descriptor.singleStage_self] at agreed
  exact agreed

theorem Books.answerable {state : State Endpoint} {stage : Stage} (books : Books state stage) :
    Answerable state := by
  have agreed := books.single.staged.stage .read
  rw [Descriptor.singleStage_self] at agreed
  constructor
  · intro backed outstanding
    cases stage with
    | idle => exact absurd books.unanswered outstanding
    | completing completion =>
        obtain ⟨next, ⟨actions, executed⟩, idle, _⟩ := reaches_idle books
        exact ⟨actions, next, executed, idle.unanswered⟩
    | pending operation =>
        obtain ⟨endpoint, rest, backlog⟩ := List.exists_cons_of_ne_nil backed
        obtain ⟨next, ⟨actions, executed⟩, idle, _⟩ := answers_pending books backlog 0
        exact ⟨actions, next, executed, idle.unanswered⟩
  · intro endpoint rest fd backlog undisturbed
    have react := undisturbed.waits
    rw [agreed.react] at react
    cases stage with
    | idle => cases react
    | completing completion => cases react
    | pending operation =>
        obtain ⟨next, ⟨actions, executed⟩, idle, connected⟩ := answers_pending books backlog fd
        refine ⟨actions, next, executed, ?_⟩
        have before := books.handed
        have after := idle.handed
        unfold State.underway at before after
        rw [List.append_nil] at before after
        rw [after, before, connected undisturbed, List.map_append]
        rfl

/-- Whichever calls have failed before, no `accept` is stuck. -/
theorem answerable_always (strand : StrandId) (actions : List (Action Endpoint)) :
    Runs.StatesMeet step Answerable (init strand : State Endpoint) actions := by
  have always : Runs.StatesMeet step (fun state => ∃ stage, Books state stage)
      (init strand : State Endpoint) actions :=
    Runs.statesMeet_of_invariant (fun _ _ _ held stepped => books_step held stepped)
      actions ⟨_, books_init strand⟩
  exact always.imp (fun state held => held.choose_spec.answerable)

/-- Two connections, the first `::accept` failing with EMFILE. -/
example : (Runs.exec step (init 0 : State String)
    [.accept 1 ec.OK, .arrive "first", .harvest EPOLLIN, .handle ec.OK, .arrive "second",
      .runTask 0 (.error { code := 24, nonzero := of_decide_eq_false rfl }), .strandStep 0,
      .accept 2 ec.OK, .harvest EPOLLIN, .handle ec.OK, .runTask 0 (.ok 7), .strandStep 0]).map
        (fun state => (state.handed, state.backlog)) =
    some ([⟨2, 7, some "first"⟩], ["second"]) := by
  decide +kernel

end BabaIo.AcceptStream
