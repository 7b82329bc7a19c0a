import BabaIo.FailedArm

/-
The byte stream that `async_tcp::recv` delivers.

The peer writes bytes and may close its end.  The socket of the descriptor keeps the
bytes that no `::recv` has taken yet.  A report with EPOLLIN says that there are such
bytes or that the peer has closed; EPOLLHUP may come with it once the peer has closed.
The descriptor itself, with its two events, is that of `BabaIo.Descriptor`.
-/

set_option autoImplicit false

namespace BabaIo.ReceiveStream

open Descriptor (StrandId Stage Staged)

structure Socket where
  /-- All bytes the peer has written. -/
  sent : List UInt8
  unread : List UInt8
  peerClosed : Bool

def EAGAIN : ErrorCode := 11

def hangUp : ErrorCode := EPOLLHUP.toNat

/-- EPOLLIN is level-triggered on this. -/
def Socket.readable (socket : Socket) : Bool := !socket.unread.isEmpty || socket.peerClosed

/-- What `socket_impl::recv` returns and what it copies into the buffer. -/
def Socket.recv (socket : Socket) (size : Nat) :
    (ErrorCode × Int) × List UInt8 × Socket :=
  match socket.unread with
  | [] =>
      if socket.peerClosed then ((ec.OK, 0), [], socket) else ((EAGAIN, -1), [], socket)
  | byte :: rest =>
      let bytes := (byte :: rest).take size
      ((ec.OK, bytes.length), bytes, { socket with unread := (byte :: rest).drop size })

structure State where
  descriptor : Descriptor.State
  socket : Socket
  /-- The buffer size of the latest recv. -/
  size : Nat
  /-- What the latest `::recv` has written into the buffer. -/
  buffer : List UInt8
  /-- The bytes of all callbacks with `ec::OK`. -/
  delivered : List UInt8

def init (strand : StrandId) : State :=
  { descriptor := Descriptor.init (fun _ => true) strand
    socket := ⟨[], [], false⟩
    size := 0
    buffer := []
    delivered := [] }

inductive Action where
  | write (bytes : List UInt8)
  | closePeer
  /-- `async_tcp::recv` with the result of `epoll_impl::arm`. -/
  | recv (size : Nat) (result : ErrorCode)
  | send (result : ErrorCode)
  | harvest (events : Events)
  | handle (result : ErrorCode)
  /-- A reactor task, with the result of the fin call should it be a send's. -/
  | runTask (index : Nat) (sent : ErrorCode × Int)
  | strandStep (strand : StrandId)

/-- `epoll_ctl` fails with other codes than these two. -/
def armResult (result : ErrorCode) : Bool :=
  result ≠ hangUp && result ≠ ec.EC_PEER_SOCKET_CLOSED

def mayReport (socket : Socket) (events : Events) : Bool :=
  (!has events EPOLLIN || socket.readable) && (!has events EPOLLHUP || socket.peerClosed)

def receives (state : State) (task : Dispatch) : Bool :=
  task.direction = .read && task.code = ec.OK &&
    (state.descriptor.event .read).react.isSome

def runTask (state : State) (index : Nat) (task : Dispatch) (sent : ErrorCode × Int) :
    State :=
  if receives state task then
    let received := state.socket.recv state.size
    { state with
      descriptor := Descriptor.runTask state.descriptor index task received.1
      socket := received.2.2
      buffer := received.2.1 }
  else { state with descriptor := Descriptor.runTask state.descriptor index task sent }

def nextCallback (state : State) (strand : StrandId) : Option (ErrorCode × Int) :=
  match state.descriptor.strandQueue strand with
  | .read :: _ =>
      (state.descriptor.event .read).complete.map fun completion =>
        Descriptor.callbackArguments .recv completion.ec completion.bytes
  | _ => none

def callbackBytes (state : State) (strand : StrandId) : List UInt8 :=
  match nextCallback state strand with
  | some (code, bytes) => if code = ec.OK then state.buffer.take bytes.toNat else []
  | none => []

def step (state : State) : Action → Option State
  | .write bytes =>
      if state.socket.peerClosed then none
      else some { state with socket := { state.socket with
        sent := state.socket.sent ++ bytes, unread := state.socket.unread ++ bytes } }
  | .closePeer => some { state with socket := { state.socket with peerClosed := true } }
  | .recv size result =>
      if armResult result then
        (Descriptor.step state.descriptor (.initiate .read result)).map fun descriptor =>
          { state with descriptor := descriptor, size := size }
      else none
  | .send result =>
      if armResult result then
        (Descriptor.step state.descriptor (.initiate .write result)).map fun descriptor =>
          { state with descriptor := descriptor }
      else none
  | .harvest events =>
      if mayReport state.socket events then
        (Descriptor.step state.descriptor (.harvest events)).map fun descriptor =>
          { state with descriptor := descriptor }
      else none
  | .handle result =>
      if armResult result then
        (Descriptor.step state.descriptor (.handle result)).map fun descriptor =>
          { state with descriptor := descriptor }
      else none
  | .runTask index sent =>
      if state.descriptor.terminated then none
      else state.descriptor.tasks[index]?.map fun task => runTask state index task sent
  | .strandStep strand =>
      (Descriptor.step state.descriptor (.strandStep strand)).map fun descriptor =>
        { state with
          descriptor := descriptor
          delivered := state.delivered ++ callbackBytes state strand }

/-! ### Inversion of the step function -/

section Inversion

variable {state next : State}

theorem step_write {bytes : List UInt8} :
    step state (.write bytes) = some next ↔ state.socket.peerClosed = false ∧
      { state with socket := { state.socket with
        sent := state.socket.sent ++ bytes, unread := state.socket.unread ++ bytes } } = next := by
  simp only [step]
  cases state.socket.peerClosed <;> simp

theorem step_recv {size : Nat} {result : ErrorCode} :
    step state (.recv size result) = some next ↔ armResult result = true ∧
      ∃ descriptor, Descriptor.step state.descriptor (.initiate .read result) =
          some descriptor ∧
        { state with descriptor := descriptor, size := size } = next := by
  simp only [step]
  cases armResult result <;> simp

theorem step_send {result : ErrorCode} :
    step state (.send result) = some next ↔ armResult result = true ∧
      ∃ descriptor, Descriptor.step state.descriptor (.initiate .write result) =
          some descriptor ∧ { state with descriptor := descriptor } = next := by
  simp only [step]
  cases armResult result <;> simp

theorem step_harvest {events : Events} :
    step state (.harvest events) = some next ↔ mayReport state.socket events = true ∧
      ∃ descriptor, Descriptor.step state.descriptor (.harvest events) = some descriptor ∧
        { state with descriptor := descriptor } = next := by
  simp only [step]
  cases mayReport state.socket events <;> simp

theorem step_handle {result : ErrorCode} :
    step state (.handle result) = some next ↔ armResult result = true ∧
      ∃ descriptor, Descriptor.step state.descriptor (.handle result) = some descriptor ∧
        { state with descriptor := descriptor } = next := by
  simp only [step]
  cases armResult result <;> simp

theorem step_runTask {index : Nat} {sent : ErrorCode × Int} :
    step state (.runTask index sent) = some next ↔ state.descriptor.terminated = false ∧
      ∃ task, state.descriptor.tasks[index]? = some task ∧
        runTask state index task sent = next := by
  simp only [step]
  cases state.descriptor.terminated <;> simp

end Inversion

/-! ### What a receiver may rely on -/

def DeliversPrefix (state : State) : Prop := state.delivered <+: state.socket.sent

/-- A callback reports the end of the stream, or a hang-up, only behind its last byte. -/
def Truthful (state : State) : Action → Prop
  | .strandStep strand => ∀ code bytes, nextCallback state strand = some (code, bytes) →
      (code = ec.EC_PEER_SOCKET_CLOSED →
        state.socket.peerClosed = true ∧ state.delivered = state.socket.sent) ∧
      (code = hangUp → state.socket.unread = [])
  | _ => True

/-- A recv's `react` that runs with unread bytes has room for one, and the report it
comes from carried no EPOLLHUP. -/
def ReactsInTime (state : State) : Action → Prop
  | .runTask index _ => ∀ code,
      state.descriptor.tasks[index]? = some ⟨.read, code⟩ →
      (state.descriptor.event .read).react.isSome = true → state.socket.unread ≠ [] →
        code ≠ hangUp ∧ (code = ec.OK → state.size ≠ 0)
  | _ => True

instance (state : State) (action : Action) : Decidable (ReactsInTime state action) :=
  match action with
  | .runTask index _ =>
      decidable_of_iff (∀ task ∈ state.descriptor.tasks[index]?, task.direction = .read →
        (state.descriptor.event .read).react.isSome = true → state.socket.unread ≠ [] →
          task.code ≠ hangUp ∧ (task.code = ec.OK → state.size ≠ 0))
        ⟨fun inTime code found => inTime ⟨.read, code⟩ found rfl, by
          rintro inTime ⟨direction, code⟩ found rfl
          exact inTime code found⟩
  | .write _ | .closePeer | .recv .. | .send _ | .harvest _ | .handle _ | .strandStep _ =>
      .isTrue trivial

/-! ### What a step of the descriptor does to the read event -/

def State.completion (state : State) : Option Descriptor.Completion :=
  (state.descriptor.event .read).complete

/-- Only an operation whose `arm` failed has a completion from the start. -/
theorem complete_initiate (descriptor : Descriptor.State) (direction other : Direction)
    (result : ErrorCode) :
    ((Descriptor.initiate descriptor direction result).event other).complete =
      if result ≠ ec.OK ∧ direction = other then
        some ⟨descriptor.initiated.length, result, 0⟩
      else (descriptor.event other).complete := by
  by_cases succeeded : result = ec.OK
  · rw [if_neg (fun failed => failed.1 succeeded)]
    by_cases same : direction = other
    · simp [Descriptor.initiate, Descriptor.arm, succeeded, same]
    · simp [Descriptor.initiate, Descriptor.arm, succeeded, Ne.symm same]
  · by_cases same : direction = other
    · simp [Descriptor.initiate, Descriptor.arm, Descriptor.forCompletion, succeeded, same]
    · simp [Descriptor.initiate, Descriptor.arm, Descriptor.forCompletion, succeeded, same,
        Ne.symm same]

theorem frame_initiate (descriptor : Descriptor.State) (direction : Direction)
    (result : ErrorCode) :
    (Descriptor.initiate descriptor direction result).report = descriptor.report ∧
      (Descriptor.initiate descriptor direction result).tasks = descriptor.tasks := by
  by_cases succeeded : result = ec.OK
  · simp [Descriptor.initiate, Descriptor.arm, succeeded]
  · simp [Descriptor.initiate, Descriptor.arm, Descriptor.forCompletion, succeeded]

theorem report_handle (descriptor : Descriptor.State) (events : Events)
    (result : ErrorCode) : (Descriptor.handle descriptor events result).report = none := by
  simp only [Descriptor.handle, Descriptor.arm]
  split
  · split <;> rfl
  · rfl

theorem complete_runTask {descriptor : Descriptor.State} {index : Nat} {task : Dispatch}
    {fin : ErrorCode × Int} {operation : Nat}
    (found : (descriptor.event task.direction).react = some operation) :
    ((Descriptor.runTask descriptor index task fin).event .read).complete =
      if task.direction = .read then
        some ⟨operation, (Descriptor.reactCall task operation fin).result.1,
          (Descriptor.reactCall task operation fin).result.2⟩
      else (descriptor.event .read).complete := by
  rw [Descriptor.runTask_some found]
  by_cases reads : task.direction = .read
  · rw [if_pos reads]
    simp [Descriptor.forCompletion, reads]
  · rw [if_neg reads]
    simp [Descriptor.forCompletion, Function.update_of_ne (Ne.symm reads)]

theorem frame_runTask (descriptor : Descriptor.State) (index : Nat) (task : Dispatch)
    (fin : ErrorCode × Int) :
    (Descriptor.runTask descriptor index task fin).report = descriptor.report ∧
      (Descriptor.runTask descriptor index task fin).tasks =
        descriptor.tasks.eraseIdx index := by
  unfold Descriptor.runTask
  split <;> exact ⟨rfl, rfl⟩

theorem frame_runComplete (descriptor : Descriptor.State) (strand : StrandId)
    (direction : Direction) (rest : List Direction) :
    (Descriptor.runComplete descriptor strand direction rest).report = descriptor.report ∧
      (Descriptor.runComplete descriptor strand direction rest).tasks =
        descriptor.tasks := by
  unfold Descriptor.runComplete
  split <;> exact ⟨rfl, rfl⟩

/-- Only a report with EPOLLHUP makes a task that hands on a hang-up. -/
theorem hangUp_of_dispatches {present : Direction → Bool} {mask : EventMask}
    {events : Events} {result : ErrorCode} {task : Dispatch}
    (member : task ∈ dispatches present mask events result)
    (reads : task.direction = .read) (code : task.code = hangUp) :
    has events EPOLLHUP = true := by
  unfold dispatches at member
  split at member
  · have failed := ((mem_dispatchRearmError present task).mp member).2
    rw [code] at failed
    exact absurd failed (by decide)
  · unfold dispatchReport at member
    rcases List.mem_append.mp member with reading | writing
    · split at reading
      · rw [List.mem_singleton.mp reading] at code
        simp only [reportCode] at code
        split at code
        · assumption
        · exact absurd code (by decide)
      · cases reading
    · split at writing
      · rw [List.mem_singleton.mp writing] at reads
        cases reads
      · cases writing

theorem reportCode_noEnd (events : Events) (direction : Direction) :
    reportCode events direction ≠ ec.EC_PEER_SOCKET_CLOSED := by
  cases direction with
  | read =>
      change (if has events EPOLLHUP = true then (EPOLLHUP.toNat : Int) else ec.OK) ≠ _
      by_cases hung : has events EPOLLHUP = true
      · rw [if_pos hung]
        decide
      · rw [if_neg hung]
        decide
  | write =>
      change (if has events EPOLLERR = true then (EPOLLERR.toNat : Int) else ec.OK) ≠ _
      by_cases failed : has events EPOLLERR = true
      · rw [if_pos failed]
        decide
      · rw [if_neg failed]
        decide

theorem code_of_dispatches {present : Direction → Bool} {mask : EventMask}
    {events : Events} {result : ErrorCode} {task : Dispatch}
    (member : task ∈ dispatches present mask events result) :
    task.code ≠ ec.EC_PEER_SOCKET_CLOSED := by
  unfold dispatches at member
  split at member
  · rw [((mem_dispatchRearmError present task).mp member).2]
    decide
  · unfold dispatchReport at member
    rcases List.mem_append.mp member with reading | writing
    · split at reading
      · rw [List.mem_singleton.mp reading]
        exact reportCode_noEnd events .read
      · cases reading
    · split at writing
      · rw [List.mem_singleton.mp writing]
        exact reportCode_noEnd events .write
      · cases writing

/-! ### The account of the bytes -/

def State.underway (state : State) : List UInt8 :=
  match state.completion with
  | some completion =>
      if completion.ec = ec.OK then state.buffer.take completion.bytes.toNat else []
  | none => []

structure Ends (socket : Socket) (completion : Descriptor.Completion) : Prop where
  noEnd : completion.ec ≠ ec.EC_PEER_SOCKET_CLOSED
  hangUp : completion.ec = hangUp → socket.peerClosed = true
  empty : completion.ec = ec.OK → completion.bytes = 0 →
    socket.unread ≠ [] ∨ socket.peerClosed = true

structure Hands (socket : Socket) (task : Dispatch) : Prop where
  noEnd : task.code ≠ ec.EC_PEER_SOCKET_CLOSED
  hangUp : task.direction = .read → task.code = hangUp → socket.peerClosed = true

structure Flow (state : State) : Prop where
  staged : ∃ stages, Staged state.descriptor stages
  report : ∀ events, state.descriptor.report = some events →
    has events EPOLLHUP = true → state.socket.peerClosed = true
  tasks : ∀ task, task ∈ state.descriptor.tasks → Hands state.socket task
  account : state.delivered ++ state.underway ++ state.socket.unread = state.socket.sent
  ends : ∀ completion, state.completion = some completion → Ends state.socket completion

theorem flow_init (strand : StrandId) : Flow (init strand) := by
  constructor
  · exact ⟨_, Descriptor.staged_init _ strand⟩
  · intro events impossible
    cases impossible
  · intro task impossible
    cases impossible
  · rfl
  · intro completion impossible
    cases impossible

/-- An outstanding recv whose callback will report the end, or a hang-up, in front of
unread bytes. -/
def Misleads (state : State) : Prop :=
  state.socket.unread ≠ [] ∧ ∃ completion, state.completion = some completion ∧
    ((completion.ec = ec.OK ∧ completion.bytes = 0) ∨ completion.ec = hangUp)

theorem nextCallback_eq_some {state : State} {strand : StrandId}
    {arguments : ErrorCode × Int} (next : nextCallback state strand = some arguments) :
    ∃ completion rest, state.descriptor.strandQueue strand = .read :: rest ∧
      state.completion = some completion ∧
      Descriptor.callbackArguments .recv completion.ec completion.bytes = arguments := by
  unfold nextCallback at next
  split at next
  · rename_i rest queued
    obtain ⟨completion, stored, same⟩ := Option.map_eq_some_iff.mp next
    exact ⟨completion, rest, queued, stored, same⟩
  · cases next

theorem callbackBytes_eq {state : State} {strand : StrandId} {rest : List Direction}
    (queued : state.descriptor.strandQueue strand = .read :: rest) :
    callbackBytes state strand = state.underway := by
  unfold callbackBytes nextCallback State.underway State.completion
  rw [queued]
  cases stored : (state.descriptor.event .read).complete with
  | none => rfl
  | some completion =>
      simp only [Option.map_some, Descriptor.callbackArguments]
      by_cases empty : completion.ec = ec.OK ∧ completion.bytes = 0
      · rw [if_pos empty, if_pos empty.1, empty.2]
        rfl
      · rw [if_neg empty]

theorem callbackBytes_write {state : State} {strand : StrandId} {rest : List Direction}
    (queued : state.descriptor.strandQueue strand = .write :: rest) :
    callbackBytes state strand = [] := by
  simp only [callbackBytes, nextCallback, queued]

/-- A callback is truthful exactly when its recv does not mislead. -/
theorem stream_truthful_iff {state : State} (flow : Flow state) (strand : StrandId) :
    Truthful state (.strandStep strand) ↔
      ((nextCallback state strand).isSome = true → ¬ Misleads state) := by
  constructor
  · intro truthful called misleads
    obtain ⟨arguments, next⟩ := Option.isSome_iff_exists.mp called
    obtain ⟨completion, rest, queued, stored, same⟩ := nextCallback_eq_some next
    obtain ⟨unread, other, found, ending⟩ := misleads
    rw [stored] at found
    cases found
    have told := truthful arguments.1 arguments.2 next
    rcases ending with empty | hung
    · rw [Descriptor.callbackArguments, if_pos empty] at same
      have finished := (told.1 (by rw [← same])).2
      have account := flow.account
      rw [finished, List.append_assoc] at account
      have rest := List.append_right_eq_self.mp account
      exact unread (List.append_eq_nil_iff.mp rest).2
    · have failed : ¬ (completion.ec = ec.OK ∧ completion.bytes = 0) := by
        rw [hung]
        intro impossible
        exact absurd impossible.1 (by decide)
      rw [Descriptor.callbackArguments, if_neg failed] at same
      exact unread (told.2 (by rw [← same]; exact hung))
  · intro honest code bytes next
    obtain ⟨completion, rest, queued, stored, same⟩ := nextCallback_eq_some next
    have ends := flow.ends completion stored
    have fine := honest (by rw [next]; rfl)
    constructor
    · intro isEnd
      have empty : completion.ec = ec.OK ∧ completion.bytes = 0 := by
        by_contra other
        rw [Descriptor.callbackArguments, if_neg other] at same
        exact ends.noEnd ((congrArg Prod.fst same).trans isEnd)
      have read : state.socket.unread = [] := by
        by_contra unread
        exact fine ⟨unread, completion, stored, Or.inl empty⟩
      refine ⟨(ends.empty empty.1 empty.2).resolve_left (fun unread => unread read), ?_⟩
      have account := flow.account
      simp only [State.underway, stored, empty.1, empty.2, if_true, read] at account
      simpa using account
    · intro isHangUp
      by_contra unread
      apply fine
      refine ⟨unread, completion, stored, Or.inr ?_⟩
      by_cases empty : completion.ec = ec.OK ∧ completion.bytes = 0
      · rw [Descriptor.callbackArguments, if_pos empty] at same
        have impossible : ec.EC_PEER_SOCKET_CLOSED = hangUp :=
          (congrArg Prod.fst same).trans isHangUp
        exact absurd impossible (by decide)
      · rw [Descriptor.callbackArguments, if_neg empty] at same
        exact (congrArg Prod.fst same).trans isHangUp

/-! ### Steps -/

theorem Flow.of_same {state next : State} (flow : Flow state)
    (staged : ∃ stages, Staged next.descriptor stages)
    (socket : next.socket = state.socket) (buffer : next.buffer = state.buffer)
    (delivered : next.delivered = state.delivered)
    (completion : next.completion = state.completion)
    (report : ∀ events, next.descriptor.report = some events →
      has events EPOLLHUP = true → state.socket.peerClosed = true)
    (tasks : ∀ task, task ∈ next.descriptor.tasks → Hands state.socket task) :
    Flow next := by
  constructor
  · exact staged
  · rw [socket]
    exact report
  · rw [socket]
    exact tasks
  · unfold State.underway
    rw [delivered, completion, buffer, socket]
    exact flow.account
  · rw [completion, socket]
    exact flow.ends

theorem completion_of_free {state : State} (flow : Flow state)
    (free : state.descriptor.outstanding .read = none) : state.completion = none := by
  obtain ⟨stages, staged⟩ := flow.staged
  have stage := staged.stage .read
  rw [staged.idle_of_outstanding free] at stage
  exact stage.complete

theorem completion_of_react {state : State} (flow : Flow state) {operation : Nat}
    (found : (state.descriptor.event .read).react = some operation) :
    state.completion = none := by
  obtain ⟨stages, staged⟩ := flow.staged
  have stage := staged.stage .read
  rw [staged.pending_of_react found] at stage
  exact stage.complete

theorem underway_of_none {state : State} (free : state.completion = none) :
    state.underway = [] := by
  simp only [State.underway, free]

theorem Flow.of_failed {state next : State} (flow : Flow state)
    (staged : ∃ stages, Staged next.descriptor stages) (free : state.completion = none)
    (socket : next.socket = state.socket) (delivered : next.delivered = state.delivered)
    (report : next.descriptor.report = state.descriptor.report)
    (tasks : ∀ task, task ∈ next.descriptor.tasks → task ∈ state.descriptor.tasks)
    (failed : ∀ completion, next.completion = some completion →
      completion.ec ≠ ec.OK ∧ completion.ec ≠ ec.EC_PEER_SOCKET_CLOSED ∧
        (completion.ec = hangUp → state.socket.peerClosed = true)) : Flow next := by
  constructor
  · exact staged
  · rw [socket, report]
    exact flow.report
  · rw [socket]
    exact fun task member => flow.tasks task (tasks task member)
  · have account := flow.account
    rw [underway_of_none free] at account
    have nothing : next.underway = [] := by
      unfold State.underway
      split
      · rename_i completion stored
        rw [if_neg (failed completion stored).1]
      · rfl
    rw [nothing, delivered, socket]
    exact account
  · intro completion stored
    obtain ⟨bad, noEnd, hung⟩ := failed completion stored
    rw [socket]
    exact ⟨noEnd, hung, fun ok => absurd ok bad⟩

theorem flow_recv {state : State} (flow : Flow state) {size : Nat} {result : ErrorCode}
    {descriptor : Descriptor.State} (codes : armResult result = true)
    (stepped : Descriptor.step state.descriptor (.initiate .read result) =
      some descriptor) : Flow { state with descriptor := descriptor, size := size } := by
  have staged := Descriptor.staged_step flow.staged stepped
  obtain ⟨_, _, free, initiated⟩ := Descriptor.step_initiate.mp stepped
  have complete := complete_initiate state.descriptor .read .read result
  obtain ⟨report, tasks⟩ := frame_initiate state.descriptor .read result
  rw [initiated] at complete report tasks
  have none := completion_of_free flow free
  refine flow.of_failed staged none rfl rfl report (by rw [tasks]; exact fun _ => id) ?_
  intro completion stored
  simp only [armResult, Bool.and_eq_true, decide_eq_true_eq] at codes
  change (descriptor.event .read).complete = some completion at stored
  rw [complete] at stored
  split at stored
  · rename_i failed
    cases stored
    exact ⟨failed.1, codes.2, fun hung => absurd hung codes.1⟩
  · change state.completion = some completion at stored
    rw [none] at stored
    cases stored

theorem flow_send {state : State} (flow : Flow state) {result : ErrorCode}
    {descriptor : Descriptor.State}
    (stepped : Descriptor.step state.descriptor (.initiate .write result) =
      some descriptor) : Flow { state with descriptor := descriptor } := by
  have staged := Descriptor.staged_step flow.staged stepped
  obtain ⟨_, _, _, initiated⟩ := Descriptor.step_initiate.mp stepped
  have complete := complete_initiate state.descriptor .write .read result
  obtain ⟨report, tasks⟩ := frame_initiate state.descriptor .write result
  rw [initiated] at complete report tasks
  rw [if_neg (fun failed => by cases failed.2)] at complete
  refine flow.of_same staged rfl rfl rfl complete ?_ ?_
  · rw [show descriptor.report = state.descriptor.report from report]
    exact flow.report
  · rw [show descriptor.tasks = state.descriptor.tasks from tasks]
    exact flow.tasks

theorem flow_harvest {state : State} (flow : Flow state) {events : Events}
    {descriptor : Descriptor.State} (may : mayReport state.socket events = true)
    (stepped : Descriptor.step state.descriptor (.harvest events) = some descriptor) :
    Flow { state with descriptor := descriptor } := by
  have staged := Descriptor.staged_step flow.staged stepped
  obtain ⟨_, _, _, harvested⟩ := Descriptor.step_harvest.mp stepped
  subst harvested
  refine flow.of_same staged rfl rfl rfl rfl ?_ flow.tasks
  intro other same hung
  cases same
  simp only [mayReport, hung, Bool.not_true, Bool.false_or, Bool.and_eq_true] at may
  exact may.2

theorem flow_handle {state : State} (flow : Flow state) {result : ErrorCode}
    {descriptor : Descriptor.State}
    (stepped : Descriptor.step state.descriptor (.handle result) = some descriptor) :
    Flow { state with descriptor := descriptor } := by
  have staged := Descriptor.staged_step flow.staged stepped
  obtain ⟨_, events, reported, handled⟩ := Descriptor.step_handle.mp stepped
  subst handled
  refine flow.of_same staged rfl rfl rfl
    (Descriptor.handle_event state.descriptor events result .read).2 ?_ ?_
  · intro other impossible
    rw [show (Descriptor.handle state.descriptor events result).report = none from
      report_handle ..] at impossible
    cases impossible
  · intro task member
    rw [Descriptor.handle_tasks] at member
    rcases List.mem_append.mp member with old | new
    · exact flow.tasks task old
    · exact ⟨code_of_dispatches new, fun reads code =>
        flow.report events reported (hangUp_of_dispatches new reads code)⟩

structure Received (socket : Socket)
    (received : (ErrorCode × Int) × List UInt8 × Socket) : Prop where
  split : received.2.1 ++ received.2.2.unread = socket.unread
  sent : received.2.2.sent = socket.sent
  closed : received.2.2.peerClosed = socket.peerClosed
  code : received.1.1 = ec.OK ∨ (received.1.1 = EAGAIN ∧ received.2.1 = [])
  count : received.1.1 = ec.OK → received.1.2 = received.2.1.length
  nothing : received.1.1 = ec.OK → received.2.1 = [] →
    received.2.2.unread ≠ [] ∨ socket.peerClosed = true

theorem received_recv (socket : Socket) (size : Nat) :
    Received socket (socket.recv size) := by
  unfold Socket.recv
  split
  · rename_i empty
    cases closed : socket.peerClosed with
    | true =>
        constructor
        · exact empty.symm ▸ rfl
        · rfl
        · rfl
        · exact Or.inl rfl
        · exact fun _ => rfl
        · exact fun _ _ => Or.inr closed
    | false =>
        constructor
        · exact empty.symm ▸ rfl
        · rfl
        · rfl
        · exact Or.inr ⟨rfl, rfl⟩
        · intro impossible
          change EAGAIN = ec.OK at impossible
          exact absurd impossible (by decide)
        · intro impossible
          change EAGAIN = ec.OK at impossible
          exact absurd impossible (by decide)
  · rename_i byte rest unread
    constructor
    · rw [unread]
      exact List.take_append_drop size (byte :: rest)
    · rfl
    · rfl
    · exact Or.inl rfl
    · exact fun _ => rfl
    · intro _ none
      left
      intro left
      have whole := List.take_append_drop size (byte :: rest)
      rw [show (byte :: rest).take size = [] from none,
        show (byte :: rest).drop size = [] from left] at whole
      cases whole

theorem receives_eq {state : State} {task : Dispatch} (reads : receives state task = true) :
    task.direction = .read ∧ task.code = ec.OK ∧
      ∃ operation, (state.descriptor.event .read).react = some operation := by
  simp only [receives, Bool.and_eq_true, decide_eq_true_eq] at reads
  exact ⟨reads.1.1, reads.1.2, Option.isSome_iff_exists.mp reads.2⟩

/-- The fin call of a recv: its bytes move from the socket towards the callback. -/
theorem flow_fin {state : State} (flow : Flow state) {index : Nat} {task : Dispatch}
    {sent : ErrorCode × Int} (found : state.descriptor.tasks[index]? = some task)
    (running : state.descriptor.terminated = false)
    (reads : receives state task = true) : Flow (runTask state index task sent) := by
  obtain ⟨direction, ok, operation, react⟩ := receives_eq reads
  have received := received_recv state.socket state.size
  unfold runTask
  rw [if_pos reads]
  dsimp only
  generalize state.socket.recv state.size = result at received ⊢
  obtain ⟨fin, bytes, socket⟩ := result
  have stepped : Descriptor.step state.descriptor (.runTask index fin) =
      some (Descriptor.runTask state.descriptor index task fin) :=
    Descriptor.step_runTask.mpr ⟨running, task, found, rfl⟩
  have staged := Descriptor.staged_step flow.staged stepped
  have complete : ((Descriptor.runTask state.descriptor index task fin).event
      .read).complete = some ⟨operation, fin.1, fin.2⟩ := by
    rw [complete_runTask (by rw [direction]; exact react), if_pos direction]
    simp only [Descriptor.reactCall, ok, if_true, Descriptor.ReactCall.result]
  obtain ⟨report, tasks⟩ := frame_runTask state.descriptor index task fin
  have account := flow.account
  rw [underway_of_none (completion_of_react flow react), List.append_nil] at account
  constructor
  · exact staged
  · change ∀ events, (Descriptor.runTask state.descriptor index task fin).report =
      some events → has events EPOLLHUP = true → socket.peerClosed = true
    rw [report, show socket.peerClosed = state.socket.peerClosed from received.closed]
    exact flow.report
  · intro other member
    change other ∈ (Descriptor.runTask state.descriptor index task fin).tasks at member
    rw [tasks] at member
    have hands := flow.tasks other (List.mem_of_mem_eraseIdx member)
    exact ⟨hands.noEnd, fun reads hung => received.closed.trans (hands.hangUp reads hung)⟩
  · have moved : bytes ++ socket.unread = state.socket.unread := received.split
    have whole : socket.sent = state.socket.sent := received.sent
    simp only [State.underway, State.completion, complete]
    rw [whole, ← account, ← moved]
    rcases received.code with isOk | ⟨again, none⟩
    · change fin.1 = ec.OK at isOk
      have count : fin.2 = bytes.length := received.count isOk
      rw [if_pos isOk, count, Int.toNat_natCast, List.take_length, List.append_assoc]
    · change fin.1 = EAGAIN at again
      change bytes = [] at none
      rw [if_neg (by rw [again]; decide), none, List.append_nil, List.nil_append]
  · intro completion stored
    change ((Descriptor.runTask state.descriptor index task fin).event .read).complete =
      some completion at stored
    rw [complete] at stored
    cases stored
    have code : fin.1 = ec.OK ∨ fin.1 = EAGAIN := received.code.imp id And.left
    constructor
    · change fin.1 ≠ ec.EC_PEER_SOCKET_CLOSED
      rcases code with same | same <;> (rw [same]; decide)
    · intro hung
      change fin.1 = hangUp at hung
      rcases code with same | same <;> (rw [same] at hung; exact absurd hung (by decide))
    · intro isOk zero
      change fin.1 = ec.OK at isOk
      change fin.2 = 0 at zero
      have none : bytes = [] := by
        have count : fin.2 = bytes.length := received.count isOk
        rw [zero] at count
        exact List.eq_nil_of_length_eq_zero (Int.ofNat_eq_zero.mp count.symm)
      rcases received.nothing isOk none with unread | closed
      · exact Or.inl unread
      · exact Or.inr (received.closed.trans closed)

theorem flow_otherTask {state : State} (flow : Flow state) {index : Nat}
    {task : Dispatch} {sent : ErrorCode × Int}
    (found : state.descriptor.tasks[index]? = some task)
    (running : state.descriptor.terminated = false)
    (other : receives state task = false) : Flow (runTask state index task sent) := by
  unfold runTask
  rw [if_neg (by rw [other]; exact Bool.false_ne_true)]
  have stepped : Descriptor.step state.descriptor (.runTask index sent) =
      some (Descriptor.runTask state.descriptor index task sent) :=
    Descriptor.step_runTask.mpr ⟨running, task, found, rfl⟩
  have staged := Descriptor.staged_step flow.staged stepped
  obtain ⟨report, tasks⟩ := frame_runTask state.descriptor index task sent
  have reports : ∀ events, (Descriptor.runTask state.descriptor index task sent).report =
      some events → has events EPOLLHUP = true → state.socket.peerClosed = true := by
    rw [report]
    exact flow.report
  have left : ∀ later, later ∈ (Descriptor.runTask state.descriptor index task sent).tasks →
      later ∈ state.descriptor.tasks := by
    rw [tasks]
    exact fun later member => List.mem_of_mem_eraseIdx member
  cases react : (state.descriptor.event task.direction).react with
  | none =>
      refine flow.of_same staged rfl rfl rfl ?_ reports
        (fun later member => flow.tasks later (left later member))
      change ((Descriptor.runTask state.descriptor index task sent).event .read).complete = _
      rw [Descriptor.runTask_none react]
      rfl
  | some operation =>
      have complete : ((Descriptor.runTask state.descriptor index task sent).event
          .read).complete = _ := complete_runTask react
      by_cases reads : task.direction = .read
      · rw [if_pos reads] at complete
        rw [reads] at react
        refine flow.of_failed staged (completion_of_react flow react) rfl rfl report left ?_
        intro completion stored
        change ((Descriptor.runTask state.descriptor index task sent).event .read).complete =
          some completion at stored
        rw [complete] at stored
        cases stored
        have failed : task.code ≠ ec.OK := by
          intro ok
          simp [receives, reads, ok, react] at other
        have hands := flow.tasks task (List.mem_of_getElem? found)
        simp only [Descriptor.reactCall, if_neg failed, Descriptor.ReactCall.result]
        exact ⟨failed, hands.noEnd, hands.hangUp reads⟩
      · rw [if_neg reads] at complete
        exact flow.of_same staged rfl rfl rfl complete reports
          (fun later member => flow.tasks later (left later member))

theorem flow_runTask {state next : State} (flow : Flow state) {index : Nat}
    {sent : ErrorCode × Int} (stepped : step state (.runTask index sent) = some next) :
    Flow next := by
  obtain ⟨running, task, found, ran⟩ := step_runTask.mp stepped
  subst ran
  have alive := running
  cases reads : receives state task with
  | true => exact flow_fin flow found alive reads
  | false => exact flow_otherTask flow found alive reads

/-- The callback of a recv takes over what was on its way. -/
theorem flow_strandStep {state : State} (flow : Flow state) {strand : StrandId}
    {descriptor : Descriptor.State}
    (stepped : Descriptor.step state.descriptor (.strandStep strand) = some descriptor) :
    Flow { state with
      descriptor := descriptor
      delivered := state.delivered ++ callbackBytes state strand } := by
  have staged := Descriptor.staged_step flow.staged stepped
  obtain ⟨_, direction, rest, queued, ran⟩ := Descriptor.step_strandStep.mp stepped
  subst ran
  obtain ⟨report, tasks⟩ := frame_runComplete state.descriptor strand direction rest
  obtain ⟨stages, before⟩ := flow.staged
  obtain ⟨_, completion, _, stored⟩ := before.completing_of_queued queued
  have reports : ∀ events,
      (Descriptor.runComplete state.descriptor strand direction rest).report =
        some events → has events EPOLLHUP = true → state.socket.peerClosed = true := by
    rw [report]
    exact flow.report
  have codes : ∀ task,
      task ∈ (Descriptor.runComplete state.descriptor strand direction rest).tasks →
        Hands state.socket task := by
    rw [tasks]
    exact flow.tasks
  cases direction with
  | read =>
      have free : ((Descriptor.runComplete state.descriptor strand .read rest).event
          .read).complete = none := by
        rw [Descriptor.runComplete_some stored]
        simp only [Function.update_self]
      constructor
      · exact staged
      · exact reports
      · exact codes
      · simp only [State.underway, State.completion, free, List.append_nil]
        rw [callbackBytes_eq queued]
        exact flow.account
      · intro other impossible
        change ((Descriptor.runComplete state.descriptor strand .read rest).event
          .read).complete = some other at impossible
        rw [free] at impossible
        cases impossible
  | write =>
      refine flow.of_same staged rfl rfl ?_ ?_ reports codes
      · change state.delivered ++ callbackBytes state strand = state.delivered
        rw [callbackBytes_write queued, List.append_nil]
      · change ((Descriptor.runComplete state.descriptor strand .write rest).event
          .read).complete = _
        rw [Descriptor.runComplete_some stored]
        rfl

theorem flow_write {state : State} (flow : Flow state) (bytes : List UInt8)
    (isOpen : state.socket.peerClosed = false) :
    Flow { state with socket := { state.socket with
      sent := state.socket.sent ++ bytes, unread := state.socket.unread ++ bytes } } := by
  constructor
  · exact flow.staged
  · exact flow.report
  · exact fun task member => ⟨(flow.tasks task member).noEnd, (flow.tasks task member).hangUp⟩
  · change state.delivered ++ state.underway ++ (state.socket.unread ++ bytes) =
      state.socket.sent ++ bytes
    rw [← List.append_assoc, flow.account]
  · intro completion stored
    have ends := flow.ends completion stored
    refine ⟨ends.noEnd, ends.hangUp, ?_⟩
    intro ok zero
    rcases ends.empty ok zero with unread | closed
    · exact Or.inl (fun none => unread (List.append_eq_nil_iff.mp none).1)
    · rw [isOpen] at closed
      cases closed

theorem flow_closePeer {state : State} (flow : Flow state) :
    Flow { state with socket := { state.socket with peerClosed := true } } := by
  constructor
  · exact flow.staged
  · exact fun _ _ _ => rfl
  · exact fun task member => ⟨(flow.tasks task member).noEnd, fun _ _ => rfl⟩
  · exact flow.account
  · exact fun completion stored =>
      ⟨(flow.ends completion stored).noEnd, fun _ => rfl, fun _ _ => Or.inr rfl⟩

theorem flow_step {state next : State} {action : Action} (flow : Flow state)
    (stepped : step state action = some next) : Flow next := by
  cases action with
  | write bytes =>
      obtain ⟨closed, rfl⟩ := step_write.mp stepped
      exact flow_write flow bytes closed
  | closePeer =>
      cases stepped
      exact flow_closePeer flow
  | recv size result =>
      obtain ⟨codes, descriptor, initiated, same⟩ := step_recv.mp stepped
      subst same
      exact flow_recv flow ‹_› initiated
  | send result =>
      obtain ⟨_, descriptor, initiated, same⟩ := step_send.mp stepped
      subst same
      exact flow_send flow initiated
  | harvest events =>
      obtain ⟨may, descriptor, harvested, same⟩ := step_harvest.mp stepped
      subst same
      exact flow_harvest flow ‹_› harvested
  | handle result =>
      obtain ⟨_, descriptor, handled, same⟩ := step_handle.mp stepped
      subst same
      exact flow_handle flow handled
  | runTask index sent => exact flow_runTask flow stepped
  | strandStep strand =>
      obtain ⟨descriptor, ran, same⟩ := Option.map_eq_some_iff.mp stepped
      subst same
      exact flow_strandStep flow ran

theorem Flow.deliversPrefix {state : State} (flow : Flow state) : DeliversPrefix state := by
  unfold DeliversPrefix
  rw [← flow.account, List.append_assoc]
  exact List.prefix_append _ _

/-! ### When callbacks mislead -/

inductive Effect (state : State) (action : Action) (next : State) : Prop where
  | kept (completion : next.completion = state.completion)
      (unread : next.socket.unread = state.socket.unread)
      (timely : ReactsInTime state action)
  | written (bytes : List UInt8) (same : action = .write bytes)
      (completion : next.completion = state.completion)
      (unread : next.socket.unread = state.socket.unread ++ bytes)
      (isOpen : state.socket.peerClosed = false)
  | stored (free : state.completion = none)
      (misleads : Misleads next ↔ ¬ ReactsInTime state action)
  | called (strand : StrandId) (same : action = .strandStep strand)
      (called : (nextCallback state strand).isSome = true)
      (free : next.completion = none)

theorem effect_recv {state : State} (flow : Flow state) {size : Nat} {result : ErrorCode}
    {descriptor : Descriptor.State} (codes : armResult result = true)
    (stepped : Descriptor.step state.descriptor (.initiate .read result) =
      some descriptor) :
    Effect state (.recv size result) { state with descriptor := descriptor, size := size } := by
  obtain ⟨_, _, free, initiated⟩ := Descriptor.step_initiate.mp stepped
  have complete := complete_initiate state.descriptor .read .read result
  rw [initiated] at complete
  have none := completion_of_free flow free
  refine .stored none (iff_of_false ?_ (fun untimely => untimely trivial))
  intro misleads
  obtain ⟨_, completion, stored, ending⟩ := misleads
  change (descriptor.event .read).complete = some completion at stored
  rw [complete] at stored
  simp only [armResult, Bool.and_eq_true, decide_eq_true_eq] at codes
  split at stored
  · rename_i failed
    cases stored
    rcases ending with empty | hung
    · exact failed.1 empty.1
    · exact codes.1 hung
  · change state.completion = some completion at stored
    rw [none] at stored
    cases stored

/-- The fin call of a recv without room leaves the bytes it found unread. -/
theorem effect_fin {state : State} (flow : Flow state) {index : Nat} {task : Dispatch}
    {sent : ErrorCode × Int} (found : state.descriptor.tasks[index]? = some task)
    (reads : receives state task = true) :
    Effect state (.runTask index sent) (runTask state index task sent) := by
  obtain ⟨direction, ok, operation, react⟩ := receives_eq reads
  have complete : ((Descriptor.runTask state.descriptor index task
      (state.socket.recv state.size).1).event .read).complete =
        some ⟨operation, (state.socket.recv state.size).1.1,
          (state.socket.recv state.size).1.2⟩ := by
    rw [complete_runTask (by rw [direction]; exact react), if_pos direction]
    simp only [Descriptor.reactCall, ok, if_true, Descriptor.ReactCall.result]
  have whole : task = ⟨.read, ec.OK⟩ := by
    cases task
    simp only at direction ok
    rw [direction, ok]
  have timely : ReactsInTime state (.runTask index sent) ↔
      (state.socket.unread ≠ [] → state.size ≠ 0) := by
    constructor
    · intro inTime unread
      exact (inTime ec.OK (by rw [found, whole]) (by rw [react]; rfl) unread).2 rfl
    · intro room code there _ unread
      rw [found, whole] at there
      cases there
      exact ⟨by decide, fun _ => room unread⟩
  refine .stored (completion_of_react flow react) ?_
  rw [timely]
  unfold runTask Misleads State.completion
  rw [if_pos reads]
  simp only [complete]
  unfold Socket.recv
  cases content : state.socket.unread with
  | nil =>
      cases closed : state.socket.peerClosed <;> simp [content]
  | cons byte rest =>
      simp only [ne_eq, reduceCtorEq, not_false_eq_true, forall_const, not_not]
      constructor
      · intro misleads
        obtain ⟨_, completion, same, ending⟩ := misleads
        cases same
        rcases ending with empty | hung
        · have short : ((byte :: rest).take state.size).length = 0 := by
            exact Int.ofNat_eq_zero.mp empty.2
          rw [List.length_take, List.length_cons] at short
          omega
        · change ec.OK = hangUp at hung
          exact absurd hung (by decide)
      · intro noRoom
        rw [noRoom]
        exact ⟨List.cons_ne_nil byte rest, _, rfl, Or.inl ⟨rfl, rfl⟩⟩

/-- An error handed to a recv leaves all bytes unread. -/
theorem effect_otherTask {state : State} (flow : Flow state) {index : Nat}
    {task : Dispatch} {sent : ErrorCode × Int}
    (found : state.descriptor.tasks[index]? = some task)
    (other : receives state task = false) :
    Effect state (.runTask index sent) (runTask state index task sent) := by
  have same : runTask state index task sent =
      { state with descriptor := Descriptor.runTask state.descriptor index task sent } := by
    unfold runTask
    rw [if_neg (by rw [other]; exact Bool.false_ne_true)]
  rw [same]
  cases react : (state.descriptor.event task.direction).react with
  | none =>
      refine .kept ?_ rfl ?_
      · change ((Descriptor.runTask state.descriptor index task sent).event
          .read).complete = _
        rw [Descriptor.runTask_none react]
        rfl
      · intro code there isSome
        rw [found] at there
        cases there
        rw [react] at isSome
        cases isSome
  | some operation =>
      have complete : ((Descriptor.runTask state.descriptor index task sent).event
          .read).complete = _ := complete_runTask react
      by_cases reads : task.direction = .read
      · rw [if_pos reads] at complete
        rw [reads] at react
        have failed : task.code ≠ ec.OK := by
          intro ok
          simp [receives, reads, ok, react] at other
        have whole : task = ⟨.read, task.code⟩ := by
          cases task
          simp only at reads
          rw [reads]
        have timely : ReactsInTime state (.runTask index sent) ↔
            (state.socket.unread ≠ [] → task.code ≠ hangUp) := by
          constructor
          · intro inTime unread
            exact (inTime task.code (by rw [found, ← whole]) (by rw [react]; rfl) unread).1
          · intro honest code there _ unread
            rw [found, whole] at there
            cases there
            exact ⟨honest unread, fun ok => absurd ok failed⟩
        refine .stored (completion_of_react flow react) ?_
        rw [timely]
        simp only [Descriptor.reactCall, if_neg failed, Descriptor.ReactCall.result]
          at complete
        unfold Misleads State.completion
        simp only [complete, Option.some.injEq, exists_eq_left', failed, false_and, false_or]
        tauto
      · rw [if_neg reads] at complete
        refine .kept complete rfl ?_
        intro code there
        rw [found] at there
        cases there
        exact absurd rfl reads

theorem step_effect {state next : State} {action : Action} (flow : Flow state)
    (stepped : step state action = some next) : Effect state action next := by
  cases action with
  | write bytes =>
      obtain ⟨closed, rfl⟩ := step_write.mp stepped
      exact .written bytes rfl rfl rfl closed
  | closePeer =>
      cases stepped
      exact .kept rfl rfl trivial
  | recv size result =>
      obtain ⟨codes, descriptor, initiated, same⟩ := step_recv.mp stepped
      subst same
      exact effect_recv flow ‹_› initiated
  | send result =>
      obtain ⟨_, descriptor, initiated, same⟩ := step_send.mp stepped
      subst same
      obtain ⟨_, _, _, sameDescriptor⟩ := Descriptor.step_initiate.mp initiated
      have complete := complete_initiate state.descriptor .write .read result
      rw [sameDescriptor, if_neg (fun failed => by cases failed.2)] at complete
      exact .kept complete rfl trivial
  | harvest events =>
      obtain ⟨_, descriptor, harvested, same⟩ := step_harvest.mp stepped
      subst same
      obtain ⟨_, _, _, sameDescriptor⟩ := Descriptor.step_harvest.mp harvested
      subst sameDescriptor
      exact .kept rfl rfl trivial
  | handle result =>
      obtain ⟨_, descriptor, handled, same⟩ := step_handle.mp stepped
      subst same
      obtain ⟨_, events, _, sameDescriptor⟩ := Descriptor.step_handle.mp handled
      subst sameDescriptor
      exact .kept (Descriptor.handle_event state.descriptor events result .read).2 rfl
        trivial
  | runTask index sent =>
      obtain ⟨_, task, found, ran⟩ := step_runTask.mp stepped
      subst ran
      cases reads : receives state task with
      | true => exact effect_fin flow found reads
      | false => exact effect_otherTask flow found reads
  | strandStep strand =>
      obtain ⟨descriptor, ran, same⟩ := Option.map_eq_some_iff.mp stepped
      subst same
      obtain ⟨_, direction, rest, queued, sameDescriptor⟩ :=
        Descriptor.step_strandStep.mp ran
      subst sameDescriptor
      obtain ⟨stages, before⟩ := flow.staged
      obtain ⟨_, completion, _, found⟩ := before.completing_of_queued queued
      cases direction with
      | read =>
          refine .called strand rfl ?_ ?_
          · simp only [nextCallback, queued, found]
            rfl
          · change ((Descriptor.runComplete state.descriptor strand .read rest).event
              .read).complete = none
            rw [Descriptor.runComplete_some found]
            simp only [Function.update_self]
      | write =>
          refine .kept ?_ rfl trivial
          change ((Descriptor.runComplete state.descriptor strand .write rest).event
            .read).complete = _
          rw [Descriptor.runComplete_some found]
          rfl

/-- A step makes the outstanding recv mislead exactly when its `react` runs untimely. -/
theorem misleads_step_iff {state next : State} {action : Action} (flow : Flow state)
    (honest : ¬ Misleads state) (stepped : step state action = some next) :
    Misleads next ↔ ¬ ReactsInTime state action := by
  cases step_effect flow stepped with
  | kept completion unread timely =>
      refine iff_of_false ?_ (fun untimely => untimely timely)
      unfold Misleads at honest ⊢
      rw [completion, unread]
      exact honest
  | written bytes same completion unread isOpen =>
      subst same
      refine iff_of_false ?_ (fun untimely => untimely trivial)
      intro misleads
      obtain ⟨_, stored, found, ending⟩ := misleads
      rw [completion] at found
      have ends := flow.ends stored found
      by_cases none : state.socket.unread = []
      · have closed : state.socket.peerClosed = true := by
          rcases ending with empty | hung
          · exact (ends.empty empty.1 empty.2).resolve_left (fun some => some none)
          · exact ends.hangUp hung
        rw [isOpen] at closed
        cases closed
      · exact honest ⟨none, stored, found, ending⟩
  | stored free misleads => exact misleads
  | called strand same called free =>
      subst same
      refine iff_of_false ?_ (fun untimely => untimely trivial)
      intro misleads
      obtain ⟨_, stored, found, _⟩ := misleads
      rw [free] at found
      cases found

/-- A recv that misleads does so until its callback, which is then not truthful. -/
theorem misleads_kept {state next : State} {action : Action} (flow : Flow state)
    (misleads : Misleads state) (truthful : Truthful state action)
    (stepped : step state action = some next) : Misleads next := by
  obtain ⟨unreadBefore, stored, found, ending⟩ := misleads
  cases step_effect flow stepped with
  | kept completion unread timely =>
      exact ⟨by rw [unread]; exact unreadBefore, stored, completion.trans found, ending⟩
  | written bytes same completion unread isOpen =>
      refine ⟨?_, stored, completion.trans found, ending⟩
      rw [unread]
      exact fun none => unreadBefore (List.append_eq_nil_iff.mp none).1
  | stored free _ =>
      rw [free] at found
      cases found
  | called strand same called free =>
      subst same
      exact absurd ⟨unreadBefore, stored, found, ending⟩
        ((stream_truthful_iff flow strand).mp truthful called)

/-! ### Every run -/

def StreamIntegrity (strand : StrandId) (actions : List Action) : Prop :=
  Runs.StatesMeet step DeliversPrefix (init strand) actions ∧
    Runs.StepsMeet step Truthful (init strand) actions

structure Honest (state : State) : Prop where
  flow : Flow state
  leads : ¬ Misleads state

theorem honest_step {state next : State} {action : Action} (honest : Honest state)
    (timely : ReactsInTime state action) (stepped : step state action = some next) :
    Honest next :=
  ⟨flow_step honest.flow stepped, fun misleads =>
    (misleads_step_iff honest.flow honest.leads stepped).mp misleads timely⟩

theorem honest_init (strand : StrandId) : Honest (init strand) := by
  refine ⟨flow_init strand, ?_⟩
  intro misleads
  exact misleads.1 rfl

theorem Honest.truthful {state : State} (honest : Honest state) (action : Action) :
    Truthful state action := by
  cases action with
  | strandStep strand => exact (stream_truthful_iff honest.flow strand).mpr (fun _ => honest.leads)
  | _ => trivial

theorem deliversPrefix_always (strand : StrandId) (actions : List Action) :
    Runs.StatesMeet step DeliversPrefix (init strand) actions := by
  have always : Runs.StatesMeet step Flow (init strand) actions :=
    Runs.statesMeet_of_invariant (fun _ _ _ flow stepped => flow_step flow stepped)
      actions (flow_init strand)
  exact always.imp (fun state flow => flow.deliversPrefix)

theorem truthful_of_timely {strand : StrandId} {actions : List Action}
    (timely : Runs.StepsMeet step ReactsInTime (init strand) actions) :
    Runs.StepsMeet step Truthful (init strand) actions := by
  have honest : Runs.StatesMeet step Honest (init strand) actions :=
    Runs.statesMeet_of_preserved
      (fun _ _ _ held inTime stepped => honest_step held inTime stepped)
      (honest_init strand) timely
  exact honest.stepsMeet (fun state action held => held.truthful action)

/-- In a run of truthful callbacks at whose end no completion is left, no recv misleads
and every `react` runs in time. -/
theorem timely_of_truthful {state final : State} {actions : List Action}
    (flow : Flow state) (truthful : Runs.StepsMeet step Truthful state actions)
    (executed : Runs.exec step state actions = some final)
    (ended : final.completion = none) :
    ¬ Misleads state ∧ Runs.StepsMeet step ReactsInTime state actions := by
  induction actions generalizing state with
  | nil =>
      have same : state = final := Option.some.inj executed
      subst same
      refine ⟨?_, trivial⟩
      intro misleads
      obtain ⟨_, stored, found, _⟩ := misleads
      rw [ended] at found
      cases found
  | cons action rest ih =>
      obtain ⟨next, stepped, later⟩ := Runs.exec_cons_eq_some.mp executed
      obtain ⟨leads, timely⟩ := ih (flow_step flow stepped)
        (truthful.2 next stepped) later
      have honest : ¬ Misleads state := fun misleads =>
        leads (misleads_kept flow misleads truthful.1 stepped)
      refine ⟨honest, ?_, ?_⟩
      · by_contra untimely
        exact leads ((misleads_step_iff flow honest stepped).mpr untimely)
      · intro other same
        rw [stepped] at same
        cases same
        exact timely

/-- A run whose recvs react in time keeps the integrity of the stream; a run at whose
end no recv is outstanding keeps it only then. -/
theorem streamIntegrity_iff_reactsInTime (strand : StrandId) (actions : List Action) :
    (Runs.StepsMeet step ReactsInTime (init strand) actions →
      StreamIntegrity strand actions) ∧
    ∀ final, Runs.exec step (init strand) actions = some final →
      final.descriptor.outstanding .read = none →
      (StreamIntegrity strand actions ↔
        Runs.StepsMeet step ReactsInTime (init strand) actions) := by
  have enough : Runs.StepsMeet step ReactsInTime (init strand) actions →
      StreamIntegrity strand actions :=
    fun timely => ⟨deliversPrefix_always strand actions, truthful_of_timely timely⟩
  refine ⟨enough, ?_⟩
  intro final executed ended
  refine ⟨?_, enough⟩
  intro integrity
  have flow : Flow final :=
    Runs.exec_invariant (fun _ _ _ held stepped => flow_step held stepped)
      (flow_init strand) executed
  exact (timely_of_truthful (flow_init strand) integrity.2 executed
    (completion_of_free flow ended)).2

/-- The hang-up is reported when both bytes have been read. -/
def closedInTime : List Action :=
  [.recv 8 ec.OK, .write [1, 2], .harvest EPOLLIN, .handle ec.OK, .runTask 0 (ec.OK, 0),
    .strandStep 0, .recv 8 ec.OK, .closePeer, .harvest (EPOLLIN ||| EPOLLHUP), .handle ec.OK,
    .runTask 0 (ec.OK, 0), .strandStep 0]

theorem closedInTime_integrity :
    ∃ final, Runs.exec step (init 0) closedInTime = some final ∧ final.delivered = [1, 2] ∧
      StreamIntegrity 0 closedInTime ∧
      (StreamIntegrity 0 closedInTime ↔
        Runs.StepsMeet step ReactsInTime (init 0) closedInTime) := by
  have executed : (Runs.exec step (init 0) closedInTime).map
      (fun final => (final.descriptor.outstanding .read, final.delivered)) =
        some (none, [1, 2]) := by
    decide +kernel
  obtain ⟨final, reached, same⟩ := Option.map_eq_some_iff.mp executed
  obtain ⟨ended, delivered⟩ := Prod.mk.inj same
  obtain ⟨enough, exactly⟩ := streamIntegrity_iff_reactsInTime 0 closedInTime
  exact ⟨final, reached, delivered, enough (by decide +kernel), exactly final reached ended⟩

def hangUpRun : List Action :=
  [.recv 8 ec.OK, .write [1, 2], .closePeer, .harvest (EPOLLIN ||| EPOLLHUP),
    .handle ec.OK, .runTask 0 (ec.OK, 0)]

theorem streamIntegrity_false :
    ¬ ∀ actions : List Action, (Runs.exec step (init 0) actions).isSome = true →
      StreamIntegrity 0 actions := by
  intro claimed
  have executed : (Runs.exec step (init 0) (hangUpRun ++ [.strandStep 0])).isSome =
      true := by
    decide +kernel
  have called : (Runs.exec step (init 0) hangUpRun).map (fun state =>
      (nextCallback state 0, state.socket.unread)) = some (some (hangUp, 0), [1, 2]) := by
    decide +kernel
  obtain ⟨state, reached, same⟩ := Option.map_eq_some_iff.mp called
  have truthful := (claimed _ executed).2.last reached
  rw [Prod.mk.injEq] at same
  have unread := (truthful hangUp 0 same.1).2 rfl
  rw [same.2] at unread
  cases unread

end BabaIo.ReceiveStream
