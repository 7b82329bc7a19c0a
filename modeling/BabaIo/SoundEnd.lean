import BabaIo.ClientServer

/-
One end of the exchange while nothing fails.

`epoll_ctl` and `::send` succeed and no report carries an error.  Then nothing that the
end's operations have under way is an error, and a recv is only told to react when there
are bytes to read.
-/

set_option autoImplicit false

namespace BabaIo.ClientServer

open Descriptor (StrandId Controlled Stage)

/-- What the two operations of an end have under way is not an error, and a recv is only
told to react when there is something to read. -/
structure Sound (receive : ReceiveStream.State) : Prop where
  controlled : ∃ stages, Controlled receive.descriptor stages
  isOpen : receive.socket.peerClosed = false
  room : (receive.descriptor.event .read).react.isSome = true → receive.size ≠ 0
  report : ∀ events, receive.descriptor.report = some events →
    has events EPOLLERR = false ∧ has events EPOLLHUP = false ∧
      (has events EPOLLIN = true → receive.socket.unread ≠ [])
  tasks : ∀ task, task ∈ receive.descriptor.tasks →
    task.code = ec.OK ∧ (task.direction = .read → receive.socket.unread ≠ [])
  received : ∀ completion, receive.completion = some completion →
    completion.ec = ec.OK ∧ receive.underway ≠ []
  sent : ∀ completion, (receive.descriptor.event .write).complete = some completion →
    completion.ec = ec.OK

theorem sound_init (strand : StrandId) : Sound (ReceiveStream.init strand) := by
  constructor
  · exact ⟨_, Descriptor.controlled_init _ strand⟩
  · rfl
  · intro impossible
    cases impossible
  · intro events impossible
    cases impossible
  · intro task impossible
    cases impossible
  · intro completion impossible
    cases impossible
  · intro completion impossible
    cases impossible

def fine : ReceiveStream.Action → Bool
  | .write _ => true
  | .closePeer => false
  | .recv size result => result = ec.OK && size ≠ 0
  | .send result => result = ec.OK
  | .harvest events => !has events EPOLLERR && !has events EPOLLHUP
  | .handle result => result = ec.OK
  | .runTask _ sent => sent.1 = ec.OK
  | .strandStep _ => true

section OneEnd

variable {before after : ReceiveStream.State}

theorem sound_write {bytes : List UInt8} (sound : Sound before)
    (stepped : ReceiveStream.step before (.write bytes) = some after) : Sound after := by
  obtain ⟨_, rfl⟩ := ReceiveStream.step_write.mp stepped
  have grows : before.socket.unread ≠ [] → before.socket.unread ++ bytes ≠ [] :=
    fun unread none => unread (List.append_eq_nil_iff.mp none).1
  refine ⟨sound.controlled, sound.isOpen, sound.room, ?_, ?_, sound.received, sound.sent⟩
  · intro events reported
    obtain ⟨noError, noHangUp, readable⟩ := sound.report events reported
    exact ⟨noError, noHangUp, fun reads => grows (readable reads)⟩
  · intro task member
    exact ⟨(sound.tasks task member).1, fun reads => grows ((sound.tasks task member).2 reads)⟩

theorem initiated_event {descriptor : Descriptor.State} (direction other : Direction) :
    ((Descriptor.initiate descriptor direction ec.OK).event other).complete =
        (descriptor.event other).complete ∧
      (((Descriptor.initiate descriptor direction ec.OK).event other).react.isSome =
        (decide (other = direction) || (descriptor.event other).react.isSome)) := by
  by_cases same : other = direction
  · subst other
    simp [Descriptor.initiate, Descriptor.arm]
  · simp [Descriptor.initiate, Descriptor.arm, same]

theorem controlled_initiated {descriptor : Descriptor.State} {direction : Direction}
    (controlled : ∃ stages, Controlled descriptor stages)
    (free : descriptor.outstanding direction = none) :
    ∃ stages, Controlled (Descriptor.initiate descriptor direction ec.OK) stages := by
  obtain ⟨stages, before⟩ := controlled
  exact ⟨_, Descriptor.controlled_initiate before (before.staged.idle_of_outstanding free)⟩

theorem underway_of_same (completion : after.completion = before.completion)
    (buffer : after.buffer = before.buffer) : after.underway = before.underway := by
  unfold ReceiveStream.State.underway
  rw [completion, buffer]

theorem Sound.of_same (sound : Sound before)
    (controlled : ∃ stages, Controlled after.descriptor stages)
    (socket : after.socket = before.socket) (buffer : after.buffer = before.buffer)
    (completion : ∀ direction, (after.descriptor.event direction).complete =
      (before.descriptor.event direction).complete)
    (room : (after.descriptor.event .read).react.isSome = true → after.size ≠ 0)
    (report : ∀ events, after.descriptor.report = some events →
      has events EPOLLERR = false ∧ has events EPOLLHUP = false ∧
        (has events EPOLLIN = true → before.socket.unread ≠ []))
    (tasks : ∀ task, task ∈ after.descriptor.tasks →
      task.code = ec.OK ∧ (task.direction = .read → before.socket.unread ≠ [])) :
    Sound after := by
  have stored : after.completion = before.completion := completion .read
  have underway := underway_of_same stored buffer
  constructor
  · exact controlled
  · rw [socket]
    exact sound.isOpen
  · exact room
  · rw [socket]
    exact report
  · rw [socket]
    exact tasks
  · rw [stored, underway]
    exact sound.received
  · rw [completion .write]
    exact sound.sent

theorem sound_recv {size : Nat} {result : ErrorCode} (sound : Sound before)
    (fails : fine (.recv size result) = true)
    (stepped : ReceiveStream.step before (.recv size result) = some after) : Sound after := by
  simp only [fine, Bool.and_eq_true, decide_eq_true_eq] at fails
  obtain ⟨rfl, room⟩ := fails
  obtain ⟨_, descriptor, initiated, rfl⟩ := ReceiveStream.step_recv.mp stepped
  obtain ⟨_, _, free, rfl⟩ := Descriptor.step_initiate.mp initiated
  have frame := ReceiveStream.frame_initiate before.descriptor .read ec.OK
  refine sound.of_same (controlled_initiated sound.controlled free) rfl rfl
    (fun other => (initiated_event .read other).1) (fun _ => room) ?_ ?_
  · rw [frame.1]
    exact sound.report
  · rw [frame.2]
    exact sound.tasks

theorem sound_send {result : ErrorCode} (sound : Sound before)
    (fails : fine (.send result) = true)
    (stepped : ReceiveStream.step before (.send result) = some after) : Sound after := by
  obtain rfl : result = ec.OK := of_decide_eq_true fails
  obtain ⟨_, descriptor, initiated, rfl⟩ := ReceiveStream.step_send.mp stepped
  obtain ⟨_, _, free, rfl⟩ := Descriptor.step_initiate.mp initiated
  have frame := ReceiveStream.frame_initiate before.descriptor .write ec.OK
  refine sound.of_same (controlled_initiated sound.controlled free) rfl rfl
    (fun other => (initiated_event .write other).1) ?_ ?_ ?_
  · rw [(initiated_event .write .read).2]
    exact sound.room
  · rw [frame.1]
    exact sound.report
  · rw [frame.2]
    exact sound.tasks

theorem sound_harvest {events : Events} (sound : Sound before)
    (fails : fine (.harvest events) = true)
    (stepped : ReceiveStream.step before (.harvest events) = some after) : Sound after := by
  simp only [fine, Bool.and_eq_true, Bool.not_eq_true'] at fails
  obtain ⟨may, descriptor, harvested, rfl⟩ := ReceiveStream.step_harvest.mp stepped
  obtain ⟨_, _, allowed, rfl⟩ := Descriptor.step_harvest.mp harvested
  obtain ⟨stages, controlled⟩ := sound.controlled
  refine sound.of_same ⟨stages, Descriptor.controlled_harvest controlled allowed⟩ rfl rfl
    (fun _ => rfl) sound.room ?_ sound.tasks
  intro other same
  cases same
  refine ⟨fails.1, fails.2, ?_⟩
  intro reads unread
  simp [ReceiveStream.mayReport, reads, ReceiveStream.Socket.readable, unread,
    sound.isOpen] at may

theorem sound_handle {result : ErrorCode} (sound : Sound before)
    (fails : fine (.handle result) = true)
    (stepped : ReceiveStream.step before (.handle result) = some after) : Sound after := by
  obtain rfl : result = ec.OK := of_decide_eq_true fails
  obtain ⟨_, descriptor, handled, rfl⟩ := ReceiveStream.step_handle.mp stepped
  obtain ⟨_, events, reported, rfl⟩ := Descriptor.step_handle.mp handled
  obtain ⟨stages, controlled⟩ := sound.controlled
  have event := Descriptor.handle_event before.descriptor events ec.OK
  obtain ⟨noError, noHangUp, readable⟩ := sound.report events reported
  refine sound.of_same ⟨stages, Descriptor.controlled_handle controlled reported⟩ rfl rfl
    (fun other => (event other).2) ?_ ?_ ?_
  · rw [(event .read).1]
    exact sound.room
  · intro other impossible
    rw [ReceiveStream.report_handle] at impossible
    cases impossible
  · intro task member
    rw [Descriptor.handle_tasks, Descriptor.dispatches_ok] at member
    rcases List.mem_append.mp member with old | new
    · exact sound.tasks task old
    · unfold dispatchReport reportCode at new
      rw [noError, noHangUp] at new
      rcases List.mem_append.mp new with reading | writing
      · split at reading
        · rename_i reads
          rw [List.mem_singleton.mp reading]
          exact ⟨rfl, fun _ => readable reads⟩
        · cases reading
      · split at writing
        · rw [List.mem_singleton.mp writing]
          exact ⟨rfl, by intro impossible; cases impossible⟩
        · cases writing

/-- A task of a sound end finds its `react` and hands it no error. -/
theorem Sound.task (sound : Sound before) {index : Nat} {task : Dispatch}
    (found : before.descriptor.tasks[index]? = some task) :
    task.code = ec.OK ∧ ∃ stages operation, Controlled before.descriptor stages ∧
      stages task.direction = .pending operation ∧
      (before.descriptor.event task.direction).react = some operation := by
  obtain ⟨stages, controlled⟩ := sound.controlled
  obtain ⟨operation, pending⟩ := controlled.pending_of_task found
  refine ⟨(sound.tasks task (List.mem_of_getElem? found)).1, stages, operation, controlled,
    pending, ?_⟩
  rw [(controlled.staged.stage task.direction).react, pending]
  rfl

/-- After the `react` of a direction no task and no reported bit of it is left. -/
theorem spent_runTask {descriptor : Descriptor.State} {stages : Direction → Stage}
    {index : Nat} {task : Dispatch} {fin : ErrorCode × Int} {operation : Nat}
    (controlled : Controlled descriptor stages)
    (found : descriptor.tasks[index]? = some task)
    (pending : stages task.direction = .pending operation) :
    (∀ other, other ∈ descriptor.tasks.eraseIdx index →
      other.direction ≠ task.direction) ∧
      ∀ events, descriptor.report = some events →
        has events task.direction.bit = false := by
  have after : Controlled (Descriptor.runTask descriptor index task fin) _ :=
    Descriptor.controlled_runTask controlled found pending
  have none := after.tokens task.direction
  rw [Function.update_self] at none
  simp only [Descriptor.tokenCount, Stage.tokens, Nat.add_eq_zero_iff] at none
  have frame := ReceiveStream.frame_runTask descriptor index task fin
  refine ⟨(tasksFor_eq_zero _ _).mp (by rw [← frame.2]; exact none.2), ?_⟩
  intro events reported
  cases present : has events task.direction.bit with
  | false => rfl
  | true =>
      have bit := after.reported events (by rw [frame.1]; exact reported) task.direction present
      rw [bit] at none
      cases none.1

theorem recv_some {socket : ReceiveStream.Socket} {size : Nat} (unread : socket.unread ≠ [])
    (room : size ≠ 0) :
    (socket.recv size).1.1 = ec.OK ∧ (socket.recv size).2.1 ≠ [] ∧
      (socket.recv size).1.2 = (socket.recv size).2.1.length ∧
      (socket.recv size).2.2.peerClosed = socket.peerClosed := by
  have received := ReceiveStream.received_recv socket size
  have ok : (socket.recv size).1.1 = ec.OK := by
    rcases received.code with ok | again
    · exact ok
    · unfold ReceiveStream.Socket.recv at again ⊢
      split
      · rename_i none
        exact absurd none unread
      · rfl
  refine ⟨ok, ?_, received.count ok, received.closed⟩
  unfold ReceiveStream.Socket.recv
  split
  · rename_i none
    exact absurd none unread
  · intro none
    cases size with
    | zero => exact room rfl
    | succ size => cases none

theorem Sound.runTask_read (sound : Sound before) {index : Nat} {task : Dispatch}
    {operation : Nat} (found : before.descriptor.tasks[index]? = some task)
    (reads : task.direction = .read)
    (react : (before.descriptor.event .read).react = some operation)
    (sent : ErrorCode × Int) :
    ReceiveStream.runTask before index task sent =
      { before with
        descriptor := Descriptor.runTask before.descriptor index task
          (before.socket.recv before.size).1
        socket := (before.socket.recv before.size).2.2
        buffer := (before.socket.recv before.size).2.1 } := by
  have receives : ReceiveStream.receives before task = true := by
    simp [ReceiveStream.receives, reads, (sound.task found).1, react]
  unfold ReceiveStream.runTask
  rw [if_pos receives]

theorem sound_recvTask (sound : Sound before) {index : Nat} {task : Dispatch}
    (found : before.descriptor.tasks[index]? = some task) (reads : task.direction = .read)
    (sent : ErrorCode × Int) : Sound (ReceiveStream.runTask before index task sent) ∧
      (ReceiveStream.runTask before index task sent).underway ≠ [] := by
  obtain ⟨ok, stages, operation, controlled, pending, react⟩ := sound.task found
  have unread := (sound.tasks task (List.mem_of_getElem? found)).2 reads
  rw [reads] at react
  have room := sound.room (by rw [react]; rfl)
  obtain ⟨code, some, count, closed⟩ := recv_some unread room
  rw [sound.runTask_read found reads react]
  generalize before.socket.recv before.size = received at code some count closed
  have complete := @ReceiveStream.complete_runTask before.descriptor index task received.1
    operation (by rw [reads]; exact react)
  rw [if_pos reads] at complete
  simp only [Descriptor.reactCall, ok, if_true, Descriptor.ReactCall.result] at complete
  have other := @Connection.sending_runTask before.descriptor index task received.1
    operation (by rw [reads]; exact react)
  rw [if_neg (by rw [reads]; decide)] at other
  obtain ⟨noTask, noBit⟩ := @spent_runTask _ _ _ _ received.1 _ controlled found pending
  have frame := ReceiveStream.frame_runTask before.descriptor index task received.1
  rw [reads] at noTask noBit
  have taken : ReceiveStream.State.underway { before with
      descriptor := Descriptor.runTask before.descriptor index task received.1
      socket := received.2.2
      buffer := received.2.1 } ≠ [] := by
    unfold ReceiveStream.State.underway ReceiveStream.State.completion
    simp only [complete, code, if_true, count, Int.toNat_natCast, List.take_length]
    exact some
  refine ⟨⟨⟨_, Descriptor.controlled_runTask controlled found pending⟩,
    closed.trans sound.isOpen, ?_, ?_, ?_, ?_, ?_⟩, taken⟩
  · intro _reacts
    exact room
  · intro events reported
    change (Descriptor.runTask before.descriptor index task received.1).report = _ at reported
    rw [frame.1] at reported
    obtain ⟨noError, noHangUp, _⟩ := sound.report events reported
    refine ⟨noError, noHangUp, ?_⟩
    intro present
    have absent : has events EPOLLIN = false := noBit events reported
    rw [present] at absent
    cases absent
  · intro left member
    change left ∈ (Descriptor.runTask before.descriptor index task received.1).tasks at member
    rw [frame.2] at member
    exact ⟨(sound.tasks left (List.mem_of_mem_eraseIdx member)).1,
      fun same => absurd same (noTask left member)⟩
  · intro completion stored
    have same := stored.symm.trans complete
    cases same
    exact ⟨code, taken⟩
  · intro completion stored
    exact sound.sent completion (other.symm.trans stored)

theorem sound_sendTask (sound : Sound before) {index : Nat} {task : Dispatch}
    (found : before.descriptor.tasks[index]? = some task) (writes : task.direction = .write)
    {sent : ErrorCode × Int} (succeeds : sent.1 = ec.OK) :
    Sound (ReceiveStream.runTask before index task sent) := by
  obtain ⟨ok, stages, operation, controlled, pending, react⟩ := sound.task found
  have receives : ReceiveStream.receives before task = false := by
    simp [ReceiveStream.receives, writes]
  unfold ReceiveStream.runTask
  rw [if_neg (by rw [receives]; exact Bool.false_ne_true)]
  have other := @ReceiveStream.complete_runTask before.descriptor index task sent operation
    react
  rw [if_neg (by rw [writes]; decide)] at other
  have complete := @Connection.sending_runTask before.descriptor index task sent operation react
  rw [if_pos writes] at complete
  simp only [Descriptor.reactCall, ok, if_true, Descriptor.ReactCall.result] at complete
  have frame := ReceiveStream.frame_runTask before.descriptor index task sent
  refine ⟨⟨_, Descriptor.controlled_runTask controlled found pending⟩, sound.isOpen, ?_, ?_, ?_,
    ?_, ?_⟩
  · intro reacts
    apply sound.room
    have kept : ((Descriptor.runTask before.descriptor index task sent).event .read).react =
        (before.descriptor.event .read).react := by
      rw [Descriptor.runTask_some react]
      simp [Descriptor.forCompletion, writes]
    rw [← kept]
    exact reacts
  · rw [frame.1]
    exact sound.report
  · intro left member
    change left ∈ (Descriptor.runTask before.descriptor index task sent).tasks at member
    rw [frame.2] at member
    exact sound.tasks left (List.mem_of_mem_eraseIdx member)
  · intro completion stored
    rw [@underway_of_same before { before with
      descriptor := Descriptor.runTask before.descriptor index task sent } other rfl]
    exact sound.received completion (other.symm.trans stored)
  · intro completion stored
    have same := stored.symm.trans complete
    cases same
    exact succeeds

theorem sound_strandStep {strand : StrandId} (sound : Sound before)
    (stepped : ReceiveStream.step before (.strandStep strand) = some after) : Sound after := by
  obtain ⟨descriptor, moved, rfl⟩ := Option.map_eq_some_iff.mp stepped
  obtain ⟨_, direction, rest, queued, rfl⟩ := Descriptor.step_strandStep.mp moved
  obtain ⟨stages, controlled⟩ := sound.controlled
  obtain ⟨rfl, completion, completing, stored⟩ :=
    controlled.staged.completing_of_queued queued
  have done := Descriptor.controlled_runComplete controlled queued completing
  have kept : ∀ other, ((Descriptor.runComplete before.descriptor before.descriptor.strand
      direction rest).event other).complete =
      if other = direction then none else (before.descriptor.event other).complete := by
    intro other
    rw [Descriptor.runComplete_some stored]
    by_cases same : other = direction
    · subst other
      simp
    · simp [same]
  have frame := ReceiveStream.frame_runComplete before.descriptor before.descriptor.strand
    direction rest
  refine ⟨⟨_, done⟩, sound.isOpen, ?_, ?_, ?_, ?_, ?_⟩
  · intro reacts
    apply sound.room
    change ((Descriptor.runComplete before.descriptor before.descriptor.strand direction
      rest).event .read).react.isSome = true at reacts
    rw [Descriptor.runComplete_some stored] at reacts
    by_cases same : direction = .read
    · subst direction
      simpa using reacts
    · simpa [Function.update_of_ne (Ne.symm same)] using reacts
  · rw [frame.1]
    exact sound.report
  · rw [frame.2]
    exact sound.tasks
  · intro other found
    have known := (kept .read).symm.trans found
    split at known
    · cases known
    · rw [underway_of_same (found.trans (Eq.symm known)) rfl]
      exact sound.received other known
  · intro other found
    have known := (kept .write).symm.trans found
    split at known
    · cases known
    · exact sound.sent other known

theorem sound_step {action : ReceiveStream.Action} (sound : Sound before)
    (fails : fine action = true) (stepped : ReceiveStream.step before action = some after) :
    Sound after := by
  cases action with
  | write bytes => exact sound_write sound stepped
  | closePeer => cases fails
  | recv size result => exact sound_recv sound fails stepped
  | send result => exact sound_send sound fails stepped
  | harvest events => exact sound_harvest sound fails stepped
  | handle result => exact sound_handle sound fails stepped
  | runTask index sent =>
      obtain ⟨_, task, found, rfl⟩ := ReceiveStream.step_runTask.mp stepped
      cases direction : task.direction with
      | read => exact (sound_recvTask sound found direction sent).1
      | write => exact sound_sendTask sound found direction (of_decide_eq_true fails)
  | strandStep strand => exact sound_strandStep sound stepped

/-- A sound end hands every callback `ec::OK`. -/
theorem Sound.called (sound : Sound before) {strand : StrandId} {direction : Direction}
    {code : ErrorCode}
    (called : nextCallback before.descriptor strand = some (direction, code)) :
    code = ec.OK := by
  unfold nextCallback at called
  split at called
  · cases called
  · rename_i other rest queued
    obtain ⟨completion, stored, same⟩ := Option.map_eq_some_iff.mp called
    cases same
    cases direction with
    | write => exact sound.sent completion stored
    | read =>
        obtain ⟨ok, some⟩ := sound.received completion stored
        have bytes : completion.bytes ≠ 0 := by
          intro zero
          apply some
          unfold ReceiveStream.State.underway ReceiveStream.State.completion
          simp [stored, zero]
        simp only [Descriptor.streamKind, Descriptor.callbackArguments, bytes, and_false, if_false,
          ok]

end OneEnd

end BabaIo.ClientServer
