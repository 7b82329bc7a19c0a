import BabaIo.IpEndpoint
import BabaIo.Descriptor

/-
From `async_connector::connect` to the callback.

`epoll_connect::connect` calls `socket_impl::connect` first and keeps its
result; the `react` closure ignores the code of the reactor and replays that
result.  The results of the system calls and the reports of the kernel are
inputs.
-/

set_option autoImplicit false

namespace BabaIo

def EINPROGRESS : ErrorCode := 115

structure Errno where
  code : ErrorCode
  nonzero : code ≠ ec.OK

inductive SystemConnect where
  | connected
  | failed (errno : Errno)

inductive Sockaddr where
  | ipv4 (sock : SockaddrIn)
  | ipv6 (sock : SockaddrIn6)
  deriving DecidableEq

structure ConnectRequest where
  fd : Int
  sock : Sockaddr
  sockLen : Nat
  deriving DecidableEq

namespace SocketImpl

/-- EINPROGRESS is no error, the connection is going to be reported. -/
def connectError : SystemConnect → ErrorCode
  | .connected => ec.OK
  | .failed errno => if errno.code ≠ EINPROGRESS then errno.code else ec.OK

/-- `socket_impl::connect`: the call it makes, if any, and what it returns.  Both
conditions of the source test for IPv4. -/
def connect (fd : Int) (peerEp : IpEndpoint) (system : SystemConnect) :
    Option ConnectRequest × ErrorCode :=
  let sockLen := peerEp.nativeSocketLength
  if peerEp.address.family = family.v4 then
    (some { fd := fd, sock := .ipv4 peerEp.nativeSocket.ipv4, sockLen := sockLen },
      connectError system)
  else if peerEp.address.family = family.v4 then
    (some { fd := fd, sock := .ipv6 peerEp.nativeSocket.ipv6, sockLen := sockLen },
      connectError system)
  else (none, ec.OK)

end SocketImpl

/-! ### The connector -/

structure Connector where
  fd : Int
  eventMask : EventMask
  writeOnly : eventMask.has .read = false

def Connector.present : Direction → Bool
  | .read => false
  | .write => true

structure ConnectReport where
  events : Events
  rearm : ErrorCode
  fromKernel : Descriptor.reportable EventMask.empty.setWriteMask events = true

/-- The reactor handles reports until one dispatches to the write event. -/
def dispatchedReport (mask : EventMask) :
    List ConnectReport → Option (ConnectReport × ErrorCode)
  | [] => none
  | report :: rest =>
      let cleared := clearReported mask report.events
      match (dispatches Connector.present cleared report.events report.rearm).find?
          (fun task => task.direction = .write) with
      | some task => some (report, task.code)
      | none => dispatchedReport cleared rest

/-- The `react` closure of `epoll_connect::connect` passes the early error to
`for_completion`. -/
def connectReact (early _code : ErrorCode) : ErrorCode := early

/-- The error code the callback of `async_connector::connect` receives, if it is
called: `armed` is what `_init_connect` returns. -/
def Connector.connect (connector : Connector) (ep : IpEndpoint)
    (system : SystemConnect) (armed : ErrorCode) (reports : List ConnectReport) :
    Option ErrorCode :=
  let early := (SocketImpl.connect connector.fd ep system).2
  if armed ≠ ec.OK then some armed
  else (dispatchedReport connector.eventMask.setWriteMask reports).map
    (fun dispatched => connectReact early dispatched.2)

/-! ### What the callback promises -/

inductive Peer where
  | ipv4 (address : BitVec 32) (port : BitVec 16)
  | ipv6 (address : BitVec 128) (port : BitVec 16)
  deriving DecidableEq

def Sockaddr.peer : Sockaddr → Peer
  | .ipv4 sock => .ipv4 sock.sinAddr (ntohs sock.sinPort)
  | .ipv6 sock => .ipv6 sock.sin6Addr (ntohs sock.sin6Port)

def Peer.of (address : IpAddress) (port : BitVec 16) : Option Peer :=
  if address.family = family.v4 then some (.ipv4 address.ipv4 port)
  else if address.family = family.v6 then some (.ipv6 address.ipv6 port)
  else none

def IssuedFor (fd : Int) (address : IpAddress) (port : BitVec 16)
    (request : Option ConnectRequest) : Prop :=
  ∃ issued, request = some issued ∧ issued.fd = fd ∧
    Peer.of address port = some issued.sock.peer

def writableWithoutError (events : Events) : Bool :=
  has events EPOLLOUT && !has events EPOLLERR && !has events EPOLLHUP

/-- The connection exists when the callback is on its way: at once, or by the
report that was dispatched. -/
def Established (system : SystemConnect) (dispatched : Option ConnectReport) : Prop :=
  match system with
  | .connected => True
  | .failed errno => errno.code = EINPROGRESS ∧
      ∃ report, dispatched = some report ∧
        writableWithoutError report.events = true

def firstReacting (reports : List ConnectReport) : Option ConnectReport :=
  reports.find? (fun report => has report.events EPOLLOUT || report.rearm != ec.OK)

/-- The callback gets OK only when `::connect` was called for this address and
port and the connection is there. -/
def Truthful (connector : Connector) (memory : NativeSocketStorage)
    (address : IpAddress) (port : BitVec 16) (system : SystemConnect)
    (armed : ErrorCode) (reports : List ConnectReport) : Prop :=
  let ep := IpEndpoint.ofAddress memory address port
  connector.connect ep system armed reports = some ec.OK →
    IssuedFor connector.fd address port
        (SocketImpl.connect connector.fd ep system).1 ∧
      Established system (firstReacting reports)

def ConnectCallbackTellsTheTruth : Prop :=
  ∀ (connector : Connector) (memory : NativeSocketStorage) (address : IpAddress)
    (port : BitVec 16) (system : SystemConnect) (armed : ErrorCode)
    (reports : List ConnectReport),
    address.family = family.v4 ∨ address.family = family.v6 →
      Truthful connector memory address port system armed reports

/-! ### The reports -/

theorem armedMask_has (connector : Connector) (direction : Direction) :
    connector.eventMask.setWriteMask.has direction =
      decide (direction = .write) := by
  unfold EventMask.setWriteMask
  rw [EventMask.has_setMask]
  cases direction with
  | read => simp [connector.writeOnly]
  | write => simp

theorem ConnectReport.not_readable (report : ConnectReport) :
    has report.events EPOLLIN = false := by
  have allowed := report.fromKernel
  unfold Descriptor.reportable EventMask.setWriteMask at allowed
  simp only [EventMask.has_setMask, EventMask.has_empty, Bool.and_eq_true] at allowed
  simpa using allowed.1.1.2

/-- One report: it dispatches when it is writable or its re-arm fails, and a
report that does not leaves the mask as it was. -/
theorem dispatchedReport_cons {mask : EventMask} (report : ConnectReport)
    (rest : List ConnectReport)
    (armed : ∀ direction : Direction, mask.has direction = decide (direction = .write)) :
    (dispatchedReport mask (report :: rest)).map Prod.fst =
      if has report.events EPOLLOUT || report.rearm != ec.OK then some report
      else (dispatchedReport (clearReported mask report.events) rest).map Prod.fst := by
  have unreadable := report.not_readable
  cases writable : has report.events EPOLLOUT with
  | true =>
      have cleared : (clearReported mask report.events).nonzero = false := by
        rw [EventMask.nonzero_eq_false_iff]
        intro direction
        rw [clearReported_has, armed]
        cases direction with
        | read => rfl
        | write => simp [Direction.bit, writable]
      simp [dispatchedReport, dispatches, rearmFails, cleared, dispatchReport,
        unreadable, writable]
  | false =>
      have left : (clearReported mask report.events).nonzero = true := by
        rw [EventMask.nonzero_iff]
        exact ⟨.write, by rw [clearReported_has, armed]; simp [Direction.bit, writable]⟩
      cases fails : report.rearm != ec.OK with
      | true =>
          simp [dispatchedReport, dispatches, rearmFails, left, fails,
            dispatchRearmError, Connector.present]
      | false =>
          simp [dispatchedReport, dispatches, rearmFails, fails, dispatchReport,
            unreadable, writable]

theorem clearReported_armed {mask : EventMask} (report : ConnectReport)
    (armed : ∀ direction : Direction, mask.has direction = decide (direction = .write))
    (unwritable : has report.events EPOLLOUT = false) (direction : Direction) :
    (clearReported mask report.events).has direction =
      decide (direction = .write) := by
  rw [clearReported_has, armed]
  cases direction with
  | read => rfl
  | write => simp [Direction.bit, unwritable]

theorem dispatchedReport_fst {mask : EventMask} (reports : List ConnectReport)
    (armed : ∀ direction : Direction, mask.has direction = decide (direction = .write)) :
    (dispatchedReport mask reports).map Prod.fst = firstReacting reports := by
  induction reports generalizing mask with
  | nil => rfl
  | cons report rest ih =>
      rw [dispatchedReport_cons report rest armed]
      unfold firstReacting
      rw [List.find?_cons]
      cases reacts : has report.events EPOLLOUT || report.rearm != ec.OK with
      | true => rfl
      | false =>
          have unwritable : has report.events EPOLLOUT = false := by
            cases writable : has report.events EPOLLOUT with
            | false => rfl
            | true => simp [writable] at reacts
          simp only [Bool.false_eq_true, if_false]
          exact ih (clearReported_armed report armed unwritable)

/-- The callback replays the early error code, whatever the reports say. -/
theorem connect_armed (connector : Connector) (ep : IpEndpoint)
    (system : SystemConnect) (reports : List ConnectReport) :
    connector.connect ep system ec.OK reports =
      (firstReacting reports).map
        (fun _ => (SocketImpl.connect connector.fd ep system).2) := by
  rw [← dispatchedReport_fst reports (armedMask_has connector), Option.map_map]
  rfl

theorem connect_unarmed (connector : Connector) (ep : IpEndpoint)
    (system : SystemConnect) {armed : ErrorCode} (reports : List ConnectReport)
    (failed : armed ≠ ec.OK) :
    connector.connect ep system armed reports = some armed := by
  unfold Connector.connect
  rw [if_pos failed]

/-! ### The system call -/

/-- The call is made for IPv4 endpoints only. -/
theorem socketConnect_issued (fd : Int) (memory : NativeSocketStorage)
    (address : IpAddress) (port : BitVec 16) (system : SystemConnect) :
    IssuedFor fd address port
        (SocketImpl.connect fd (IpEndpoint.ofAddress memory address port) system).1 ↔
      address.family = family.v4 := by
  unfold SocketImpl.connect
  rw [IpEndpoint.ofAddress_address]
  by_cases ipv4 : address.family = family.v4
  · obtain ⟨native, _⟩ := IpEndpoint.nativeSocket_ofAddress_v4 memory port ipv4
    rw [if_pos ipv4, native]
    refine ⟨fun _ => ipv4, fun _ => ⟨_, rfl, rfl, ?_⟩⟩
    simp [Peer.of, Sockaddr.peer, ipv4]
  · rw [if_neg ipv4, if_neg ipv4]
    constructor
    · rintro ⟨issued, impossible, _⟩
      cases impossible
    · exact fun same => absurd same ipv4

theorem socketConnect_error (fd : Int) (memory : NativeSocketStorage)
    (address : IpAddress) (port : BitVec 16) (system : SystemConnect) :
    (SocketImpl.connect fd (IpEndpoint.ofAddress memory address port) system).2 = ec.OK ↔
      (address.family = family.v4 →
        ∀ errno, system = .failed errno → errno.code = EINPROGRESS) := by
  unfold SocketImpl.connect
  rw [IpEndpoint.ofAddress_address]
  by_cases ipv4 : address.family = family.v4
  · rw [if_pos ipv4]
    cases system with
    | connected => simp [SocketImpl.connectError]
    | failed errno =>
        by_cases inProgress : errno.code = EINPROGRESS
        · simp [SocketImpl.connectError, inProgress]
        · have reported := errno.nonzero
          simp [SocketImpl.connectError, inProgress, ipv4, reported]
  · simp [ipv4]

/-! ### When OK means connected -/

/-- The arm failed or no report was dispatched, or the endpoint is IPv4 and an
attempt in progress was reported writable without an error. -/
def TruthfulWhen (address : IpAddress) (system : SystemConnect) (armed : ErrorCode)
    (reports : List ConnectReport) : Prop :=
  armed = ec.OK → ∀ report, firstReacting reports = some report →
    address.family = family.v4 ∧
      ∀ errno, system = .failed errno → errno.code = EINPROGRESS →
        writableWithoutError report.events = true

/-- The callback tells the truth exactly when the condition holds, for every
address, port, result of the system calls and sequence of reports. -/
theorem truthful_iff (connector : Connector) (memory : NativeSocketStorage)
    (address : IpAddress) (port : BitVec 16) (system : SystemConnect)
    (armed : ErrorCode) (reports : List ConnectReport) :
    Truthful connector memory address port system armed reports ↔
      TruthfulWhen address system armed reports := by
  unfold Truthful TruthfulWhen
  simp only [socketConnect_issued]
  by_cases unarmed : armed = ec.OK
  · subst armed
    rw [connect_armed]
    cases first : firstReacting reports with
    | none => simp
    | some report =>
        simp only [Option.map_some, Option.some.injEq, socketConnect_error,
          forall_const, forall_eq']
        by_cases ipv4 : address.family = family.v4
        · simp only [ipv4, forall_const, true_and]
          cases system with
          | connected => simp [Established]
          | failed errno =>
              simp only [Established, SystemConnect.failed.injEq, forall_eq',
                Option.some.injEq, exists_eq_left']
              constructor
              · intro established inProgress
                exact (established inProgress).2
              · intro writable inProgress
                exact ⟨inProgress, writable inProgress⟩
        · simp [ipv4]
  · rw [connect_unarmed connector _ system reports unarmed]
    constructor
    · intro _ armed
      exact absurd armed unarmed
    · intro _ delivered
      exact absurd (Option.some.inj delivered) unarmed

/-- An IPv6 endpoint: no call is made, the socket is reported writable with a
hang-up, and the callback receives OK. -/
theorem connectCallbackTellsTheTruth_false : ¬ConnectCallbackTellsTheTruth := by
  intro claimed
  let hangup : ConnectReport :=
    { events := EPOLLOUT ||| EPOLLHUP, rearm := ec.OK, fromKernel := by decide }
  let loopback : IpAddress := IpAddress.ofIpv6 (1#128 <<< 120)
  have truthful := claimed
    { fd := 5, eventMask := EventMask.empty, writeOnly := by simp }
    { family := 0, port := 0, word := 0, block := 0, scope := 0 }
    loopback 80#16 .connected ec.OK [hangup] (Or.inr rfl)
  have first : firstReacting [hangup] = some hangup :=
    List.find?_cons_of_pos (by decide)
  have issued := (truthful (by rw [connect_armed, first]; rfl)).1
  rw [socketConnect_issued] at issued
  exact absurd issued (by decide)

end BabaIo
