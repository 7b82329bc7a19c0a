import BabaIo.AddressText
import BabaIo.ConnectCallback
import BabaIo.PublicHandles

/-
Socket addresses that the system hands out, in `ip_endpoint` variables.

`accept` and `recv_from` decode the native address of a peer and encode it again
into the native socket of an endpoint.  From there it is copied, moved and
assigned between variables, until `connect` or `send_to` hands it back.  The
history of a run keeps, for each variable, the native address its endpoint was
made from.  A move takes it away from the variable moved from; a variable that
is move assigned to itself keeps it, with a mark.
-/

set_option autoImplicit false

namespace BabaIo

open Handles

/-! ### The system's addresses -/

/-- A native address of `accept` or `recvfrom`: the family field tells which
structure it is. -/
inductive SystemSockaddr where
  | ipv4 (sock : SockaddrIn) (tagged : sock.sinFamily = AF_INET)
  | ipv6 (sock : SockaddrIn6) (tagged : sock.sin6Family = AF_INET6)

/-- The socket address that native bytes name; the port is in network byte
order, and the padding of `sockaddr_in` names nothing. -/
inductive SocketAddress where
  | ipv4 (addr : BitVec 32) (port : BitVec 16)
  | ipv6 (addr : BitVec 128) (port : BitVec 16) (flowinfo scopeId : BitVec 32)
  deriving DecidableEq

def SockaddrIn.named (sock : SockaddrIn) : SocketAddress := .ipv4 sock.sinAddr sock.sinPort

def SockaddrIn6.named (sock : SockaddrIn6) : SocketAddress :=
  .ipv6 sock.sin6Addr sock.sin6Port sock.sin6Flowinfo sock.sin6ScopeId

namespace SystemSockaddr

def named : SystemSockaddr → SocketAddress
  | .ipv4 sock _ => sock.named
  | .ipv6 sock _ => sock.named

def native : SystemSockaddr → NativeAddress
  | .ipv4 sock _ => .ipv4 sock.sinAddr
  | .ipv6 sock _ => .ipv6 sock.sin6Addr

def port : SystemSockaddr → BitVec 16
  | .ipv4 sock _ => ntohs sock.sinPort
  | .ipv6 sock _ => ntohs sock.sin6Port

/-- `ip_endpoint(sock)`; `memory` and `union` are what the members held before. -/
def endpoint (memory : NativeSocketStorage) (union : BitVec 128) :
    SystemSockaddr → IpEndpoint
  | .ipv4 sock _ => IpEndpoint.ofSockaddrIn memory union sock
  | .ipv6 sock _ => IpEndpoint.ofSockaddrIn6 memory sock

end SystemSockaddr

def NativeSocketStorage.named (storage : NativeSocketStorage) (len : Nat) :
    Option SocketAddress :=
  if storage.family = AF_INET ∧ len = sizeofSockaddrIn then some storage.ipv4.named
  else if storage.family = AF_INET6 ∧ len = sizeofSockaddrIn6 then some storage.ipv6.named
  else none

def Sockaddr.named (sock : Sockaddr) (len : Nat) : Option SocketAddress :=
  match sock with
  | .ipv4 sock =>
      if sock.sinFamily = AF_INET ∧ len = sizeofSockaddrIn then some sock.named else none
  | .ipv6 sock =>
      if sock.sin6Family = AF_INET6 ∧ len = sizeofSockaddrIn6 then some sock.named else none

/-! ### Receiving and sending -/

def INVALID_SOCKET : Int := -1

structure AcceptSocketResult where
  code : ErrorCode
  fd : Int
  peerEp : IpEndpoint

structure SocketResult where
  code : ErrorCode
  bytes : Int
  deriving DecidableEq

structure RecvFromSocketResult where
  code : ErrorCode
  bytes : Int
  peerEp : IpEndpoint

structure SendToRequest where
  fd : Int
  buffer : List UInt8
  size : Int
  sock : Sockaddr
  sockLen : Nat
  deriving DecidableEq

namespace SocketImpl

/-- The endpoint of a peer, by the family of the local endpoint; `peerSock` is
what the system has written. -/
def peerEndpoint (localEp : IpEndpoint) (peerSock memory : NativeSocketStorage)
    (union : BitVec 128) : IpEndpoint :=
  if localEp.address.family = family.v4 then IpEndpoint.ofSockaddrIn memory union peerSock.ipv4
  else IpEndpoint.ofSockaddrIn6 memory peerSock.ipv6

def accept (acceptorEp : IpEndpoint) (system : Except Errno Int)
    (peerSock memory : NativeSocketStorage) (union : BitVec 128) : AcceptSocketResult :=
  match system with
  | .error errno => { code := errno.code, fd := INVALID_SOCKET, peerEp := noEndpoint }
  | .ok peerFd =>
      { code := ec.OK, fd := peerFd, peerEp := peerEndpoint acceptorEp peerSock memory union }

def recvFrom (receiverEp : IpEndpoint) (system : Except Errno Int)
    (peerSock memory : NativeSocketStorage) (union : BitVec 128) : RecvFromSocketResult :=
  match system with
  | .error errno => { code := errno.code, bytes := -1, peerEp := noEndpoint }
  | .ok bytesRecv =>
      { code := ec.OK, bytes := bytesRecv
        peerEp := peerEndpoint receiverEp peerSock memory union }

def sendToRequest (fd : Int) (buffer : List UInt8) (size : Int) (peerEp : IpEndpoint) :
    SendToRequest :=
  let sockLen := peerEp.nativeSocketLength
  if peerEp.address.family = family.v4 then
    { fd := fd, buffer := buffer, size := size
      sock := .ipv4 peerEp.nativeSocket.ipv4, sockLen := sockLen }
  else
    { fd := fd, buffer := buffer, size := size
      sock := .ipv6 peerEp.nativeSocket.ipv6, sockLen := sockLen }

def sendTo (fd : Int) (buffer : List UInt8) (size : Int) (peerEp : IpEndpoint)
    (system : Except Errno Int) : SendToRequest × SocketResult :=
  (sendToRequest fd buffer size peerEp,
    match system with
    | .error errno => { code := errno.code, bytes := -1 }
    | .ok bytesSent => { code := ec.OK, bytes := bytesSent })

end SocketImpl

/-! ### Copies, moves and assignments -/

namespace IpAddress

def copyConstruct (other : IpAddress) : IpAddress :=
  { storage := other.storage, af := other.af }

def copyAssign (address other : IpAddress) : IpAddress :=
  { address with storage := other.storage, af := other.af }

def moveConstruct (temp : IpAddress) : IpAddress × IpAddress :=
  ({ storage := temp.storage, af := temp.af }, { storage := 0#128, af := 0#16 })

def moveAssign (address temp : IpAddress) : IpAddress × IpAddress :=
  ({ address with storage := temp.storage, af := temp.af }, { storage := 0#128, af := 0#16 })

end IpAddress

namespace IpEndpoint

def copyConstruct (other : IpEndpoint) : IpEndpoint :=
  { sockLen := other.sockLen
    address := other.address.copyConstruct
    port := other.port
    sock := other.sock }

def copyAssign (endpoint other : IpEndpoint) : IpEndpoint :=
  { endpoint with
    sockLen := other.sockLen
    address := endpoint.address.copyAssign other.address
    port := other.port
    sock := other.sock }

def moveConstruct (temp : IpEndpoint) : IpEndpoint × IpEndpoint :=
  let address := temp.address.moveConstruct
  ({ sockLen := temp.sockLen, address := address.1, port := temp.port, sock := temp.sock },
    { temp with sockLen := 0, address := address.2, port := 0#16, sock := .zero })

def moveAssign (endpoint temp : IpEndpoint) : IpEndpoint × IpEndpoint :=
  let address := endpoint.address.moveAssign temp.address
  ({ endpoint with
      sockLen := temp.sockLen, address := address.1, port := temp.port, sock := temp.sock },
    { temp with sockLen := 0, address := address.2, port := 0#16, sock := .zero })

end IpEndpoint

/-! ### Variables -/

/-- The address in `peerSock`, where it is one of the family of the socket. -/
def SystemSockaddr.received (localEp : IpEndpoint) (peerSock : NativeSocketStorage) :
    Option SystemSockaddr :=
  if localEp.address.family = family.v4 then
    if tagged : peerSock.ipv4.sinFamily = AF_INET then some (.ipv4 peerSock.ipv4 tagged) else none
  else if localEp.address.family = family.v6 then
    if tagged : peerSock.ipv6.sin6Family = AF_INET6 then some (.ipv6 peerSock.ipv6 tagged)
    else none
  else none

/-- `accept` and `recvFrom` store the endpoint of the peer in `target`. -/
inductive EndpointOp (Name : Type) where
  | accept (target : Name) (acceptorEp : IpEndpoint) (system : Except Errno Int)
      (peerSock memory : NativeSocketStorage) (union : BitVec 128)
  | recvFrom (target : Name) (receiverEp : IpEndpoint) (system : Except Errno Int)
      (peerSock memory : NativeSocketStorage) (union : BitVec 128)
  | copyConstruct (target source : Name)
  | copyAssign (target source : Name)
  | moveConstruct (target source : Name)
  | moveAssign (target source : Name)

/-- The native address an endpoint was made from, and whether it or an endpoint it
was copied or moved from has been move assigned to itself. -/
structure Provenance where
  sock : SystemSockaddr
  selfMoved : Bool

def Provenance.received (localEp : IpEndpoint) (system : Except Errno Int)
    (peerSock : NativeSocketStorage) : Option Provenance :=
  match system with
  | .error _ => none
  | .ok _ => (SystemSockaddr.received localEp peerSock).map ({ sock := ·, selfMoved := false })

structure EndpointVars (Name : Type) where
  endpoint : Name → IpEndpoint
  origin : Name → Option Provenance

namespace EndpointVars

variable {Name : Type} [DecidableEq Name]

def initial : EndpointVars Name :=
  { endpoint := fun _ => noEndpoint, origin := fun _ => none }

def write (vars : EndpointVars Name) (target : Name) (endpoint : IpEndpoint)
    (origin : Option Provenance) : EndpointVars Name :=
  { endpoint := Function.update vars.endpoint target endpoint
    origin := Function.update vars.origin target origin }

/-- A move writes the target first and then what is left of the source. -/
def writeMoved (vars : EndpointVars Name) (target source : Name)
    (moved : IpEndpoint × IpEndpoint) : EndpointVars Name :=
  (vars.write target moved.1 (vars.origin source)).write source moved.2
    (if target = source then (vars.origin source).map ({ · with selfMoved := true }) else none)

/-- A constructor does not read the object it makes. -/
def step (vars : EndpointVars Name) : EndpointOp Name → Option (EndpointVars Name)
  | .accept target acceptorEp system peerSock memory union =>
      some (vars.write target (SocketImpl.accept acceptorEp system peerSock memory union).peerEp
        (Provenance.received acceptorEp system peerSock))
  | .recvFrom target receiverEp system peerSock memory union =>
      some (vars.write target (SocketImpl.recvFrom receiverEp system peerSock memory union).peerEp
        (Provenance.received receiverEp system peerSock))
  | .copyConstruct target source =>
      if target = source then none
      else some (vars.write target (vars.endpoint source).copyConstruct (vars.origin source))
  | .copyAssign target source =>
      some (vars.write target ((vars.endpoint target).copyAssign (vars.endpoint source))
        (vars.origin source))
  | .moveConstruct target source =>
      if target = source then none
      else some (vars.writeMoved target source (vars.endpoint source).moveConstruct)
  | .moveAssign target source =>
      some (vars.writeMoved target source
        ((vars.endpoint target).moveAssign (vars.endpoint source)))

end EndpointVars

/-! ### What survives -/

/-- The endpoint names the socket address that the system handed out: in its
native socket, in its address and port, and in every `sendto`. -/
structure Survives (endpoint : IpEndpoint) (origin : SystemSockaddr) : Prop where
  native : endpoint.nativeSocket.named endpoint.nativeSocketLength = some origin.named
  address : endpoint.address.native = some origin.native
  port : endpoint.port = origin.port
  sends : ∀ fd buffer size system,
    let request := (SocketImpl.sendTo fd buffer size endpoint system).1
    request.sock.named request.sockLen = some origin.named

structure Reaches (endpoint : IpEndpoint) (origin : SystemSockaddr) : Prop
    extends Survives endpoint origin where
  connects : ∀ fd system, ∃ request,
    (SocketImpl.connect fd endpoint system).1 = some request ∧
      request.sock.named request.sockLen = some origin.named

def SocketAddressesSurvive : Prop :=
  ∀ (ops : List (EndpointOp Nat)) (final : EndpointVars Nat),
    Runs.exec EndpointVars.step EndpointVars.initial ops = some final →
      ∀ name provenance, final.origin name = some provenance →
        Reaches (final.endpoint name) provenance.sock

namespace SystemSockaddr

def Plain : SystemSockaddr → Prop
  | .ipv4 _ _ => True
  | .ipv6 sock _ => sock.sin6Flowinfo = 0#32 ∧ sock.sin6ScopeId = 0#32

def IsIpv4 : SystemSockaddr → Prop
  | .ipv4 _ _ => True
  | .ipv6 _ _ => False

end SystemSockaddr

/-! ### One endpoint -/

theorem htons_ntohs (port : BitVec 16) : htons (ntohs port) = port := ntohs_htons port

section Encoding

variable (memory : NativeSocketStorage) (union : BitVec 128)

theorem ofSockaddrIn_nativeSocket (sock : SockaddrIn) (tagged : sock.sinFamily = AF_INET) :
    (IpEndpoint.ofSockaddrIn memory union sock).nativeSocket.ipv4 = { sock with sinZero := 0#64 } ∧
      (IpEndpoint.ofSockaddrIn memory union sock).nativeSocketLength = sizeofSockaddrIn := by
  have encoded := IpEndpoint.nativeSocket_ofAddress_v4 memory (ntohs sock.sinPort)
    (rfl : (IpAddress.ofIpv4 union sock.sinAddr).family = family.v4)
  refine ⟨?_, encoded.2⟩
  refine encoded.1.trans ?_
  rw [htons_ntohs, IpAddress.ipv4_ofIpv4, ← tagged]

/-- `sockaddr_in6` loses its flow information and its scope. -/
theorem ofSockaddrIn6_nativeSocket (sock : SockaddrIn6) (tagged : sock.sin6Family = AF_INET6) :
    (IpEndpoint.ofSockaddrIn6 memory sock).nativeSocket.ipv6 =
        { sock with sin6Flowinfo := 0#32, sin6ScopeId := 0#32 } ∧
      (IpEndpoint.ofSockaddrIn6 memory sock).nativeSocketLength = sizeofSockaddrIn6 := by
  refine ⟨?_, rfl⟩
  change
    ({ sin6Family := AF_INET6
       sin6Port := htons (ntohs sock.sin6Port)
       sin6Flowinfo := 0#32
       sin6Addr := sock.sin6Addr
       sin6ScopeId := 0#32 } : SockaddrIn6) = _
  rw [htons_ntohs, ← tagged]

theorem reaches_ofSockaddrIn (sock : SockaddrIn) (tagged : sock.sinFamily = AF_INET) :
    Reaches (IpEndpoint.ofSockaddrIn memory union sock) (.ipv4 sock tagged) := by
  obtain ⟨view, length⟩ := ofSockaddrIn_nativeSocket memory union sock tagged
  have quad : (IpEndpoint.ofSockaddrIn memory union sock).address.family = family.v4 := rfl
  have sent : (Sockaddr.ipv4
        (IpEndpoint.ofSockaddrIn memory union sock).nativeSocket.ipv4).named
      (IpEndpoint.ofSockaddrIn memory union sock).nativeSocketLength = some sock.named := by
    rw [view, length]
    exact if_pos ⟨tagged, rfl⟩
  refine { native := ?native, address := ?address, port := rfl, sends := ?sends,
           connects := ?connects }
  case native =>
    unfold NativeSocketStorage.named
    rw [if_pos ⟨(congrArg SockaddrIn.sinFamily view).trans tagged, length⟩, view]
    rfl
  case address =>
    change some (NativeAddress.ipv4 (IpAddress.ofIpv4 union sock.sinAddr).ipv4) = _
    rw [IpAddress.ipv4_ofIpv4]
    rfl
  case sends =>
    intro fd buffer size system
    change (SocketImpl.sendToRequest fd buffer size _).sock.named
      (SocketImpl.sendToRequest fd buffer size _).sockLen = _
    unfold SocketImpl.sendToRequest
    rw [if_pos quad]
    exact sent
  case connects =>
    intro fd system
    unfold SocketImpl.connect
    rw [if_pos quad]
    exact ⟨_, rfl, sent⟩

/-- The address and the port of an IPv6 peer survive, the other two fields only
when they are zero. -/
theorem survives_ofSockaddrIn6_iff (sock : SockaddrIn6) (tagged : sock.sin6Family = AF_INET6) :
    Survives (IpEndpoint.ofSockaddrIn6 memory sock) (.ipv6 sock tagged) ↔
      (SystemSockaddr.ipv6 sock tagged).Plain := by
  obtain ⟨view, length⟩ := ofSockaddrIn6_nativeSocket memory sock tagged
  have groups : (IpEndpoint.ofSockaddrIn6 memory sock).address.family ≠ family.v4 :=
    (by decide : family.v6 ≠ family.v4)
  have encoded : (IpEndpoint.ofSockaddrIn6 memory sock).nativeSocket.named
      (IpEndpoint.ofSockaddrIn6 memory sock).nativeSocketLength =
        some (.ipv6 sock.sin6Addr sock.sin6Port 0#32 0#32) := by
    have tag : (IpEndpoint.ofSockaddrIn6 memory sock).nativeSocket.family = AF_INET6 := rfl
    have notQuad : (IpEndpoint.ofSockaddrIn6 memory sock).nativeSocket.family ≠ AF_INET := by
      rw [tag]
      decide
    unfold NativeSocketStorage.named
    rw [if_neg (fun quad => notQuad quad.1), if_pos ⟨tag, length⟩, view]
    rfl
  constructor
  · intro survives
    have same := survives.native
    rw [encoded] at same
    have fields := SocketAddress.ipv6.inj (Option.some.inj same)
    exact ⟨fields.2.2.1.symm, fields.2.2.2.symm⟩
  · rintro ⟨flowinfo, scopeId⟩
    have named : (SystemSockaddr.ipv6 sock tagged).named =
        .ipv6 sock.sin6Addr sock.sin6Port 0#32 0#32 := by
      change SocketAddress.ipv6 _ _ sock.sin6Flowinfo sock.sin6ScopeId = _
      rw [flowinfo, scopeId]
    constructor
    case native => rw [encoded, named]
    case address => rfl
    case port => rfl
    case sends =>
      intro fd buffer size system
      change (SocketImpl.sendToRequest fd buffer size _).sock.named
        (SocketImpl.sendToRequest fd buffer size _).sockLen = _
      unfold SocketImpl.sendToRequest
      rw [if_neg groups, named]
      change (Sockaddr.ipv6 (IpEndpoint.ofSockaddrIn6 memory sock).nativeSocket.ipv6).named
        (IpEndpoint.ofSockaddrIn6 memory sock).nativeSocketLength = _
      rw [view, length]
      exact if_pos ⟨tagged, rfl⟩

/-- `connect` makes no call for an IPv6 peer. -/
theorem not_reaches_ofSockaddrIn6 (sock : SockaddrIn6) (tagged : sock.sin6Family = AF_INET6) :
    ¬Reaches (IpEndpoint.ofSockaddrIn6 memory sock) (.ipv6 sock tagged) := by
  intro reaches
  have groups : (IpEndpoint.ofSockaddrIn6 memory sock).address.family ≠ family.v4 :=
    (by decide : family.v6 ≠ family.v4)
  obtain ⟨request, issued, _⟩ := reaches.connects 0 .connected
  unfold SocketImpl.connect at issued
  rw [if_neg groups, if_neg groups] at issued
  cases issued

theorem survives_endpoint_iff (origin : SystemSockaddr) :
    Survives (origin.endpoint memory union) origin ↔ origin.Plain := by
  cases origin with
  | ipv4 sock tagged =>
      exact iff_of_true (reaches_ofSockaddrIn memory union sock tagged).toSurvives trivial
  | ipv6 sock tagged => exact survives_ofSockaddrIn6_iff memory sock tagged

theorem reaches_endpoint_iff (origin : SystemSockaddr) :
    Reaches (origin.endpoint memory union) origin ↔ origin.IsIpv4 := by
  cases origin with
  | ipv4 sock tagged => exact iff_of_true (reaches_ofSockaddrIn memory union sock tagged) trivial
  | ipv6 sock tagged =>
      exact iff_of_false (not_reaches_ofSockaddrIn6 memory sock tagged) (fun quad => quad)

end Encoding

theorem not_survives_noEndpoint (origin : SystemSockaddr) : ¬Survives noEndpoint origin := by
  intro survives
  have nothing := survives.native
  cases nothing

/-! ### The endpoints that the system calls make -/

/-- `accept` and `recv_from` make the endpoint of the address the system wrote. -/
theorem peerEndpoint_eq {localEp : IpEndpoint} {peerSock : NativeSocketStorage}
    {origin : SystemSockaddr} (received : SystemSockaddr.received localEp peerSock = some origin)
    (memory : NativeSocketStorage) (union : BitVec 128) :
    SocketImpl.peerEndpoint localEp peerSock memory union = origin.endpoint memory union := by
  unfold SocketImpl.peerEndpoint
  unfold SystemSockaddr.received at received
  by_cases quad : localEp.address.family = family.v4
  · rw [if_pos quad] at received ⊢
    obtain ⟨tagged, made⟩ := Option.dite_none_right_eq_some.mp received
    rw [← Option.some.inj made]
    rfl
  · rw [if_neg quad] at received ⊢
    obtain ⟨_, chosen⟩ := Option.ite_none_right_eq_some.mp received
    obtain ⟨tagged, made⟩ := Option.dite_none_right_eq_some.mp chosen
    rw [← Option.some.inj made]
    rfl

/-! ### Runs -/

namespace IpEndpoint

theorem copyConstruct_eq (other : IpEndpoint) : other.copyConstruct = other := rfl

theorem copyAssign_eq (endpoint other : IpEndpoint) : endpoint.copyAssign other = other := rfl

theorem moveConstruct_eq (temp : IpEndpoint) : temp.moveConstruct = (temp, noEndpoint) := rfl

theorem moveAssign_eq (endpoint temp : IpEndpoint) :
    endpoint.moveAssign temp = (temp, noEndpoint) := rfl

end IpEndpoint

namespace EndpointVars

variable {Name : Type} [DecidableEq Name]

def Tells (endpoint : IpEndpoint) (provenance : Provenance) : Prop :=
  if provenance.selfMoved then endpoint = noEndpoint
  else ∃ memory union, endpoint = provenance.sock.endpoint memory union

theorem tells_received {localEp : IpEndpoint} {system : Except Errno Int}
    {peerSock : NativeSocketStorage} {provenance : Provenance}
    (received : Provenance.received localEp system peerSock = some provenance)
    (memory : NativeSocketStorage) (union : BitVec 128) :
    (SocketImpl.accept localEp system peerSock memory union).peerEp =
        (SocketImpl.recvFrom localEp system peerSock memory union).peerEp ∧
      Tells (SocketImpl.recvFrom localEp system peerSock memory union).peerEp provenance := by
  cases system with
  | error errno => cases received
  | ok result =>
      refine ⟨rfl, ?_⟩
      obtain ⟨origin, ofPeer, made⟩ := Option.map_eq_some_iff.mp received
      rw [← made]
      exact ⟨memory, union, peerEndpoint_eq ofPeer memory union⟩

def Faithful (vars : EndpointVars Name) : Prop :=
  ∀ name provenance, vars.origin name = some provenance →
    Tells (vars.endpoint name) provenance

theorem Faithful.write {vars : EndpointVars Name} (faithful : vars.Faithful) (target : Name)
    {endpoint : IpEndpoint} {origin : Option Provenance}
    (tells : ∀ provenance, origin = some provenance → Tells endpoint provenance) :
    (vars.write target endpoint origin).Faithful := by
  intro name provenance held
  change Function.update vars.origin target origin name = some provenance at held
  change Tells (Function.update vars.endpoint target endpoint name) provenance
  by_cases same : name = target
  · rw [same, Function.update_self] at held ⊢
    exact tells provenance held
  · rw [Function.update_of_ne same] at held ⊢
    exact faithful name provenance held

theorem Faithful.writeMoved {vars : EndpointVars Name} (faithful : vars.Faithful)
    (target source : Name) :
    (vars.writeMoved target source (vars.endpoint source, noEndpoint)).Faithful := by
  refine (faithful.write target (faithful source)).write source ?_
  intro provenance held
  by_cases same : target = source
  · rw [if_pos same] at held
    obtain ⟨moved, _, marked⟩ := Option.map_eq_some_iff.mp held
    rw [← marked]
    rfl
  · rw [if_neg same] at held
    cases held

theorem faithful_step {vars next : EndpointVars Name} {op : EndpointOp Name}
    (faithful : vars.Faithful) (stepped : vars.step op = some next) : next.Faithful := by
  cases op with
  | accept target acceptorEp system peerSock memory union =>
      rw [← Option.some.inj stepped]
      refine faithful.write target ?_
      intro provenance held
      have stored := tells_received held memory union
      rw [stored.1]
      exact stored.2
  | recvFrom target receiverEp system peerSock memory union =>
      rw [← Option.some.inj stepped]
      refine faithful.write target ?_
      intro provenance held
      exact (tells_received held memory union).2
  | copyConstruct target source =>
      obtain ⟨_, written⟩ := Option.ite_none_left_eq_some.mp stepped
      rw [← Option.some.inj written, IpEndpoint.copyConstruct_eq]
      exact faithful.write target (faithful source)
  | copyAssign target source =>
      rw [← Option.some.inj stepped, IpEndpoint.copyAssign_eq]
      exact faithful.write target (faithful source)
  | moveConstruct target source =>
      obtain ⟨_, written⟩ := Option.ite_none_left_eq_some.mp stepped
      rw [← Option.some.inj written, IpEndpoint.moveConstruct_eq]
      exact faithful.writeMoved target source
  | moveAssign target source =>
      rw [← Option.some.inj stepped, IpEndpoint.moveAssign_eq]
      exact faithful.writeMoved target source

theorem faithful_exec {final : EndpointVars Name} {ops : List (EndpointOp Name)}
    (executed : Runs.exec step initial ops = some final) : final.Faithful := by
  have start : (initial : EndpointVars Name).Faithful := fun _ _ held => nomatch held
  exact (Runs.statesMeet_of_invariant (fun _ _ _ faithful stepped => faithful_step faithful stepped)
    ops start).final executed

end EndpointVars

/-- In every state of every run, an endpoint that goes back to an address of the
system reaches the peer exactly when that is a `sockaddr_in` and it was never
move assigned to itself; with `connect` left aside, also when it is a
`sockaddr_in6` without flow information and scope. -/
theorem reaches_iff_ipv4 {Name : Type} [DecidableEq Name] {ops : List (EndpointOp Name)}
    {final : EndpointVars Name}
    (executed : Runs.exec EndpointVars.step EndpointVars.initial ops = some final)
    {name : Name} {provenance : Provenance} (held : final.origin name = some provenance) :
    (Reaches (final.endpoint name) provenance.sock ↔
        provenance.selfMoved = false ∧ provenance.sock.IsIpv4) ∧
      (Survives (final.endpoint name) provenance.sock ↔
        provenance.selfMoved = false ∧ provenance.sock.Plain) := by
  have tells := EndpointVars.faithful_exec executed name provenance held
  unfold EndpointVars.Tells at tells
  cases marked : provenance.selfMoved with
  | true =>
      rw [if_pos marked] at tells
      have lost : ¬Survives (final.endpoint name) provenance.sock := by
        rw [tells]
        exact not_survives_noEndpoint provenance.sock
      constructor
      · exact iff_of_false (fun reaches => lost reaches.toSurvives)
          (fun holds => Bool.noConfusion holds.1)
      · exact iff_of_false lost (fun holds => Bool.noConfusion holds.1)
  | false =>
      rw [if_neg (by rw [marked]; exact Bool.false_ne_true)] at tells
      obtain ⟨memory, union, made⟩ := tells
      rw [made, reaches_endpoint_iff, survives_endpoint_iff]
      constructor
      · exact ⟨fun quad => ⟨rfl, quad⟩, fun holds => holds.2⟩
      · exact ⟨fun plain => ⟨rfl, plain⟩, fun holds => holds.2⟩

def loopbackSock : NativeSocketStorage :=
  { family := AF_INET, port := htons 80#16, word := 0x0100007f#32, block := 0#128, scope := 0#32 }

def loopbackOps : List (EndpointOp Nat) :=
  [.accept 0 (.ofAddress .zero (.ofIpv4 0#128 0#32) 8080#16) (.ok 5) loopbackSock .zero 0#128,
    .copyConstruct 1 0, .moveAssign 2 1, .moveConstruct 3 2]

theorem reaches_movedLoopback : ∃ final : EndpointVars Nat,
    Runs.exec EndpointVars.step EndpointVars.initial loopbackOps = some final ∧
      Reaches (final.endpoint 3) (.ipv4 loopbackSock.ipv4 rfl) :=
  ⟨_, rfl,
    (@reaches_iff_ipv4 Nat _ loopbackOps _ rfl 3
      { sock := .ipv4 loopbackSock.ipv4 rfl, selfMoved := false } rfl).1.mpr ⟨rfl, trivial⟩⟩

def linkLocalSock : NativeSocketStorage :=
  { family := AF_INET6, port := htons 80#16, word := 0#32
    block := 1#128 <<< 120 ||| 0x80fe#128, scope := 2#32 }

def linkLocalOps : List (EndpointOp Nat) :=
  [.recvFrom 0 (.ofAddress .zero (.ofIpv6 0#128) 8080#16) (.ok 1) linkLocalSock .zero 0#128]

theorem socketAddressesSurvive_false : ¬SocketAddressesSurvive := by
  intro holds
  have reaches := holds linkLocalOps _ rfl 0
    { sock := .ipv6 linkLocalSock.ipv6 rfl, selfMoved := false } rfl
  have plain := (survives_ofSockaddrIn6_iff .zero linkLocalSock.ipv6 rfl).mp reaches.toSurvives
  exact absurd plain.2 (by decide)

end BabaIo
