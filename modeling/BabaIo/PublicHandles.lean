import BabaIo.IpEndpoint
import BabaIo.Library.Runs
import BabaIo.Library.UniquePointers

/-
The public handles `tcp_socket`, `tcp_connector`, `tcp_acceptor`, `ip_address`,
`ip_endpoint`, `reuse_address`, `set_outgoing_interface` and `join_group` in the
variables of a program.

Each handle owns a pimpl through the `std::unique_ptr` `_pimpl`.  The classes
that can be copied make a new pimpl when they are move constructed; the `tcp_`
classes hand theirs on, and every move assignment does.  A handle that has lost
its pimpl keeps an empty `_pimpl`, and an operation that evaluates `_pimpl->`
there ends the run; so does an accept that completes into a pimpl which was deleted
in the meantime, as its closure keeps a plain reference.

What the language leaves undefined for another reason, a failing assertion or an
`async_` object that is misused, is no step.
-/

set_option autoImplicit false

namespace BabaIo.Handles

abbrev StrandId := Nat
abbrev Var := Nat

abbrev IoHandle := Int

/-! ### What the pimpls hold -/

def noAddress : IpAddress := { storage := 0#128, af := 0#16 }

def noEndpoint : IpEndpoint :=
  { sock := { family := 0#16, port := 0#16, word := 0#32, block := 0#128, scope := 0#32 }
    sockLen := 0
    address := noAddress
    port := 0#16 }

structure IntOption where
  level : Int
  optname : Int
  optval : Int
  deriving DecidableEq

structure AddressOption where
  level : Int
  optname : Int
  addr : IpAddress
  deriving DecidableEq

structure GroupOption where
  level : Int
  optname : Int
  iface : IpAddress
  ifaceIndex : BitVec 32
  mcast : IpAddress
  deriving DecidableEq

def SOL_SOCKET : Int := 1
def SO_REUSEADDR : Int := 2
def IPPROTO_IP : Int := 0
def IP_MULTICAST_IF : Int := 32
def IP_ADD_MEMBERSHIP : Int := 35

/-- The members of `async_tcp`, `async_connector` and `async_acceptor` that the
handles read; `descriptor` is the file of `_descriptor`. -/
structure AsyncIo where
  strandForUser : Option StrandId
  strand : Option StrandId
  descriptor : Option IoHandle
  endpoint : IpEndpoint
  deriving DecidableEq

inductive Impl where
  | address (value : IpAddress)
  | endpoint (value : IpEndpoint)
  | reuseAddress (value : IntOption)
  | setOutgoingInterface (value : AddressOption)
  | joinGroup (value : GroupOption)
  | tcp (object : AsyncIo)
  | connector (object : AsyncIo)
  | acceptor (object : AsyncIo)
  deriving DecidableEq

inductive Class where
  | ipAddress
  | ipEndpoint
  | reuseAddress
  | setOutgoingInterface
  | joinGroup
  | tcpSocket
  | tcpConnector
  | tcpAcceptor
  deriving DecidableEq

/-- The `tcp_` classes are `NOT_COPYABLE`. -/
def Class.copyable : Class → Bool
  | .tcpSocket | .tcpConnector | .tcpAcceptor => false
  | _ => true

def AsyncIo.default : AsyncIo :=
  { strandForUser := none, strand := none, descriptor := none, endpoint := noEndpoint }

def Impl.default : Class → Impl
  | .ipAddress => .address noAddress
  | .ipEndpoint => .endpoint noEndpoint
  | .reuseAddress => .reuseAddress { level := 0, optname := 0, optval := 0 }
  | .setOutgoingInterface =>
      .setOutgoingInterface { level := 0, optname := 0, addr := noAddress }
  | .joinGroup =>
      .joinGroup
        { level := 0, optname := 0, iface := noAddress, ifaceIndex := 0#32, mcast := noAddress }
  | .tcpSocket => .tcp .default
  | .tcpConnector => .connector .default
  | .tcpAcceptor => .acceptor .default

/-- What a move construction from `impl` leaves of it, for the classes that
move what the pimpl holds. -/
def Impl.left : Impl → Impl
  | .address _ => .address noAddress
  | .endpoint _ => .endpoint noEndpoint
  | .setOutgoingInterface value => .setOutgoingInterface { value with addr := noAddress }
  | .joinGroup value => .joinGroup { value with iface := noAddress, mcast := noAddress }
  | other => other

/-! ### Variables -/

/-- The closure of `async_acceptor::accept`: it keeps references to the objects
in two pimpls.  `target` and `targetStrand` are the variable and the `_strand`
that `tcp_acceptor::accept` wrote. -/
structure PendingAccept where
  acceptor : CellId
  peer : CellId
  peerStrand : Option StrandId
  target : Var
  targetStrand : Option StrandId
  deriving DecidableEq

structure State where
  cells : UniquePointers Var Impl
  /-- The class of each variable in scope. -/
  classes : Var → Option Class
  /-- The member `_strand` of the `tcp_` classes. -/
  strands : Var → Option StrandId
  nextVar : Var
  accepts : List PendingAccept
  /-- An empty `_pimpl` was dereferenced, or a pimpl that had been deleted was written. -/
  crashed : Bool

def init : State :=
  { cells := .empty
    classes := fun _ => none
    strands := fun _ => none
    nextVar := 0
    accepts := []
    crashed := false }

def deref (state : State) (var : Var) (use : Impl → Option State) : Option State :=
  match state.cells.read var with
  | none => some { state with crashed := true }
  | some impl => use impl

def derefBoth (state : State) (first second : Var) (use : Impl → Impl → Option State) :
    Option State :=
  deref state first fun impl => deref state second (use impl)

def write (state : State) (var : Var) (impl : Impl) : State :=
  match state.cells.pointer var with
  | none => state
  | some cell => { state with cells := state.cells.write cell impl }

def setStrand (state : State) (var : Var) (strand : Option StrandId) : State :=
  { state with strands := Function.update state.strands var strand }

def declare (state : State) (cls : Class) (strand : Option StrandId)
    (cells : UniquePointers Var Impl) : State :=
  { state with
    cells := cells
    classes := Function.update state.classes state.nextVar (some cls)
    strands := Function.update state.strands state.nextVar strand
    nextVar := state.nextVar + 1 }

def construct (state : State) (cls : Class) (strand : Option StrandId) (impl : Impl) : State :=
  declare state cls strand (state.cells.alloc state.nextVar impl)

/-- The accept of an acceptor that is destroyed completes without its closure. -/
def dropAccepts (state : State) (var : Var) : State :=
  { state with
    accepts := state.accepts.filter fun pending =>
      state.cells.pointer var ≠ some pending.acceptor }

/-! ### Moves and copies -/

def moveConstruct (state : State) (cls : Class) (source : Var) : Option State :=
  if cls.copyable then
    -- `_pimpl(new pimpl(std::move(tmp)))`
    deref state source fun impl =>
      some (construct (write state source impl.left) cls none impl)
  else
    -- `_strand(tmp._strand), _pimpl(std::move(tmp._pimpl))`
    some (declare state cls (state.strands source) (state.cells.move state.nextVar source))

def moveAssign (state : State) (target source : Var) : State :=
  let dropped := if target = source then state else dropAccepts state target
  setStrand { dropped with cells := state.cells.move target source } target
    (state.strands source)

def copyConstruct (state : State) (cls : Class) (source : Var) : Option State :=
  deref state source fun impl => some (construct state cls none impl)

def copyAssign (state : State) (target source : Var) : Option State :=
  derefBoth state target source fun _ impl => some (write state target impl)

def destroy (state : State) (var : Var) : State :=
  { dropAccepts state var with
    cells := state.cells.reset var
    classes := Function.update state.classes var none }

/-! ### Connectors and acceptors -/

/-- What both conversions into a socket leave of a connector. -/
def AsyncIo.converted (connector : AsyncIo) : AsyncIo :=
  { connector with strand := none, descriptor := none, endpoint := noEndpoint }

def fromConnector (state : State) (connector : Var) : Option State :=
  deref state connector fun impl =>
    match impl with
    | .connector object =>
        match object.strandForUser, object.descriptor with
        | some strand, some fd =>
            some (construct (write state connector (.connector object.converted))
              .tcpSocket (state.strands connector)
              (.tcp
                { strandForUser := some strand
                  strand := some strand
                  descriptor := some fd
                  endpoint := object.endpoint }))
        | _, _ => none
    | _ => none

def assignConnector (state : State) (target connector : Var) : Option State :=
  let named := setStrand state target (state.strands connector)
  derefBoth named target connector fun impl source =>
    match impl, source with
    | .tcp socket, .connector object =>
        match object.strand, object.descriptor with
        | some strand, some fd =>
            some (write (write named connector (.connector object.converted)) target
              (.tcp { socket with
                strand := some strand
                descriptor := some fd
                endpoint := object.endpoint }))
        | _, _ => none
    | _, _ => none

def connect (state : State) (connector endpoint : Var) : Option State :=
  derefBoth state connector endpoint fun impl value =>
    match impl, value with
    | .connector object, .endpoint ep =>
        if object.strand.isSome then
          some (write state connector (.connector { object with endpoint := ep }))
        else none
    | _, _ => none

/-- Both overloads of `tcp_acceptor::accept`; without a strand the peer gets that
of the acceptor.  An acceptor has one accept at a time. -/
def accept (state : State) (acceptor : Var) (peerStrand : Option StrandId) (peer : Var) :
    Option State :=
  let targetStrand := peerStrand.or (state.strands acceptor)
  let named := setStrand state peer targetStrand
  derefBoth named acceptor peer fun impl _ =>
    match impl, state.cells.pointer acceptor, state.cells.pointer peer with
    | .acceptor object, some acceptorCell, some peerCell =>
        if object.strand.isSome ∧
            ∀ pending ∈ state.accepts, pending.acceptor ≠ acceptorCell then
          some { named with
            accepts := state.accepts ++
              [{ acceptor := acceptorCell
                 peer := peerCell
                 peerStrand := peerStrand
                 target := peer
                 targetStrand := targetStrand }] }
        else none
    | _, _, _ => none

structure Accepted where
  fd : IoHandle
  endpoint : IpEndpoint
  deriving DecidableEq

/-- The closure of `async_acceptor::accept`, with `ec::OK` where a connection was
accepted; the user callback is made of further steps. -/
def complete (state : State) (index : Nat) (result : Option Accepted) : Option State :=
  match state.accepts[index]? with
  | none => none
  | some pending =>
      let completed := { state with accepts := state.accepts.eraseIdx index }
      match result with
      | none => some completed
      | some accepted =>
          match state.cells.content pending.acceptor, state.cells.content pending.peer with
          | some (.acceptor object), some (.tcp _) =>
              (pending.peerStrand.or object.strandForUser).map fun strand =>
                -- `peer = async_tcp(peer_strand, _peer_fd, _peer_ep)`
                { completed with
                  cells := state.cells.write pending.peer
                    (.tcp
                      { strandForUser := some strand
                        strand := some strand
                        descriptor := some accepted.fd
                        endpoint := accepted.endpoint }) }
          -- the referenced `async_tcp` is gone
          | some (.acceptor _), none => some { completed with crashed := true }
          | _, _ => none

/-! ### Steps -/

inductive Op where
  | default (cls : Class)
  | address (value : IpAddress)
  | endpoint (value : IpEndpoint)
  | endpointOf (address : Var) (memory : NativeSocketStorage) (port : BitVec 16)
  | endpointOfMoved (address : Var) (memory : NativeSocketStorage) (port : BitVec 16)
  | reuseAddress (yes : Bool)
  | setOutgoingInterface (addr : Var)
  | joinGroup (iface : Var) (ifaceIndex : BitVec 32) (mcast : Var)
  | socket (strand : StrandId) (fd : IoHandle) (endpoint : Var)
  | connector (strand : StrandId) (fd : IoHandle)
  | acceptor (strand : StrandId) (fd : IoHandle)
  | moveConstruct (source : Var)
  | moveAssign (target source : Var)
  | copyConstruct (source : Var)
  | copyAssign (target source : Var)
  | fromConnector (connector : Var)
  | assignConnector (target connector : Var)
  | connect (connector endpoint : Var)
  | accept (acceptor : Var) (peerStrand : Option StrandId) (peer : Var)
  | complete (index : Nat) (result : Option Accepted)
  | destroy (var : Var)
  deriving DecidableEq

def perform (state : State) : Op → Option State
  | .default cls => some (construct state cls none (.default cls))
  | .address value => some (construct state .ipAddress none (.address value))
  | .endpoint value => some (construct state .ipEndpoint none (.endpoint value))
  | .endpointOf address memory port =>
      if state.classes address = some .ipAddress then
        deref state address fun impl =>
          match impl with
          | .address ip =>
              some (construct state .ipEndpoint none (.endpoint (.ofAddress memory ip port)))
          | _ => none
      else none
  | .endpointOfMoved address memory port =>
      if state.classes address = some .ipAddress then
        deref state address fun impl =>
          match impl with
          | .address ip =>
              some (construct (write state address impl.left) .ipEndpoint none
                (.endpoint (.ofAddress memory ip port)))
          | _ => none
      else none
  | .reuseAddress yes =>
      some (construct state .reuseAddress none
        (.reuseAddress
          { level := SOL_SOCKET, optname := SO_REUSEADDR, optval := if yes then 1 else 0 }))
  | .setOutgoingInterface addr =>
      if state.classes addr = some .ipAddress then
        deref state addr fun impl =>
          match impl with
          | .address ip =>
              some (construct state .setOutgoingInterface none
                (.setOutgoingInterface
                  { level := IPPROTO_IP, optname := IP_MULTICAST_IF, addr := ip }))
          | _ => none
      else none
  | .joinGroup iface ifaceIndex mcast =>
      if state.classes iface = some .ipAddress ∧ state.classes mcast = some .ipAddress then
        derefBoth state iface mcast fun ifaceImpl mcastImpl =>
          match ifaceImpl, mcastImpl with
          | .address ifaceIp, .address mcastIp =>
              some (construct state .joinGroup none
                (.joinGroup
                  { level := IPPROTO_IP
                    optname := IP_ADD_MEMBERSHIP
                    iface := ifaceIp
                    ifaceIndex := ifaceIndex
                    mcast := mcastIp }))
          | _, _ => none
      else none
  | .socket strand fd endpoint =>
      if state.classes endpoint = some .ipEndpoint then
        deref state endpoint fun impl =>
          match impl with
          | .endpoint ep =>
              some (construct state .tcpSocket (some strand)
                (.tcp
                  { strandForUser := some strand
                    strand := some strand
                    descriptor := some fd
                    endpoint := ep }))
          | _ => none
      else none
  | .connector strand fd =>
      some (construct state .tcpConnector (some strand)
        (.connector
          { strandForUser := some strand
            strand := some strand
            descriptor := some fd
            endpoint := noEndpoint }))
  | .acceptor strand fd =>
      some (construct state .tcpAcceptor (some strand)
        (.acceptor
          { strandForUser := some strand
            strand := some strand
            descriptor := some fd
            endpoint := noEndpoint }))
  | .moveConstruct source =>
      (state.classes source).bind fun cls => moveConstruct state cls source
  | .moveAssign target source =>
      if (state.classes target).isSome ∧ state.classes target = state.classes source then
        some (moveAssign state target source)
      else none
  | .copyConstruct source =>
      (state.classes source).bind fun cls =>
        if cls.copyable then copyConstruct state cls source else none
  | .copyAssign target source =>
      (state.classes target).bind fun cls =>
        if cls.copyable ∧ state.classes source = some cls then copyAssign state target source
        else none
  | .fromConnector connector =>
      if state.classes connector = some .tcpConnector then fromConnector state connector
      else none
  | .assignConnector target connector =>
      if state.classes target = some .tcpSocket ∧
          state.classes connector = some .tcpConnector then
        assignConnector state target connector
      else none
  | .connect connector endpoint =>
      if state.classes connector = some .tcpConnector ∧
          state.classes endpoint = some .ipEndpoint then
        connect state connector endpoint
      else none
  | .accept acceptor peerStrand peer =>
      if state.classes acceptor = some .tcpAcceptor ∧
          state.classes peer = some .tcpSocket then
        accept state acceptor peerStrand peer
      else none
  | .complete index result => complete state index result
  | .destroy var =>
      if (state.classes var).isSome then some (destroy state var) else none

/-- Nothing follows a crash. -/
def step (state : State) (op : Op) : Option State :=
  if state.crashed then none else perform state op

end BabaIo.Handles
