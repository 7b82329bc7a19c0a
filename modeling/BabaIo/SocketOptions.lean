import BabaIo.AddressText
import BabaIo.ConnectCallback
import BabaIo.PublicHandles

/-
`set_option` and `get_option` over a kernel that stores socket options.

The kernel keeps one object for each file and each pair of level and name, and
takes only the object that belongs to the pair, at its own size.  An overload
of `set_option` or `get_option` makes one system call at most; the call is a
parameter of the overload, so the same definition runs over the kernel and over
any other answer of the system.
-/

set_option autoImplicit false

namespace BabaIo.Options

open Handles
open IpAddress (family_eq_v4_iff family_eq_v6_iff native_of_v4 native_eq_none
  nativeFamily_eq_v4_iff same_ofIpv4)

def IPPROTO_IPV6 : Int := 41
def IPV6_MULTICAST_IF : Int := 17
def IPV6_ADD_MEMBERSHIP : Int := 20
def INET_ADDRSTRLEN : Nat := 16
def INET6_ADDRSTRLEN : Nat := 46

/-! ### The objects of the system calls -/

/-- The C types that `optval` may point to. -/
inductive Layout where
  | int
  | inAddr
  | in6Addr
  | ipMreq
  | ipv6Mreq
  deriving DecidableEq

inductive OptionObject where
  | int (value : BitVec 32)
  | inAddr (addr : BitVec 32)
  | in6Addr (addr : BitVec 128)
  | ipMreq (multiaddr interface : BitVec 32)
  | ipv6Mreq (multiaddr : BitVec 128) (interface : BitVec 32)
  deriving DecidableEq

def wordBytes {width : Nat} (count : Nat) (word : BitVec width) : List Nat :=
  Numerals.chunks 256 count word.toNat

def wordOf (width : Nat) (bytes : List Nat) : BitVec width :=
  BitVec.ofNat width (Numerals.ofChunks 256 bytes)

theorem wordOf_wordBytes {width count : Nat} (word : BitVec width)
    (holds : 2 ^ width ≤ 256 ^ count) : wordOf width (wordBytes count word) = word := by
  have fits : word.toNat < 256 ^ count := Nat.lt_of_lt_of_le word.isLt holds
  unfold wordOf wordBytes
  rw [Numerals.ofChunks_chunks fits, BitVec.ofNat_toNat, BitVec.setWidth_eq]

@[simp] theorem length_wordBytes {width : Nat} (count : Nat) (word : BitVec width) :
    (wordBytes count word).length = count := Numerals.length_chunks 256 count word.toNat

def readWord (width offset count : Nat) (bytes : List Nat) : BitVec width :=
  wordOf width ((bytes.drop offset).take count)

theorem readWord_append {width count : Nat} (before after : List Nat) (word : BitVec width)
    (holds : 2 ^ width ≤ 256 ^ count) :
    readWord width before.length count (before ++ (wordBytes count word ++ after)) = word := by
  unfold readWord
  rw [List.drop_left, List.take_left' (length_wordBytes count word),
    wordOf_wordBytes word holds]

def Layout.size : Layout → Nat
  | .int => 4
  | .inAddr => 4
  | .in6Addr => 16
  | .ipMreq => 8
  | .ipv6Mreq => 20

namespace OptionObject

def layout : OptionObject → Layout
  | .int _ => .int
  | .inAddr _ => .inAddr
  | .in6Addr _ => .in6Addr
  | .ipMreq .. => .ipMreq
  | .ipv6Mreq .. => .ipv6Mreq

def bytes : OptionObject → List Nat
  | .int value => wordBytes 4 value
  | .inAddr addr => wordBytes 4 addr
  | .in6Addr addr => wordBytes 16 addr
  | .ipMreq multiaddr interface => wordBytes 4 multiaddr ++ wordBytes 4 interface
  | .ipv6Mreq multiaddr interface => wordBytes 16 multiaddr ++ wordBytes 4 interface

theorem length_bytes (object : OptionObject) : object.bytes.length = object.layout.size := by
  cases object <;> simp [bytes, layout, Layout.size]

end OptionObject

structure SetRequest where
  fd : IoHandle
  level : Int
  name : Int
  object : OptionObject
  len : Nat
  deriving DecidableEq

structure GetRequest where
  fd : IoHandle
  level : Int
  name : Int
  size : Nat
  deriving DecidableEq

/-- The buffer after `::getsockopt` has copied `source` into it. -/
def copied (buffer source : List Nat) : List Nat :=
  source.take buffer.length ++ buffer.drop source.length

theorem copied_of_length_eq {buffer source : List Nat} (same : source.length = buffer.length) :
    copied buffer source = source := by
  unfold copied
  rw [List.take_of_length_le (Nat.le_of_eq same), List.drop_of_length_le (Nat.le_of_eq same.symm),
    List.append_nil]

/-! ### The kernel -/

def layoutOf (level name : Int) : Option Layout :=
  if level = SOL_SOCKET ∧ name = SO_REUSEADDR then some .int
  else if level = IPPROTO_IP ∧ name = IP_MULTICAST_IF then some .inAddr
  else if level = IPPROTO_IP ∧ name = IP_ADD_MEMBERSHIP then some .ipMreq
  else if level = IPPROTO_IPV6 ∧ name = IPV6_MULTICAST_IF then some .in6Addr
  else if level = IPPROTO_IPV6 ∧ name = IPV6_ADD_MEMBERSHIP then some .ipv6Mreq
  else none

structure Kernel where
  stored : IoHandle → Int → Int → Option OptionObject
  fits : ∀ fd level name object, stored fd level name = some object →
    layoutOf level name = some object.layout

def EINVAL : Errno := { code := 22, nonzero := by decide }
def ENOPROTOOPT : Errno := { code := 92, nonzero := by decide }

namespace Kernel

/-- The kernel takes an object that belongs to the option, at its size. -/
def accepts (request : SetRequest) : Prop :=
  layoutOf request.level request.name = some request.object.layout ∧
    request.len = request.object.layout.size

instance (request : SetRequest) : Decidable (accepts request) :=
  inferInstanceAs (Decidable (_ ∧ _))

def setsockoptError (request : SetRequest) : Option Errno :=
  if accepts request then none else some EINVAL

def setsockopt (kernel : Kernel) (request : SetRequest) : Kernel :=
  if accepted : accepts request then
    { stored := fun fd level name =>
        if fd = request.fd ∧ level = request.level ∧ name = request.name then
          some request.object
        else kernel.stored fd level name
      fits := by
        intro fd level name object held
        by_cases same : fd = request.fd ∧ level = request.level ∧ name = request.name
        · rw [if_pos same] at held
          rw [same.2.1, same.2.2, ← Option.some.inj held]
          exact accepted.1
        · rw [if_neg same] at held
          exact kernel.fits fd level name object held }
  else kernel

def getsockopt (kernel : Kernel) (request : GetRequest) : Except Errno (List Nat) :=
  match kernel.stored request.fd request.level request.name with
  | some object => .ok object.bytes
  | none => .error ENOPROTOOPT

end Kernel

/-! ### `set_option` -/

def nativeAddressLength (address : IpAddress) : Nat :=
  if address.af = AF_INET then INET_ADDRSTRLEN
  else if address.af = AF_INET6 then INET6_ADDRSTRLEN
  else 0

def issue (call : SetRequest → Option Errno) (request : SetRequest) :
    Option SetRequest × ErrorCode :=
  (some request, (call request).elim ec.OK Errno.code)

section SetOption

variable (call : SetRequest → Option Errno) (fd : IoHandle)

def setIntOption (opt : IntOption) : Option SetRequest × ErrorCode :=
  issue call
    { fd := fd, level := opt.level, name := opt.optname
      object := .int (BitVec.ofInt 32 opt.optval)
      len := Layout.int.size }

def setAddressOption (opt : AddressOption) : Option SetRequest × ErrorCode :=
  let addrLen := nativeAddressLength opt.addr
  if opt.addr.family = family.v4 then
    issue call
      { fd := fd, level := opt.level, name := opt.optname
        object := .inAddr opt.addr.ipv4
        len := addrLen }
  else if opt.addr.family = family.v6 then
    issue call
      { fd := fd, level := opt.level, name := opt.optname
        object := .in6Addr opt.addr.ipv6
        len := addrLen }
  else (none, ec.OK)

def setGroupOption (opt : GroupOption) : Option SetRequest × ErrorCode :=
  if opt.iface.family = family.v4 then
    issue call
      { fd := fd, level := opt.level, name := opt.optname
        object := .ipMreq opt.mcast.ipv4 opt.iface.ipv4
        len := Layout.ipMreq.size }
  else if opt.iface.family = family.v6 then
    issue call
      { fd := fd, level := opt.level, name := opt.optname
        object := .ipv6Mreq opt.mcast.ipv6 opt.ifaceIndex
        len := Layout.ipv6Mreq.size }
  else (none, ec.OK)

end SetOption

/-! ### `get_option` -/

/-- What the local variables of `get_option` hold before they are written. -/
structure Stack where
  bytes : Nat → Nat
  ifaceUnion : BitVec 128
  mcastUnion : BitVec 128

def Stack.buffer (stack : Stack) (size : Nat) : List Nat := (List.range size).map stack.bytes

structure GetOutcome (Opt : Type) where
  request : Option GetRequest
  code : ErrorCode
  opt : Opt

/-- Make a call; on success the filled buffer is stored in the option. -/
def fetch {Opt : Type} (call : GetRequest → Except Errno (List Nat)) (request : GetRequest)
    (buffer : List Nat) (opt : Opt) (store : List Nat → Opt) : GetOutcome Opt :=
  match call request with
  | .error errno => { request := some request, code := errno.code, opt := opt }
  | .ok bytes => { request := some request, code := ec.OK, opt := store (copied buffer bytes) }

section GetOption

variable (inet : Inet) (stack : Stack) (call : GetRequest → Except Errno (List Nat))
  (fd : IoHandle)

def getIntOption (opt : IntOption) : GetOutcome IntOption :=
  fetch call
    { fd := fd, level := opt.level, name := opt.optname, size := Layout.int.size }
    (wordBytes 4 0#32) opt
    (fun optval => { opt with optval := (readWord 32 0 4 optval).toInt })

def getAddressOption (opt : AddressOption) : GetOutcome AddressOption :=
  if opt.addr.family = family.v4 then
    fetch call
      { fd := fd, level := opt.level, name := opt.optname, size := Layout.inAddr.size }
      (stack.buffer Layout.inAddr.size) opt
      (fun iface => { opt with addr := IpAddress.ofIpv4 stack.ifaceUnion (readWord 32 0 4 iface) })
  else if opt.addr.family = family.v6 then
    fetch call
      { fd := fd, level := opt.level, name := opt.optname, size := Layout.in6Addr.size }
      (stack.buffer Layout.in6Addr.size) opt
      (fun iface => { opt with addr := IpAddress.ofIpv6 (readWord 128 0 16 iface) })
  else { request := none, code := ec.OK, opt := opt }

def getGroupOption (opt : GroupOption) : GetOutcome GroupOption :=
  if opt.iface.family = family.v4 then
    fetch call
      { fd := fd, level := opt.level, name := opt.optname, size := Layout.ipMreq.size }
      (stack.buffer Layout.ipMreq.size) opt
      (fun group =>
        { opt with
          iface := IpAddress.ofIpv4 stack.ifaceUnion (readWord 32 4 4 group)
          mcast := IpAddress.ofIpv4 stack.mcastUnion (readWord 32 0 4 group) })
  else if opt.iface.family = family.v6 then
    fetch call
      { fd := fd, level := opt.level, name := opt.optname, size := Layout.ipv6Mreq.size }
      (stack.buffer Layout.ipv6Mreq.size) opt
      (fun group =>
        { opt with
          iface := IpAddress.ofText inet stack.ifaceUnion [':', ':']
          ifaceIndex := readWord 32 16 4 group
          mcast := IpAddress.ofIpv6 (readWord 128 0 16 group) })
  else { request := none, code := ec.OK, opt := opt }

end GetOption

/-! ### The option classes -/

def reuseAddress (val : Bool) : IntOption :=
  { level := SOL_SOCKET, optname := SO_REUSEADDR, optval := if val then 1 else 0 }

def setOutgoingInterface (addr : IpAddress) : AddressOption :=
  { level := IPPROTO_IP, optname := IP_MULTICAST_IF, addr := addr }

def joinGroup (iface : IpAddress) (ifaceIndex : BitVec 32) (mcast : IpAddress) : GroupOption :=
  { level := IPPROTO_IP, optname := IP_ADD_MEMBERSHIP
    iface := iface, ifaceIndex := ifaceIndex, mcast := mcast }

inductive OptionVar where
  | reuseAddress (opt : IntOption)
  | setOutgoingInterface (opt : AddressOption)
  | joinGroup (opt : GroupOption)

def setOption (call : SetRequest → Option Errno) (fd : IoHandle) :
    OptionVar → Option SetRequest × ErrorCode
  | .reuseAddress opt => setIntOption call fd opt
  | .setOutgoingInterface opt => setAddressOption call fd opt
  | .joinGroup opt => setGroupOption call fd opt

def GetOutcome.map {First Second : Type} (outcome : GetOutcome First) (wrap : First → Second) :
    GetOutcome Second :=
  { request := outcome.request, code := outcome.code, opt := wrap outcome.opt }

def getOption (inet : Inet) (stack : Stack) (call : GetRequest → Except Errno (List Nat))
    (fd : IoHandle) : OptionVar → GetOutcome OptionVar
  | .reuseAddress opt => (getIntOption call fd opt).map .reuseAddress
  | .setOutgoingInterface opt => (getAddressOption stack call fd opt).map .setOutgoingInterface
  | .joinGroup opt => (getGroupOption inet stack call fd opt).map .joinGroup

/-! ### Round trips -/

inductive OptionValue where
  | reuseAddress (yes : Bool)
  | setOutgoingInterface (addr : IpAddress)
  | joinGroup (iface : IpAddress) (ifaceIndex : BitVec 32) (mcast : IpAddress)

namespace OptionValue

def construct : OptionValue → OptionVar
  | .reuseAddress yes => .reuseAddress (Options.reuseAddress yes)
  | .setOutgoingInterface addr => .setOutgoingInterface (Options.setOutgoingInterface addr)
  | .joinGroup iface ifaceIndex mcast =>
      .joinGroup (Options.joinGroup iface ifaceIndex mcast)

def blank : OptionValue → OptionVar
  | .reuseAddress _ => .reuseAddress { level := 0, optname := 0, optval := 0 }
  | .setOutgoingInterface _ =>
      .setOutgoingInterface { level := 0, optname := 0, addr := noAddress }
  | .joinGroup .. =>
      .joinGroup
        { level := 0, optname := 0, iface := noAddress, ifaceIndex := 0#32, mcast := noAddress }

def interfaceRequest (fd : IoHandle) : Option NativeAddress → Option SetRequest
  | some (.ipv4 bytes) => some
      { fd := fd, level := IPPROTO_IP, name := IP_MULTICAST_IF
        object := .inAddr bytes, len := Layout.inAddr.size }
  | some (.ipv6 bytes) => some
      { fd := fd, level := IPPROTO_IPV6, name := IPV6_MULTICAST_IF
        object := .in6Addr bytes, len := Layout.in6Addr.size }
  | none => none

def membershipRequest (fd : IoHandle) (ifaceIndex : BitVec 32) :
    Option NativeAddress → Option NativeAddress → Option SetRequest
  | some (.ipv4 interface), some (.ipv4 multiaddr) => some
      { fd := fd, level := IPPROTO_IP, name := IP_ADD_MEMBERSHIP
        object := .ipMreq multiaddr interface, len := Layout.ipMreq.size }
  | some (.ipv6 _), some (.ipv6 multiaddr) => some
      { fd := fd, level := IPPROTO_IPV6, name := IPV6_ADD_MEMBERSHIP
        object := .ipv6Mreq multiaddr ifaceIndex, len := Layout.ipv6Mreq.size }
  | _, _ => none

/-- The call that the family of the value asks for: level and name of the
family, its object with the bytes of the value, and the size of that object. -/
def expected (fd : IoHandle) : OptionValue → Option SetRequest
  | .reuseAddress yes => some
      { fd := fd, level := SOL_SOCKET, name := SO_REUSEADDR
        object := .int (if yes then 1#32 else 0#32), len := Layout.int.size }
  | .setOutgoingInterface addr => interfaceRequest fd addr.native
  | .joinGroup iface ifaceIndex mcast =>
      membershipRequest fd ifaceIndex iface.native mcast.native

def HeldBy : OptionValue → OptionVar → Prop
  | .reuseAddress yes, .reuseAddress opt => opt.optval = if yes then 1 else 0
  | .setOutgoingInterface addr, .setOutgoingInterface opt => opt.addr.Same addr
  | .joinGroup iface ifaceIndex mcast, .joinGroup opt =>
      opt.iface.Same iface ∧ opt.ifaceIndex = ifaceIndex ∧ opt.mcast.Same mcast
  | _, _ => False

end OptionValue

/-- `set_option` makes the call the value asks for, and `get_option` into a
default constructed object asks for the same option and yields the value. -/
def RoundTrips (inet : Inet) (stack : Stack) (kernel : Kernel) (fd : IoHandle)
    (value : OptionValue) : Prop :=
  ∃ request, value.expected fd = some request ∧
    (setOption Kernel.setsockoptError fd value.construct).1 = some request ∧
    ∃ query,
      (getOption inet stack (kernel.setsockopt request).getsockopt fd value.blank).request =
        some query ∧
      query.level = request.level ∧ query.name = request.name ∧
      value.HeldBy (getOption inet stack (kernel.setsockopt request).getsockopt fd value.blank).opt

def OptionValue.OneFamily : OptionValue → Prop
  | .reuseAddress _ => True
  | .setOutgoingInterface addr => addr.family = family.v4 ∨ addr.family = family.v6
  | .joinGroup iface _ mcast =>
      (iface.family = family.v4 ∨ iface.family = family.v6) ∧ mcast.family = iface.family

def SocketOptionsRoundTrip : Prop :=
  ∀ (inet : Inet) (stack : Stack) (kernel : Kernel) (fd : IoHandle) (value : OptionValue),
    value.OneFamily → RoundTrips inet stack kernel fd value

/-! ### Setting -/

/-- The values whose call has the level, the name, the object and the length of
their family: `IPPROTO_IP` is the level of every address option, and an
`address_option` gives the length of a text. -/
def OptionValue.Encoded : OptionValue → Prop
  | .reuseAddress _ => True
  | .setOutgoingInterface _ => False
  | .joinGroup iface _ mcast => iface.family = family.v4 ∧ mcast.family = family.v4

theorem OptionValue.interfaceRequest_accepted {fd : IoHandle} {native : Option NativeAddress}
    {request : SetRequest} (expected : interfaceRequest fd native = some request) :
    Kernel.accepts request := by
  rcases native with _ | bytes | bytes
  · cases expected
  · rw [← Option.some.inj expected]
    exact ⟨rfl, rfl⟩
  · rw [← Option.some.inj expected]
    exact ⟨rfl, rfl⟩

theorem OptionValue.membershipRequest_accepted {fd : IoHandle} {ifaceIndex : BitVec 32}
    {iface mcast : Option NativeAddress} {request : SetRequest}
    (expected : membershipRequest fd ifaceIndex iface mcast = some request) :
    Kernel.accepts request ∧ nativeFamily iface = nativeFamily mcast := by
  rcases iface with _ | interface | interface
  · cases expected
  · rcases mcast with _ | multiaddr | multiaddr
    · cases expected
    · rw [← Option.some.inj expected]
      exact ⟨⟨rfl, rfl⟩, rfl⟩
    · cases expected
  · rcases mcast with _ | multiaddr | multiaddr
    · cases expected
    · cases expected
    · rw [← Option.some.inj expected]
      exact ⟨⟨rfl, rfl⟩, rfl⟩

theorem OptionValue.accepts_expected {fd : IoHandle} {value : OptionValue}
    {request : SetRequest} (expected : value.expected fd = some request) :
    Kernel.accepts request := by
  cases value with
  | reuseAddress yes =>
      rw [← Option.some.inj expected]
      exact ⟨rfl, rfl⟩
  | setOutgoingInterface addr => exact interfaceRequest_accepted expected
  | joinGroup iface ifaceIndex mcast => exact (membershipRequest_accepted expected).1

section Setting

variable (call : SetRequest → Option Errno) (fd : IoHandle)

theorem setOption_reuseAddress (yes : Bool) :
    (setOption call fd (OptionValue.reuseAddress yes).construct).1 =
      (OptionValue.reuseAddress yes).expected fd := by
  cases yes <;> rfl

/-- `native_address_length` is the length of a text, and no option has an object
of that size, so the kernel refuses every address option. -/
theorem setAddressOption_refused (opt : AddressOption) {request : SetRequest}
    (issued : (setAddressOption call fd opt).1 = some request) :
    ¬Kernel.accepts request := by
  unfold setAddressOption nativeAddressLength issue at issued
  simp only [family_eq_v4_iff, family_eq_v6_iff] at issued
  intro accepted
  by_cases quad : opt.addr.af = AF_INET
  · simp only [if_pos quad, Option.some.injEq] at issued
    rw [← issued] at accepted
    have sameSize : INET_ADDRSTRLEN = Layout.inAddr.size := accepted.2
    exact absurd sameSize (by decide)
  · simp only [if_neg quad] at issued
    by_cases groups : opt.addr.af = AF_INET6
    · simp only [if_pos groups, Option.some.injEq] at issued
      rw [← issued] at accepted
      have sameSize : INET6_ADDRSTRLEN = Layout.in6Addr.size := accepted.2
      exact absurd sameSize (by decide)
    · simp [if_neg groups] at issued

theorem setOption_joinGroup_v6_refused {iface mcast : IpAddress} (ifaceIndex : BitVec 32)
    (groups : iface.family = family.v6) {request : SetRequest}
    (issued : (setOption call fd
      (OptionValue.joinGroup iface ifaceIndex mcast).construct).1 = some request) :
    ¬Kernel.accepts request := by
  have notQuad : iface.family ≠ family.v4 := by
    rw [groups]
    decide
  change (setGroupOption call fd (joinGroup iface ifaceIndex mcast)).1 = some request at issued
  unfold setGroupOption joinGroup issue at issued
  simp only [if_neg notQuad, if_pos groups, Option.some.injEq] at issued
  rw [← issued]
  intro accepted
  have sameLayout : layoutOf IPPROTO_IP IP_ADD_MEMBERSHIP = some .ipv6Mreq := accepted.1
  exact absurd sameLayout (by decide)

theorem setOption_joinGroup_v4 {iface mcast : IpAddress} (ifaceIndex : BitVec 32)
    (quadIface : iface.family = family.v4) (quadMcast : mcast.family = family.v4) :
    (setOption call fd (OptionValue.joinGroup iface ifaceIndex mcast).construct).1 =
      (OptionValue.joinGroup iface ifaceIndex mcast).expected fd := by
  change _ = OptionValue.membershipRequest fd ifaceIndex iface.native mcast.native
  rw [native_of_v4 ((family_eq_v4_iff iface).mp quadIface),
    native_of_v4 ((family_eq_v4_iff mcast).mp quadMcast)]
  change (setGroupOption call fd (joinGroup iface ifaceIndex mcast)).1 = _
  unfold setGroupOption joinGroup
  rw [if_pos quadIface]
  rfl

/-- The calls that fit are those of `reuse_address` and of an IPv4 group. -/
theorem setOption_expected_iff (value : OptionValue) :
    (∃ request, value.expected fd = some request ∧
        (setOption call fd value.construct).1 = some request) ↔ value.Encoded := by
  cases value with
  | reuseAddress yes =>
      constructor
      · intro _
        trivial
      · intro _
        exact ⟨_, rfl, setOption_reuseAddress call fd yes⟩
  | setOutgoingInterface addr =>
      constructor
      · rintro ⟨request, expected, issued⟩
        exact setAddressOption_refused call fd (setOutgoingInterface addr) issued
          (OptionValue.interfaceRequest_accepted expected)
      · intro encoded
        exact encoded.elim
  | joinGroup iface ifaceIndex mcast =>
      constructor
      · rintro ⟨request, expected, issued⟩
        obtain ⟨accepted, oneFamily⟩ := OptionValue.membershipRequest_accepted expected
        by_cases quad : iface.family = family.v4
        · refine ⟨quad, ?_⟩
          rw [← nativeFamily_eq_v4_iff, ← oneFamily, nativeFamily_eq_v4_iff]
          exact quad
        · by_cases groups : iface.family = family.v6
          · exact absurd accepted
              (setOption_joinGroup_v6_refused call fd ifaceIndex groups issued)
          · change OptionValue.membershipRequest fd ifaceIndex iface.native _ = _ at expected
            rw [native_eq_none (fun same => quad ((family_eq_v4_iff iface).mpr same))
              (fun same => groups ((family_eq_v6_iff iface).mpr same))] at expected
            cases expected
      · rintro ⟨quadIface, quadMcast⟩
        have issued := setOption_joinGroup_v4 call fd ifaceIndex quadIface quadMcast
        rw [issued]
        change ∃ request, OptionValue.membershipRequest fd ifaceIndex iface.native mcast.native =
          some request ∧ OptionValue.membershipRequest fd ifaceIndex iface.native mcast.native =
          some request
        rw [native_of_v4 ((family_eq_v4_iff iface).mp quadIface),
          native_of_v4 ((family_eq_v4_iff mcast).mp quadMcast)]
        exact ⟨_, rfl, rfl⟩

end Setting

/-! ### Getting -/

/-- The kernel knows no option of the level and name that default constructed
objects have. -/
theorem Kernel.stored_zero (kernel : Kernel) (fd : IoHandle) :
    kernel.stored fd 0 0 = none := by
  cases held : kernel.stored fd 0 0 with
  | none => rfl
  | some object =>
      have fits := kernel.fits fd 0 0 object held
      cases fits

section Getting

variable (inet : Inet) (stack : Stack) (kernel : Kernel) (fd : IoHandle)

/-- `get_option` leaves a default constructed object as it is: it asks for the
option `(0, 0)`, or for none, as the object has no family. -/
theorem getOption_blank (value : OptionValue) :
    (getOption inet stack kernel.getsockopt fd value.blank).opt = value.blank ∧
      ∀ query, (getOption inet stack kernel.getsockopt fd value.blank).request = some query →
        query.level = 0 ∧ query.name = 0 := by
  cases value with
  | reuseAddress yes =>
      have unknown : kernel.getsockopt { fd := fd, level := 0, name := 0, size := 4 } =
          .error ENOPROTOOPT := by
        unfold Kernel.getsockopt
        rw [kernel.stored_zero fd]
      unfold OptionValue.blank getOption getIntOption fetch GetOutcome.map
      simp only [Layout.size, unknown]
      refine ⟨trivial, ?_⟩
      intro query asked
      rw [← Option.some.inj asked]
      exact ⟨rfl, rfl⟩
  | setOutgoingInterface addr =>
      refine ⟨rfl, ?_⟩
      intro query asked
      cases asked
  | joinGroup iface ifaceIndex mcast =>
      refine ⟨rfl, ?_⟩
      intro query asked
      cases asked

/-- No value comes back: the call that sets it goes to an option other than the
one a default constructed object asks for. -/
theorem never_roundTrips (value : OptionValue) : ¬RoundTrips inet stack kernel fd value := by
  rintro ⟨request, expected, issued, query, asked, level, name, held⟩
  have blank := (getOption_blank inet stack (kernel.setsockopt request) fd value).2 query asked
  have accepted := OptionValue.accepts_expected expected
  have known := accepted.1
  rw [← level, ← name, blank.1, blank.2] at known
  cases known

end Getting

/-- `reuse_address(true)` is set, and not seen by `reuse_address()`. -/
theorem socketOptionsRoundTrip_false : ¬SocketOptionsRoundTrip := by
  intro holds
  have kernel : Kernel := { stored := fun _ _ _ => none, fits := fun _ _ _ _ held => nomatch held }
  have stack : Stack := { bytes := fun _ => 0, ifaceUnion := 0#128, mcastUnion := 0#128 }
  obtain ⟨request, expected, _, query, asked, level, _⟩ :=
    holds plainInet stack kernel 3 (.reuseAddress true) trivial
  have zero := (getOption_blank plainInet stack (kernel.setsockopt request) 3
    (.reuseAddress true)).2 query asked
  have setLevel : SOL_SOCKET = request.level :=
    congrArg SetRequest.level (Option.some.inj expected)
  rw [← level, zero.1] at setLevel
  exact absurd setLevel (by decide)

/-! ### Objects that carry the option already -/

theorem Kernel.getsockopt_setsockopt (kernel : Kernel) {request : SetRequest}
    (accepted : accepts request) {query : GetRequest} (fd : query.fd = request.fd)
    (level : query.level = request.level) (name : query.name = request.name) :
    (kernel.setsockopt request).getsockopt query = .ok request.object.bytes := by
  unfold getsockopt setsockopt
  rw [dif_pos accepted]
  simp only [fd, level, name, and_self, if_true]

theorem fetch_ok {Opt : Type} {call : GetRequest → Except Errno (List Nat)}
    {request : GetRequest} {buffer bytes : List Nat} (opt : Opt) (store : List Nat → Opt)
    (answered : call request = .ok bytes) (whole : bytes.length = buffer.length) :
    fetch call request buffer opt store =
      { request := some request, code := ec.OK, opt := store bytes } := by
  unfold fetch
  rw [answered]
  simp only [copied_of_length_eq whole]

@[simp] theorem Stack.length_buffer (stack : Stack) (size : Nat) :
    (stack.buffer size).length = size := by
  simp [Stack.buffer]

section Constructed

variable (inet : Inet) (stack : Stack) (kernel : Kernel) (fd : IoHandle)

theorem getOption_reuseAddress (yes other : Bool) {request : SetRequest}
    (expected : (OptionValue.reuseAddress yes).expected fd = some request) :
    (OptionValue.reuseAddress yes).HeldBy
      (getOption inet stack (kernel.setsockopt request).getsockopt fd
        (OptionValue.reuseAddress other).construct).opt := by
  have accepted := OptionValue.accepts_expected expected
  have shape := Option.some.inj expected
  change (getIntOption (kernel.setsockopt request).getsockopt fd
    (reuseAddress other)).opt.optval = if yes then 1 else 0
  unfold getIntOption
  rw [fetch_ok _ _ (kernel.getsockopt_setsockopt accepted
      (congrArg SetRequest.fd shape) (congrArg SetRequest.level shape)
      (congrArg SetRequest.name shape))
    (by rw [OptionObject.length_bytes, ← accepted.2, ← shape, length_wordBytes]; rfl)]
  rw [← shape]
  change (readWord 32 0 4 (wordBytes 4 (if yes then 1#32 else 0#32))).toInt = _
  cases yes with
  | false => decide
  | true => decide

/-- An object made by `join_group` for IPv4 reads back the two addresses; the
index of the interface is no part of the IPv4 object. -/
theorem getOption_joinGroup_v4 {iface mcast otherIface : IpAddress}
    (ifaceIndex otherIndex : BitVec 32) (otherMcast : IpAddress)
    (quadIface : iface.family = family.v4) (quadMcast : mcast.family = family.v4)
    (quadOther : otherIface.family = family.v4) {request : SetRequest}
    (expected : (OptionValue.joinGroup iface ifaceIndex mcast).expected fd = some request) :
    (OptionValue.joinGroup iface otherIndex mcast).HeldBy
      (getOption inet stack (kernel.setsockopt request).getsockopt fd
        (OptionValue.joinGroup otherIface otherIndex otherMcast).construct).opt := by
  have accepted := OptionValue.accepts_expected expected
  change OptionValue.membershipRequest fd ifaceIndex iface.native mcast.native = _ at expected
  rw [native_of_v4 ((family_eq_v4_iff iface).mp quadIface),
    native_of_v4 ((family_eq_v4_iff mcast).mp quadMcast)] at expected
  have shape := Option.some.inj expected
  change OptionValue.HeldBy _ (OptionVar.joinGroup (getGroupOption inet stack
    (kernel.setsockopt request).getsockopt fd (joinGroup otherIface otherIndex otherMcast)).opt)
  unfold getGroupOption joinGroup
  rw [if_pos quadOther]
  rw [fetch_ok _ _ (kernel.getsockopt_setsockopt accepted
      (congrArg SetRequest.fd shape) (congrArg SetRequest.level shape)
      (congrArg SetRequest.name shape))
    (by rw [OptionObject.length_bytes, ← accepted.2, ← shape, Stack.length_buffer])]
  rw [← shape]
  have readMcast : readWord 32 0 4 (wordBytes 4 mcast.ipv4 ++ wordBytes 4 iface.ipv4) =
      mcast.ipv4 := readWord_append [] _ mcast.ipv4 (by decide)
  have readIface : readWord 32 4 4 (wordBytes 4 mcast.ipv4 ++ wordBytes 4 iface.ipv4) =
      iface.ipv4 := by
    simpa using readWord_append (wordBytes 4 mcast.ipv4) [] iface.ipv4 (by decide)
  change (IpAddress.ofIpv4 stack.ifaceUnion (readWord 32 4 4
      (wordBytes 4 mcast.ipv4 ++ wordBytes 4 iface.ipv4))).Same iface ∧ otherIndex = otherIndex ∧
    (IpAddress.ofIpv4 stack.mcastUnion (readWord 32 0 4
      (wordBytes 4 mcast.ipv4 ++ wordBytes 4 iface.ipv4))).Same mcast
  rw [readMcast, readIface]
  exact ⟨same_ofIpv4 quadIface _, rfl, same_ofIpv4 quadMcast _⟩

end Constructed

end BabaIo.Options
