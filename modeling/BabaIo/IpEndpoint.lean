import Mathlib.Tactic.Common

/-
`ip_address` and `ip_endpoint` as far as the socket calls read them.

Words are kept as they lie in memory: a port or an IPv4 address of a native
structure is in network byte order, and the union of `native_address_storage`
is a 128-bit word whose first four bytes are the IPv4 address.  The native
socket of an endpoint is the storage that its `sockaddr_in` view and its
`sockaddr_in6` view overlay.
-/

set_option autoImplicit false

namespace BabaIo

abbrev AddressFamily := Nat

def AF_INET : BitVec 16 := 2#16
def AF_INET6 : BitVec 16 := 10#16

namespace family

def v4 : AddressFamily := AF_INET.toNat
def v6 : AddressFamily := AF_INET6.toNat
def unknown : AddressFamily := 0

end family

def htons (port : BitVec 16) : BitVec 16 :=
  port.extractLsb' 0 8 ++ port.extractLsb' 8 8

def ntohs (port : BitVec 16) : BitVec 16 := htons port

@[simp] theorem ntohs_htons (port : BitVec 16) : ntohs (htons port) = port := by
  unfold ntohs htons
  ext index inside
  simp only [BitVec.getElem_append, BitVec.getElem_extractLsb', BitVec.getLsbD_append,
    BitVec.getLsbD_extractLsb']
  by_cases low : index < 8
  · have swapped : ¬8 + index < 8 := by omega
    simp [low, swapped, inside]
  · have restored : 8 + (index - 8) = index := by omega
    have within : index - 8 < 8 := by omega
    simp [low, restored, within, inside]

structure IpAddress where
  storage : BitVec 128
  af : BitVec 16
  deriving DecidableEq

namespace IpAddress

def ipv4 (address : IpAddress) : BitVec 32 := address.storage.extractLsb' 0 32

def ipv6 (address : IpAddress) : BitVec 128 := address.storage

def family (address : IpAddress) : AddressFamily := address.af.toNat

def ofIpv6 (ipv6Addr : BitVec 128) : IpAddress :=
  { storage := ipv6Addr, af := AF_INET6 }

/-- A write to `storage.ipv4_addr` leaves the other twelve bytes of the union. -/
def writeIpv4 (memory : BitVec 128) (ipv4Addr : BitVec 32) : BitVec 128 :=
  memory.extractLsb' 32 96 ++ ipv4Addr

/-- `ip_address(const in_addr &)`; `memory` is what the union held before. -/
def ofIpv4 (memory : BitVec 128) (ipv4Addr : BitVec 32) : IpAddress :=
  { storage := writeIpv4 memory ipv4Addr, af := AF_INET }

@[simp] theorem extractLsb'_writeIpv4 (memory : BitVec 128) (ipv4Addr : BitVec 32) :
    (writeIpv4 memory ipv4Addr).extractLsb' 0 32 = ipv4Addr := by
  ext index inside
  rw [BitVec.getElem_extractLsb']
  unfold writeIpv4
  rw [BitVec.getLsbD_append]
  simp [inside]

@[simp] theorem ipv4_ofIpv4 (memory : BitVec 128) (ipv4Addr : BitVec 32) :
    (ofIpv4 memory ipv4Addr).ipv4 = ipv4Addr := extractLsb'_writeIpv4 memory ipv4Addr

end IpAddress

structure SockaddrIn where
  sinFamily : BitVec 16
  sinPort : BitVec 16
  sinAddr : BitVec 32
  sinZero : BitVec 64
  deriving DecidableEq

structure SockaddrIn6 where
  sin6Family : BitVec 16
  sin6Port : BitVec 16
  sin6Flowinfo : BitVec 32
  sin6Addr : BitVec 128
  sin6ScopeId : BitVec 32
  deriving DecidableEq

/-- The bytes of `sockaddr_storage` that one of the two views reads. -/
structure NativeSocketStorage where
  family : BitVec 16
  port : BitVec 16
  /-- `sin_addr` of one view, `sin6_flowinfo` of the other. -/
  word : BitVec 32
  /-- `sin_zero` in its first eight bytes, or `sin6_addr`. -/
  block : BitVec 128
  scope : BitVec 32
  deriving DecidableEq

namespace NativeSocketStorage

def zero : NativeSocketStorage :=
  { family := 0#16, port := 0#16, word := 0#32, block := 0#128, scope := 0#32 }

def ipv4 (storage : NativeSocketStorage) : SockaddrIn :=
  { sinFamily := storage.family
    sinPort := storage.port
    sinAddr := storage.word
    sinZero := storage.block.extractLsb' 0 64 }

def ipv6 (storage : NativeSocketStorage) : SockaddrIn6 :=
  { sin6Family := storage.family
    sin6Port := storage.port
    sin6Flowinfo := storage.word
    sin6Addr := storage.block
    sin6ScopeId := storage.scope }

end NativeSocketStorage

structure IpEndpoint where
  sock : NativeSocketStorage
  sockLen : Nat
  address : IpAddress
  port : BitVec 16
  deriving DecidableEq

def sizeofSockaddrIn : Nat := 16
def sizeofSockaddrIn6 : Nat := 28

namespace IpEndpoint

def nativeSocket (endpoint : IpEndpoint) : NativeSocketStorage := endpoint.sock

def nativeSocketLength (endpoint : IpEndpoint) : Nat := endpoint.sockLen

/-- Encode `_address` and `_port`; another family leaves the storage as it is. -/
def initNativeSocket (endpoint : IpEndpoint) : IpEndpoint :=
  if endpoint.address.family = family.v4 then
    { endpoint with
      sock := { endpoint.sock with
        family := AF_INET
        port := htons endpoint.port
        word := endpoint.address.ipv4
        block := endpoint.sock.block.extractLsb' 64 64 ++ 0#64 }
      sockLen := sizeofSockaddrIn }
  else if endpoint.address.family = family.v6 then
    { endpoint with
      sock :=
        { family := AF_INET6
          port := htons endpoint.port
          word := 0#32
          block := endpoint.address.ipv6
          scope := 0#32 }
      sockLen := sizeofSockaddrIn6 }
  else endpoint

/-- `ip_endpoint(const ip_address &, uint16_t)`; `memory` is what the native
storage held before, which the constructor does not clear. -/
def ofAddress (memory : NativeSocketStorage) (address : IpAddress)
    (port : BitVec 16) : IpEndpoint :=
  initNativeSocket { sock := memory, sockLen := 0, address := address, port := port }

def ofSockaddrIn (memory : NativeSocketStorage) (union : BitVec 128)
    (ipv4Sock : SockaddrIn) : IpEndpoint :=
  initNativeSocket
    { sock := memory
      sockLen := 0
      address := IpAddress.ofIpv4 union ipv4Sock.sinAddr
      port := ntohs ipv4Sock.sinPort }

def ofSockaddrIn6 (memory : NativeSocketStorage) (ipv6Sock : SockaddrIn6) : IpEndpoint :=
  initNativeSocket
    { sock := memory
      sockLen := 0
      address := IpAddress.ofIpv6 ipv6Sock.sin6Addr
      port := ntohs ipv6Sock.sin6Port }

@[simp] theorem ofAddress_address (memory : NativeSocketStorage) (address : IpAddress)
    (port : BitVec 16) : (ofAddress memory address port).address = address := by
  unfold ofAddress initNativeSocket
  split
  · rfl
  · split <;> rfl

/-- An IPv4 endpoint hands its address and port to the system, in network byte
order and with zero padding. -/
theorem nativeSocket_ofAddress_v4 (memory : NativeSocketStorage)
    {address : IpAddress} (port : BitVec 16)
    (ipv4 : address.family = family.v4) :
    (ofAddress memory address port).nativeSocket.ipv4 =
        { sinFamily := AF_INET
          sinPort := htons port
          sinAddr := address.ipv4
          sinZero := 0#64 } ∧
      (ofAddress memory address port).nativeSocketLength = sizeofSockaddrIn := by
  unfold ofAddress initNativeSocket
  rw [if_pos ipv4]
  refine ⟨?_, rfl⟩
  simp only [nativeSocket, NativeSocketStorage.ipv4, SockaddrIn.mk.injEq, true_and]
  ext index inside
  rw [BitVec.getElem_extractLsb', BitVec.getLsbD_append]
  simp [inside]

end IpEndpoint

end BabaIo
