import BabaIo.IpEndpoint
import BabaIo.Library.Numerals
import Mathlib.Data.List.TakeWhile

/-
The text forms of `ip_address` and `ip_endpoint`, and the comparisons that are
made on them.

A `std::string` is the list of its characters and may contain NUL; `c_str()`
stops at the first.  `inet_pton` and `inet_ntop` belong to the system and are
the parameter `Inet`.
-/

set_option autoImplicit false

namespace BabaIo

/-- `inet_pton` and `inet_ntop` for `AF_INET` and `AF_INET6`.  The parser gets a C
string, and where its result is `none` it has written nothing. -/
structure Inet where
  pton4 : List Char → Option (BitVec 32)
  pton6 : List Char → Option (BitVec 128)
  ntop4 : BitVec 32 → List Char
  ntop6 : BitVec 128 → List Char

def nul : Char := Char.ofNat 0

def cStr (text : List Char) : List Char := text.takeWhile (· ≠ nul)

namespace IpAddress

/-- `ip_address(const std::string &)`; `memory` is what the union holds before,
which the constructor does not clear.  The verdict of `inet_pton` is not read. -/
def ofText (inet : Inet) (memory : BitVec 128) (address : List Char) : IpAddress :=
  if 2 ≤ address.count ':' then
    { storage := (inet.pton6 (cStr address)).getD memory
      af := AF_INET6 }
  else if address.count '.' = 3 then
    { storage := ((inet.pton4 (cStr address)).map (writeIpv4 memory)).getD memory
      af := AF_INET }
  else
    { storage := memory, af := 0#16 }

def toText (inet : Inet) (address : IpAddress) : List Char :=
  if address.af = AF_INET then inet.ntop4 address.ipv4
  else if address.af = AF_INET6 then inet.ntop6 address.ipv6
  else []

def equals (inet : Inet) (lhs rhs : IpAddress) : Bool :=
  lhs.toText inet == rhs.toText inet

end IpAddress

namespace IpEndpoint

def ofText (inet : Inet) (memory : NativeSocketStorage) (union : BitVec 128)
    (address : List Char) (port : BitVec 16) : IpEndpoint :=
  ofAddress memory (IpAddress.ofText inet union address) port

def toText (inet : Inet) (endpoint : IpEndpoint) : List Char :=
  endpoint.address.toText inet ++ ':' :: Nat.toDigits 10 endpoint.port.toNat

def equals (inet : Inet) (lhs rhs : IpEndpoint) : Bool :=
  lhs.toText inet == rhs.toText inet

end IpEndpoint

/-! ### What an address means -/

inductive NativeAddress where
  | ipv4 (bytes : BitVec 32)
  | ipv6 (bytes : BitVec 128)
  deriving DecidableEq

def nativeFamily : Option NativeAddress → AddressFamily
  | some (.ipv4 _) => family.v4
  | some (.ipv6 _) => family.v6
  | none => family.unknown

def IpAddress.native (address : IpAddress) : Option NativeAddress :=
  if address.af = AF_INET then some (.ipv4 address.ipv4)
  else if address.af = AF_INET6 then some (.ipv6 address.ipv6)
  else none

/-- The addresses that the constructors make from native structures and from
text. -/
inductive IpAddress.Built (inet : Inet) : IpAddress → Prop where
  | ipv4 (memory : BitVec 128) (ipv4Addr : BitVec 32) :
      Built inet (IpAddress.ofIpv4 memory ipv4Addr)
  | ipv6 (ipv6Addr : BitVec 128) : Built inet (IpAddress.ofIpv6 ipv6Addr)
  | text (memory : BitVec 128) (address : List Char) :
      Built inet (IpAddress.ofText inet memory address)

inductive IpEndpoint.Built (inet : Inet) : IpEndpoint → Prop where
  | address (memory : NativeSocketStorage) {address : IpAddress} (port : BitVec 16)
      (built : address.Built inet) : Built inet (IpEndpoint.ofAddress memory address port)
  | text (memory : NativeSocketStorage) (union : BitVec 128) (address : List Char)
      (port : BitVec 16) : Built inet (IpEndpoint.ofText inet memory union address port)
  | sockaddrIn (memory : NativeSocketStorage) (union : BitVec 128) (ipv4Sock : SockaddrIn) :
      Built inet (IpEndpoint.ofSockaddrIn memory union ipv4Sock)
  | sockaddrIn6 (memory : NativeSocketStorage) (ipv6Sock : SockaddrIn6) :
      Built inet (IpEndpoint.ofSockaddrIn6 memory ipv6Sock)

def IpAddress.Same (lhs rhs : IpAddress) : Prop :=
  lhs.family = rhs.family ∧ lhs.native = rhs.native

namespace Inet

def text (inet : Inet) : Option NativeAddress → List Char
  | some (.ipv4 bytes) => inet.ntop4 bytes
  | some (.ipv6 bytes) => inet.ntop6 bytes
  | none => []

@[simp] theorem text_ipv4 (inet : Inet) (bytes : BitVec 32) :
    inet.text (some (.ipv4 bytes)) = inet.ntop4 bytes := rfl

@[simp] theorem text_ipv6 (inet : Inet) (bytes : BitVec 128) :
    inet.text (some (.ipv6 bytes)) = inet.ntop6 bytes := rfl

/-- What `inet_ntop` writes: dotted-quad text for IPv4, groups of hexadecimal
digits between colons for IPv6, and text that `inet_pton` reads back. -/
structure Renders (inet : Inet) : Prop where
  quadChars : ∀ bytes, ∀ symbol ∈ inet.ntop4 bytes, symbol.isDigit = true ∨ symbol = '.'
  quadDots : ∀ bytes, (inet.ntop4 bytes).count '.' = 3
  groupChars : ∀ bytes, ∀ symbol ∈ inet.ntop6 bytes,
    Numerals.isHexDigit symbol = true ∨ symbol = ':' ∨ symbol = '.'
  groupColons : ∀ bytes, 2 ≤ (inet.ntop6 bytes).count ':'
  readsQuad : ∀ bytes, inet.pton4 (inet.ntop4 bytes) = some bytes
  readsGroups : ∀ bytes, inet.pton6 (inet.ntop6 bytes) = some bytes

variable {inet : Inet} (renders : inet.Renders)

include renders

theorem Renders.ntop4_inj {first second : BitVec 32} :
    inet.ntop4 first = inet.ntop4 second ↔ first = second := by
  constructor
  · intro same
    have read := renders.readsQuad first
    rw [same, renders.readsQuad second] at read
    exact (Option.some.inj read).symm
  · intro same
    rw [same]

theorem Renders.ntop6_inj {first second : BitVec 128} :
    inet.ntop6 first = inet.ntop6 second ↔ first = second := by
  constructor
  · intro same
    have read := renders.readsGroups first
    rw [same, renders.readsGroups second] at read
    exact (Option.some.inj read).symm
  · intro same
    rw [same]

theorem Renders.colon_notMem (bytes : BitVec 32) : ':' ∉ inet.ntop4 bytes := by
  intro inside
  have written := renders.quadChars bytes ':' inside
  exact absurd written (by decide)

theorem Renders.ntop4_ne_ntop6 (quad : BitVec 32) (groups : BitVec 128) :
    inet.ntop4 quad ≠ inet.ntop6 groups := by
  intro same
  have colons := renders.groupColons groups
  rw [← same, List.count_eq_zero.mpr (renders.colon_notMem quad)] at colons
  omega

theorem Renders.ntop4_ne_nil (bytes : BitVec 32) : inet.ntop4 bytes ≠ [] := by
  intro empty
  have dots := renders.quadDots bytes
  rw [empty] at dots
  exact absurd dots (by decide)

theorem Renders.ntop6_ne_nil (bytes : BitVec 128) : inet.ntop6 bytes ≠ [] := by
  intro empty
  have colons := renders.groupColons bytes
  rw [empty] at colons
  exact absurd colons (by decide)

/-- The text decides the family and the bytes. -/
theorem Renders.text_inj {first second : Option NativeAddress} :
    inet.text first = inet.text second ↔ first = second := by
  constructor
  · intro same
    cases first with
    | none =>
        cases second with
        | none => rfl
        | some second =>
            cases second with
            | ipv4 bytes => exact absurd same.symm (renders.ntop4_ne_nil bytes)
            | ipv6 bytes => exact absurd same.symm (renders.ntop6_ne_nil bytes)
    | some first =>
        cases first with
        | ipv4 bytes =>
            cases second with
            | none => exact absurd same (renders.ntop4_ne_nil bytes)
            | some second =>
                cases second with
                | ipv4 other => rw [renders.ntop4_inj.mp same]
                | ipv6 other => exact absurd same (renders.ntop4_ne_ntop6 bytes other)
        | ipv6 bytes =>
            cases second with
            | none => exact absurd same (renders.ntop6_ne_nil bytes)
            | some second =>
                cases second with
                | ipv4 other => exact absurd same.symm (renders.ntop4_ne_ntop6 other bytes)
                | ipv6 other => rw [renders.ntop6_inj.mp same]
  · intro same
    rw [same]

end Inet

/-! ### The family of an address -/

namespace IpAddress

theorem family_eq_v4_iff (address : IpAddress) :
    address.family = family.v4 ↔ address.af = AF_INET := BitVec.toNat_inj

theorem family_eq_v6_iff (address : IpAddress) :
    address.family = family.v6 ↔ address.af = AF_INET6 := BitVec.toNat_inj

theorem native_of_v4 {address : IpAddress} (quad : address.af = AF_INET) :
    address.native = some (.ipv4 address.ipv4) := if_pos quad

theorem native_of_v6 {address : IpAddress} (groups : address.af = AF_INET6) :
    address.native = some (.ipv6 address.ipv6) := by
  have notQuad : address.af ≠ AF_INET := by
    rw [groups]
    decide
  unfold native
  rw [if_neg notQuad, if_pos groups]

theorem native_eq_none {address : IpAddress} (notQuad : address.af ≠ AF_INET)
    (notGroups : address.af ≠ AF_INET6) : address.native = none := by
  unfold native
  rw [if_neg notQuad, if_neg notGroups]

theorem nativeFamily_eq_v4_iff (address : IpAddress) :
    nativeFamily address.native = family.v4 ↔ address.family = family.v4 := by
  rw [family_eq_v4_iff]
  by_cases quad : address.af = AF_INET
  · rw [native_of_v4 quad]
    exact iff_of_true rfl quad
  · by_cases groups : address.af = AF_INET6
    · rw [native_of_v6 groups]
      exact iff_of_false (by decide : family.v6 ≠ family.v4) quad
    · rw [native_eq_none quad groups]
      exact iff_of_false (by decide : family.unknown ≠ family.v4) quad

theorem same_ofIpv4 {address : IpAddress} (quad : address.family = family.v4)
    (memory : BitVec 128) : (ofIpv4 memory address.ipv4).Same address := by
  refine ⟨quad.symm, ?_⟩
  rw [native_of_v4 ((family_eq_v4_iff address).mp quad)]
  change some (NativeAddress.ipv4 (ofIpv4 memory address.ipv4).ipv4) = _
  rw [ipv4_ofIpv4]

theorem toText_eq (inet : Inet) (address : IpAddress) :
    address.toText inet = inet.text address.native := by
  unfold toText
  by_cases quad : address.af = AF_INET
  · rw [if_pos quad, native_of_v4 quad]
    rfl
  · rw [if_neg quad]
    by_cases groups : address.af = AF_INET6
    · rw [if_pos groups, native_of_v6 groups]
      rfl
    · rw [if_neg groups, native_eq_none quad groups]
      rfl

/-! ### Choosing the family -/

section Choice

variable (inet : Inet) (memory : BitVec 128) {address : List Char}

theorem ofText_groups (colons : 2 ≤ address.count ':') :
    ofText inet memory address =
      { storage := (inet.pton6 (cStr address)).getD memory, af := AF_INET6 } := if_pos colons

theorem ofText_quad (colons : address.count ':' < 2) (dots : address.count '.' = 3) :
    ofText inet memory address =
      { storage := ((inet.pton4 (cStr address)).map (writeIpv4 memory)).getD memory
        af := AF_INET } := by
  unfold ofText
  rw [if_neg (Nat.not_le_of_lt colons), if_pos dots]

theorem ofText_unknown (colons : address.count ':' < 2) (dots : address.count '.' ≠ 3) :
    ofText inet memory address = { storage := memory, af := 0#16 } := by
  unfold ofText
  rw [if_neg (Nat.not_le_of_lt colons), if_neg dots]

/-- The two counts decide the family. -/
theorem ofText_af_cases (address : List Char) :
    (2 ≤ address.count ':' ∧ (ofText inet memory address).af = AF_INET6) ∨
      (address.count ':' < 2 ∧ address.count '.' = 3 ∧
        (ofText inet memory address).af = AF_INET) ∨
      (address.count ':' < 2 ∧ address.count '.' ≠ 3 ∧
        (ofText inet memory address).af = 0#16) := by
  by_cases colons : 2 ≤ address.count ':'
  · rw [ofText_groups inet memory colons]
    exact Or.inl ⟨colons, rfl⟩
  · have few : address.count ':' < 2 := Nat.lt_of_not_le colons
    by_cases dots : address.count '.' = 3
    · rw [ofText_quad inet memory few dots]
      exact Or.inr (Or.inl ⟨few, dots, rfl⟩)
    · rw [ofText_unknown inet memory few dots]
      exact Or.inr (Or.inr ⟨few, dots, rfl⟩)

/-- The constructor takes a string for IPv4 by its counts alone. -/
theorem ofText_family_v4_iff :
    (ofText inet memory address).family = family.v4 ↔
      address.count ':' < 2 ∧ address.count '.' = 3 := by
  rw [family_eq_v4_iff]
  rcases ofText_af_cases inet memory address with
    ⟨colons, groups⟩ | ⟨colons, dots, quad⟩ | ⟨colons, dots, unknown⟩
  · rw [groups]
    exact iff_of_false (by decide) (fun counts => absurd colons (Nat.not_le_of_lt counts.1))
  · exact iff_of_true quad ⟨colons, dots⟩
  · rw [unknown]
    exact iff_of_false (by decide) (fun counts => dots counts.2)

theorem ofText_family_v6_iff :
    (ofText inet memory address).family = family.v6 ↔ 2 ≤ address.count ':' := by
  rw [family_eq_v6_iff]
  rcases ofText_af_cases inet memory address with
    ⟨colons, groups⟩ | ⟨colons, dots, quad⟩ | ⟨colons, dots, unknown⟩
  · exact iff_of_true groups colons
  · rw [quad]
    exact iff_of_false (by decide) (Nat.not_le_of_lt colons)
  · rw [unknown]
    exact iff_of_false (by decide) (Nat.not_le_of_lt colons)

end Choice

/-! ### Comparing addresses -/

def Known (address : IpAddress) : Prop :=
  address.af = AF_INET ∨ address.af = AF_INET6 ∨ address.af = 0#16

theorem known_ofText (inet : Inet) (memory : BitVec 128) (address : List Char) :
    (ofText inet memory address).Known := by
  rcases ofText_af_cases inet memory address with ⟨_, groups⟩ | ⟨_, _, quad⟩ | ⟨_, _, unknown⟩
  · exact Or.inr (Or.inl groups)
  · exact Or.inl quad
  · exact Or.inr (Or.inr unknown)

theorem Built.known {inet : Inet} {address : IpAddress} (built : address.Built inet) :
    address.Known := by
  cases built with
  | ipv4 memory ipv4Addr => exact Or.inl rfl
  | ipv6 ipv6Addr => exact Or.inr (Or.inl rfl)
  | text memory text => exact known_ofText inet memory text

theorem Known.family_eq {address : IpAddress} (known : address.Known) :
    address.family = nativeFamily address.native := by
  rcases known with quad | groups | unknown
  · rw [native_of_v4 quad]
    exact (family_eq_v4_iff address).mpr quad
  · rw [native_of_v6 groups]
    exact (family_eq_v6_iff address).mpr groups
  · have notQuad : address.af ≠ AF_INET := by
      rw [unknown]
      decide
    have notGroups : address.af ≠ AF_INET6 := by
      rw [unknown]
      decide
    rw [native_eq_none notQuad notGroups]
    unfold IpAddress.family
    rw [unknown]
    rfl

theorem Known.same_iff {lhs rhs : IpAddress} (knownLeft : lhs.Known) (knownRight : rhs.Known) :
    lhs.Same rhs ↔ lhs.native = rhs.native := by
  constructor
  · intro same
    exact same.2
  · intro same
    refine ⟨?_, same⟩
    rw [knownLeft.family_eq, knownRight.family_eq, same]

theorem equals_iff {inet : Inet} (renders : inet.Renders) {lhs rhs : IpAddress}
    (builtLeft : lhs.Built inet) (builtRight : rhs.Built inet) :
    lhs.equals inet rhs = true ↔ lhs.Same rhs := by
  unfold equals
  rw [beq_iff_eq, toText_eq, toText_eq, renders.text_inj,
    builtLeft.known.same_iff builtRight.known]

/-! ### Reading a text back -/

/-- No rendering contains NUL, so `c_str()` shows all of it. -/
theorem cStr_text {inet : Inet} (renders : inet.Renders) (native : Option NativeAddress) :
    cStr (inet.text native) = inet.text native := by
  unfold cStr
  rw [List.takeWhile_eq_self_iff]
  intro symbol member
  rw [decide_eq_true_eq]
  intro isNul
  rw [isNul] at member
  cases native with
  | none => cases member
  | some native =>
      cases native with
      | ipv4 bytes => exact absurd (renders.quadChars bytes nul member) (by decide)
      | ipv6 bytes => exact absurd (renders.groupChars bytes nul member) (by decide)

/-- The constructor guesses the family of a rendering right and reads it back. -/
theorem native_ofText_text {inet : Inet} (renders : inet.Renders) (memory : BitVec 128)
    (native : Option NativeAddress) :
    (ofText inet memory (inet.text native)).native = native := by
  have shown := cStr_text renders native
  cases native with
  | none => rfl
  | some native =>
      cases native with
      | ipv4 bytes =>
          rw [Inet.text_ipv4] at shown ⊢
          have noColon : (inet.ntop4 bytes).count ':' = 0 :=
            List.count_eq_zero.mpr (renders.colon_notMem bytes)
          rw [ofText_quad inet memory (by omega) (renders.quadDots bytes), shown,
            renders.readsQuad bytes]
          exact congrArg (fun stored => some (NativeAddress.ipv4 stored))
            (extractLsb'_writeIpv4 memory bytes)
      | ipv6 bytes =>
          rw [Inet.text_ipv6] at shown ⊢
          rw [ofText_groups inet memory (renders.groupColons bytes), shown,
            renders.readsGroups bytes]
          rfl

theorem same_ofText_toText {inet : Inet} (renders : inet.Renders) (memory : BitVec 128)
    {address : IpAddress} (built : address.Built inet) :
    (ofText inet memory (address.toText inet)).Same address := by
  rw [(known_ofText inet memory (address.toText inet)).same_iff built.known, toText_eq]
  exact native_ofText_text renders memory address.native

end IpAddress

/-! ### Comparing endpoints -/

namespace IpEndpoint

theorem Built.address_built {inet : Inet} {endpoint : IpEndpoint}
    (built : endpoint.Built inet) : endpoint.address.Built inet := by
  cases built with
  | address memory port built =>
      rw [ofAddress_address]
      exact built
  | text memory union address port =>
      unfold ofText
      rw [ofAddress_address]
      exact .text union address
  | sockaddrIn memory union ipv4Sock =>
      change (ofAddress memory (.ofIpv4 union ipv4Sock.sinAddr) _).address.Built inet
      rw [ofAddress_address]
      exact .ipv4 union ipv4Sock.sinAddr
  | sockaddrIn6 memory ipv6Sock =>
      change (ofAddress memory (.ofIpv6 ipv6Sock.sin6Addr) _).address.Built inet
      rw [ofAddress_address]
      exact .ipv6 ipv6Sock.sin6Addr

theorem colon_notMem_decimal (number : Nat) : ':' ∉ Nat.toDigits 10 number := by
  intro inside
  have digit := Nat.isDigit_of_mem_toDigits (by decide) (by decide) inside
  exact absurd digit (by decide)

/-- The last colon separates the address from the port, whatever the family. -/
theorem toText_inj (inet : Inet) {lhs rhs : IpEndpoint} :
    lhs.toText inet = rhs.toText inet ↔
      lhs.address.toText inet = rhs.address.toText inet ∧ lhs.port = rhs.port := by
  unfold toText
  rw [Numerals.append_separator_inj (colon_notMem_decimal lhs.port.toNat)
      (colon_notMem_decimal rhs.port.toNat),
    Numerals.toDigits_inj (by decide) (by decide), BitVec.toNat_inj]

theorem equals_iff (inet : Inet) (lhs rhs : IpEndpoint) :
    lhs.equals inet rhs = true ↔
      lhs.address.equals inet rhs.address = true ∧ lhs.port = rhs.port := by
  unfold equals IpAddress.equals
  rw [beq_iff_eq, beq_iff_eq, toText_inj]

end IpEndpoint

/-! ### A system that abbreviates nothing -/

def groupNumber (chunk : Nat) : Nat := (ntohs (BitVec.ofNat 16 chunk)).toNat

theorem groupNumber_groupNumber {chunk : Nat} (small : chunk < 65536) :
    groupNumber (groupNumber chunk) = chunk := by
  unfold groupNumber
  rw [BitVec.ofNat_toNat, BitVec.setWidth_eq]
  change (ntohs (htons (BitVec.ofNat 16 chunk))).toNat = chunk
  rw [ntohs_htons, BitVec.toNat_ofNat]
  exact Nat.mod_eq_of_lt small

namespace PlainInet

def ntop4 (bytes : BitVec 32) : List Char :=
  Numerals.joined 10 '.' (Numerals.chunks 256 4 bytes.toNat)

def ntop6 (bytes : BitVec 128) : List Char :=
  Numerals.joined 16 ':' ((Numerals.chunks 65536 8 bytes.toNat).map groupNumber)

def read4 (text : List Char) : BitVec 32 :=
  BitVec.ofNat 32 (Numerals.ofChunks 256 (Numerals.separated 10 '.' text))

def read6 (text : List Char) : BitVec 128 :=
  BitVec.ofNat 128
    (Numerals.ofChunks 65536 ((Numerals.separated 16 ':' text).map groupNumber))

theorem read4_ntop4 (bytes : BitVec 32) : read4 (ntop4 bytes) = bytes := by
  have nonempty : Numerals.chunks 256 4 bytes.toNat ≠ [] := List.cons_ne_nil _ _
  have fits : bytes.toNat < 256 ^ 4 := bytes.isLt
  unfold read4 ntop4
  rw [Numerals.separated_joined (by decide) (by decide) (by decide) nonempty,
    Numerals.ofChunks_chunks fits, BitVec.ofNat_toNat, BitVec.setWidth_eq]

theorem read6_ntop6 (bytes : BitVec 128) : read6 (ntop6 bytes) = bytes := by
  have nonempty : (Numerals.chunks 65536 8 bytes.toNat).map groupNumber ≠ [] :=
    List.cons_ne_nil _ _
  have restored : ((Numerals.chunks 65536 8 bytes.toNat).map groupNumber).map groupNumber =
      Numerals.chunks 65536 8 bytes.toNat := by
    rw [List.map_map]
    conv => rhs; rw [← List.map_id (Numerals.chunks 65536 8 bytes.toNat)]
    apply List.map_congr_left
    intro chunk member
    exact groupNumber_groupNumber (Numerals.lt_of_mem_chunks (by decide) member)
  have fits : bytes.toNat < 65536 ^ 8 := bytes.isLt
  unfold read6 ntop6
  rw [Numerals.separated_joined (by decide) (by decide) (by decide) nonempty, restored,
    Numerals.ofChunks_chunks fits, BitVec.ofNat_toNat, BitVec.setWidth_eq]

end PlainInet

/-- A text is accepted when it is what the renderer writes. -/
def plainInet : Inet where
  pton4 text :=
    if PlainInet.ntop4 (PlainInet.read4 text) = text then some (PlainInet.read4 text) else none
  pton6 text :=
    if PlainInet.ntop6 (PlainInet.read6 text) = text then some (PlainInet.read6 text) else none
  ntop4 := PlainInet.ntop4
  ntop6 := PlainInet.ntop6

theorem plainInet_renders : plainInet.Renders where
  quadChars bytes symbol member := by
    rcases Numerals.mem_joined member with dot | ⟨number, _, inside⟩
    · exact Or.inr dot
    · exact Or.inl (Nat.isDigit_of_mem_toDigits (by decide) (by decide) inside)
  quadDots bytes := by
    have counted : (PlainInet.ntop4 bytes).count '.' + 1 = 4 :=
      (Numerals.count_joined (by decide) (by decide) (by decide) (List.cons_ne_nil _ _)).trans
        (Numerals.length_chunks 256 4 bytes.toNat)
    exact Nat.succ.inj counted
  groupChars bytes symbol member := by
    rcases Numerals.mem_joined member with colon | ⟨number, _, inside⟩
    · exact Or.inr (Or.inl colon)
    · exact Or.inl (Numerals.isHexDigit_of_mem_toDigits (by decide) (by decide) inside)
  groupColons bytes := by
    have groups : ((Numerals.chunks 65536 8 bytes.toNat).map groupNumber).length = 8 := by
      rw [List.length_map, Numerals.length_chunks]
    have counted : (PlainInet.ntop6 bytes).count ':' + 1 = 8 :=
      (Numerals.count_joined (by decide) (by decide) (by decide)
        (List.cons_ne_nil _ _)).trans groups
    change 2 ≤ (PlainInet.ntop6 bytes).count ':'
    omega
  readsQuad bytes := by
    change (if PlainInet.ntop4 (PlainInet.read4 (PlainInet.ntop4 bytes)) = PlainInet.ntop4 bytes
      then some (PlainInet.read4 (PlainInet.ntop4 bytes)) else none) = some bytes
    rw [PlainInet.read4_ntop4, if_pos rfl]
  readsGroups bytes := by
    change (if PlainInet.ntop6 (PlainInet.read6 (PlainInet.ntop6 bytes)) = PlainInet.ntop6 bytes
      then some (PlainInet.read6 (PlainInet.ntop6 bytes)) else none) = some bytes
    rw [PlainInet.read6_ntop6, if_pos rfl]

/-! ### Textual equality -/

/-- Comparing texts compares addresses and ports, and a text makes the address
it was rendered from. -/
structure TextualEquality (inet : Inet) : Prop where
  addresses : ∀ lhs rhs : IpAddress, lhs.Built inet → rhs.Built inet →
    (lhs.equals inet rhs = true ↔ lhs.Same rhs)
  endpoints : ∀ lhs rhs : IpEndpoint, lhs.Built inet → rhs.Built inet →
    (lhs.equals inet rhs = true ↔
      lhs.address.equals inet rhs.address = true ∧ lhs.port = rhs.port)
  endpointParts : ∀ lhs rhs : IpEndpoint, lhs.Built inet → rhs.Built inet →
    (lhs.equals inet rhs = true ↔ lhs.address.Same rhs.address ∧ lhs.port = rhs.port)
  reread : ∀ (memory : BitVec 128) (address : IpAddress), address.Built inet →
    (IpAddress.ofText inet memory (address.toText inet)).equals inet address = true ∧
      (IpAddress.ofText inet memory (address.toText inet)).Same address

theorem textual_equality_is_address_equality {inet : Inet} (renders : inet.Renders) :
    TextualEquality inet where
  addresses _ _ builtLeft builtRight := IpAddress.equals_iff renders builtLeft builtRight
  endpoints lhs rhs _ _ := IpEndpoint.equals_iff inet lhs rhs
  endpointParts lhs rhs builtLeft builtRight := by
    rw [IpEndpoint.equals_iff inet lhs rhs,
      IpAddress.equals_iff renders builtLeft.address_built builtRight.address_built]
  reread memory address built := by
    have same := IpAddress.same_ofText_toText renders memory built
    exact ⟨(IpAddress.equals_iff renders (.text memory _) built).mpr same, same⟩

/-- `ip_endpoint("2001:db8:1:2:3:4:5:6", 7)`, whose text has nine groups. -/
def documentationEndpoint : IpEndpoint :=
  IpEndpoint.ofText plainInet .zero 0#128 "2001:db8:1:2:3:4:5:6".toList 7#16

theorem textual_equality_of_documentationEndpoint :
    documentationEndpoint.toText plainInet = "2001:db8:1:2:3:4:5:6:7".toList ∧
      ∀ peer : IpEndpoint, peer.Built plainInet →
        (documentationEndpoint.equals plainInet peer = true ↔
          documentationEndpoint.address.Same peer.address ∧ 7#16 = peer.port) :=
  ⟨by decide +kernel, fun peer built =>
    (textual_equality_is_address_equality plainInet_renders).endpointParts
      documentationEndpoint peer (.text _ _ _ _) built⟩

end BabaIo
