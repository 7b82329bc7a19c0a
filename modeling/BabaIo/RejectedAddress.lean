import BabaIo.SocketOptions

/-
What becomes of an address text that `inet_pton` does not accept.

The constructor of `ip_address` counts the colons and dots of the string to
choose a family and ignores the verdict of `inet_pton`.  Then `bind`, `connect`
and `set_option` choose a system call by the family, and make none for a family
they do not know.
-/

set_option autoImplicit false

namespace BabaIo

structure BindRequest where
  fd : Int
  sock : Sockaddr
  sockLen : Nat
  deriving DecidableEq

/-- `socket_impl::bind`: the call it makes, if any, and what it returns;
`failure` is the error of the call. -/
def SocketImpl.bind (fd : Int) (localEp : IpEndpoint) (failure : Option Errno) :
    Option BindRequest × ErrorCode :=
  let sockLen := localEp.nativeSocketLength
  if localEp.address.family = family.v4 then
    (some { fd := fd, sock := .ipv4 localEp.nativeSocket.ipv4, sockLen := sockLen },
      failure.elim ec.OK Errno.code)
  else if localEp.address.family = family.v6 then
    (some { fd := fd, sock := .ipv6 localEp.nativeSocket.ipv6, sockLen := sockLen },
      failure.elim ec.OK Errno.code)
  else (none, ec.OK)

namespace Inet

variable (inet : Inet)

def Accepts4 (text : List Char) : Prop := (inet.pton4 (cStr text)).isSome = true

def Accepts6 (text : List Char) : Prop := (inet.pton6 (cStr text)).isSome = true

instance (text : List Char) : Decidable (inet.Accepts4 text) :=
  inferInstanceAs (Decidable (_ = true))

instance (text : List Char) : Decidable (inet.Accepts6 text) :=
  inferInstanceAs (Decidable (_ = true))

structure AcceptsFormats : Prop where
  quadDots : ∀ text bytes, inet.pton4 text = some bytes → text.count '.' = 3
  quadColons : ∀ text bytes, inet.pton4 text = some bytes → text.count ':' = 0
  groupColons : ∀ text bytes, inet.pton6 text = some bytes → 2 ≤ text.count ':'

end Inet

/-- Text makes an address of the family that accepts it, with the bytes that were
read, and text that no family accepts is reported as an error. -/
structure TextTaken (inet : Inet) (text : List Char) : Prop where
  family6 : ∀ memory,
    (IpAddress.ofText inet memory text).family = family.v6 ↔ inet.Accepts6 text
  family4 : ∀ memory,
    (IpAddress.ofText inet memory text).family = family.v4 ↔ inet.Accepts4 text
  bytes6 : ∀ memory bytes, inet.pton6 (cStr text) = some bytes →
    (IpAddress.ofText inet memory text).ipv6 = bytes
  bytes4 : ∀ memory bytes, inet.pton4 (cStr text) = some bytes →
    (IpAddress.ofText inet memory text).ipv4 = bytes
  unknown : ¬inet.Accepts6 text → ¬inet.Accepts4 text → ∀ memory,
    (IpAddress.ofText inet memory text).family = family.unknown
  bindFails : ¬inet.Accepts6 text → ¬inet.Accepts4 text →
    ∀ (memory : NativeSocketStorage) (union : BitVec 128) (port : BitVec 16) (fd : Int)
      (failure : Option Errno),
      (SocketImpl.bind fd (.ofText inet memory union text port) failure).2 ≠ ec.OK
  connectFails : ¬inet.Accepts6 text → ¬inet.Accepts4 text →
    ∀ (memory : NativeSocketStorage) (union : BitVec 128) (port : BitVec 16) (fd : Int)
      (system : SystemConnect),
      (SocketImpl.connect fd (.ofText inet memory union text port) system).2 ≠ ec.OK
  optionFails : ¬inet.Accepts6 text → ¬inet.Accepts4 text →
    ∀ (memory : BitVec 128) (level name : Int) (fd : Int)
      (call : Options.SetRequest → Option Errno),
      (Options.setAddressOption call fd
        { level := level, optname := name, addr := .ofText inet memory text }).2 ≠ ec.OK

def InvalidTextNeverPasses : Prop :=
  ∀ inet : Inet, inet.AcceptsFormats → ∀ text : List Char, TextTaken inet text

/-! ### Without a family -/

section Unknown

variable {address : IpAddress} (unknown : address.family = family.unknown)

include unknown

theorem ne_v4_of_unknown : address.family ≠ family.v4 := by
  rw [unknown]
  decide

theorem ne_v6_of_unknown : address.family ≠ family.v6 := by
  rw [unknown]
  decide

theorem bind_unknown (memory : NativeSocketStorage) (port : BitVec 16) (fd : Int)
    (failure : Option Errno) :
    SocketImpl.bind fd (.ofAddress memory address port) failure = (none, ec.OK) := by
  unfold SocketImpl.bind
  rw [IpEndpoint.ofAddress_address, if_neg (ne_v4_of_unknown unknown),
    if_neg (ne_v6_of_unknown unknown)]

theorem connect_unknown (memory : NativeSocketStorage) (port : BitVec 16) (fd : Int)
    (system : SystemConnect) :
    SocketImpl.connect fd (.ofAddress memory address port) system = (none, ec.OK) := by
  unfold SocketImpl.connect
  rw [IpEndpoint.ofAddress_address, if_neg (ne_v4_of_unknown unknown),
    if_neg (ne_v4_of_unknown unknown)]

theorem setAddressOption_unknown (call : Options.SetRequest → Option Errno) (fd : Int)
    (level name : Int) :
    Options.setAddressOption call fd { level := level, optname := name, addr := address } =
      (none, ec.OK) := by
  unfold Options.setAddressOption
  rw [if_neg (ne_v4_of_unknown unknown), if_neg (ne_v6_of_unknown unknown)]

end Unknown

/-- Text with too few colons and not three dots makes no system call and reports
success, whatever it is. -/
theorem text_without_family_passes (inet : Inet) {text : List Char}
    (colons : text.count ':' < 2) (dots : text.count '.' ≠ 3)
    (memory : NativeSocketStorage) (union : BitVec 128) (port : BitVec 16) (fd : Int) :
    (∀ failure, SocketImpl.bind fd (.ofText inet memory union text port) failure =
        (none, ec.OK)) ∧
      (∀ system, SocketImpl.connect fd (.ofText inet memory union text port) system =
        (none, ec.OK)) ∧
      ∀ (call : Options.SetRequest → Option Errno) (level name : Int),
        Options.setAddressOption call fd
            { level := level, optname := name, addr := .ofText inet union text } =
          (none, ec.OK) := by
  have unknown : (IpAddress.ofText inet union text).family = family.unknown := by
    rw [IpAddress.ofText_unknown inet union colons dots]
    rfl
  refine ⟨?_, ?_, ?_⟩
  · exact bind_unknown unknown memory port fd
  · exact connect_unknown unknown memory port fd
  · exact fun call => setAddressOption_unknown unknown call fd

/-! ### The accepted texts -/

theorem count_cStr_le (text : List Char) (symbol : Char) :
    (cStr text).count symbol ≤ text.count symbol :=
  (List.takeWhile_sublist _).count_le symbol

section Accepted

variable {inet : Inet} (formats : inet.AcceptsFormats) {text : List Char}

include formats

theorem colons_of_accepts6 (accepted : inet.Accepts6 text) : 2 ≤ text.count ':' := by
  obtain ⟨bytes, read⟩ := Option.isSome_iff_exists.mp accepted
  exact Nat.le_trans (formats.groupColons _ bytes read) (count_cStr_le text ':')

theorem not_accepts4_of_accepts6 (accepted : inet.Accepts6 text) : ¬inet.Accepts4 text := by
  intro accepted4
  obtain ⟨groups, readGroups⟩ := Option.isSome_iff_exists.mp accepted
  obtain ⟨quad, readQuad⟩ := Option.isSome_iff_exists.mp accepted4
  have colons := formats.groupColons _ groups readGroups
  rw [formats.quadColons _ quad readQuad] at colons
  omega

theorem textTaken_of_accepts6 (accepted : inet.Accepts6 text) : TextTaken inet text := by
  have colons := colons_of_accepts6 formats accepted
  have not4 := not_accepts4_of_accepts6 formats accepted
  constructor
  case family6 =>
    intro memory
    exact iff_of_true ((IpAddress.ofText_family_v6_iff inet memory).mpr colons) accepted
  case family4 =>
    intro memory
    refine iff_of_false ?_ not4
    rw [IpAddress.ofText_family_v4_iff inet memory]
    omega
  case bytes6 =>
    intro memory bytes read
    rw [IpAddress.ofText_groups inet memory colons, read]
    rfl
  case bytes4 =>
    intro memory bytes read
    exact absurd (Option.isSome_of_mem read) not4
  case unknown => exact fun not6 => absurd accepted not6
  case bindFails => exact fun not6 => absurd accepted not6
  case connectFails => exact fun not6 => absurd accepted not6
  case optionFails => exact fun not6 => absurd accepted not6

/-- Text that is accepted as IPv4 is taken where the counts see the same text. -/
theorem textTaken_of_accepts4 (accepted : inet.Accepts4 text) (colons : text.count ':' < 2)
    (dots : text.count '.' = 3) : TextTaken inet text := by
  have not6 : ¬inet.Accepts6 text :=
    fun accepted6 => not_accepts4_of_accepts6 formats accepted6 accepted
  constructor
  case family6 =>
    intro memory
    refine iff_of_false ?_ not6
    rw [IpAddress.ofText_family_v6_iff inet memory]
    omega
  case family4 =>
    intro memory
    exact iff_of_true ((IpAddress.ofText_family_v4_iff inet memory).mpr ⟨colons, dots⟩) accepted
  case bytes6 =>
    intro memory bytes read
    exact absurd (Option.isSome_of_mem read) not6
  case bytes4 =>
    intro memory bytes read
    rw [IpAddress.ofText_quad inet memory colons dots, read]
    exact IpAddress.extractLsb'_writeIpv4 memory bytes
  case unknown => exact fun _ not4 => absurd accepted not4
  case bindFails => exact fun _ not4 => absurd accepted not4
  case connectFails => exact fun _ not4 => absurd accepted not4
  case optionFails => exact fun _ not4 => absurd accepted not4

/-- Text that neither family accepts is never taken: without a family it passes
as success, and with one it is not `family::unknown()`. -/
theorem textTaken_iff :
    TextTaken inet text ↔
      inet.Accepts6 text ∨
        (inet.Accepts4 text ∧ text.count ':' < 2 ∧ text.count '.' = 3) := by
  constructor
  · intro taken
    by_cases accepted6 : inet.Accepts6 text
    · exact Or.inl accepted6
    · by_cases accepted4 : inet.Accepts4 text
      · have quad := (taken.family4 0#128).mpr accepted4
        exact Or.inr ⟨accepted4, (IpAddress.ofText_family_v4_iff inet 0#128).mp quad⟩
      · have unknown := taken.unknown accepted6 accepted4 0#128
        have success := setAddressOption_unknown unknown (fun _ => none) 0 0 0
        exact absurd (congrArg Prod.snd success)
          (taken.optionFails accepted6 accepted4 0#128 0 0 0 (fun _ => none))
  · rintro (accepted6 | ⟨accepted4, colons, dots⟩)
    · exact textTaken_of_accepts6 formats accepted6
    · exact textTaken_of_accepts4 formats accepted4 colons dots

end Accepted

theorem plainInet_acceptsFormats : plainInet.AcceptsFormats where
  quadDots text bytes read := by
    obtain ⟨written, _⟩ := Option.ite_none_right_eq_some.mp read
    rw [← written]
    exact plainInet_renders.quadDots _
  quadColons text bytes read := by
    obtain ⟨written, _⟩ := Option.ite_none_right_eq_some.mp read
    rw [← written]
    exact List.count_eq_zero.mpr (plainInet_renders.colon_notMem _)
  groupColons text bytes read := by
    obtain ⟨written, _⟩ := Option.ite_none_right_eq_some.mp read
    rw [← written]
    exact plainInet_renders.groupColons _

/-- `ip_address("127.0.0.1")` and `ip_address("127.0.0.1 ")`. -/
theorem textTaken_loopback :
    TextTaken plainInet "127.0.0.1".toList ∧ ¬TextTaken plainInet "127.0.0.1 ".toList := by
  constructor
  · exact (textTaken_iff plainInet_acceptsFormats).mpr
      (Or.inr ⟨by decide +kernel, by decide +kernel, by decide +kernel⟩)
  · intro taken
    rcases (textTaken_iff plainInet_acceptsFormats).mp taken with accepted6 | ⟨accepted4, _⟩
    · exact absurd accepted6 (by decide +kernel)
    · exact absurd accepted4 (by decide +kernel)

/-- `bind` to `ip_endpoint("localhost", port)` reports success. -/
theorem invalidTextNeverPasses_false : ¬InvalidTextNeverPasses := by
  intro holds
  have taken := holds plainInet plainInet_acceptsFormats "localhost".toList
  have colons : "localhost".toList.count ':' < 2 := by decide +kernel
  have dots : "localhost".toList.count '.' ≠ 3 := by decide +kernel
  have passes := (text_without_family_passes plainInet colons dots .zero 0#128 80#16 3).1 none
  exact taken.bindFails (by decide +kernel) (by decide +kernel) _ _ _ _ _
    (congrArg Prod.snd passes)

end BabaIo
