import BabaIo.EventMask
import BabaIo.ConnectCallback

/-
What the three backends hand to the system for a timeout in milliseconds.

`uint32_t` arithmetic is arithmetic on `BitVec 32`; the members of `itimerspec`,
the `data` of `kevent` and `LONGLONG` are signed words of 64 bits.  A request
means a delay in nanoseconds if it arms the timer for one shot.
-/

set_option autoImplicit false

namespace BabaIo.Timers

/-! ### Linux -/

structure Timespec where
  tvSec : BitVec 64
  tvNsec : BitVec 64
  deriving DecidableEq

structure Itimerspec where
  interval : Timespec
  value : Timespec
  deriving DecidableEq

/-- One call of `::timerfd_settime`; without a flag the value is relative. -/
structure SettimeRequest where
  fd : Int
  flags : Int
  expiration : Itimerspec
  deriving DecidableEq

def Timespec.zero : Timespec := { tvSec := 0#64, tvNsec := 0#64 }

def linuxInitTimer (fd : Int) (timeoutMs : BitVec 32) (failure : Option Errno) :
    SettimeRequest × ErrorCode :=
  let timescaleUs : BitVec 32 := 1000000#32
  let timescaleMs : BitVec 32 := 1000#32
  ({ fd := fd
     flags := 0
     expiration :=
      { interval := .zero
        value :=
          { tvSec := (timeoutMs / timescaleMs).setWidth 64
            tvNsec := (timeoutMs % timescaleMs * timescaleUs).setWidth 64 } } },
    failure.elim ec.OK Errno.code)

/-- What the init lambda of `async_timer` did: the mask it armed the descriptor
with, the call of `init_timer` if there was one, and what it returns. -/
structure InitOutcome where
  armedMask : EventMask
  settime : Option SettimeRequest
  code : ErrorCode

def asyncTimerInit (fd : Int) (eventMask : EventMask) (armed : ErrorCode)
    (timeoutMs : BitVec 32) (failure : Option Errno) : InitOutcome :=
  let mask := eventMask.setReadMask
  if armed ≠ ec.OK then { armedMask := mask, settime := none, code := armed }
  else
    let started := linuxInitTimer fd timeoutMs failure
    { armedMask := mask, settime := some started.1, code := started.2 }

/-! ### kqueue -/

def EVFILT_TIMER : Int := -7
def EV_ADD : BitVec 16 := 0x0001#16
def EV_ONESHOT : BitVec 16 := 0x0010#16
def NOTE_USECONDS : BitVec 32 := 0x00000002#32

structure Kevent where
  ident : Int
  filter : Int
  flags : BitVec 16
  fflags : BitVec 32
  data : BitVec 64
  deriving DecidableEq

def kqueueArm (fd eventFilter : Int) (fflags : BitVec 32) (data : BitVec 64) : Kevent :=
  { ident := fd, filter := eventFilter, flags := EV_ADD ||| EV_ONESHOT
    fflags := fflags, data := data }

/-- The `initiate` closure of `kqueue_timer::timeout`: the product is one of
`uint32_t`, and is widened when it is passed on. -/
def kqueueTimeout (fd : Int) (timeoutMs : BitVec 32) : Kevent :=
  kqueueArm fd EVFILT_TIMER NOTE_USECONDS ((timeoutMs * 1000#32).setWidth 64)

/-! ### Windows -/

structure Filetime where
  dwLowDateTime : BitVec 32
  dwHighDateTime : BitVec 32
  deriving DecidableEq

structure ThreadpoolTimer where
  fd : Int
  dueTime : Filetime
  period : BitVec 32
  window : BitVec 32
  deriving DecidableEq

def windowsInitTimer (fd : Int) (timeoutMs : BitVec 32) : ThreadpoolTimer × ErrorCode :=
  let delay : BitVec 64 := -(timeoutMs.setWidth 64) * 10000#64
  ({ fd := fd
     dueTime :=
      { dwLowDateTime := delay.setWidth 32
        dwHighDateTime := (delay.sshiftRight 32).setWidth 32 }
     period := 0#32
     window := 0#32 },
    ec.OK)

def Filetime.quad (time : Filetime) : BitVec 64 := time.dwHighDateTime ++ time.dwLowDateTime

/-! ### What the requests mean -/

/-- Nanoseconds until the one expiration; a zero `it_value` disarms the timer. -/
def SettimeRequest.oneShot (request : SettimeRequest) : Option Int :=
  if request.flags ≠ 0 ∨ request.expiration.value = .zero ∨
      request.expiration.interval ≠ .zero then
    none
  else some (request.expiration.value.tvSec.toInt * 1000000000 +
    request.expiration.value.tvNsec.toInt)

def Kevent.oneShot (change : Kevent) : Option Int :=
  if change.filter = EVFILT_TIMER ∧ change.flags = EV_ADD ||| EV_ONESHOT ∧
      change.fflags = NOTE_USECONDS then
    some (change.data.toInt * 1000)
  else none

/-- A due time that is not positive is relative, in units of 100 nanoseconds. -/
def ThreadpoolTimer.oneShot (request : ThreadpoolTimer) : Option Int :=
  if request.period = 0#32 ∧ request.dueTime.quad.toInt ≤ 0 then
    some (-request.dueTime.quad.toInt * 100)
  else none

def nanoseconds (timeoutMs : BitVec 32) : Int := timeoutMs.toNat * 1000000

structure LinuxExact (request : SettimeRequest) (timeoutMs : BitVec 32) : Prop where
  relative : request.flags = 0
  value : request.expiration.value.tvSec.toInt * 1000 +
    request.expiration.value.tvNsec.toInt / 1000000 = timeoutMs.toNat
  nsec : 0 ≤ request.expiration.value.tvNsec.toInt ∧
    request.expiration.value.tvNsec.toInt < 1000000000
  interval : request.expiration.interval = .zero
  armed : request.expiration.value ≠ .zero

/-- Every backend programs a delay of `timeoutMs` milliseconds, and so they
agree. -/
structure Exact (timeoutMs : BitVec 32) : Prop where
  linux : ∀ fd failure, LinuxExact (linuxInitTimer fd timeoutMs failure).1 timeoutMs
  epoll : ∀ fd mask failure, ∃ request,
    (asyncTimerInit fd mask ec.OK timeoutMs failure).settime = some request ∧
      LinuxExact request timeoutMs
  kqueue : ∀ fd, (kqueueTimeout fd timeoutMs).data.toInt = timeoutMs.toNat * 1000
  windows : ∀ fd, (windowsInitTimer fd timeoutMs).1.dueTime.quad.toInt =
    -(timeoutMs.toNat * 10000)
  agree : ∀ fd failure,
    (linuxInitTimer fd timeoutMs failure).1.oneShot = some (nanoseconds timeoutMs) ∧
      (kqueueTimeout fd timeoutMs).oneShot = some (nanoseconds timeoutMs) ∧
      (windowsInitTimer fd timeoutMs).1.oneShot = some (nanoseconds timeoutMs)

def TimersExact : Prop := ∀ timeoutMs : BitVec 32, Exact timeoutMs

/-! ### Linux -/

theorem toInt_setWidth_64 (word : BitVec 32) : (word.setWidth 64).toInt = word.toNat := by
  have small : 2 * (word.setWidth 64).toNat < 2 ^ 64 := by
    rw [BitVec.toNat_setWidth_of_le (by decide)]
    have bound := word.isLt
    omega
  rw [BitVec.toInt_eq_toNat_of_lt small, BitVec.toNat_setWidth_of_le (by decide)]

section Linux

variable (fd : Int) (timeoutMs : BitVec 32) (failure : Option Errno)

theorem linux_tvSec :
    (linuxInitTimer fd timeoutMs failure).1.expiration.value.tvSec.toInt =
      (timeoutMs.toNat / 1000 : Nat) := by
  change ((timeoutMs / 1000#32).setWidth 64).toInt = _
  rw [toInt_setWidth_64, BitVec.toNat_udiv]
  rfl

/-- The product of nanoseconds stays below a second, so it does not wrap. -/
theorem linux_tvNsec :
    (linuxInitTimer fd timeoutMs failure).1.expiration.value.tvNsec.toInt =
      (timeoutMs.toNat % 1000 * 1000000 : Nat) := by
  change ((timeoutMs % 1000#32 * 1000000#32).setWidth 64).toInt = _
  rw [toInt_setWidth_64, BitVec.toNat_mul, BitVec.toNat_umod]
  change ((timeoutMs.toNat % 1000 * 1000000 % 2 ^ 32 : Nat) : Int) = _
  rw [Nat.mod_eq_of_lt (by omega)]

/-- A zero timeout gives a zero `it_value`, and no other does. -/
theorem linux_value_eq_zero_iff :
    (linuxInitTimer fd timeoutMs failure).1.expiration.value = .zero ↔ timeoutMs = 0#32 := by
  constructor
  · intro zero
    have sec := linux_tvSec fd timeoutMs failure
    have nsec := linux_tvNsec fd timeoutMs failure
    rw [zero] at sec nsec
    change ((0#64).toInt : Int) = _ at sec nsec
    apply BitVec.eq_of_toNat_eq
    rw [BitVec.toInt_zero] at sec nsec
    change timeoutMs.toNat = 0
    omega
  · intro zero
    rw [zero]
    rfl

theorem linuxExact_iff :
    LinuxExact (linuxInitTimer fd timeoutMs failure).1 timeoutMs ↔ timeoutMs ≠ 0#32 := by
  have sec := linux_tvSec fd timeoutMs failure
  have nsec := linux_tvNsec fd timeoutMs failure
  constructor
  · intro programmed zero
    exact programmed.armed ((linux_value_eq_zero_iff fd timeoutMs failure).mpr zero)
  · intro positive
    refine { relative := rfl, value := ?value, nsec := ?nsec, interval := rfl,
             armed := ?armed }
    case value =>
      rw [sec, nsec]
      omega
    case nsec =>
      rw [nsec]
      omega
    case armed => exact fun zero => positive ((linux_value_eq_zero_iff _ _ _).mp zero)

theorem linux_oneShot :
    (linuxInitTimer fd timeoutMs failure).1.oneShot =
      if timeoutMs = 0#32 then none else some (nanoseconds timeoutMs) := by
  unfold SettimeRequest.oneShot
  by_cases zero : timeoutMs = 0#32
  · have disarmed := (linux_value_eq_zero_iff fd timeoutMs failure).mpr zero
    rw [if_pos zero, if_pos (Or.inr (Or.inl disarmed))]
  · have armed : ¬((linuxInitTimer fd timeoutMs failure).1.flags ≠ 0 ∨
        (linuxInitTimer fd timeoutMs failure).1.expiration.value = .zero ∨
        (linuxInitTimer fd timeoutMs failure).1.expiration.interval ≠ .zero) := by
      rintro (absolute | disarmed | periodic)
      · exact absolute rfl
      · exact zero ((linux_value_eq_zero_iff fd timeoutMs failure).mp disarmed)
      · exact periodic rfl
    rw [if_neg zero, if_neg armed, linux_tvSec, linux_tvNsec]
    apply congrArg some
    unfold nanoseconds
    omega

end Linux

/-! ### kqueue -/

theorem kqueue_data (fd : Int) (timeoutMs : BitVec 32) :
    (kqueueTimeout fd timeoutMs).data.toInt = (timeoutMs.toNat * 1000 % 4294967296 : Nat) := by
  change ((timeoutMs * 1000#32).setWidth 64).toInt = _
  rw [toInt_setWidth_64, BitVec.toNat_mul]
  rfl

/-- The product wraps from 4294968 milliseconds on, a little more than 71
minutes. -/
theorem kqueue_data_iff (fd : Int) (timeoutMs : BitVec 32) :
    (kqueueTimeout fd timeoutMs).data.toInt = timeoutMs.toNat * 1000 ↔
      timeoutMs.toNat ≤ 4294967 := by
  rw [kqueue_data]
  omega

theorem kqueue_oneShot (fd : Int) (timeoutMs : BitVec 32) :
    (kqueueTimeout fd timeoutMs).oneShot =
      some (((timeoutMs.toNat * 1000 % 4294967296 : Nat) : Int) * 1000) := by
  unfold Kevent.oneShot
  rw [if_pos ⟨rfl, rfl, rfl⟩, kqueue_data]

/-! ### Windows -/

theorem halves_append (word : BitVec 64) :
    (word.sshiftRight 32).setWidth 32 ++ word.setWidth 32 = word := by
  ext index inside
  rw [BitVec.getElem_append]
  by_cases low : index < 32
  · simp [low, BitVec.getLsbD_eq_getElem inside]
  · have restored : 32 + (index - 32) = index := by omega
    have within : ¬64 ≤ index - 32 := by omega
    simp [low, restored, within, BitVec.getLsbD_sshiftRight, BitVec.getLsbD_eq_getElem, inside]

/-- `LONGLONG` holds the product for every timeout. -/
theorem windows_quad (fd : Int) (timeoutMs : BitVec 32) :
    (windowsInitTimer fd timeoutMs).1.dueTime.quad.toInt = -(timeoutMs.toNat * 10000) := by
  have bound := timeoutMs.isLt
  have negated : (-(timeoutMs.setWidth 64)).toInt = -(timeoutMs.toNat : Int) := by
    rw [BitVec.toInt_neg, toInt_setWidth_64]
    exact Int.bmod_eq_of_le (by omega) (by omega)
  have factor : (10000#64).toInt = 10000 := by decide
  unfold windowsInitTimer Filetime.quad
  rw [halves_append, BitVec.toInt_mul, negated, factor]
  rw [Int.bmod_eq_of_le (by omega) (by omega)]
  omega

theorem windows_oneShot (fd : Int) (timeoutMs : BitVec 32) :
    (windowsInitTimer fd timeoutMs).1.oneShot = some (nanoseconds timeoutMs) := by
  have quad := windows_quad fd timeoutMs
  unfold ThreadpoolTimer.oneShot
  rw [if_pos ⟨rfl, by rw [quad]; omega⟩, quad]
  apply congrArg some
  unfold nanoseconds
  omega

/-! ### The backends together -/

/-- Every backend is exact, and they agree, for the timeouts from one millisecond
up to the last whose number of microseconds is below `2 ^ 32`. -/
theorem timersExact_iff (timeoutMs : BitVec 32) :
    Exact timeoutMs ↔ timeoutMs ≠ 0#32 ∧ timeoutMs.toNat ≤ 4294967 := by
  constructor
  · intro programmed
    exact ⟨(linuxExact_iff 0 timeoutMs none).mp (programmed.linux 0 none),
      (kqueue_data_iff 0 timeoutMs).mp (programmed.kqueue 0)⟩
  · rintro ⟨positive, short⟩
    have whole (fd : Int) := (kqueue_data_iff fd timeoutMs).mpr short
    refine { linux := ?linux, epoll := ?epoll, kqueue := whole, windows := ?windows,
             agree := ?agree }
    case linux => exact fun fd failure => (linuxExact_iff fd timeoutMs failure).mpr positive
    case epoll =>
      intro fd mask failure
      exact ⟨_, rfl, (linuxExact_iff fd timeoutMs failure).mpr positive⟩
    case windows => exact fun fd => windows_quad fd timeoutMs
    case agree =>
      intro fd failure
      refine ⟨?_, ?_, windows_oneShot fd timeoutMs⟩
      · rw [linux_oneShot, if_neg positive]
      · rw [kqueue_oneShot, ← kqueue_data fd, whole fd]
        apply congrArg some
        unfold nanoseconds
        omega

/-- A zero timeout disarms the timer of Linux. -/
theorem timersExact_false : ¬TimersExact := by
  intro programmed
  exact ((programmed 0#32).linux 0 none).armed rfl

end BabaIo.Timers
