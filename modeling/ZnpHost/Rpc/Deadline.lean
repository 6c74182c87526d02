import ZnpHost.Lib.CInt

/-!
# Deadlines

`rpcWaitMqClientMsg` and `rpcSendFrame` wait until a point in time: the seconds of the clock at
the call, as `time` returns them, plus the timeout.  The part of the clock below a second is not
added, so the wait is short by it.

## Main definitions

* `Abi` — the integer types the platform leaves open.
* `ClockReading`, `Timespec` — the real-time clock and a deadline.
* `waitDeadline` — the deadline built from a timeout, `srspTimeOut` that of `rpcSendFrame`.
* `LastsAtLeast` — a normalised deadline that leaves the time requested.
* `waitDeadline_lasts_iff` — when the code builds one.
-/

namespace ZnpHost.Rpc

open Lib

/-! ## Types -/

/-- The types `long` and `time_t` of a platform; both have at least 32 bits. -/
structure Abi where
  long : CType
  timeT : CType
  long_signed : long.signed = true
  long_bits : 32 ≤ long.bits
  timeT_bits : 32 ≤ timeT.bits

/-- A reading of the real-time clock: whole seconds and nanoseconds. -/
structure ClockReading where
  sec : ℕ
  nsec : ℕ
  nsec_lt : nsec < 1000000000

/-- `time(0)`, which leaves out what is below a second. -/
def ClockReading.time (c : ClockReading) : ℤ := c.sec

/-- The reading in nanoseconds. -/
def ClockReading.ns (c : ClockReading) : ℤ := c.sec * 1000000000 + c.nsec

/-- `struct timespec`. -/
structure Timespec where
  tv_sec : ℤ
  tv_nsec : ℤ

/-- The point in time, in nanoseconds. -/
def Timespec.ns (t : Timespec) : ℤ := t.tv_sec * 1000000000 + t.tv_nsec

/-! ## The two deadlines -/

/-- The deadline `to` of `rpcWaitMqClientMsg` for a timeout in milliseconds, when `time(0)` is
`now`. -/
def waitDeadline (abi : Abi) (now : ℤ) (timeout : UInt32) : Timespec where
  tv_sec := abi.timeT.wrap (now + timeout.toNat / 1000)
  tv_nsec := (abi.long.wrap timeout.toNat).tmod 1000 * 1000000

/-- `SRSP_TIMEOUT_MS`. -/
def srspTimeoutMs : UInt32 := 2000

/-- The deadline `srspTimeOut` of `rpcSendFrame`. -/
def srspTimeOut (abi : Abi) (now : ℤ) : Timespec := waitDeadline abi now srspTimeoutMs

/-! ## How long a wait lasts -/

/-- A wait that starts at a reading of the clock lasts the timeout in milliseconds: its deadline
is normalised and not earlier; in particular the wait does not end at once. -/
structure LastsAtLeast (t : Timespec) (clock : ClockReading) (timeout : UInt32) : Prop where
  nonneg : 0 ≤ t.tv_nsec
  lt : t.tv_nsec < 1000000000
  notEarlier : clock.ns + timeout.toNat * 1000000 ≤ t.ns
  notAtOnce : 0 < timeout.toNat → clock.ns < t.ns

section WaitDeadline

variable {abi : Abi} {timeout : UInt32} {now : ℤ}

/-- The milliseconds of the timeout below a second, where `long` holds the timeout. -/
theorem waitDeadline_nsec (h : timeout.toNat ≤ abi.long.max) (now : ℤ) :
    (waitDeadline abi now timeout).tv_nsec = timeout.toNat % 1000 * 1000000 := by
  simp only [waitDeadline]
  rw [CType.wrap_of_le_max (by omega) h, Int.tmod_eq_emod_of_nonneg (by omega)]

/-- A `long` that does not hold a timeout has 32 bits, and the timeout turns negative in it. -/
theorem wrap_timeout (h : abi.long.max < timeout.toNat) :
    abi.long.wrap timeout.toNat = timeout.toNat - 2 ^ 32 := by
  have hlt := timeout.toNat_lt
  have hbits : abi.long.bits = 32 := by
    by_contra hne
    have hmore := abi.long_bits
    have hpow : (2 : ℤ) ^ 32 ≤ 2 ^ (abi.long.bits - 1) := CType.two_pow_le (by omega)
    rw [CType.max, if_pos abi.long_signed] at h
    omega
  have hmax : abi.long.max = 2 ^ 31 - 1 := by
    rw [CType.max, if_pos abi.long_signed, hbits]
  rw [CType.wrap, if_pos abi.long_signed, hbits]
  rw [hmax] at h
  rw [Int.bmod_eq_iff (by decide)]
  exact ⟨by omega, by omega, ⟨-1, by omega⟩⟩

/-- There `tv_nsec` is not positive, and where it is zero the timeout has 296 ms below a
second. -/
theorem waitDeadline_nsec_of_max_lt (h : abi.long.max < timeout.toNat)
    (hnonneg : 0 ≤ (waitDeadline abi now timeout).tv_nsec) :
    (waitDeadline abi now timeout).tv_nsec = 0 ∧ timeout.toNat % 1000 = 296 := by
  have hlt := timeout.toNat_lt
  simp only [waitDeadline, wrap_timeout h] at hnonneg ⊢
  rw [show (timeout.toNat : ℤ) - 2 ^ 32 = -(2 ^ 32 - timeout.toNat) by omega, Int.neg_tmod,
    Int.tmod_eq_emod_of_nonneg (by omega)] at hnonneg ⊢
  omega

/-- The seconds of the timeout are added, where `time_t` holds the sum. -/
theorem waitDeadline_sec {clock : ClockReading}
    (hfits : clock.sec + timeout.toNat / 1000 ≤ abi.timeT.max) :
    (waitDeadline abi clock.time timeout).tv_sec = clock.sec + timeout.toNat / 1000 :=
  CType.wrap_of_le_max (show 0 ≤ (clock.sec + timeout.toNat / 1000 : ℤ) by omega) hfits

/-- Within the range of the types the deadline is the clock reading plus the timeout, less what
the reading has below a second. -/
theorem waitDeadline_ns {clock : ClockReading} (hlong : timeout.toNat ≤ abi.long.max)
    (hfits : clock.sec + timeout.toNat / 1000 ≤ abi.timeT.max) :
    (waitDeadline abi clock.time timeout).ns + clock.nsec =
      clock.ns + timeout.toNat * 1000000 := by
  rw [Timespec.ns, ClockReading.ns, waitDeadline_sec hfits, waitDeadline_nsec hlong clock.time]
  omega

/-- A deadline whose seconds do not fit their type is early by their range. -/
theorem waitDeadline_sec_of_max_lt {clock : ClockReading}
    (h : abi.timeT.max < clock.sec + timeout.toNat / 1000) :
    (waitDeadline abi clock.time timeout).tv_sec + 2 ^ 32 ≤ clock.sec + timeout.toNat / 1000 := by
  have hless : _ ≤ (clock.sec + timeout.toNat / 1000 : ℤ) := CType.wrap_of_max_lt h
  have hpow : (2 : ℤ) ^ 32 ≤ 2 ^ abi.timeT.bits := CType.two_pow_le abi.timeT_bits
  simp only [waitDeadline, ClockReading.time]
  omega

/-- A deadline leaves the time requested exactly when the call falls on a full second and
neither the timeout nor the sum leaves its type. -/
theorem lastsAtLeast_waitDeadline_iff (abi : Abi) (clock : ClockReading) (timeout : UInt32) :
    LastsAtLeast (waitDeadline abi clock.time timeout) clock timeout ↔
      clock.nsec = 0 ∧ timeout.toNat ≤ abi.long.max ∧
        clock.sec + timeout.toNat / 1000 ≤ abi.timeT.max := by
  constructor
  · rintro ⟨hnonneg, hlt, hnot, -⟩
    have hfits : clock.sec + timeout.toNat / 1000 ≤ abi.timeT.max := by
      by_contra hmax
      have hless := waitDeadline_sec_of_max_lt (Int.not_le.mp hmax)
      rw [ClockReading.ns, Timespec.ns] at hnot
      omega
    by_cases hlong : timeout.toNat ≤ abi.long.max
    · have hns := waitDeadline_ns hlong hfits
      exact ⟨by omega, hlong, hfits⟩
    · obtain ⟨hzero, hms⟩ := waitDeadline_nsec_of_max_lt (Int.not_le.mp hlong) hnonneg
      rw [ClockReading.ns, Timespec.ns, hzero, waitDeadline_sec hfits] at hnot
      omega
  · rintro ⟨hnsec, hlong, hfits⟩
    have hns := waitDeadline_ns hlong hfits
    have hms := waitDeadline_nsec hlong clock.time
    constructor <;> omega

/-- Any `long` holds the timeout of `rpcSendFrame`. -/
theorem srspTimeoutMs_le_max (abi : Abi) : srspTimeoutMs.toNat ≤ abi.long.max := by
  have hpow : (2 : ℤ) ^ 31 ≤ 2 ^ (abi.long.bits - 1) :=
    CType.two_pow_le (Nat.sub_le_sub_right abi.long_bits 1)
  have hms : srspTimeoutMs.toNat = 2000 := rfl
  rw [CType.max, if_pos abi.long_signed, hms]
  omega

end WaitDeadline

/-- **Timed waits last the time requested** exactly when the call falls on a full second and
the types hold the timeout and the sum, in `rpcWaitMqClientMsg` and in `rpcSendFrame`. -/
theorem timedWait_lasts_iff (abi : Abi) (clock : ClockReading) (timeout : UInt32) :
    (LastsAtLeast (waitDeadline abi clock.time timeout) clock timeout ↔
      clock.nsec = 0 ∧ timeout.toNat ≤ abi.long.max ∧
        clock.sec + timeout.toNat / 1000 ≤ abi.timeT.max) ∧
    (LastsAtLeast (srspTimeOut abi clock.time) clock srspTimeoutMs ↔
      clock.nsec = 0 ∧ clock.sec + 2 ≤ abi.timeT.max) := by
  refine ⟨lastsAtLeast_waitDeadline_iff abi clock timeout, ?_⟩
  rw [srspTimeOut, lastsAtLeast_waitDeadline_iff]
  have hlong := srspTimeoutMs_le_max abi
  have hsec : (srspTimeoutMs.toNat / 1000 : ℤ) = 2 := rfl
  rw [hsec]
  exact ⟨fun h => ⟨h.1, h.2.2⟩, fun h => ⟨h.1, hlong, h.2⟩⟩

/-- The types of 64-bit Linux. -/
def lp64 : Abi where
  long := ⟨64, true, by decide⟩
  timeT := ⟨64, true, by decide⟩
  long_signed := rfl
  long_bits := by decide
  timeT_bits := by decide

/-- A wait of 10 ms that is begun half a second after a full second has expired before it
begins. -/
theorem not_lastsAtLeast_halfSecond :
    ¬ LastsAtLeast (waitDeadline lp64 1700000000 10) ⟨1700000000, 500000000, by decide⟩ 10 ∧
      (waitDeadline lp64 1700000000 10).ns < 1700000000 * 1000000000 + 500000000 := by
  have hbefore : (waitDeadline lp64 1700000000 10).ns < 1700000000 * 1000000000 + 500000000 := by
    decide
  refine ⟨?_, hbefore⟩
  intro h
  have hnot : (1700000000 * 1000000000 + 500000000 : ℤ) < _ := h.notAtOnce (by decide)
  omega

end ZnpHost.Rpc
