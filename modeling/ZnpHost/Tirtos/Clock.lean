import ZnpHost.Rpc.TimeLeft

/-!
# The clock of TI-RTOS

On TI-RTOS the framework brings `time`, `gettimeofday` and `nanosleep` itself, over a count of
system ticks and in 32 bits.  The microseconds of `gettimeofday` are not reduced to those below
a second, and `nanosleep` takes a tick for a thousandth of a second, whatever its period.

## Main definitions

* `TickPeriod` — the period of the system tick.
* `time`, `gettimeofday`, `nanosleep` — the functions, on the tick at which they are called.
* `ClocksAgree` — the readings before and after a sleep differ by the time requested.
* `clocksAgree_iff` — when they do.
-/

namespace ZnpHost.Tirtos

open Lib Rpc

/-- `Clock_tickPeriod`, in microseconds. -/
structure TickPeriod where
  us : ℕ
  pos : 0 < us
  dvd : us ∣ 1000000

/-- The types: `long` has 32 bits, and `time_t` is an `unsigned long`. -/
def abi : Abi where
  long := .int32
  timeT := .uint32
  long_signed := rfl
  long_bits := Nat.le_refl 32
  timeT_bits := Nat.le_refl 32

/-! ## The functions -/

/-- `Clock_getTicks() * Clock_tickPeriod`. -/
def clockUs (P : TickPeriod) (ticks : ℕ) : ℤ := CType.uint32.wrap (ticks * P.us : ℕ)

/-- `time`. -/
def time (P : TickPeriod) (ticks : ℕ) : ℤ := clockUs P ticks / 1000000

/-- `gettimeofday`. -/
def gettimeofday (P : TickPeriod) (ticks : ℕ) : Timeval where
  tv_sec := clockUs P ticks / 1000000
  tv_usec := CType.int32.wrap (clockUs P ticks)

/-- The ticks for which `nanosleep` calls `Task_sleep`. -/
def sleepTicks (P : TickPeriod) (req : Timespec) : ℤ :=
  let ticks_per_s := CType.uint32.wrap (P.us * 1000)
  let period_in_ns := CType.uint32.wrap (P.us * 1000)
  let sleepTicks := CType.uint32.wrap (CType.uint32.wrap req.tv_sec * ticks_per_s)
  CType.uint32.wrap (sleepTicks + CType.uint32.wrap req.tv_nsec / period_in_ns)

/-- `nanosleep`: the tick at which it returns. -/
def nanosleep (P : TickPeriod) (req : Timespec) (ticks : ℕ) : ℕ :=
  ticks + (sleepTicks P req).toNat

/-! ## Readings -/

section Readings

variable {P : TickPeriod} {ticks : ℕ}

theorem TickPeriod.us_le (P : TickPeriod) : P.us ≤ 1000000 := Nat.le_of_dvd (by decide) P.dvd

/-- Below the wrap the clock counts microseconds. -/
theorem clockUs_of_lt (h : ticks * P.us < 2 ^ 32) : clockUs P ticks = (ticks * P.us : ℕ) :=
  CType.wrap_uint32_of_lt h

/-- The microseconds of a reading are below a second in the first second only. -/
theorem usec_lt_iff (h : ticks * P.us < 2 ^ 32) :
    (0 ≤ (gettimeofday P ticks).tv_usec ∧ (gettimeofday P ticks).tv_usec < 1000000) ↔
      ticks * P.us < 1000000 := by
  simp only [gettimeofday, clockUs_of_lt h]
  generalize ticks * P.us = c at h ⊢
  by_cases hlong : (c : ℤ) ≤ CType.int32.max
  · rw [CType.wrap_of_le_max (by omega) hlong]
    omega
  · have hless := CType.wrap_of_max_lt (Int.not_le.mp hlong)
    have hmax : CType.int32.max = 2 ^ 31 - 1 := rfl
    have hbits : (2 : ℤ) ^ CType.int32.bits = 2 ^ 32 := rfl
    omega

/-- In the first second a reading is the time. -/
theorem us_gettimeofday (h : ticks * P.us < 1000000) :
    (gettimeofday P ticks).us = (ticks * P.us : ℕ) := by
  have hwrap : ticks * P.us < 2 ^ 32 := by omega
  simp only [gettimeofday, clockUs_of_lt hwrap, Timeval.us]
  generalize ticks * P.us = c at h ⊢
  have hmax : CType.int32.max = 2 ^ 31 - 1 := rfl
  rw [CType.wrap_of_le_max (by omega) (by omega)]
  omega

/-- A full second is a number of ticks: below it there is room for one more. -/
theorem succ_mul_us_le {n : ℕ} (h : n * P.us < 1000000) : (n + 1) * P.us ≤ 1000000 := by
  obtain ⟨k, hk⟩ := P.dvd
  rw [hk, Nat.mul_comm P.us k] at h ⊢
  exact Nat.mul_le_mul_right _ (Nat.lt_of_mul_lt_mul_right h)

end Readings

/-! ## Sleeping -/

section Sleep

variable {P : TickPeriod} {sec nsec ticks : ℕ}

/-- A sleep takes a thousand periods for a second, in 32 bits. -/
theorem sleepTicks_eq (P : TickPeriod) (sec : ℕ) (hnsec : nsec < 1000000000) :
    sleepTicks P ⟨sec, nsec⟩ =
      ((sec * (P.us * 1000) + nsec / (P.us * 1000)) % 2 ^ 32 : ℕ) := by
  have hle := P.us_le
  have hperiod : CType.uint32.wrap (P.us * 1000) = (P.us * 1000 : ℕ) :=
    CType.wrap_uint32_of_lt (n := P.us * 1000) (by omega)
  have hsmall : CType.uint32.wrap nsec = nsec := CType.wrap_uint32_of_lt (by omega)
  simp only [sleepTicks, hperiod, hsmall]
  rw [← CType.wrap_uint32_natCast, CType.wrap_eq_wrap_iff]
  exact ((CType.wrap_modEq _ _).trans ((CType.wrap_modEq _ _).mul_right _)).add_right _

theorem nanosleep_eq (P : TickPeriod) (sec : ℕ) (hnsec : nsec < 1000000000) (ticks : ℕ) :
    nanosleep P ⟨sec, nsec⟩ ticks =
      ticks + (sec * (P.us * 1000) + nsec / (P.us * 1000)) % 2 ^ 32 := by
  rw [nanosleep, sleepTicks_eq P sec hnsec, Int.toNat_natCast]

/-- The readings of `gettimeofday` before and after `nanosleep` differ by the time requested to
within one tick, and their microseconds are below a second. -/
structure ClocksAgree (P : TickPeriod) (req : Timespec) (ticks : ℕ) : Prop where
  notShort : req.ns ≤ 1000 * ((gettimeofday P (nanosleep P req ticks)).us -
    (gettimeofday P ticks).us + P.us)
  notLong : 1000 * ((gettimeofday P (nanosleep P req ticks)).us - (gettimeofday P ticks).us -
    P.us) ≤ req.ns
  before : 0 ≤ (gettimeofday P ticks).tv_usec ∧ (gettimeofday P ticks).tv_usec < 1000000
  after : 0 ≤ (gettimeofday P (nanosleep P req ticks)).tv_usec ∧
    (gettimeofday P (nanosleep P req ticks)).tv_usec < 1000000

/-- No sleep that ends in the first second of the clock lasts a second to within one tick. -/
theorem sec_eq_zero {n : ℕ} (hn : n = (sec * (P.us * 1000) + nsec / (P.us * 1000)) % 2 ^ 32)
    (hend : n * P.us < 1000000) (hlong : sec * 1000000000 + nsec ≤ 1000 * ((n + 1) * P.us)) :
    sec = 0 := by
  have hroom := succ_mul_us_le hend
  by_contra hsec
  obtain ⟨rfl, rfl⟩ : sec = 1 ∧ nsec = 0 := by omega
  have hle := P.us_le
  rw [Nat.one_mul, Nat.zero_div, Nat.add_zero, Nat.mod_eq_of_lt (by omega)] at hn
  subst hn
  -- a tick of 31 microseconds is too short for this, one of 32 too long
  by_cases hsmall : P.us ≤ 31
  · have hless : (P.us * 1000 + 1) * P.us ≤ 31001 * 31 := Nat.mul_le_mul (by omega) hsmall
    omega
  · have hmore : 32001 * 32 ≤ (P.us * 1000 + 1) * P.us := Nat.mul_le_mul (by omega) (by omega)
    omega

/-- A sleep of less than a second. -/
theorem nanosleep_of_lt_second (P : TickPeriod) (hnsec : nsec < 1000000000) (ticks : ℕ) :
    nanosleep P ⟨0, nsec⟩ ticks = ticks + nsec / (P.us * 1000) := by
  have hle := Nat.div_le_self nsec (P.us * 1000)
  have heq := nanosleep_eq P 0 hnsec ticks
  rwa [Nat.zero_mul, Nat.zero_add, Nat.mod_eq_of_lt (by omega)] at heq

/-- The readings around a sleep in the first second. -/
theorem us_nanosleep {n : ℕ} {req : Timespec} (hn : nanosleep P req ticks = ticks + n)
    (hend : nanosleep P req ticks * P.us < 1000000) :
    (gettimeofday P (nanosleep P req ticks)).us - (gettimeofday P ticks).us = (n * P.us : ℕ) := by
  have hsum : (ticks + n) * P.us = ticks * P.us + n * P.us := Nat.add_mul ticks n P.us
  rw [hn] at hend
  rw [hn, us_gettimeofday hend, us_gettimeofday (by omega), hsum]
  omega

/-- **The clock functions agree** exactly when less than a second is requested and the sleep
ends in the first second of the clock. -/
theorem clocksAgree_iff (P : TickPeriod) (sec : UInt32) (hnsec : nsec < 1000000000)
    (hwrap : nanosleep P ⟨sec.toNat, nsec⟩ ticks * P.us < 2 ^ 32) :
    ClocksAgree P ⟨sec.toNat, nsec⟩ ticks ↔
      sec = 0 ∧ (ticks + nsec / (P.us * 1000)) * P.us < 1000000 := by
  constructor
  · intro h
    have hend := (usec_lt_iff hwrap).mp h.after
    have hn := nanosleep_eq P sec.toNat hnsec ticks
    have hshort := h.notShort
    rw [us_nanosleep hn hend] at hshort
    simp only [Timespec.ns] at hshort
    generalize hm : (sec.toNat * (P.us * 1000) + nsec / (P.us * 1000)) % 2 ^ 32 = m at hn hshort
    have hsum : (ticks + m) * P.us = ticks * P.us + m * P.us := Nat.add_mul ticks m P.us
    rw [hn] at hend
    have hzero : sec.toNat = 0 := by
      refine sec_eq_zero hm.symm (by omega) ?_
      rw [Nat.succ_mul m P.us]
      omega
    have hsec : sec = 0 := UInt32.toNat_inj.mp hzero
    subst hsec
    have hticks := nanosleep_of_lt_second P hnsec ticks
    refine ⟨rfl, ?_⟩
    rw [← hticks]
    exact (usec_lt_iff hwrap).mp h.after
  · rintro ⟨rfl, hend⟩
    have hn : nanosleep P ⟨(0 : UInt32).toNat, nsec⟩ ticks = ticks + nsec / (P.us * 1000) :=
      nanosleep_of_lt_second P hnsec ticks
    rw [← hn] at hend
    have hdiff := us_nanosleep hn hend
    have hbefore : ticks * P.us < 1000000 :=
      Nat.lt_of_le_of_lt (Nat.mul_le_mul_right _ (hn ▸ Nat.le_add_right _ _)) hend
    have hpos : 0 < P.us * 1000 := Nat.mul_pos P.pos (by decide)
    have hle := Nat.div_mul_le_self nsec (P.us * 1000)
    have hlt := (Nat.div_lt_iff_lt_mul hpos).mp (Nat.lt_succ_self (nsec / (P.us * 1000)))
    rw [← Nat.mul_assoc] at hle hlt
    rw [Nat.succ_mul] at hlt
    have hns : (⟨(0 : UInt32).toNat, nsec⟩ : Timespec).ns = nsec := by simp [Timespec.ns]
    have hbefore' : ticks * P.us < 2 ^ 32 := by omega
    refine ⟨?_, ?_, (usec_lt_iff hbefore').mpr hbefore, (usec_lt_iff hwrap).mpr hend⟩
    · rw [hdiff, hns]
      omega
    · rw [hdiff, hns]
      omega

/-- Half a second from the start, with ticks of a millisecond. -/
theorem clocksAgree_halfSecond :
    ClocksAgree ⟨1000, by decide, by decide⟩ ⟨(0 : UInt32).toNat, (500000000 : ℕ)⟩ 0 :=
  (clocksAgree_iff ⟨1000, by decide, by decide⟩ 0 (by decide) (by decide)).mpr
    ⟨rfl, by decide⟩

/-- A second, with ticks of 10 microseconds, lasts ten thousand ticks and not a hundred
thousand. -/
theorem not_clocksAgree_oneSecond :
    nanosleep ⟨10, by decide, by decide⟩ ⟨1, 0⟩ 0 = 10000 ∧
      ¬ ClocksAgree ⟨10, by decide, by decide⟩ ⟨1, 0⟩ 0 := by
  refine ⟨by decide, ?_⟩
  intro h
  exact absurd h.notShort (by decide)

end Sleep

end ZnpHost.Tirtos
