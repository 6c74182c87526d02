import ZnpHost.Tirtos.Clock

/-!
# Timed waits of TI-RTOS

`sem_timedwait` turns a deadline into a number of ticks: the seconds left, times the ticks of a
second, and the nanoseconds of the deadline in ticks.  The seconds left are unsigned, so a
deadline in an earlier second is taken for one far ahead; and one in the same second is taken
for its nanoseconds, however many of them have passed.

## Main definitions

* `pendTicks` — the ticks that `sem_timedwait` passes to `Semaphore_pend`.
* `NeverExceeds` — a wait is not longer than requested, and not at all after the deadline.
* `InTime` — the tick of the wait is early enough, for the deadline built at an earlier tick.
* `neverExceeds_iff` — no wait exceeds the request exactly when it begins in time.
-/

namespace ZnpHost.Tirtos

open Lib Rpc

/-- The number of ticks for which `sem_timedwait`, called at the tick `ticks`, pends. -/
def pendTicks (P : TickPeriod) (abs_timeout : Timespec) (ticks : ℕ) : ℤ :=
  let sec := CType.uint32.wrap (abs_timeout.tv_sec - time P ticks)
  CType.uint32.wrap (CType.uint32.wrap (sec * (1000000 / P.us : ℕ)) +
    CType.uint32.wrap abs_timeout.tv_nsec / CType.uint32.wrap (P.us * 1000 : ℕ))

/-- A wait for a timeout in milliseconds, begun at the tick `ticks`, is not longer than the
timeout in ticks, and there is none if the deadline has passed. -/
structure NeverExceeds (P : TickPeriod) (deadline : Timespec) (timeout : UInt32) (ticks : ℕ) :
    Prop where
  atMost : pendTicks P deadline ticks ≤ (timeout.toNat * 1000 / P.us : ℕ)
  passed : deadline.ns ≤ 1000 * (ticks * P.us : ℕ) → pendTicks P deadline ticks = 0

/-! ## The ticks of a deadline -/

/-- The ticks of a second. -/
def TickPeriod.perSecond (P : TickPeriod) : ℕ := 1000000 / P.us

/-- The ticks of a timeout in milliseconds, less its full seconds. -/
def msTicks (P : TickPeriod) (timeout : ℕ) : ℕ := timeout % 1000 * 1000 / P.us

theorem msTicks_le (P : TickPeriod) (timeout : ℕ) : msTicks P timeout ≤ timeout % 1000 * 1000 :=
  Nat.div_le_self _ _

section PendTicks

variable {P : TickPeriod} {timeout : UInt32} {t₀ t₁ ticks : ℕ}

theorem time_of_lt (h : ticks * P.us < 2 ^ 32) : time P ticks = (ticks * P.us / 1000000 : ℕ) := by
  rw [time, clockUs_of_lt h]
  rfl

/-- The ticks for the nanoseconds of a deadline; from 2 ^ 31 ms on these are negative in a
`long` and large in an `unsigned long`. -/
def nsecTicks (P : TickPeriod) (timeout : UInt32) : ℕ :=
  if timeout.toNat < 2 ^ 31 then msTicks P timeout.toNat
  else (2 ^ 32 - (2 ^ 32 - timeout.toNat) % 1000 * 1000000) % 2 ^ 32 / (P.us * 1000)

/-- The seconds of a deadline. -/
theorem deadline_sec (h : t₀ * P.us < 2 ^ 32) :
    (waitDeadline abi (time P t₀) timeout).tv_sec =
      (t₀ * P.us / 1000000 + timeout.toNat / 1000 : ℕ) := by
  have hlt := timeout.toNat_lt
  simp only [waitDeadline, time_of_lt h]
  exact CType.wrap_uint32_of_lt (n := t₀ * P.us / 1000000 + timeout.toNat / 1000) (by omega)

theorem long_max : abi.long.max = 2 ^ 31 - 1 := rfl

/-- Its nanoseconds. -/
theorem deadline_nsec (now : ℤ) :
    (waitDeadline abi now timeout).tv_nsec =
      if timeout.toNat < 2 ^ 31 then ((timeout.toNat % 1000 * 1000000 : ℕ) : ℤ)
      else -((2 ^ 32 - timeout.toNat) % 1000 * 1000000 : ℕ) := by
  have hmax := long_max
  have hlt := timeout.toNat_lt
  split
  · rw [waitDeadline_nsec (by omega)]
    omega
  · simp only [waitDeadline]
    have hneg : (timeout.toNat : ℤ) - 2 ^ 32 = -(2 ^ 32 - timeout.toNat : ℕ) := by omega
    rw [wrap_timeout (by omega), hneg, Int.neg_tmod, Int.tmod_eq_emod_of_nonneg (by omega)]
    omega

/-- They come to `nsecTicks`. -/
theorem nsecTicks_eq (P : TickPeriod) (timeout : UInt32) (now : ℤ) :
    CType.uint32.wrap (waitDeadline abi now timeout).tv_nsec / CType.uint32.wrap (P.us * 1000 : ℕ) =
      nsecTicks P timeout := by
  have hle := P.us_le
  rw [deadline_nsec, nsecTicks, CType.wrap_uint32_of_lt (n := P.us * 1000) (by omega)]
  split
  · have hms : timeout.toNat % 1000 * 1000000 / (P.us * 1000) = msTicks P timeout.toNat := by
      rw [show timeout.toNat % 1000 * 1000000 = timeout.toNat % 1000 * 1000 * 1000 by omega]
      exact Nat.mul_div_mul_right _ _ (by decide)
    rw [CType.wrap_uint32_of_lt (by omega), ← hms]
    rfl
  · rw [CType.wrap_uint32_neg (by omega)]
    rfl

/-- The seconds left and the nanoseconds of the deadline, in ticks and in 32 bits. -/
theorem pendTicks_eq (h₀ : t₀ * P.us < 2 ^ 32) (h₁ : t₁ * P.us < 2 ^ 32) :
    pendTicks P (waitDeadline abi (time P t₀) timeout) t₁ =
      (((t₀ * P.us / 1000000 + timeout.toNat / 1000 : ℕ) - (t₁ * P.us / 1000000 : ℕ) : ℤ) *
        P.perSecond + nsecTicks P timeout) % 2 ^ 32 := by
  simp only [pendTicks, nsecTicks_eq, deadline_sec h₀, time_of_lt h₁]
  rw [← CType.wrap_uint32, CType.wrap_eq_wrap_iff]
  exact ((CType.wrap_modEq _ _).trans ((CType.wrap_modEq _ _).mul_right _)).add_right _

end PendTicks

/-! ## Waits that begin in time -/

/-- The seconds that begin between two ticks. -/
def secondsPassed (P : TickPeriod) (t₀ t₁ : ℕ) : ℕ :=
  t₁ * P.us / 1000000 - t₀ * P.us / 1000000

/-- A wait whose deadline is built at the tick `t₀` begins, at the tick `t₁`, before the second
of the deadline; or in it, if the deadline is still to come or less than a tick behind the full
second.  From 2 ^ 31 ms on, the ticks for the nanoseconds are made up for by the seconds passed
or wrap around. -/
def InTime (P : TickPeriod) (timeout : UInt32) (t₀ t₁ : ℕ) : Prop :=
  if timeout.toNat < 2 ^ 31 then
    secondsPassed P t₀ t₁ < timeout.toNat / 1000 ∨
      secondsPassed P t₀ t₁ = timeout.toNat / 1000 ∧
        (timeout.toNat % 1000 * 1000 < P.us ∨
          t₁ * P.us % 1000000 < timeout.toNat % 1000 * 1000)
  else
    nsecTicks P timeout ≤ secondsPassed P t₀ t₁ * P.perSecond +
        msTicks P timeout.toNat ∨
      secondsPassed P t₀ t₁ * P.perSecond + 2 ^ 32 ≤
        timeout.toNat / 1000 * P.perSecond + nsecTicks P timeout

section InTime

variable {P : TickPeriod} {timeout : UInt32} {t₀ t₁ : ℕ}

/-- A timeout in ticks. -/
theorem timeoutTicks_eq (P : TickPeriod) (timeout : ℕ) :
    timeout * 1000 / P.us =
      timeout / 1000 * P.perSecond + msTicks P timeout := by
  have hsecond : P.us * P.perSecond = 1000000 := Nat.mul_div_cancel' P.dvd
  have hsplit : timeout * 1000 =
      P.us * (timeout / 1000 * P.perSecond) + timeout % 1000 * 1000 := by
    rw [Nat.mul_left_comm, hsecond]
    omega
  rw [hsplit, Nat.mul_add_div P.pos, msTicks]

/-- Less than a second is fewer ticks than a second. -/
theorem msTicks_lt (P : TickPeriod) (timeout : ℕ) :
    msTicks P timeout < P.perSecond :=
  Nat.div_lt_div_of_lt_of_dvd P.dvd (by omega)

/-- The ticks of the seconds since the start. -/
theorem sec_mul_perSecond_lt (h : t₁ * P.us < 2 ^ 32) :
    t₁ * P.us / 1000000 * P.perSecond < 2 ^ 32 := by
  have hsecond : P.perSecond * P.us = 1000000 := Nat.div_mul_cancel P.dvd
  have hle : t₁ * P.us / 1000000 * P.perSecond ≤ t₁ := by
    apply Nat.le_of_mul_le_mul_right _ P.pos
    rw [Nat.mul_assoc, hsecond]
    exact Nat.div_mul_le_self _ _
  have hticks : t₁ ≤ t₁ * P.us := Nat.le_mul_of_pos_right t₁ P.pos
  omega

theorem nsecTicks_lt (P : TickPeriod) (timeout : UInt32) : nsecTicks P timeout < 2 ^ 32 := by
  rw [nsecTicks]
  split
  · have hle := msTicks_le P timeout.toNat
    omega
  · exact Nat.lt_of_le_of_lt (Nat.div_le_self _ _) (Nat.mod_lt _ (by decide))

/-- The number of ticks by the seconds passed. -/
theorem pendTicks_of_le (timeout : UInt32) (h : t₀ ≤ t₁) (h₁ : t₁ * P.us < 2 ^ 32) :
    pendTicks P (waitDeadline abi (time P t₀) timeout) t₁ =
      ((timeout.toNat / 1000 * P.perSecond : ℕ) -
        (secondsPassed P t₀ t₁ * P.perSecond : ℕ) + nsecTicks P timeout : ℤ) % 2 ^ 32 := by
  have hle : t₀ * P.us ≤ t₁ * P.us := Nat.mul_le_mul_right _ h
  have hsec : t₀ * P.us / 1000000 ≤ t₁ * P.us / 1000000 := Nat.div_le_div_right hle
  have hdiff : ((t₀ * P.us / 1000000 + timeout.toNat / 1000 : ℕ) : ℤ) -
      (t₁ * P.us / 1000000 : ℕ) = (timeout.toNat / 1000 : ℕ) - (secondsPassed P t₀ t₁ : ℕ) := by
    rw [secondsPassed]
    omega
  rw [pendTicks_eq (Nat.lt_of_le_of_lt hle h₁) h₁, hdiff, Int.sub_mul]
  rfl

/-- Whether a deadline has passed at a tick. -/
theorem deadline_passed_iff (h : t₀ ≤ t₁) (h₁ : t₁ * P.us < 2 ^ 32)
    (hlong : timeout.toNat < 2 ^ 31) :
    (waitDeadline abi (time P t₀) timeout).ns ≤ 1000 * (t₁ * P.us : ℕ) ↔
      timeout.toNat / 1000 < secondsPassed P t₀ t₁ ∨
      timeout.toNat / 1000 = secondsPassed P t₀ t₁ ∧
        timeout.toNat % 1000 * 1000 ≤ t₁ * P.us % 1000000 := by
  have hle : t₀ * P.us ≤ t₁ * P.us := Nat.mul_le_mul_right _ h
  rw [Timespec.ns, deadline_sec (Nat.lt_of_le_of_lt hle h₁), deadline_nsec, if_pos hlong,
    secondsPassed]
  omega

/-- Timeouts that a `long` holds. -/
theorem neverExceeds_of_lt (h : t₀ ≤ t₁) (h₁ : t₁ * P.us < 2 ^ 32)
    (hlong : timeout.toNat < 2 ^ 31) :
    NeverExceeds P (waitDeadline abi (time P t₀) timeout) timeout t₁ ↔
      secondsPassed P t₀ t₁ < timeout.toNat / 1000 ∨
        secondsPassed P t₀ t₁ = timeout.toNat / 1000 ∧
          (timeout.toNat % 1000 * 1000 < P.us ∨
            t₁ * P.us % 1000000 < timeout.toNat % 1000 * 1000) := by
  have hpend := pendTicks_of_le timeout h h₁
  have hrequest := timeoutTicks_eq P timeout.toNat
  have hpassed := deadline_passed_iff h h₁ hlong
  have hless := msTicks_lt P timeout.toNat
  have hnone : msTicks P timeout.toNat = 0 ↔ timeout.toNat % 1000 * 1000 < P.us :=
    Nat.div_eq_zero_iff_lt P.pos
  have hsmall := msTicks_le P timeout.toNat
  rw [nsecTicks, if_pos hlong] at hpend
  rcases Nat.lt_trichotomy (secondsPassed P t₀ t₁) (timeout.toNat / 1000) with hlt | heq | hgt
  · -- before the second of the deadline
    have hmul := Nat.mul_le_mul_right P.perSecond (Nat.le_of_lt hlt)
    refine iff_of_true ⟨?_, ?_⟩ (.inl hlt)
    · rw [hpend, hrequest]
      omega
    · intro hp
      have hlate := hpassed.mp hp
      omega
  · -- in its second no seconds are left
    rw [heq, sub_self, zero_add] at hpend
    have hvalue : pendTicks P (waitDeadline abi (time P t₀) timeout) t₁ =
        msTicks P timeout.toNat := by
      omega
    constructor
    · intro hnever
      refine .inr ⟨heq, ?_⟩
      by_cases hp : t₁ * P.us % 1000000 < timeout.toNat % 1000 * 1000
      · exact .inr hp
      · have hzero := hnever.passed (hpassed.mpr (.inr ⟨heq.symm, Nat.not_lt.mp hp⟩))
        exact .inl (hnone.mp (by omega))
    · intro hin
      refine ⟨?_, ?_⟩
      · rw [hvalue, hrequest]
        omega
      · intro hp
        have hlate := hpassed.mp hp
        rw [hvalue, hnone.mpr (by omega)]
        rfl
  · -- behind it they are negative
    have hmul := Nat.mul_le_mul_right P.perSecond hgt
    have hsec := sec_mul_perSecond_lt h₁
    have hle : secondsPassed P t₀ t₁ * P.perSecond ≤
        t₁ * P.us / 1000000 * P.perSecond := Nat.mul_le_mul_right _ (Nat.sub_le _ _)
    refine iff_of_false ?_ (by omega)
    intro hnever
    have hzero := hnever.passed (hpassed.mpr (.inl hgt))
    rw [Nat.succ_mul] at hmul
    omega

/-- Longer timeouts. -/
theorem neverExceeds_of_ge (h : t₀ ≤ t₁) (h₁ : t₁ * P.us < 2 ^ 32)
    (hlong : ¬ timeout.toNat < 2 ^ 31) :
    NeverExceeds P (waitDeadline abi (time P t₀) timeout) timeout t₁ ↔
      nsecTicks P timeout ≤ secondsPassed P t₀ t₁ * P.perSecond +
          msTicks P timeout.toNat ∨
        secondsPassed P t₀ t₁ * P.perSecond + 2 ^ 32 ≤
          timeout.toNat / 1000 * P.perSecond + nsecTicks P timeout := by
  have hpend := pendTicks_of_le timeout h h₁
  have hrequest := timeoutTicks_eq P timeout.toNat
  have hnsec := nsecTicks_lt P timeout
  have hle : t₀ * P.us ≤ t₁ * P.us := Nat.mul_le_mul_right _ h
  have hfar : secondsPassed P t₀ t₁ ≤ timeout.toNat / 1000 := by
    rw [secondsPassed]
    omega
  have hmul := Nat.mul_le_mul_right P.perSecond hfar
  have hahead : ¬ (waitDeadline abi (time P t₀) timeout).ns ≤ 1000 * (t₁ * P.us : ℕ) := by
    rw [Timespec.ns, deadline_sec (Nat.lt_of_le_of_lt hle h₁), deadline_nsec, if_neg hlong]
    omega
  constructor
  · intro hnever
    have hmost := hnever.atMost
    rw [hrequest] at hmost
    omega
  · intro hin
    refine ⟨?_, fun hp => absurd hp hahead⟩
    rw [hrequest]
    omega

end InTime

/-- **No timed wait exceeds the request** exactly when it begins in time, in
`rpcWaitMqClientMsg` and in `rpcSendFrame`, whose timeout is two full seconds. -/
theorem neverExceeds_iff (P : TickPeriod) (timeout : UInt32) {t₀ t₁ : ℕ} (h : t₀ ≤ t₁)
    (h₁ : t₁ * P.us < 2 ^ 32) :
    (NeverExceeds P (waitDeadline abi (time P t₀) timeout) timeout t₁ ↔ InTime P timeout t₀ t₁) ∧
    (NeverExceeds P (srspTimeOut abi (time P t₀)) srspTimeoutMs t₁ ↔
      secondsPassed P t₀ t₁ ≤ 2) := by
  constructor
  · rw [InTime]
    split
    · next hlong => exact neverExceeds_of_lt h h₁ hlong
    · next hlong => exact neverExceeds_of_ge h h₁ hlong
  · have hms : srspTimeoutMs.toNat = 2000 := rfl
    have hpos := P.pos
    rw [srspTimeOut, neverExceeds_of_lt h h₁ (by decide), hms]
    omega

/-- A wait of 50 ms that begins at the tick at which its deadline is built. -/
theorem neverExceeds_atOnce :
    NeverExceeds ⟨10, by decide, by decide⟩
      (waitDeadline abi (time ⟨10, by decide, by decide⟩ 0) 50) 50 0 :=
  (neverExceeds_iff ⟨10, by decide, by decide⟩ 50 (Nat.le_refl 0) (by decide)).1.mpr
    (.inr ⟨rfl, .inr (by decide)⟩)

/-- A wait of 50 ms whose deadline is built 10 microseconds before a full second and which
begins at the second: it is to last more than eleven hours. -/
theorem not_neverExceeds_fullSecond :
    pendTicks ⟨10, by decide, by decide⟩
        (waitDeadline abi (time ⟨10, by decide, by decide⟩ 99999) 50) 100000 = 4294872296 ∧
      ¬ NeverExceeds ⟨10, by decide, by decide⟩
        (waitDeadline abi (time ⟨10, by decide, by decide⟩ 99999) 50) 50 100000 := by
  have hvalue : pendTicks ⟨10, by decide, by decide⟩
      (waitDeadline abi (time ⟨10, by decide, by decide⟩ 99999) 50) 100000 = 4294872296 := by
    decide
  refine ⟨hvalue, ?_⟩
  intro h
  exact absurd h.atMost (by rw [hvalue]; decide)

end ZnpHost.Tirtos
