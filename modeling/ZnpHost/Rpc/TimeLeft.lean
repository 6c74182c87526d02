import ZnpHost.Rpc.Deadline
import ZnpHost.Rpc.LlqThreads

/-!
# The time left of a wait

`rpcWaitMqClientMsg` returns -1 when its wait timed out and otherwise what is left of the
timeout, in milliseconds and in 32 bits.  The intermediate values wrap around, which does no
harm; but a message may leave -1 milliseconds, and its caller takes this for a timeout.

## Main definitions

* `Timeval`, `elapsedMs` — the clock before and after the wait, and the milliseconds between.
* `rpcWaitMqClientMsg` — the value returned.
* `flushQueue` — the loop of the callers that empties the queue.
* `TellsTimeout` — the value tells a timeout from a message.
* `tellsTimeout_iff` — when it does.
-/

namespace ZnpHost.Rpc

open Lib

/-! ## The clock -/

/-- `struct timeval`. -/
structure Timeval where
  tv_sec : ℤ
  tv_usec : ℤ

namespace Timeval

/-- The reading in microseconds. -/
def us (t : Timeval) : ℤ := t.tv_sec * 1000000 + t.tv_usec

/-- The reading in whole milliseconds. -/
def wholeMs (t : Timeval) : ℤ := t.tv_sec * 1000 + t.tv_usec.tdiv 1000

/-- What `rpcWaitMqClientMsg` makes of a reading, in an `int32_t`. -/
def mTime (abi : Abi) (t : Timeval) : ℤ :=
  let ms := CType.int32.wrap (abi.timeT.wrap (t.tv_sec * 1000))
  CType.int32.wrap (abi.long.wrap (ms + t.tv_usec.tdiv 1000))

/-- It is the whole milliseconds, but for a multiple of two to the 32. -/
theorem mTime_modEq (abi : Abi) (t : Timeval) : t.mTime abi ≡ t.wholeMs [ZMOD 2 ^ 32] := by
  have hsec : CType.int32.wrap (abi.timeT.wrap (t.tv_sec * 1000)) ≡ t.tv_sec * 1000
      [ZMOD 2 ^ 32] :=
    (CType.int32.wrap_modEq _).trans (CType.wrap_modEq_of_le (t := .int32) abi.timeT_bits _)
  have hsum : t.mTime abi ≡
      CType.int32.wrap (abi.timeT.wrap (t.tv_sec * 1000)) + t.tv_usec.tdiv 1000 [ZMOD 2 ^ 32] :=
    (CType.int32.wrap_modEq _).trans (CType.wrap_modEq_of_le (t := .int32) abi.long_bits _)
  exact hsum.trans (hsec.add_right _)

end Timeval

/-- The difference of two readings in whole milliseconds. -/
def elapsedMs (befTime aftTime : Timeval) : ℤ := aftTime.wholeMs - befTime.wholeMs

/-- How much more the second reading has below a millisecond than the first. -/
def phase (befTime aftTime : Timeval) : ℤ :=
  aftTime.tv_usec.tmod 1000 - befTime.tv_usec.tmod 1000

/-- The time between, in whole milliseconds, differs from it where the phase is negative. -/
theorem elapsedUs_eq (befTime aftTime : Timeval) :
    (aftTime.us - befTime.us) / 1000 =
      elapsedMs befTime aftTime + phase befTime aftTime / 1000 := by
  have hbef := Int.mul_tdiv_add_tmod befTime.tv_usec 1000
  have haft := Int.mul_tdiv_add_tmod aftTime.tv_usec 1000
  simp only [elapsedMs, phase, Timeval.wholeMs, Timeval.us]
  omega

theorem phase_bounds (befTime aftTime : Timeval) :
    -2000 < phase befTime aftTime ∧ phase befTime aftTime < 2000 := by
  have hbef := Int.lt_tmod_of_pos befTime.tv_usec (show 0 < (1000 : ℤ) by decide)
  have hbef' := Int.tmod_lt_of_pos befTime.tv_usec (show 0 < (1000 : ℤ) by decide)
  have haft := Int.lt_tmod_of_pos aftTime.tv_usec (show 0 < (1000 : ℤ) by decide)
  have haft' := Int.tmod_lt_of_pos aftTime.tv_usec (show 0 < (1000 : ℤ) by decide)
  rw [phase]
  omega

/-! ## The value returned -/

namespace Received

/-- The value `llq_timedreceive` returns. -/
def ret : Received → ℤ
  | timedOut => -1
  | nothing => 0
  | message e => e.data.length

/-- A message was taken from the queue. -/
def dequeued : Received → Bool
  | message _ => true
  | _ => false

theorem ret_eq_neg_one_iff {r : Received} : r.ret = -1 ↔ r = timedOut := by
  cases r with
  | timedOut => simp [ret]
  | nothing => simp [ret]
  | message e => simp only [ret, reduceCtorEq]

end Received

/-- The value `rpcWaitMqClientMsg` returns, when `llq_timedreceive` is called at `befTime` and
returns at `aftTime`. -/
def rpcWaitMqClientMsg (abi : Abi) (timeout : UInt32) (befTime aftTime : Timeval)
    (received : Received) : ℤ :=
  if received.ret ≠ -1 then
    let mBefTime := befTime.mTime abi
    let mAftTime := aftTime.mTime abi
    let timeLeft := CType.int32.wrap (mAftTime - mBefTime)
    -- `timeout` is unsigned, so the difference is
    CType.int32.wrap (CType.uint32.wrap (timeout.toNat - CType.uint32.wrap timeLeft))
  else
    -1

section Value

variable {abi : Abi} {timeout : UInt32} {befTime aftTime : Timeval} {received : Received}

/-- The value after a wait that did not time out. -/
theorem rpcWaitMqClientMsg_of_ne (h : received ≠ .timedOut) :
    rpcWaitMqClientMsg abi timeout befTime aftTime received =
      CType.int32.wrap (timeout.toNat - elapsedMs befTime aftTime) := by
  rw [rpcWaitMqClientMsg, if_pos (mt Received.ret_eq_neg_one_iff.mp h)]
  have hdiff : CType.uint32.wrap (CType.int32.wrap (aftTime.mTime abi - befTime.mTime abi)) ≡
      elapsedMs befTime aftTime [ZMOD 2 ^ 32] :=
    calc CType.uint32.wrap (CType.int32.wrap (aftTime.mTime abi - befTime.mTime abi))
        ≡ CType.int32.wrap (aftTime.mTime abi - befTime.mTime abi) [ZMOD 2 ^ 32] :=
          CType.uint32.wrap_modEq _
      _ ≡ aftTime.mTime abi - befTime.mTime abi [ZMOD 2 ^ 32] := CType.int32.wrap_modEq _
      _ ≡ aftTime.wholeMs - befTime.wholeMs [ZMOD 2 ^ 32] :=
          (aftTime.mTime_modEq abi).sub (befTime.mTime_modEq abi)
  exact CType.wrap_eq_wrap_iff.mpr ((CType.uint32.wrap_modEq _).trans (hdiff.sub_left _))

/-- The value is -1 when the wait took a millisecond more than the timeout, in 32 bits. -/
theorem wrap_eq_neg_one_iff {ms : ℤ} :
    CType.int32.wrap (timeout.toNat - ms) = -1 ↔ ms ≡ timeout.toNat + 1 [ZMOD 2 ^ 32] := by
  have hneg : CType.int32.wrap (-1) = -1 := rfl
  rw [← hneg, CType.wrap_eq_wrap_iff, Int.modEq_iff_dvd, Int.modEq_iff_dvd]
  rw [show (-1 : ℤ) - (timeout.toNat - ms) = -(timeout.toNat + 1 - ms) by omega, Int.dvd_neg]
  rfl

/-- The time left is not -1 after a message, and it is -1 if the queue was empty after all. -/
def Distinct (timeout : UInt32) (befTime aftTime : Timeval) : Received → Prop
  | .timedOut => True
  | .nothing => elapsedMs befTime aftTime ≡ timeout.toNat + 1 [ZMOD 2 ^ 32]
  | .message _ => ¬ elapsedMs befTime aftTime ≡ timeout.toNat + 1 [ZMOD 2 ^ 32]

/-- The value is -1 exactly when no message was dequeued. -/
theorem rpcWaitMqClientMsg_eq_neg_one_iff :
    (rpcWaitMqClientMsg abi timeout befTime aftTime received = -1 ↔ received.dequeued = false) ↔
      Distinct timeout befTime aftTime received := by
  cases received with
  | timedOut => simp [rpcWaitMqClientMsg, Received.ret, Received.dequeued, Distinct]
  | nothing =>
    rw [rpcWaitMqClientMsg_of_ne (by simp), wrap_eq_neg_one_iff]
    simp [Received.dequeued, Distinct]
  | message e =>
    rw [rpcWaitMqClientMsg_of_ne (by simp), wrap_eq_neg_one_iff]
    simp [Received.dequeued, Distinct]

end Value

/-! ## What the callers learn -/

/-- The value tells a timeout from a message: it is -1 exactly when none was dequeued, and
otherwise the timeout less `elapsed`, in 32 bits. -/
structure TellsTimeout (abi : Abi) (timeout : UInt32) (befTime aftTime : Timeval)
    (received : Received) (elapsed : ℤ) : Prop where
  timedOut : rpcWaitMqClientMsg abi timeout befTime aftTime received = -1 ↔
    received.dequeued = false
  timeLeft : received.dequeued = true →
    rpcWaitMqClientMsg abi timeout befTime aftTime received ≡ timeout.toNat - elapsed
      [ZMOD 2 ^ 32]

/-- A call in the loop of a caller. -/
structure WaitCall where
  timeout : UInt32
  befTime : Timeval
  aftTime : Timeval
  received : Received

/-- Its value. -/
def WaitCall.status (abi : Abi) (c : WaitCall) : ℤ :=
  rpcWaitMqClientMsg abi c.timeout c.befTime c.aftTime c.received

/-- The loop `while (status != -1) status = rpcWaitMqClientMsg(..)`: the number of calls before
the last one. -/
def flushQueue (abi : Abi) (calls : ℕ → WaitCall) : ℕ → ℕ → Option ℕ
  | 0, _ => none
  | fuel + 1, n =>
    if (calls n).status abi = -1 then some n else flushQueue abi calls fuel (n + 1)

theorem status_of_flushQueue {abi : Abi} {calls : ℕ → WaitCall} {fuel : ℕ} :
    ∀ {n k : ℕ}, flushQueue abi calls fuel n = some k → (calls k).status abi = -1 := by
  induction fuel with
  | zero =>
    intro n k h
    cases h
  | succ fuel ih =>
    intro n k h
    rw [flushQueue] at h
    split at h
    · next hstatus =>
      obtain rfl : n = k := by simpa using h
      exact hstatus
    · exact ih h

/-- After a message the value counts any time congruent to that between the readings. -/
theorem timeLeft_iff {abi : Abi} {timeout : UInt32} {befTime aftTime : Timeval}
    {received : Received} (h : received.dequeued = true) {elapsed : ℤ} :
    rpcWaitMqClientMsg abi timeout befTime aftTime received ≡ timeout.toNat - elapsed
      [ZMOD 2 ^ 32] ↔ elapsedMs befTime aftTime ≡ elapsed [ZMOD 2 ^ 32] := by
  have hne : received ≠ .timedOut := by
    rintro rfl
    cases h
  have hvalue : rpcWaitMqClientMsg abi timeout befTime aftTime received ≡
      timeout.toNat - elapsedMs befTime aftTime [ZMOD 2 ^ 32] := by
    rw [rpcWaitMqClientMsg_of_ne hne]
    exact CType.int32.wrap_modEq _
  constructor
  · intro hleft
    have hsub := (hvalue.symm.trans hleft).sub_left timeout.toNat
    rwa [sub_sub_cancel, sub_sub_cancel] at hsub
  · intro helapsed
    exact hvalue.trans (helapsed.sub_left _)

theorem tellsTimeout_elapsedMs_iff (abi : Abi) (timeout : UInt32) (befTime aftTime : Timeval)
    (received : Received) :
    TellsTimeout abi timeout befTime aftTime received (elapsedMs befTime aftTime) ↔
      Distinct timeout befTime aftTime received := by
  constructor
  · intro h
    exact rpcWaitMqClientMsg_eq_neg_one_iff.mp h.timedOut
  · intro h
    exact ⟨rpcWaitMqClientMsg_eq_neg_one_iff.mpr h, fun hdeq => (timeLeft_iff hdeq).mpr rfl⟩

/-- The value counts the time between the readings in whole milliseconds, if the second one has
as much below a millisecond as the first, or more. -/
theorem tellsTimeout_us_iff (abi : Abi) (timeout : UInt32) (befTime aftTime : Timeval)
    (received : Received) :
    TellsTimeout abi timeout befTime aftTime received ((aftTime.us - befTime.us) / 1000) ↔
      Distinct timeout befTime aftTime received ∧
        (received.dequeued = true → 0 ≤ phase befTime aftTime ∧ phase befTime aftTime < 1000) := by
  have heq := elapsedUs_eq befTime aftTime
  obtain ⟨hlow, hhigh⟩ := phase_bounds befTime aftTime
  constructor
  · intro h
    refine ⟨rpcWaitMqClientMsg_eq_neg_one_iff.mp h.timedOut, ?_⟩
    intro hdeq
    have hcong := (timeLeft_iff hdeq).mp (h.timeLeft hdeq)
    rw [heq, Int.modEq_iff_dvd, add_sub_cancel_left] at hcong
    omega
  · rintro ⟨hdistinct, hphase⟩
    refine ⟨rpcWaitMqClientMsg_eq_neg_one_iff.mpr hdistinct, ?_⟩
    intro hdeq
    have hzero : phase befTime aftTime / 1000 = 0 :=
      Int.ediv_eq_zero_of_lt (hphase hdeq).1 (hphase hdeq).2
    rw [timeLeft_iff hdeq, heq, hzero, add_zero]

/-- **The value tells a timeout from a message** exactly when no message took a millisecond
more than the timeout, in 32 bits; if that holds of every call, the loop of a caller stops
only after a wait without a message. -/
theorem tellsTimeout_iff (abi : Abi) (timeout : UInt32) (befTime aftTime : Timeval)
    (received : Received) :
    (TellsTimeout abi timeout befTime aftTime received (elapsedMs befTime aftTime) ↔
      Distinct timeout befTime aftTime received) ∧
    (TellsTimeout abi timeout befTime aftTime received ((aftTime.us - befTime.us) / 1000) ↔
      Distinct timeout befTime aftTime received ∧
        (received.dequeued = true → 0 ≤ phase befTime aftTime ∧ phase befTime aftTime < 1000)) ∧
    ∀ calls : ℕ → WaitCall,
      (∀ n, Distinct (calls n).timeout (calls n).befTime (calls n).aftTime (calls n).received) →
      ∀ fuel n, flushQueue abi calls fuel 0 = some n → (calls n).received.dequeued = false := by
  refine ⟨tellsTimeout_elapsedMs_iff abi timeout befTime aftTime received,
    tellsTimeout_us_iff abi timeout befTime aftTime received, ?_⟩
  intro calls hcalls fuel n hrun
  exact (rpcWaitMqClientMsg_eq_neg_one_iff.mpr (hcalls n)).mp (status_of_flushQueue hrun)

/-- A message that arrives a millisecond after its wait of 50 ms was to end. -/
theorem not_tellsTimeout_lateMessage :
    ¬ TellsTimeout lp64 50 ⟨1700000000, 0⟩ ⟨1700000000, 51000⟩ (.message ⟨0, [0x41, 0x80, 0xC1]⟩)
        (elapsedMs ⟨1700000000, 0⟩ ⟨1700000000, 51000⟩) ∧
      rpcWaitMqClientMsg lp64 50 ⟨1700000000, 0⟩ ⟨1700000000, 51000⟩
        (.message ⟨0, [0x41, 0x80, 0xC1]⟩) = -1 := by
  have hvalue : rpcWaitMqClientMsg lp64 50 ⟨1700000000, 0⟩ ⟨1700000000, 51000⟩
      (.message ⟨0, [0x41, 0x80, 0xC1]⟩) = -1 := by decide
  refine ⟨?_, hvalue⟩
  intro h
  cases h.timedOut.mp hvalue

end ZnpHost.Rpc
