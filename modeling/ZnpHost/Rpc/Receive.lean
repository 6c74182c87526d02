import Mathlib.Data.Int.Notation
import ZnpHost.Gnu.DbgPrint
import ZnpHost.Rpc.Frame

/-!
# The receiving side: `rpcProcess`

`rpcProcess` reads one frame from the transport, verifies its checksum and
dispatches it.  The transport is a parameter: a read function on a transport
state, where `none` stands for a read that never returns.  The loops of the
source run on fuel, so that a call returns when some amount of fuel gives a
result.

Of what `dbg_print` is given only one print matters: that of an SRSP which is not
expected has a format with two `%s` and no string among its arguments, and ends the
process.  All other prints are given what their formats ask for.

## Main definitions

* `ReadResult` — what one call of `rpcTransportRead` stores and returns.
* `readBody` — the partial-read loop with its 8-bit counters and retry counter.
* `printRpcMsgLoop` — the loop of `printRpcMsg`, whose counter is eight bits wide.
* `rpcReadFrame`, `rpcReceive` — `rpcProcess` up to and including the checksum test.
* `printUnexpected` — the print of an SRSP that is not expected.
* `rpcDispatch`, `rpcProcess` — the rest, on the shared state `RpcState`.
* `deliver`, `heard` — the dispatch as a function of the message, and which messages of a
  sequence get that far.
-/

namespace ZnpHost.Rpc

open Lib Gnu

/-! ## Transport -/

/-- One call of `rpcTransportRead`: the bytes stored, or a failed `read`. -/
inductive ReadResult
  | data (bytes : List UInt8)
  | error

namespace ReadResult

/-- The value `rpcTransportRead` returns; the result `-1` is truncated to eight bits. -/
def ret : ReadResult → UInt8
  | data bytes => UInt8.ofNat bytes.length
  | error => 0xFF

/-- The bytes the call stored through its buffer pointer. -/
def bytes : ReadResult → List UInt8
  | data bytes => bytes
  | error => []

end ReadResult

/-- A transport: `read s len` is the outcome of `rpcTransportRead(buf, len)`. -/
abbrev Transport (σ : Type) := σ → UInt8 → Option (ReadResult × σ)

/-! ## The body loop -/

/-- The local variables of the body loop of `rpcProcess`. -/
structure BodyState where
  rpcBuff : Mem
  rpcBuffIdx : UInt8
  rpcTempLen : UInt8
  retryAttempts : UInt8

/-- `update counters`: eight-bit arithmetic on the bytes still missing and the index. -/
def BodyState.advance (b : BodyState) (bytesRead : UInt8) : BodyState :=
  { b with
    rpcTempLen := if b.rpcTempLen > bytesRead then b.rpcTempLen - bytesRead else 0
    rpcBuffIdx := b.rpcBuffIdx + bytesRead }

/-- How the body loop ends: all bytes counted, or too many failed reads. -/
inductive BodyEnd
  | complete (b : BodyState)
  | aborted

variable {σ : Type}

/-- The loop `while (rpcTempLen > 0)` of `rpcProcess`. -/
def readBody (read : Transport σ) : ℕ → σ → BodyState → Option (BodyEnd × σ)
  | 0, _, _ => none
  | fuel + 1, s, b =>
    if b.rpcTempLen > 0 then do
      let (r, s) ← read s b.rpcTempLen
      let b : BodyState := { b with rpcBuff := b.rpcBuff.blit b.rpcBuffIdx.toNat r.bytes }
      -- more bytes than requested is how an error is recognised
      if r.ret > b.rpcTempLen then
        if b.retryAttempts < 5 then
          readBody read fuel s
            (BodyState.advance { b with retryAttempts := b.retryAttempts + 1 } 0)
        else
          some (.aborted, s)
      else
        readBody read fuel s (b.advance r.ret)
    else
      some (.complete b, s)

/-! ## Printing -/

/-- The payload loop of `printRpcMsg`: `for (i = 2; i < len + 2; i++)` with an 8-bit
`i` and an `int` bound.  The result is `i` after the loop. -/
def printRpcMsgLoop (len : UInt8) : ℕ → UInt8 → Option UInt8
  | 0, _ => none
  | fuel + 1, i =>
    if i.toNat < len.toNat + 2 then printRpcMsgLoop len fuel (i + 1) else some i

/-- `printRpcMsg`, of which only the control flow is kept. -/
def printRpcMsg (len : UInt8) (fuel : ℕ) : Option UInt8 := printRpcMsgLoop len fuel 2

/-! ## One frame -/

/-- How the receiving part of `rpcProcess` ends; the caller does not use its return value. -/
inductive Verdict
  /-- No valid start of frame found. -/
  | noSof
  /-- The length byte was not read. -/
  | noLen
  /-- The transport failed too many times. -/
  | readFailed
  /-- The checksum differs. -/
  | fcsError
  /-- The checksum agrees; `rpcLen` counts `cmd0`, `cmd1`, payload and FCS. -/
  | valid (rpcBuff : Mem) (rpcLen : UInt8)

/-- The part of `rpcProcess` that follows the length byte `len`: read the body, print the
frame and verify its checksum. -/
def rpcReadFrame (read : Transport σ) (fuel : ℕ) (s : σ) (rpcBuff : Mem) (len : UInt8) :
    Option (Verdict × σ) := do
  let rpcLen := len + 3
  let (e, s) ← readBody read fuel s
    { rpcBuff := rpcBuff.set 0 len, rpcBuffIdx := 1, rpcTempLen := rpcLen, retryAttempts := 0 }
  match e with
  | .aborted => some (.readFailed, s)
  | .complete b =>
    let _ ← printRpcMsg len fuel
    -- the array index is an `int`, the size argument eight bits wide
    let fcs := calcFcs b.rpcBuff (len + 3)
    if b.rpcBuff (len.toNat + 3) = fcs then some (.valid b.rpcBuff rpcLen, s)
    else some (.fcsError, s)

/-- `rpcProcess` up to the checksum test, on a receive buffer with content `rpcBuff`. -/
def rpcReceive (read : Transport σ) (fuel : ℕ) (s : σ) (rpcBuff : Mem) :
    Option (Verdict × σ) := do
  -- read first byte and check it is a SOF
  let (r, s) ← read s 1
  if r.bytes.head? = some mtRpcSof ∧ r.ret = 1 then
    -- read length byte
    let (r, s) ← read s 1
    match r.bytes.head?, r.ret == 1 with
    | some len, true => rpcReadFrame read fuel s rpcBuff len
    | _, _ => some (.noLen, s)
  else
    some (.noSof, s)

/-! ## Dispatch -/

/-- The state shared by the receiving and the sending threads.  Messages are queued as
the bytes from `cmd0` to the FCS. -/
structure RpcState where
  rpcSem : ℕ
  srspSem : ℕ
  expectedSrspCmdId : UInt8
  rpcLlq : List (List UInt8)

/-- The state after `rpcOpen` and `rpcInitMq`; `expectedSrspCmdId` is a zero-initialised
static variable. -/
def rpcOpen : RpcState := ⟨1, 0, 0, []⟩

/-- The print `"rpcProcess: UNEXPECTED SREQ!: %02X%s:%02X%s"`, whose arguments are
`expectedSrspCmdId` and the subsystem of the SRSP. -/
def printUnexpected : Option Unit := dbgPrint .warning [.int, .str, .int, .str] [.int, .int]

/-- It takes the subsystem for the address of a string and does not come back. -/
@[simp] theorem printUnexpected_eq_none : printUnexpected = none := by
  rw [printUnexpected, dbgPrint_eq_none_iff]
  decide

/-- The tail of `rpcProcess`, run on a frame whose checksum agrees.  The result is the state
it leaves, or `none` if the process has ended in a print. -/
def rpcDispatch (st : RpcState) (rpcBuff : Mem) (rpcLen : UInt8) : Option RpcState :=
  let msg := (rpcBuff.shift 1).take rpcLen.toNat
  if cmdType (rpcBuff 1) = mtRpcCmdSrsp then
    if st.expectedSrspCmdId = subsystem (rpcBuff 1) then
      -- unblock the waiting SREQ, message to the head of the queue
      some { st with srspSem := st.srspSem + 1, rpcLlq := msg :: st.rpcLlq }
    else
      -- unexpected SRSP, discard
      printUnexpected.map fun _ => st
  else
    -- should be an AREQ frame, message to the tail of the queue
    some { st with rpcLlq := st.rpcLlq ++ [msg] }

/-- The bytes a call accepted, that is, whose checksum it found right. -/
def Verdict.accepted : Verdict → Option (List UInt8)
  | .valid rpcBuff rpcLen => some ((rpcBuff.shift 1).take rpcLen.toNat)
  | _ => none

/-- `rpcProcess`: receive one frame and dispatch it.  `none` stands for a call that never gets
through its loops; one that does gives its verdict and what is left of the process. -/
def rpcProcess (read : Transport σ) (fuel : ℕ) (s : σ) (rpcBuff : Mem) (st : RpcState) :
    Option (Verdict × σ × Option RpcState) := do
  let (v, s) ← rpcReceive read fuel s rpcBuff
  match v with
  | .valid b rpcLen => some (v, s, rpcDispatch st b rpcLen)
  | _ => some (v, s, some st)

/-! ## Delivery -/

/-- What the dispatch does with a message. -/
def deliver (st : RpcState) (msg : List UInt8) : Option RpcState :=
  if cmdType (msg.headD 0) = mtRpcCmdSrsp then
    if st.expectedSrspCmdId = subsystem (msg.headD 0) then
      some { st with srspSem := st.srspSem + 1, rpcLlq := msg :: st.rpcLlq }
    else none
  else some { st with rpcLlq := st.rpcLlq ++ [msg] }

/-- An SRSP for another subsystem than the expected one. -/
def Unexpected (st : RpcState) (msg : List UInt8) : Prop :=
  cmdType (msg.headD 0) = mtRpcCmdSrsp ∧ st.expectedSrspCmdId ≠ subsystem (msg.headD 0)

instance (st : RpcState) (msg : List UInt8) : Decidable (Unexpected st msg) :=
  inferInstanceAs (Decidable (_ ∧ _))

/-- An unexpected message ends the process. -/
theorem deliver_eq_none_iff {st : RpcState} {msg : List UInt8} :
    deliver st msg = none ↔ Unexpected st msg := by
  simp only [deliver, Unexpected]
  split
  · split <;> simp_all
  · simp_all

/-- Any other message is put at one end of the queue. -/
theorem deliver_of_expected {st : RpcState} {msg : List UInt8} (h : ¬ Unexpected st msg) :
    deliver st msg = some (if cmdType (msg.headD 0) = mtRpcCmdSrsp then
        { st with srspSem := st.srspSem + 1, rpcLlq := msg :: st.rpcLlq }
      else { st with rpcLlq := st.rpcLlq ++ [msg] }) := by
  simp only [Unexpected, not_and, not_not] at h
  simp only [deliver]
  split
  · next hsrsp => rw [if_pos (h hsrsp)]
  · rfl

/-- The expected identifier stays as it is. -/
theorem unexpected_deliver {st st' : RpcState} {msg : List UInt8} (h : deliver st msg = some st')
    (msg' : List UInt8) : Unexpected st' msg' ↔ Unexpected st msg' := by
  have hexp : ¬ Unexpected st msg := by
    intro hun
    rw [deliver_eq_none_iff.mpr hun] at h
    cases h
  rw [deliver_of_expected hexp] at h
  obtain rfl := Option.some.inj h
  unfold Unexpected
  split <;> rfl

/-- The dispatch of an accepted message. -/
theorem rpcDispatch_of_accepted {rpcBuff : Mem} {rpcLen c : UInt8} {cs : List UInt8}
    (h : (Verdict.valid rpcBuff rpcLen).accepted = some (c :: cs)) (st : RpcState) :
    rpcDispatch st rpcBuff rpcLen = deliver st (c :: cs) := by
  have hmsg : (rpcBuff.shift 1).take rpcLen.toNat = c :: cs := Option.some.inj h
  have hhead : rpcBuff 1 = c := by
    cases hn : rpcLen.toNat with
    | zero => simp [hn] at hmsg
    | succ n =>
      rw [hn, Mem.take_succ] at hmsg
      exact (List.cons.inj hmsg).1
  rw [rpcDispatch, hmsg, hhead, deliver]
  rfl

/-- **A call does what the message it accepts asks for.** -/
theorem rpcProcess_deliver {read : Transport σ} {fuel : ℕ} {s s' : σ} {rpcBuff : Mem}
    {v : Verdict} (h : rpcReceive read fuel s rpcBuff = some (v, s')) (hv : v.accepted ≠ some [])
    (st : RpcState) :
    rpcProcess read fuel s rpcBuff st = some (v, s', v.accepted.toList.foldlM deliver st) := by
  cases v with
  | valid b rpcLen =>
    cases hmsg : (Verdict.valid b rpcLen).accepted with
    | none => cases hmsg
    | some msg =>
      cases msg with
      | nil => exact absurd hmsg hv
      | cons c cs => simp [rpcProcess, h, rpcDispatch_of_accepted hmsg st]
  | noSof | noLen | readFailed | fcsError => simp [rpcProcess, h, Verdict.accepted]

/-- The messages up to the first unexpected one, at which the process ends. -/
def heard (st : RpcState) : List (List UInt8) → List (List UInt8)
  | [] => []
  | msg :: msgs => if Unexpected st msg then [msg] else msg :: heard st msgs

theorem heard_append_of_unexpected {st : RpcState} {msgs : List (List UInt8)}
    (h : ∃ msg ∈ msgs, Unexpected st msg) (msgs' : List (List UInt8)) :
    heard st (msgs ++ msgs') = heard st msgs := by
  induction msgs with
  | nil => simp at h
  | cons msg msgs ih =>
    simp only [List.cons_append, heard]
    split
    · rfl
    · next hexp =>
      rw [ih]
      simpa [hexp] using h

theorem heard_append_of_expected {st : RpcState} {msgs : List (List UInt8)}
    (h : ∀ msg ∈ msgs, ¬ Unexpected st msg) (msgs' : List (List UInt8)) :
    heard st (msgs ++ msgs') = msgs ++ heard st msgs' := by
  induction msgs with
  | nil => rfl
  | cons msg msgs ih =>
    rw [List.cons_append, heard, if_neg (h msg List.mem_cons_self),
      ih fun m hm => h m (List.mem_cons_of_mem msg hm), List.cons_append]

/-- All messages are heard exactly when none but the last is unexpected. -/
theorem heard_eq_self_iff {st : RpcState} {msgs : List (List UInt8)} :
    heard st msgs = msgs ↔ ∀ msg ∈ msgs.dropLast, ¬ Unexpected st msg := by
  induction msgs with
  | nil => simp [heard]
  | cons msg msgs ih =>
    cases msgs with
    | nil => simp [heard]
    | cons msg' msgs =>
      rw [heard, List.dropLast_cons_cons, List.forall_mem_cons]
      split
      · next hun => simp [hun]
      · next hexp => rw [List.cons.injEq, ih, and_iff_right rfl, and_iff_right hexp]

theorem heard_congr {st st' : RpcState} (h : ∀ msg, Unexpected st' msg ↔ Unexpected st msg)
    (msgs : List (List UInt8)) : heard st' msgs = heard st msgs := by
  induction msgs with
  | nil => rfl
  | cons msg msgs ih => simp only [heard, h, ih]

/-- A sequence of messages is delivered as long as none is unexpected. -/
theorem foldlM_deliver_eq_none_iff {st : RpcState} {msgs : List (List UInt8)} :
    msgs.foldlM deliver st = none ↔ ∃ msg ∈ msgs, Unexpected st msg := by
  induction msgs generalizing st with
  | nil => simp
  | cons msg msgs ih =>
    simp only [List.foldlM_cons, List.mem_cons, exists_eq_or_imp]
    cases hd : deliver st msg with
    | none => simp [deliver_eq_none_iff.mp hd]
    | some st' =>
      have hexp : ¬ Unexpected st msg := by
        rw [← deliver_eq_none_iff, hd]
        simp
      simp [hexp, ih, unexpected_deliver hd]

/-- Delivery does not change which messages are unexpected. -/
theorem unexpected_foldlM_deliver {st st' : RpcState} {msgs : List (List UInt8)}
    (h : msgs.foldlM deliver st = some st') (msg : List UInt8) :
    Unexpected st' msg ↔ Unexpected st msg := by
  induction msgs generalizing st with
  | nil =>
    cases h
    rfl
  | cons m msgs ih =>
    rw [List.foldlM_cons] at h
    obtain ⟨st₁, hd, hrest⟩ := Option.bind_eq_some_iff.mp h
    rw [ih hrest, unexpected_deliver hd]

/-! ## Reading the header -/

/-- A first byte other than SOF ends the call. -/
theorem rpcReceive_noSof {read : Transport σ} {s s₁ : σ} {b : UInt8}
    (h : read s 1 = some (.data [b], s₁)) (hb : b ≠ mtRpcSof) (fuel : ℕ) (rpcBuff : Mem) :
    rpcReceive read fuel s rpcBuff = some (.noSof, s₁) := by
  simp [rpcReceive, h, ReadResult.bytes, hb]

/-- After SOF and a length byte the call goes on with the body. -/
theorem rpcReceive_frame {read : Transport σ} {s s₁ s₂ : σ} {len : UInt8}
    (h₁ : read s 1 = some (.data [mtRpcSof], s₁)) (h₂ : read s₁ 1 = some (.data [len], s₂))
    (fuel : ℕ) (rpcBuff : Mem) :
    rpcReceive read fuel s rpcBuff = rpcReadFrame read fuel s₂ rpcBuff len := by
  simp [rpcReceive, h₁, h₂, ReadResult.bytes, ReadResult.ret]

end ZnpHost.Rpc
