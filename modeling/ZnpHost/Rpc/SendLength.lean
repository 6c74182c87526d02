import ZnpHost.Rpc.Indices

/-!
# Payload lengths of `rpcSendFrame`

A payload length is eight bits wide, the frame buffer holds 256 bytes and five of them are
not payload.  The length of the checksum, the length handed to `rpcTransportWrite` and the
index of the checksum each overflow at their own payload length above 250.

## Main definitions

* `rpcSendFrame` — a call that finds the semaphore free, with the bytes it wrote.
* `rpcSendFrameIndices` — the indices of its frame buffer.
* `SendsWhole` — a call sends the whole frame, or reports an error and sends nothing.
* `sendsWhole_iff` — for which calls this holds.
-/

namespace ZnpHost.Rpc

open Lib

variable {cmd0 cmd1 payloadLen : UInt8} {payload buf : Mem} {srsp : Bool}

/-- A call of `rpcSendFrame`: the status and the bytes handed to `rpcTransportWrite`.  For
an SREQ, `srsp` says whether `sem_timedwait` takes a token of `srspSem` in time. -/
def rpcSendFrame (cmd0 cmd1 : UInt8) (payload : Mem) (payloadLen : UInt8) (buf : Mem)
    (srsp : Bool) (fuel : ℕ) : Option (UInt8 × List UInt8) := do
  let tx := rpcSendFrameTx cmd0 cmd1 payload payloadLen buf
  let _ ← printRpcMsg payloadLen fuel
  -- wait for SRSP if necessary
  if cmdType cmd0 = mtRpcCmdSreq then
    if srsp then some (mtRpcSuccess, tx) else some (mtRpcErrSubsystem, tx)
  else some (mtRpcSuccess, tx)

/-- The indices of `buf` used by a call of `rpcSendFrame`. -/
def rpcSendFrameIndices (payloadLen : UInt8) (fuel : ℕ) : List ℕ :=
  [0, 1, 2, 3] ++
    (if payloadLen > 0 then List.range' rpcUartHdrLen.toNat payloadLen.toNat else []) ++
    List.range' 1 (payloadLen + rpcHdrLen).toNat ++
    [payloadLen.toNat + rpcUartHdrLen.toNat] ++
    List.range (payloadLen + rpcUartHdrLen + rpcUartFcsLen).toNat ++
    -- `printRpcMsg` is given `buf[0]` and `&buf[2]`
    0 :: (printRpcMsgIndices payloadLen fuel).map (2 + ·)

/-- SOF, the length, the command, the whole payload and the exclusive or of all bytes after
SOF. -/
def wholeFrame (cmd0 cmd1 : UInt8) (payload : List UInt8) (payloadLen : UInt8) : List UInt8 :=
  mtRpcSof :: payloadLen :: cmd0 :: cmd1 ::
    (payload ++ [xorAll (payloadLen :: cmd0 :: cmd1 :: payload)])

/-- The call writes the whole frame, inside its buffer, or it returns an error and writes
nothing. -/
def SendsWhole (cmd0 cmd1 : UInt8) (payload : Mem) (payloadLen : UInt8) (buf : Mem)
    (srsp : Bool) : Prop :=
  (rpcSendFrameTx cmd0 cmd1 payload payloadLen buf =
      wholeFrame cmd0 cmd1 (payload.take payloadLen.toNat) payloadLen ∧
    ∀ fuel, ∀ i ∈ rpcSendFrameIndices payloadLen fuel, i < rpcMaxLen) ∨
  ∃ fuel status, rpcSendFrame cmd0 cmd1 payload payloadLen buf srsp fuel = some (status, []) ∧
    status ≠ mtRpcSuccess

/-! ## Up to 250 bytes -/

/-- A payload of at most 250 bytes is sent as the encoding of its frame. -/
theorem rpcSendFrameTx_eq_wholeFrame (hlen : payloadLen.toNat ≤ 250) (cmd0 cmd1 : UInt8)
    (payload buf : Mem) :
    rpcSendFrameTx cmd0 cmd1 payload payloadLen buf =
      wholeFrame cmd0 cmd1 (payload.take payloadLen.toNat) payloadLen := by
  let f : MtFrame := ⟨cmd0, cmd1, payload.take payloadLen.toNat, by rwa [Mem.length_take]⟩
  have hf : f.len = payloadLen := by
    apply UInt8.toNat_inj.mp
    rw [f.toNat_len]
    exact Mem.length_take payload payloadLen.toNat
  have hpay : Mem.ofList f.payload payload = payload := by
    have hback := Mem.blit_take payload 0 payloadLen.toNat
    rwa [Mem.shift_zero] at hback
  have hwire : f.wire = wholeFrame cmd0 cmd1 (payload.take payloadLen.toNat) payloadLen := by
    rw [MtFrame.wire, MtFrame.msg, MtFrame.fcs, MtFrame.covered, hf]
    rfl
  have hsend := rpcSendFrameTx_eq_wire f payload buf
  rwa [hpay, hf, hwire] at hsend

/-- Up to 251 bytes the frame buffer is not left. -/
theorem rpcSendFrameIndices_lt (hlen : payloadLen.toNat ≤ 251) (fuel : ℕ) :
    ∀ i ∈ rpcSendFrameIndices payloadLen fuel, i < rpcMaxLen := by
  have hfour : rpcUartHdrLen.toNat = 4 := rfl
  have hhdr : (payloadLen + rpcHdrLen).toNat = payloadLen.toNat + 3 := by
    simp only [UInt8.toNat_add, rpcHdrLen, UInt8.reduceToNat]
    omega
  intro i hi
  simp only [rpcMaxLen]
  simp only [rpcSendFrameIndices, List.append_assoc, List.mem_append] at hi
  rcases hi with hi | hi | hi | hi | hi | hi
  · -- the header
    have hmem := List.mem_range.mp (show i ∈ List.range 4 from hi)
    omega
  · -- the payload
    split at hi
    · have hmem := (List.mem_range'_1.mp hi).2
      omega
    · cases hi
  · -- the bytes covered by the checksum
    have hmem := (List.mem_range'_1.mp hi).2
    omega
  · rw [List.mem_singleton.mp hi]
    omega
  · -- the bytes written
    have hmem := List.mem_range.mp hi
    have htx := (payloadLen + rpcUartHdrLen + rpcUartFcsLen).toNat_lt
    omega
  · -- the bytes printed
    rcases List.mem_cons.mp hi with rfl | hi
    · omega
    obtain ⟨j, hj, rfl⟩ := List.mem_map.mp hi
    have hle := printRpcMsgIndices_le payloadLen fuel j hj
    omega

/-! ## Above 250 bytes -/

theorem length_wholeFrame (cmd0 cmd1 : UInt8) (payload : Mem) (payloadLen : UInt8) :
    (wholeFrame cmd0 cmd1 (payload.take payloadLen.toNat) payloadLen).length =
      payloadLen.toNat + 5 := by
  simp [wholeFrame]

/-- Above 250 bytes the length handed to `rpcTransportWrite` wraps. -/
theorem length_rpcSendFrameTx (hlen : 251 ≤ payloadLen.toNat) (cmd0 cmd1 : UInt8)
    (payload buf : Mem) :
    (rpcSendFrameTx cmd0 cmd1 payload payloadLen buf).length = payloadLen.toNat - 251 := by
  have hlt := payloadLen.toNat_lt
  rw [rpcSendFrameTx, Mem.length_take]
  simp only [UInt8.toNat_add, rpcUartHdrLen, rpcUartFcsLen, UInt8.reduceToNat]
  omega

/-- A call that returns hands over these bytes; it fails only for an SREQ without answer. -/
theorem rpcSendFrame_eq_some {fuel : ℕ} {status : UInt8} {tx : List UInt8}
    (hrun : rpcSendFrame cmd0 cmd1 payload payloadLen buf srsp fuel = some (status, tx)) :
    tx = rpcSendFrameTx cmd0 cmd1 payload payloadLen buf ∧
      (status ≠ mtRpcSuccess → cmdType cmd0 = mtRpcCmdSreq ∧ srsp = false) := by
  simp only [rpcSendFrame, Option.bind_eq_bind] at hrun
  obtain ⟨i, hprint, hrun⟩ := Option.bind_eq_some_iff.mp hrun
  split at hrun
  case isTrue hsreq =>
    cases srsp with
    | true =>
      obtain ⟨rfl, rfl⟩ : mtRpcSuccess = status ∧ _ = tx := by simpa using hrun
      exact ⟨rfl, fun hne => absurd rfl hne⟩
    | false =>
      obtain ⟨-, rfl⟩ : mtRpcErrSubsystem = status ∧ _ = tx := by simpa using hrun
      exact ⟨rfl, fun _ => ⟨hsreq, rfl⟩⟩
  case isFalse =>
    obtain ⟨rfl, rfl⟩ : mtRpcSuccess = status ∧ _ = tx := by simpa using hrun
    exact ⟨rfl, fun hne => absurd rfl hne⟩

/-- An SREQ of 251 bytes that times out has sent nothing. -/
theorem rpcSendFrame_timeout (hsreq : cmdType cmd0 = mtRpcCmdSreq) (cmd1 : UInt8)
    (payload buf : Mem) :
    rpcSendFrame cmd0 cmd1 payload 251 buf false 256 = some (mtRpcErrSubsystem, []) := by
  have hprint : printRpcMsg 251 256 = some (251 + 2) := printRpcMsg_ends (by decide) (by decide)
  have htx : rpcSendFrameTx cmd0 cmd1 payload 251 buf = [] :=
    List.length_eq_zero_iff.mp (length_rpcSendFrameTx (by decide) cmd0 cmd1 payload buf)
  simp [rpcSendFrame, hprint, htx, hsreq]

/-! ## The exact condition -/

/-- **A call sends the whole frame, or reports an error and sends nothing**, exactly for
payloads of at most 250 bytes, and for an SREQ of 251 bytes that times out. -/
theorem sendsWhole_iff (cmd0 cmd1 : UInt8) (payload : Mem) (payloadLen : UInt8) (buf : Mem)
    (srsp : Bool) :
    SendsWhole cmd0 cmd1 payload payloadLen buf srsp ↔
      payloadLen.toNat ≤ 250 ∨
        payloadLen = 251 ∧ cmdType cmd0 = mtRpcCmdSreq ∧ srsp = false := by
  constructor
  · intro h
    by_cases hlen : payloadLen.toNat ≤ 250
    · exact .inl hlen
    have hbig : 251 ≤ payloadLen.toNat := by omega
    have htx := length_rpcSendFrameTx hbig cmd0 cmd1 payload buf
    rcases h with ⟨hwhole, -⟩ | ⟨fuel, status, hrun, hfail⟩
    · rw [hwhole, length_wholeFrame] at htx
      omega
    · obtain ⟨hnil, herr⟩ := rpcSendFrame_eq_some hrun
      rw [← hnil, List.length_nil] at htx
      have h251 : (251 : UInt8).toNat = 251 := rfl
      exact .inr ⟨UInt8.toNat_inj.mp (by omega), herr hfail⟩
  · rintro (hlen | ⟨rfl, hsreq, rfl⟩)
    · exact .inl ⟨rpcSendFrameTx_eq_wholeFrame hlen cmd0 cmd1 payload buf,
        rpcSendFrameIndices_lt (by omega)⟩
    · exact .inr ⟨256, mtRpcErrSubsystem, rpcSendFrame_timeout hsreq cmd1 payload buf, by decide⟩

/-- A source-routed data request over 57 relays with 127 bytes of data has 252 bytes of
payload: of its frame SOF alone is written. -/
theorem not_sendsWhole_srcRtg : ¬ SendsWhole 0x24 0x03 (fun _ => 0) 252 (fun _ => 0) false := by
  have h252 : 251 ≤ (252 : UInt8).toNat := by decide
  have htx := length_rpcSendFrameTx h252 0x24 0x03 (fun _ => 0) (fun _ => 0)
  rintro (⟨hwhole, -⟩ | ⟨fuel, status, hrun, -⟩)
  · rw [hwhole, length_wholeFrame] at htx
    exact absurd htx (by decide)
  · rw [← (rpcSendFrame_eq_some hrun).1] at htx
    exact absurd htx (by decide)

end ZnpHost.Rpc
