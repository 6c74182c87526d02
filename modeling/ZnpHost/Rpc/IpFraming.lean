import ZnpHost.Rpc.Polling

/-!
# Framing in a `HAL_UART_IP` build

With `HAL_UART_IP` defined there is no SOF on the wire.  `rpcSendFrame` still writes the
checksum, while `rpcProcess` no longer counts it among the bytes it reads and still compares
the cell of its buffer behind the payload with it.

## Main definitions

* `rpcSendFrameTxIp`, `rpcReceiveIp`, `rpcProcessIp` — the two sides in this build.
* `IpStream` — a reliable transport that cuts the stream anywhere.
* `rpcReceiveIp_frame` — what a call makes of a frame.
* `SelfConsistent` — the frames sent are the frames accepted, for reasons found on the wire.
* `selfConsistent_iff` — this holds when nothing is sent.
-/

namespace ZnpHost.Rpc

open Lib

variable {σ : Type}

/-! ## The two sides -/

/-- The bytes `rpcSendFrame` passes to `rpcTransportWrite`: from `buf + 1`, checksum included. -/
def rpcSendFrameTxIp (cmd0 cmd1 : UInt8) (payload : Mem) (payloadLen : UInt8) (buf : Mem) :
    List UInt8 :=
  ((rpcSendFrameBuf cmd0 cmd1 payload payloadLen buf).shift 1).take
    (payloadLen + rpcHdrLen + rpcUartFcsLen).toNat

/-- `rpcProcess` from the length byte to the checksum test.  The body is `cmd0`, `cmd1` and the
payload. -/
def rpcReadFrameIp (read : Transport σ) (fuel : ℕ) (s : σ) (rpcBuff : Mem) (len : UInt8) :
    Option (Verdict × σ) := do
  let rpcLen := len + 2
  let (e, s) ← readBody read fuel s
    { rpcBuff := rpcBuff.set 0 len, rpcBuffIdx := 1, rpcTempLen := rpcLen, retryAttempts := 0 }
  match e with
  | .aborted => some (.readFailed, s)
  | .complete b =>
    let _ ← printRpcMsg len fuel
    -- the test that both builds share
    let fcs := calcFcs b.rpcBuff (len + 3)
    if b.rpcBuff (len.toNat + 3) = fcs then some (.valid b.rpcBuff rpcLen, s)
    else some (.fcsError, s)

/-- `rpcProcess` up to the checksum test.  The block behind the test for SOF runs
unconditionally; the `else` that follows it has lost its `if` in this build and is left out. -/
def rpcReceiveIp (read : Transport σ) (fuel : ℕ) (s : σ) (rpcBuff : Mem) :
    Option (Verdict × σ) := do
  -- read length byte
  let (r, s) ← read s 1
  match r.bytes.head?, r.ret == 1 with
  | some len, true => rpcReadFrameIp read fuel s rpcBuff len
  | _, _ => some (.noLen, s)

/-- `rpcProcess`: receive one frame and dispatch it. -/
def rpcProcessIp (read : Transport σ) (fuel : ℕ) (s : σ) (rpcBuff : Mem) (st : RpcState) :
    Option (Verdict × σ × Option RpcState) := do
  let (v, s) ← rpcReceiveIp read fuel s rpcBuff
  match v with
  | .valid b rpcLen => some (v, s, rpcDispatch st b rpcLen)
  | _ => some (v, s, some st)

/-- Repeated calls of `rpcProcess`, the receive buffer of call `k` having content `stack k`. -/
def rpcCallsIp (read : Transport σ) (fuel : ℕ) (stack : ℕ → Mem) :
    ℕ → ℕ → σ → RpcState → Option (List Verdict × σ × Option RpcState)
  | 0, _, s, st => some ([], s, some st)
  | n + 1, k, s, st => do
    let (v, s, after) ← rpcProcessIp read fuel s (stack k) st
    match after with
    -- the process has ended
    | none => some ([v], s, none)
    | some st =>
      let (vs, s, after) ← rpcCallsIp read fuel stack n (k + 1) s st
      some (v :: vs, s, after)

/-! ## The wire -/

/-- The message queued for a frame, without its checksum. -/
def MtFrame.ipMsg (f : MtFrame) : List UInt8 := f.cmd0 :: f.cmd1 :: f.payload

/-- The sender writes the frame from its length byte to its checksum. -/
theorem rpcSendFrameTxIp_eq (f : MtFrame) (rest buf : Mem) :
    rpcSendFrameTxIp f.cmd0 f.cmd1 (Mem.ofList f.payload rest) f.len buf = f.len :: f.msg := by
  have htx := rpcSendFrameTx_eq_wire f rest buf
  have hle := f.payload_le
  have hlen := f.toNat_len
  have hall : (f.len + rpcUartHdrLen + rpcUartFcsLen).toNat =
      (f.len + rpcHdrLen + rpcUartFcsLen).toNat + 1 := by
    simp only [UInt8.toNat_add, hlen, rpcUartHdrLen, rpcHdrLen, rpcUartFcsLen, UInt8.reduceToNat]
    omega
  rw [rpcSendFrameTx, hall, Mem.take_succ] at htx
  exact (List.cons.inj htx).2

/-- A reliable connection: the bytes still to come and the number of reads so far. -/
structure IpStream where
  bytes : List UInt8
  reads : ℕ

/-- Read number `j` delivers up to `cut j + 1` bytes; without any byte it blocks. -/
def IpStream.read (cut : ℕ → ℕ) : Transport IpStream := fun s len =>
  if s.bytes = [] then none
  else
    let n := min (cut s.reads + 1) len.toNat
    some (.data (s.bytes.take n), { bytes := s.bytes.drop n, reads := s.reads + 1 })

/-- Bytes that are there are delivered, in pieces of any size. -/
theorem polled_ipStream (cut : ℕ → ℕ) (todo : List UInt8) (hlt : todo.length < 256)
    (rest : List UInt8) (j : ℕ) :
    ∃ j', Polled (IpStream.read cut) ⟨todo ++ rest, j⟩ todo.length todo 0 ⟨rest, j'⟩ := by
  induction hn : todo.length using Nat.strongRecOn generalizing todo j with
  | ind n ih =>
    subst hn
    by_cases hnil : todo = []
    · subst hnil
      exact ⟨j, .stop _ _⟩
    · have hpos := List.length_pos_iff.mpr hnil
      have hm : (UInt8.ofNat todo.length).toNat = todo.length := by
        rw [UInt8.toNat_ofNat']
        exact Nat.mod_eq_of_lt hlt
      let k := min (cut j + 1) todo.length
      have hk : k ≤ todo.length := Nat.min_le_right _ _
      have htake : (todo.take k).length = k := List.length_take_of_le hk
      have hdrop : (todo.drop k).length = todo.length - k := List.length_drop
      have hread : IpStream.read cut ⟨todo ++ rest, j⟩ (UInt8.ofNat todo.length) =
          some (.data (todo.take k), ⟨todo.drop k ++ rest, j + 1⟩) := by
        have hne : todo ++ rest ≠ [] := by simp [hnil]
        rw [IpStream.read, if_neg hne]
        simp only [hm]
        rw [List.take_append_of_le_length hk, List.drop_append_of_le_length hk]
      obtain ⟨j', hrest⟩ := ih (todo.drop k).length (by omega) (todo.drop k) (by omega) (j + 1) rfl
      have hpoll : Polled (IpStream.read cut) ⟨todo.drop k ++ rest, j + 1⟩
          (todo.length - (todo.take k).length) (todo.drop k) 0 ⟨rest, j'⟩ := by
        rwa [htake, ← hdrop]
      refine ⟨j', ?_⟩
      have hall := Polled.data hpos hread (by omega) hpoll
      rwa [List.take_append_drop] at hall

/-! ## One frame -/

/-- After a length byte the call goes on with the body. -/
theorem rpcReceiveIp_len {read : Transport σ} {s s₁ : σ} {len : UInt8}
    (h : read s 1 = some (.data [len], s₁)) (fuel : ℕ) (rpcBuff : Mem) :
    rpcReceiveIp read fuel s rpcBuff = rpcReadFrameIp read fuel s₁ rpcBuff len := by
  simp [rpcReceiveIp, h, ReadResult.bytes, ReadResult.ret]

/-- **What a call makes of a frame**: it takes the cell behind the payload, which it has not
read, for the checksum, and leaves the checksum on the wire. -/
theorem rpcReceiveIp_frame (cut : ℕ → ℕ) (f : MtFrame) (rest : List UInt8) (j : ℕ) :
    ∃ j', ∀ rpcBuff, ∃ n, ∀ fuel > n,
      rpcReceiveIp (IpStream.read cut) fuel ⟨f.len :: f.msg ++ rest, j⟩ rpcBuff =
        some (if rpcBuff (f.payload.length + 3) = f.fcs
          then .valid (rpcBuff.blit 0 f.covered) (f.len + 2) else .fcsError,
            ⟨f.fcs :: rest, j'⟩) := by
  have hle := f.payload_le
  have hlen := f.toNat_len
  have hcov : f.covered.length = f.payload.length + 3 := by simp [MtFrame.covered]
  have hmsg : f.ipMsg.length = f.payload.length + 2 := by simp [MtFrame.ipMsg]
  have hone : (1 : UInt8).toNat = 1 := rfl
  have hread : IpStream.read cut ⟨f.len :: f.msg ++ rest, j⟩ 1 =
      some (.data [f.len], ⟨f.ipMsg ++ f.fcs :: rest, j + 1⟩) := by
    simp [IpStream.read, MtFrame.msg, MtFrame.ipMsg]
  obtain ⟨j', hpoll⟩ := polled_ipStream cut f.ipMsg (by omega) (f.fcs :: rest) (j + 1)
  refine ⟨j', ?_⟩
  intro rpcBuff
  let b₀ : BodyState :=
    { rpcBuff := rpcBuff.set 0 f.len, rpcBuffIdx := 1, rpcTempLen := f.len + 2, retryAttempts := 0 }
  have htemp : b₀.rpcTempLen.toNat = f.ipMsg.length := by
    simp only [b₀, UInt8.toNat_add, hlen, hmsg, UInt8.reduceToNat]
    omega
  obtain ⟨n, b, hrun, hbuff, hdone⟩ := readBody_of_polled hpoll rfl b₀ htemp
    (by simp only [b₀, hone]; omega) (by simp [b₀]) (.inr rfl)
  have hblit : b.rpcBuff = rpcBuff.blit 0 f.covered := by
    rw [hbuff]
    exact (Mem.blit_cons rpcBuff 0 f.len f.ipMsg).symm
  have hcell : rpcBuff.blit 0 f.covered (f.len.toNat + 3) = rpcBuff (f.payload.length + 3) := by
    rw [hlen]
    exact Mem.blit_ge rpcBuff f.covered (by omega)
  have hfcs : calcFcs (rpcBuff.blit 0 f.covered) (f.len + 3) = f.fcs := by
    have hsize : (f.len + 3).toNat = f.covered.length := by
      rw [toNat_add_three (by omega), hlen, hcov]
    have hback := Mem.take_blit_append rpcBuff f.covered []
    rw [List.append_nil] at hback
    rw [calcFcs_eq, hsize, hback, MtFrame.fcs]
  refine ⟨n + 256, ?_⟩
  intro fuel hf
  have hbody := hrun.complete hdone (show n < fuel by omega)
  have hprint : printRpcMsg f.len fuel = some (f.len + 2) := printRpcMsg_ends (by omega) (by omega)
  have hframe : rpcReadFrameIp (IpStream.read cut) fuel ⟨f.ipMsg ++ f.fcs :: rest, j + 1⟩ rpcBuff
      f.len = some (if rpcBuff (f.payload.length + 3) = f.fcs
          then .valid (rpcBuff.blit 0 f.covered) (f.len + 2) else .fcsError,
            ⟨f.fcs :: rest, j'⟩) := by
    simp only [b₀] at hbody
    simp only [rpcReadFrameIp, hbody, Option.bind_eq_bind, Option.bind_some, hprint, hblit, hcell,
      hfcs]
    by_cases heq : rpcBuff (f.payload.length + 3) = f.fcs <;> simp [heq]
  rw [rpcReceiveIp_len hread, hframe]

/-! ## Streams of frames -/

/-- A frame to be sent, with what lies behind its payload at the caller and on the stack of
`rpcSendFrame`. -/
structure IpFrame where
  frame : MtFrame
  beyond : Mem
  stack : Mem

/-- The bytes `rpcSendFrame` passes to `rpcTransportWrite` for it. -/
def IpFrame.tx (g : IpFrame) : List UInt8 :=
  rpcSendFrameTxIp g.frame.cmd0 g.frame.cmd1 (Mem.ofList g.frame.payload g.beyond) g.frame.len
    g.stack

theorem IpFrame.tx_eq (g : IpFrame) : g.tx = g.frame.len :: g.frame.msg :=
  rpcSendFrameTxIp_eq g.frame g.beyond g.stack

/-- All bytes on the wire. -/
def ipWire (gs : List IpFrame) : IpStream := ⟨gs.flatMap IpFrame.tx, 0⟩

/-- The state of stream and queue after `n` calls, with the verdicts of these. -/
def IpRun (cut : ℕ → ℕ) (stack : ℕ → Mem) (st : RpcState) (gs : List IpFrame) (vs : List Verdict)
    (s : IpStream) : Prop :=
  ∃ fuel n st', rpcCallsIp (IpStream.read cut) fuel stack n 0 (ipWire gs) st = some (vs, s, st')

/-- Calls of `rpcProcess` on the bytes sent accept the frames, each once and in order, and
nothing else, and whether the next call accepts does not depend on what its buffer held. -/
structure SelfConsistent (cut : ℕ → ℕ) (stack : ℕ → Mem) (st : RpcState) (gs : List IpFrame) :
    Prop where
  accepts : ∃ vs s, IpRun cut stack st gs vs s ∧
    vs.filterMap Verdict.accepted = gs.map fun g => g.frame.ipMsg
  only : ∀ vs s, IpRun cut stack st gs vs s →
    vs.filterMap Verdict.accepted <+: gs.map fun g => g.frame.ipMsg
  decides : ∀ vs s, IpRun cut stack st gs vs s → ∀ fuel m m' v v' s₁ s₁',
    rpcReceiveIp (IpStream.read cut) fuel s m = some (v, s₁) →
    rpcReceiveIp (IpStream.read cut) fuel s m' = some (v', s₁') →
    v.accepted.isSome = v'.accepted.isSome

variable {cut : ℕ → ℕ} {stack : ℕ → Mem} {st : RpcState}

theorem ipRun_start (gs : List IpFrame) : IpRun cut stack st gs [] (ipWire gs) := ⟨0, 0, st, rfl⟩

/-- Nothing comes out of an empty stream. -/
theorem rpcReceiveIp_silent (fuel j : ℕ) (rpcBuff : Mem) :
    rpcReceiveIp (IpStream.read cut) fuel ⟨[], j⟩ rpcBuff = none := by
  simp [rpcReceiveIp, IpStream.read]

theorem ipRun_nil {vs : List Verdict} {s : IpStream} (h : IpRun cut stack st [] vs s) :
    vs = [] ∧ s = ⟨[], 0⟩ := by
  obtain ⟨fuel, n, st', hrun⟩ := h
  cases n with
  | zero =>
    cases hrun
    exact ⟨rfl, rfl⟩
  | succ n => simp [rpcCallsIp, rpcProcessIp, ipWire, rpcReceiveIp_silent] at hrun

/-- Whether the first frame is accepted depends on what the buffer held. -/
theorem not_selfConsistent_cons (g : IpFrame) (gs : List IpFrame) :
    ¬ SelfConsistent cut stack st (g :: gs) := by
  intro h
  have hwire : ipWire (g :: gs) = ⟨g.frame.len :: g.frame.msg ++ gs.flatMap IpFrame.tx, 0⟩ := by
    simp [ipWire, g.tx_eq]
  obtain ⟨j, hcall⟩ := rpcReceiveIp_frame cut g.frame (gs.flatMap IpFrame.tx) 0
  have hother : g.frame.fcs + 1 ≠ g.frame.fcs := by
    intro heq
    have hnat := congrArg UInt8.toNat heq
    have hlt := g.frame.fcs.toNat_lt
    simp only [UInt8.toNat_add, UInt8.reduceToNat] at hnat
    omega
  obtain ⟨n, hgood⟩ := hcall fun _ => g.frame.fcs
  obtain ⟨n', hbad⟩ := hcall fun _ => g.frame.fcs + 1
  have hgood := hgood (n + n' + 1) (by omega)
  have hbad := hbad (n + n' + 1) (by omega)
  rw [if_pos rfl, ← hwire] at hgood
  rw [if_neg hother, ← hwire] at hbad
  have hsame := h.decides [] _ (ipRun_start _) _ _ _ _ _ _ _ hgood hbad
  cases hsame

/-- **The framing is self-consistent when no frame is sent, and only then**, whatever the
buffers held and however the stream is cut. -/
theorem selfConsistent_iff (cut : ℕ → ℕ) (stack : ℕ → Mem) (st : RpcState) (gs : List IpFrame) :
    SelfConsistent cut stack st gs ↔ gs = [] := by
  constructor
  · intro h
    cases gs with
    | nil => rfl
    | cons g gs => exact absurd h (not_selfConsistent_cons g gs)
  · intro hnil
    subst hnil
    constructor
    · exact ⟨[], _, ipRun_start [], rfl⟩
    · intro vs s hrun
      rw [(ipRun_nil hrun).1]
      exact List.nil_prefix
    · intro vs s hrun fuel m m' v v' s₁ s₁' hv
      rw [(ipRun_nil hrun).2, rpcReceiveIp_silent] at hv
      cases hv

theorem length_nil_le : ([] : List UInt8).length ≤ 250 := by decide

/-- `SYS_PING`. -/
def pingFrame : MtFrame := ⟨0x21, 0x01, [], length_nil_le⟩

/-- In a buffer of zeros a ping is dropped, and its checksum is left as the next length byte. -/
theorem ping_dropped :
    rpcReceiveIp (IpStream.read fun _ => 0) 600 (ipWire [⟨pingFrame, fun _ => 0, fun _ => 0⟩])
        (fun _ => 0) = some (.fcsError, ⟨[0x20], 3⟩) ∧
      ¬ SelfConsistent (fun _ => 0) (fun _ _ => 0) rpcOpen
        [⟨pingFrame, fun _ => 0, fun _ => 0⟩] := by
  refine ⟨?_, not_selfConsistent_cons _ _⟩
  rfl

end ZnpHost.Rpc
