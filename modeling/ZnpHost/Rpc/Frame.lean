import ZnpHost.Lib.Bytes

/-!
# RPC frames and the sending side

The constants of `rpc.h`, the checksum `calcFcs`, and the bytes `rpcSendFrame`
hands to `rpcTransportWrite`.  `MtFrame` is the abstract view: a frame the
protocol allows, with its encoding `MtFrame.wire`.

## Main definitions

* `calcFcs` — the frame check sequence, looping on an 8-bit count.
* `rpcSendFrameTx` — the bytes written for one call of `rpcSendFrame`.
* `MtFrame`, `MtFrame.wire`, `MtFrame.msg` — a frame, its bytes on the line and
  the bytes queued for the application.
* `rpcSendFrameTx_eq_wire` — the sender emits exactly the encoding.
-/

namespace ZnpHost.Rpc

open Lib

/-! ## Constants of `rpc.h` -/

/-- Start of frame indicator. -/
def mtRpcSof : UInt8 := 0xFE
/-- The three most significant bits of `cmd0` are the command type. -/
def mtRpcCmdTypeMask : UInt8 := 0xE0
/-- The five least significant bits of `cmd0` are the subsystem. -/
def mtRpcSubsystemMask : UInt8 := 0x1F
/-- Capacity of the frame buffers. -/
def rpcMaxLen : ℕ := 256
/-- `RPC_HDR_LEN`: length field and the two command fields. -/
def rpcHdrLen : UInt8 := 3
/-- `RPC_UART_HDR_LEN`: start of frame and `RPC_HDR_LEN`. -/
def rpcUartHdrLen : UInt8 := 4
/-- `RPC_UART_FCS_LEN`. -/
def rpcUartFcsLen : UInt8 := 1

def mtRpcCmdSreq : UInt8 := 0x20
def mtRpcCmdAreq : UInt8 := 0x40
def mtRpcCmdSrsp : UInt8 := 0x60

def mtRpcSysSys : UInt8 := 1
def mtRpcSysAf : UInt8 := 4
def mtRpcSysZdo : UInt8 := 5
def mtRpcSysSapi : UInt8 := 6

def mtRpcSuccess : UInt8 := 0
def mtRpcErrSubsystem : UInt8 := 1

/-- The command type of a first command byte. -/
def cmdType (cmd0 : UInt8) : UInt8 := cmd0 &&& mtRpcCmdTypeMask
/-- The subsystem of a first command byte. -/
def subsystem (cmd0 : UInt8) : UInt8 := cmd0 &&& mtRpcSubsystemMask

/-- Masked subsystem bits are never the invalid identifier `0xFF`. -/
theorem subsystem_ne_invalid (cmd0 : UInt8) : subsystem cmd0 ≠ 0xFF := by
  intro h
  have hle : (subsystem cmd0).toNat ≤ 0x1F := by
    simp only [subsystem, mtRpcSubsystemMask, UInt8.toNat_and]
    exact Nat.and_le_right
  rw [h] at hle
  exact absurd hle (by decide)

/-! ## Checksum -/

/-- The loop of `calcFcs` with `size` rounds left, `p` bytes already folded in. -/
def calcFcsLoop (msg : Mem) : ℕ → ℕ → UInt8 → UInt8
  | 0, _, result => result
  | size + 1, p, result => calcFcsLoop msg size (p + 1) (result ^^^ msg p)

/-- `calcFcs`: the exclusive or of `size` bytes; the count is eight bits wide. -/
def calcFcs (msg : Mem) (size : UInt8) : UInt8 := calcFcsLoop msg size.toNat 0 0

theorem calcFcsLoop_eq (msg : Mem) (n p : ℕ) (r : UInt8) :
    calcFcsLoop msg n p r = r ^^^ xorAll ((msg.shift p).take n) := by
  induction n generalizing p r with
  | zero => simp [calcFcsLoop]
  | succ n ih =>
    rw [calcFcsLoop, ih, Mem.take_succ, Mem.shift_shift, xorAll_cons, UInt8.xor_assoc]
    simp [Mem.shift]

/-- The checksum is the exclusive or of the bytes it covers. -/
theorem calcFcs_eq (msg : Mem) (size : UInt8) :
    calcFcs msg size = xorAll (msg.take size.toNat) := by
  rw [calcFcs, calcFcsLoop_eq, Mem.shift_zero, UInt8.zero_xor]

/-! ## Sending -/

/-- The frame buffer `rpcSendFrame` fills, starting from the stack content `buf`. -/
def rpcSendFrameBuf (cmd0 cmd1 : UInt8) (payload : Mem) (payloadLen : UInt8) (buf : Mem) : Mem :=
  -- fill in header bytes
  let buf := (((buf.set 0 mtRpcSof).set 1 payloadLen).set 2 cmd0).set 3 cmd1
  -- copy payload to buffer
  let buf := if payloadLen > 0 then
      buf.blit rpcUartHdrLen.toNat (payload.take payloadLen.toNat) else buf
  -- calculate FCS field; the size argument is truncated to eight bits
  buf.set (payloadLen.toNat + rpcUartHdrLen.toNat) (calcFcs (buf.shift 1) (payloadLen + rpcHdrLen))

/-- The bytes `rpcSendFrame` passes to `rpcTransportWrite`, whose length argument is
eight bits wide. -/
def rpcSendFrameTx (cmd0 cmd1 : UInt8) (payload : Mem) (payloadLen : UInt8) (buf : Mem) :
    List UInt8 :=
  (rpcSendFrameBuf cmd0 cmd1 payload payloadLen buf).take
    (payloadLen + rpcUartHdrLen + rpcUartFcsLen).toNat

/-! ## Abstract frames -/

/-- A frame of the protocol: two command bytes and a payload of at most 250 bytes. -/
structure MtFrame where
  cmd0 : UInt8
  cmd1 : UInt8
  payload : List UInt8
  payload_le : payload.length ≤ 250

namespace MtFrame

variable (f : MtFrame)

/-- The length byte. -/
def len : UInt8 := UInt8.ofNat f.payload.length

@[simp] theorem toNat_len : f.len.toNat = f.payload.length := by
  have h := f.payload_le
  simp only [len, UInt8.toNat_ofNat']
  omega

/-- The bytes the checksum covers. -/
def covered : List UInt8 := f.len :: f.cmd0 :: f.cmd1 :: f.payload

/-- The frame check sequence. -/
def fcs : UInt8 := xorAll f.covered

/-- The bytes that follow the length byte, which are also the queued message. -/
def msg : List UInt8 := f.cmd0 :: f.cmd1 :: (f.payload ++ [f.fcs])

/-- The bytes of the frame on the line. -/
def wire : List UInt8 := mtRpcSof :: f.len :: f.msg

@[simp] theorem length_msg : f.msg.length = f.payload.length + 3 := by simp [msg]

theorem length_wire : f.wire.length = f.payload.length + 5 := by simp [wire]

end MtFrame

/-- The buffer before the checksum is stored, as one copied block. -/
theorem header_payload_blit (f : MtFrame) (buf : Mem) :
    (if f.len > 0 then
        ((((buf.set 0 mtRpcSof).set 1 f.len).set 2 f.cmd0).set 3 f.cmd1).blit
          rpcUartHdrLen.toNat f.payload
      else (((buf.set 0 mtRpcSof).set 1 f.len).set 2 f.cmd0).set 3 f.cmd1) =
    buf.blit 0 (mtRpcSof :: f.covered) := by
  have hset : (((buf.set 0 mtRpcSof).set 1 f.len).set 2 f.cmd0).set 3 f.cmd1 =
      buf.blit 0 [mtRpcSof, f.len, f.cmd0, f.cmd1] := by
    funext j
    rcases j with _ | _ | _ | _ | j <;> simp [Mem.set, Mem.blit, Function.update]
  have happ := Mem.blit_append buf 0 [mtRpcSof, f.len, f.cmd0, f.cmd1] f.payload
  rw [hset]
  split
  · exact happ
  · next hlen =>
    have hzero : f.payload = [] := by
      have h0 : f.len.toNat = 0 := by
        rw [gt_iff_lt, UInt8.lt_iff_toNat_lt] at hlen
        simpa using hlen
      rw [f.toNat_len] at h0
      exact List.length_eq_zero_iff.mp h0
    simp [MtFrame.covered, hzero]

/-- **The sender emits the encoding of the frame**, whatever was on its stack and
beyond the payload. -/
theorem rpcSendFrameTx_eq_wire (f : MtFrame) (rest buf : Mem) :
    rpcSendFrameTx f.cmd0 f.cmd1 (Mem.ofList f.payload rest) f.len buf = f.wire := by
  have hn := f.toNat_len
  have hle := f.payload_le
  have hpay : (Mem.ofList f.payload rest).take f.len.toNat = f.payload := by
    simpa only [Mem.shift_zero, Mem.ofList] using Mem.take_shift_blit rest 0 f.payload hn
  have hbuf := header_payload_blit f buf
  have hcov : f.covered.length = f.payload.length + 3 := by simp [MtFrame.covered]
  have hfcs : calcFcs ((buf.blit 0 (mtRpcSof :: f.covered)).shift 1) (f.len + rpcHdrLen) =
      f.fcs := by
    have hsize : (f.len + rpcHdrLen).toNat = f.covered.length := by
      simp only [UInt8.toNat_add, hn, hcov, rpcHdrLen, UInt8.reduceToNat]
      omega
    rw [calcFcs_eq, MtFrame.fcs]
    congr 1
    have happ := Mem.blit_append buf 0 [mtRpcSof] f.covered
    rw [show (mtRpcSof :: f.covered) = [mtRpcSof] ++ f.covered by rfl, ← happ]
    exact Mem.take_shift_blit _ 1 f.covered hsize
  have hset : (buf.blit 0 (mtRpcSof :: f.covered)).set (f.len.toNat + rpcUartHdrLen.toNat) f.fcs =
      buf.blit 0 f.wire := by
    have hpos : f.len.toNat + rpcUartHdrLen.toNat = 0 + (mtRpcSof :: f.covered).length := by
      simp only [hn, List.length_cons, hcov, rpcUartHdrLen, UInt8.reduceToNat]
      omega
    rw [Mem.set_eq_blit, hpos, Mem.blit_append]
    simp [MtFrame.wire, MtFrame.msg, MtFrame.covered]
  have hlen : (f.len + rpcUartHdrLen + rpcUartFcsLen).toNat = f.wire.length := by
    simp only [UInt8.toNat_add, hn, f.length_wire, rpcUartHdrLen, rpcUartFcsLen,
      UInt8.reduceToNat]
    omega
  simp only [rpcSendFrameTx, rpcSendFrameBuf, hpay, hbuf, hfcs, hset]
  simpa only [Mem.shift_zero] using Mem.take_shift_blit buf 0 f.wire hlen

end ZnpHost.Rpc
