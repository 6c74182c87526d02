import ZnpHost.Lib.Layout
import ZnpHost.Mt.AfResponses
import ZnpHost.Mt.SapiResponses
import ZnpHost.Mt.SysResponses
import ZnpHost.Mt.ZdoResponses
import ZnpHost.Rpc.Frame

/-!
# The dispatcher

`mtProcess` of `mtParser.c` with the `switch` statements of `zdoProcess`, `sysProcess`,
`afProcess` and `sapiProcess`.  A message is decoded only if its callback is registered.

## Main definitions

* `Cb`, `Indication` — the callbacks of the four subsystems, and what they are given.
* `mtHandlers` — the cases for a first command byte.
* `mtProcess`, `mtReads` — what becomes of a message, and the indices its decoder reads.
* `Delivered` — a frame in the buffer.
-/

namespace ZnpHost.Mt

open Lib Reader Rpc

/-- A callback. -/
inductive Cb
  | zdo (cb : ZdoCb)
  | sys (cb : SysCb)
  | af (cb : AfCb)
  | sapi (cb : SapiCb)
  deriving DecidableEq

/-- What a callback is given. -/
inductive Indication
  | zdo (ind : ZdoIndication)
  | sys (ind : SysIndication)
  | af (ind : AfIndication)
  | sapi (ind : SapiIndication)

/-- The cases of a `switch (rpcBuff[1])`. -/
abbrev Handlers := List (UInt8 × Cb × Reader Indication)

/-- The cases of one subsystem. -/
def handlers {ι κ : Type} (cb : ι → Cb) (ind : κ → Indication)
    (table : List (UInt8 × ι × Reader κ)) : Handlers :=
  table.map fun e => (e.1, cb e.2.1, ind <$> e.2.2)

/-- `(rpcBuff[0] & MT_RPC_CMD_TYPE_MASK) == MT_RPC_CMD_SRSP`. -/
def isSrsp (cmd0 : UInt8) : Prop := cmdType cmd0 = mtRpcCmdSrsp

instance (cmd0 : UInt8) : Decidable (isSrsp cmd0) := inferInstanceAs (Decidable (_ = _))

def zdoProcess (cmd0 rpcLen : UInt8) : Handlers :=
  if isSrsp cmd0 then handlers .zdo .zdo zdoSrspTable
  else handlers .zdo .zdo (zdoAreqTable rpcLen)

def sysProcess (cmd0 rpcLen : UInt8) : Handlers :=
  if isSrsp cmd0 then handlers .sys .sys (sysSrspTable rpcLen)
  else handlers .sys .sys sysAreqTable

def afProcess (cmd0 rpcLen : UInt8) : Handlers :=
  if isSrsp cmd0 then handlers .af .af (afSrspTable rpcLen)
  else handlers .af .af (afAreqTable rpcLen)

def sapiProcess (cmd0 rpcLen : UInt8) : Handlers :=
  if isSrsp cmd0 then handlers .sapi .sapi (sapiSrspTable rpcLen)
  else handlers .sapi .sapi (sapiAreqTable rpcLen)

/-- The `switch` of `mtProcess`. -/
def mtHandlers (cmd0 rpcLen : UInt8) : Handlers :=
  if subsystem cmd0 = mtRpcSysZdo then zdoProcess cmd0 rpcLen
  else if subsystem cmd0 = mtRpcSysSys then sysProcess cmd0 rpcLen
  else if subsystem cmd0 = mtRpcSysAf then afProcess cmd0 rpcLen
  else if subsystem cmd0 = mtRpcSysSapi then sapiProcess cmd0 rpcLen
  else []

/-- The four subsystems whose SRSPs `processSrsp` copies. -/
def hasProcess (cmd0 : UInt8) : Prop :=
  subsystem cmd0 = mtRpcSysZdo ∨ subsystem cmd0 = mtRpcSysSys ∨
    subsystem cmd0 = mtRpcSysAf ∨ subsystem cmd0 = mtRpcSysSapi

instance (cmd0 : UInt8) : Decidable (hasProcess cmd0) := inferInstanceAs (Decidable (_ ∨ _))

/-- `srspRpcBuff` after the message.  An SRSP is copied before its callback is called. -/
def srspCopy (srspRpcBuff rpcBuff : Mem) (rpcLen : UInt8) : Mem :=
  if hasProcess (rpcBuff 0) ∧ isSrsp (rpcBuff 0) then
    srspRpcBuff.blit 0 (rpcBuff.take rpcLen.toNat)
  else srspRpcBuff

/-- The callback a message is for, with its decoder. -/
def handler (cmd0 cmd1 rpcLen : UInt8) : Option (Cb × Reader Indication) :=
  (mtHandlers cmd0 rpcLen).lookup cmd1

section Process

variable (registered : Cb → Bool)

/-- The decoder that runs: the callback must not be `NULL`. -/
def decoder (cmd0 cmd1 rpcLen : UInt8) : Option (Reader Indication) :=
  ((handler cmd0 cmd1 rpcLen).filter fun h => registered h.1).map Prod.snd

/-- `mtProcess`: the argument of the callback that is called. -/
def mtProcess (rpcBuff : Mem) (rpcLen : UInt8) : Option Indication :=
  (decoder registered (rpcBuff 0) (rpcBuff 1) rpcLen).map fun d => (d.exec rpcBuff 2).1

/-- The indices at which the decoder reads. -/
def mtReads (rpcBuff : Mem) (rpcLen : UInt8) : List ℕ :=
  match decoder registered (rpcBuff 0) (rpcBuff 1) rpcLen with
  | some d => d.reads rpcBuff 2
  | none => []

end Process

/-! ## Messages in the buffer -/

/-- The length that comes with a frame: `cmd0`, `cmd1`, payload and checksum. -/
def rpcLenOf (l : ℕ) : UInt8 := UInt8.ofNat (l + 3)

theorem toNat_rpcLenOf {l : ℕ} (h : l ≤ 250) : (rpcLenOf l).toNat = l + 3 := by
  simp only [rpcLenOf, UInt8.toNat_ofNat']
  omega

/-- The frame is in the buffer; nothing is said about what follows its payload. -/
structure Delivered (f : MtFrame) (rpcBuff : Mem) : Prop where
  cmd0 : rpcBuff 0 = f.cmd0
  cmd1 : rpcBuff 1 = f.cmd1
  payload : ∀ j (h : j < f.payload.length), rpcBuff (2 + j) = f.payload[j]

namespace Delivered

variable {f : MtFrame} {rpcBuff : Mem}

theorem holds (h : Delivered f rpcBuff) : Holds rpcBuff 2 f.payload where
  bytes := h.payload
  room := by
    have hle := f.payload_le
    change 2 + _ ≤ 255
    omega

/-- A frame followed by anything. -/
theorem ofList (f : MtFrame) (rest : Mem) :
    Delivered f (Mem.ofList (f.cmd0 :: f.cmd1 :: f.payload) rest) where
  cmd0 := by simp [Mem.ofList, Mem.blit]
  cmd1 := by simp [Mem.ofList, Mem.blit]
  payload j hj := by
    have hmid := Mem.blit_mid rest 0 (f.cmd0 :: f.cmd1 :: f.payload) (k := 2 + j)
      (by simp only [List.length_cons]; omega)
    rw [Nat.zero_add] at hmid
    rw [Mem.ofList, hmid]
    simp [Nat.add_comm 2 j]

end Delivered

/-- The callback a frame is for. -/
def route (f : MtFrame) : Option Cb :=
  (handler f.cmd0 f.cmd1 (rpcLenOf f.payload.length)).map Prod.fst

/-- The callback of a frame is called if it is registered, and with the result of its decoder. -/
theorem decoder_eq_some_iff {registered : Cb → Bool} {f : MtFrame} {d : Reader Indication} :
    decoder registered f.cmd0 f.cmd1 (rpcLenOf f.payload.length) = some d ↔
      ∃ cb, handler f.cmd0 f.cmd1 (rpcLenOf f.payload.length) = some (cb, d) ∧
        registered cb = true := by
  rw [decoder, Option.map_eq_some_iff]
  constructor
  · rintro ⟨⟨cb, e⟩, h, rfl⟩
    rw [Option.filter_eq_some_iff] at h
    exact ⟨cb, h⟩
  · rintro ⟨cb, h, hreg⟩
    exact ⟨(cb, d), Option.filter_eq_some_iff.mpr ⟨h, hreg⟩, rfl⟩

end ZnpHost.Mt
