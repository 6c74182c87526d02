import ZnpHost.Mt.Parser

/-!
# The layout of each message

What each message consists of, from the members of its response structure, and the
proof that the decoders follow it.  All decoders are treated by the rules of `Decodes`.

## Main definitions

* `Cb.layout` — the layout of the message for a callback.
* `Indication.InBounds` — no store went beyond an array of the structure.
* `decodes_handler` — the decoder of a message follows the layout of the message.
-/

namespace ZnpHost.Mt

open Lib Reader Rpc

/-! ## Layouts -/

/-- An address, a status, an address and a list of bytes. -/
def byteListLayout : Layout := [.bytes 2, .bytes 1, .bytes 2, .list 1 1 77]

/-- An address, a status, two indices and a list of a management response. -/
def mgmtLayout (size cap : ℕ) : Layout :=
  [.bytes 2, .bytes 1, .bytes 1, .bytes 1, .list 1 size cap]

def statusLayout : Layout := [.bytes 2, .bytes 1]

def ZdoCb.layout : ZdoCb → Layout
  | getLinkKey => [.bytes 1, .bytes 8, .bytes 16]
  | stateChangeInd => [.bytes 1]
  | nwkAddrRsp => [.bytes 1, .bytes 8, .bytes 2, .bytes 1, .list 1 2 70]
  | ieeeAddrRsp => [.bytes 1, .bytes 8, .bytes 2, .bytes 1, .list 1 2 70]
  | nodeDescRsp =>
    [.bytes 2, .bytes 1, .bytes 2, .bytes 1, .bytes 1, .bytes 1, .bytes 2, .bytes 1, .bytes 2,
      .bytes 2, .bytes 2, .bytes 1]
  | powerDescRsp => [.bytes 2, .bytes 1, .bytes 2, .bytes 1, .bytes 1]
  | simpleDescRsp =>
    [.bytes 2, .bytes 1, .bytes 2, .bytes 1, .bytes 1, .bytes 2, .bytes 2, .bytes 1, .list 1 2 16,
      .list 1 2 16]
  | activeEpRsp => byteListLayout
  | matchDescRsp => byteListLayout
  | complexDescRsp => byteListLayout
  | userDescRsp => byteListLayout
  | userDescConf => [.bytes 2, .bytes 1, .bytes 2]
  | serverDiscRsp => [.bytes 2, .bytes 1, .bytes 2]
  | endDeviceBindRsp => statusLayout
  | bindRsp => statusLayout
  | unbindRsp => statusLayout
  | mgmtNwkDiscRsp => mgmtLayout 12 72
  | mgmtLqiRsp => mgmtLayout 22 66
  | mgmtRtgRsp => mgmtLayout 5 75
  | mgmtBindRsp => mgmtLayout 20 75
  | mgmtLeaveRsp => statusLayout
  | mgmtDirectJoinRsp => statusLayout
  | mgmtPermitJoinRsp => statusLayout
  | endDeviceAnnceInd => [.bytes 2, .bytes 2, .bytes 8, .bytes 1]
  | matchDescRspSent => [.bytes 2, .list 1 2 16, .list 1 2 16]
  | statusErrorRsp => statusLayout
  | srcRtgInd => [.bytes 2, .list 1 2 255]
  | beaconNotifyInd => [.list 1 21 21]
  | joinCnf => [.bytes 1, .bytes 2, .bytes 2]
  | nwkDiscoveryCnf => [.bytes 1]
  | leaveInd => [.bytes 2, .bytes 8, .bytes 1, .bytes 1, .bytes 1]
  | msgCbIncoming =>
    [.bytes 2, .bytes 1, .bytes 2, .bytes 1, .bytes 1, .bytes 2, .bytes 1, .bytes 8, .bytes 2]

def SysCb.layout : SysCb → Layout
  | ping => [.bytes 2]
  | getExtAddr => [.bytes 8]
  | ramRead => [.bytes 1, .list 1 1 128]
  | version => [.bytes 1, .bytes 1, .bytes 1, .bytes 1, .bytes 1]
  | osalNvRead => [.bytes 1, .list 1 1 248]
  | osalNvLength => [.bytes 2]
  | stackTune => [.bytes 1]
  | adcRead => [.bytes 2]
  | gpio => [.bytes 1]
  | random => [.bytes 2]
  | getTime => [.bytes 4, .bytes 1, .bytes 1, .bytes 1, .bytes 1, .bytes 1, .bytes 2]
  | setTxPower => [.bytes 1]
  | resetInd => [.bytes 1, .bytes 1, .bytes 1, .bytes 1, .bytes 1, .bytes 1]
  | osalTimerExpired => [.bytes 1]

def AfCb.layout : AfCb → Layout
  | dataRetrieve => [.bytes 1, .list 1 1 248]
  | dataConfirm => [.bytes 1, .bytes 1, .bytes 1]
  | incomingMsg =>
    [.bytes 2, .bytes 2, .bytes 2, .bytes 1, .bytes 1, .bytes 1, .bytes 1, .bytes 1, .bytes 4,
      .bytes 1, .list 1 1 99]
  | incomingMsgExt =>
    -- as `IncomingMsgExtFormat_t` and the stores have it, with one byte for `Len`; the length
    -- test of the decoder counts 27 bytes, which is a word for `Len`
    [.bytes 2, .bytes 2, .bytes 1, .bytes 8, .bytes 1, .bytes 2, .bytes 1, .bytes 1, .bytes 1,
      .bytes 1, .bytes 4, .bytes 1, .list 1 1 99]
  | reflectError => [.bytes 1, .bytes 1, .bytes 1, .bytes 1, .bytes 2]

def SapiCb.layout : SapiCb → Layout
  | readConfiguration => [.bytes 1, .bytes 1, .list 1 1 128]
  | getDeviceInfo => [.bytes 1, .bytes 8]
  | findDeviceCnf => [.bytes 2, .bytes 8]
  | sendDataCnf => [.bytes 1, .bytes 1]
  | receiveDataInd => [.bytes 2, .bytes 2, .list 2 1 84]
  | allowBindCnf => [.bytes 2]
  | bindCnf => [.bytes 2, .bytes 1]
  | startCnf => [.bytes 1]

def Cb.layout : Cb → Layout
  | zdo cb => cb.layout
  | sys cb => cb.layout
  | af cb => cb.layout
  | sapi cb => cb.layout

/-! ## Arrays -/

def SimpleDescRspFormat.InBounds (rsp : SimpleDescRspFormat) : Prop :=
  ∀ d ∈ rsp.descriptor, d.inClusterList.InBounds ∧ d.outClusterList.InBounds

def MatchDescRspSentFormat.InBounds (rsp : MatchDescRspSentFormat) : Prop :=
  rsp.inClusterList.InBounds ∧ rsp.outClusterList.InBounds

/-- Every store went to a cell of its array. -/
def ZdoIndication.InBounds : ZdoIndication → Prop
  | nwkAddrRsp rsp => rsp.assocDevList.InBounds
  | ieeeAddrRsp rsp => rsp.assocDevList.InBounds
  | simpleDescRsp rsp => rsp.InBounds
  | activeEpRsp rsp => rsp.list.InBounds
  | matchDescRsp rsp => rsp.list.InBounds
  | complexDescRsp rsp => rsp.list.InBounds
  | userDescRsp rsp => rsp.list.InBounds
  | mgmtNwkDiscRsp rsp => rsp.networkList.InBounds
  | mgmtLqiRsp rsp => rsp.neighborLqiList.InBounds
  | mgmtRtgRsp rsp => rsp.routingTableList.InBounds
  | mgmtBindRsp rsp => rsp.bindingTableList.InBounds
  | matchDescRspSent rsp => rsp.InBounds
  | srcRtgInd rsp => rsp.relayList.InBounds
  | beaconNotifyInd rsp => rsp.beaconList.InBounds
  | _ => True

def SysIndication.InBounds : SysIndication → Prop
  | ramRead rsp => rsp.value.InBounds
  | osalNvRead rsp => rsp.value.InBounds
  | _ => True

def AfIndication.InBounds : AfIndication → Prop
  | dataRetrieve rsp => rsp.data.InBounds
  | incomingMsg rsp => rsp.data.InBounds
  | incomingMsgExt rsp => rsp.data.InBounds
  | _ => True

def SapiIndication.InBounds : SapiIndication → Prop
  | readConfiguration rsp => rsp.value.InBounds
  | getDeviceInfo rsp => rsp.value.InBounds
  | receiveDataInd rsp => rsp.data.InBounds
  | _ => True

def Indication.InBounds : Indication → Prop
  | zdo ind => ind.InBounds
  | sys ind => ind.InBounds
  | af ind => ind.InBounds
  | sapi ind => ind.InBounds

/-! ## Fields -/

theorem takes_word : Takes 2 word fun _ => True := .next 2 fun b => buildUint16 (b 0) (b 1)

theorem takes_dword : Takes 4 dword fun _ => True :=
  .bind (m := 0) (.times .byte 4) fun _ _ => .done trivial

theorem takes_qword : Takes 8 qword fun _ => True :=
  .bind (m := 0) (.times .byte 8) fun _ _ => .done trivial

theorem toNat_buildUint16 (lo hi : UInt8) :
    (buildUint16 lo hi).toNat = lo.toNat + 256 * hi.toNat := by
  have hlo := lo.toNat_lt
  have hhi := hi.toNat_lt
  simp only [buildUint16, UInt16.toNat_add, UInt16.toNat_shiftLeft, UInt8.toNat_toUInt16,
    Nat.shiftLeft_eq]
  change (lo.toNat + hi.toNat * 2 ^ 8 % 2 ^ 16) % 2 ^ 16 = _
  omega

theorem counts_word : Counts 2 word UInt16.toNat where
  some_of_le bs hle := by
    match bs, hle with
    | lo :: hi :: bs, _ =>
      refine ⟨buildUint16 lo hi, ?_, ?_⟩
      · simp [word, parse]
      · simp [toNat_buildUint16, leNat]
  none_of_lt := takes_word.none_of_lt

variable {α : Type} {cap : ℕ}

theorem takes_list {size : ℕ} {d : Reader α} (hd : Takes size d fun _ => True) (n : ℕ) :
    Takes (n * size) (list n d : Reader (CArray cap α)) fun a => a.InBounds ↔ n ≤ cap :=
  .bind (m := 0) (.times hd n) fun xs hxs =>
    .done ((CArray.inBounds_ofList xs).trans (by rw [hxs]))

theorem takes_listIf {c : Prop} [Decidable c] (hc : c) {size : ℕ} {d : Reader α}
    (hd : Takes size d fun _ => True) (n : ℕ) :
    Takes (n * size) (listIf c n d : Reader (CArray cap α)) fun a => a.InBounds ↔ n ≤ cap := by
  rw [listIf, if_pos hc]
  exact takes_list hd n

/-- The length checks of the decoders hold once the fixed part has been read. -/
theorem lt_rpcLenOf {l : ℕ} (hl : l ≤ 250) {n : UInt8} (hn : n.toNat < l + 3) :
    rpcLenOf l > n := by
  apply UInt8.lt_iff_toNat_lt.mpr
  rw [toNat_rpcLenOf hl]
  exact hn

end ZnpHost.Mt
