import ZnpHost.Mt.Clusters
import ZnpHost.Mt.FixedMessages

/-!
# Everything the device says

The messages from the device in three groups: records of fields, messages with one list, and
messages with tables.  `DeviceMessage` puts them together.  Three messages are not among them,
since their decoders do not find what the device encoded: `AF_INCOMING_MSG_EXT`, a
`ZDO_MGMT_BIND_RSP` with entries, and a `ZDO_SIMPLE_DESC_RSP` without a descriptor.  The others
are found unless a list is longer than its array, or a `ZDO_IEEE_ADDR_RSP` without devices starts
elsewhere than at index 0.

## Main definitions

* `TableMessage` — messages with records, words behind an address, or two lists.
* `DeviceMessage` — all messages, with their payload and the structure of their fields.
* `DeviceMessage.Kept` — the arrays have room for the lists, and no start index is dropped.
* `DeviceMessage.DecodedBy` — its callback is given what was encoded, and no other one is.
* `device_decoded` — which messages are decoded so.
-/

namespace ZnpHost.Mt

open Lib Reader Rpc

/-! ## Tables -/

/-- A message with tables. -/
inductive TableMessage
  | ieeeAddrRsp (h : NwkAddrFixed) (assocDevList : List UInt16)
  | simpleDescRsp (h : SimpleDescFixed) (inClusterList outClusterList : List UInt16)
  | matchDescRspSent (nwkAddr : UInt16) (inClusterList outClusterList : List UInt16)
  | mgmtNwkDiscRsp (h : TableHeader) (networkList : List NetworkListItemFormat)
  | mgmtLqiRsp (h : TableHeader) (neighborLqiList : List NeighborLqiListItemFormat)
  | mgmtRtgRsp (h : TableHeader) (routingTableList : List RoutingTableListItemFormat)
  /-- A binding table without entries. -/
  | mgmtBindRsp (h : TableHeader)
  | beaconNotifyInd (beaconList : List BeaconListItemFormat)

namespace TableMessage

/-- The number of elements in one byte. -/
abbrev lengthByte {α : Type} (xs : List α) : UInt8 := UInt8.ofNat xs.length

def cmd1 : TableMessage → UInt8
  | ieeeAddrRsp .. => mtZdoIeeeAddrRsp
  | simpleDescRsp .. => mtZdoSimpleDescRsp
  | matchDescRspSent .. => mtZdoMatchDescRspSent
  | mgmtNwkDiscRsp .. => mtZdoMgmtNwkDiscRsp
  | mgmtLqiRsp .. => mtZdoMgmtLqiRsp
  | mgmtRtgRsp .. => mtZdoMgmtRtgRsp
  | mgmtBindRsp .. => mtZdoMgmtBindRsp
  | beaconNotifyInd .. => mtZdoBeaconNotifyInd

/-- The fixed part and the tables, as the device sends them. -/
def payload : TableMessage → List UInt8
  | ieeeAddrRsp h assocDevList => h.encode ++ counted (leBytes 2 ·.toNat) assocDevList
  | simpleDescRsp h ins outs =>
    h.encode ++ (counted (leBytes 2 ·.toNat) ins ++ counted (leBytes 2 ·.toNat) outs)
  | matchDescRspSent nwkAddr ins outs =>
    leBytes 2 nwkAddr.toNat ++
      (counted (leBytes 2 ·.toNat) ins ++ counted (leBytes 2 ·.toNat) outs)
  | mgmtNwkDiscRsp h records =>
    h.encode (lengthByte records) ++ records.flatMap NetworkListItemFormat.encode
  | mgmtLqiRsp h records =>
    h.encode (lengthByte records) ++ records.flatMap NeighborLqiListItemFormat.encode
  | mgmtRtgRsp h records =>
    h.encode (lengthByte records) ++ records.flatMap RoutingTableListItemFormat.encode
  | mgmtBindRsp h => h.encode 0
  | beaconNotifyInd records => counted BeaconListItemFormat.encode records

def cb : TableMessage → ZdoCb
  | ieeeAddrRsp .. => .ieeeAddrRsp
  | simpleDescRsp .. => .simpleDescRsp
  | matchDescRspSent .. => .matchDescRspSent
  | mgmtNwkDiscRsp .. => .mgmtNwkDiscRsp
  | mgmtLqiRsp .. => .mgmtLqiRsp
  | mgmtRtgRsp .. => .mgmtRtgRsp
  | mgmtBindRsp .. => .mgmtBindRsp
  | beaconNotifyInd .. => .beaconNotifyInd

/-- The structure with every field of the message and arrays of its elements. -/
def indication : TableMessage → ZdoIndication
  | ieeeAddrRsp h devs => .ieeeAddrRsp (h.rsp devs)
  | simpleDescRsp h ins outs =>
    .simpleDescRsp ⟨h.srcAddr, h.status, h.nwkAddr, h.len, some ⟨h.endpoint, h.profileID,
      h.deviceID, h.deviceVersion, lengthByte ins, .ofList ins, lengthByte outs, .ofList outs⟩⟩
  | matchDescRspSent nwkAddr ins outs =>
    .matchDescRspSent ⟨nwkAddr, lengthByte ins, .ofList ins, lengthByte outs, .ofList outs⟩
  | mgmtNwkDiscRsp h records => .mgmtNwkDiscRsp
    ⟨h.srcAddr, h.status, h.entries, h.startIndex, lengthByte records, .ofList records⟩
  | mgmtLqiRsp h records => .mgmtLqiRsp
    ⟨h.srcAddr, h.status, h.entries, h.startIndex, lengthByte records, .ofList records⟩
  | mgmtRtgRsp h records => .mgmtRtgRsp
    ⟨h.srcAddr, h.status, h.entries, h.startIndex, lengthByte records, .ofList records⟩
  | mgmtBindRsp h => .mgmtBindRsp ⟨h.srcAddr, h.status, h.entries, h.startIndex, 0, .empty⟩
  | beaconNotifyInd records => .beaconNotifyInd ⟨lengthByte records, .ofList records⟩

/-- The decoder that `mtProcess` runs. -/
def decoder (l : UInt8) : TableMessage → Reader ZdoIndication
  | ieeeAddrRsp .. => .ieeeAddrRsp <$> processIeeeAddrRsp l
  | simpleDescRsp .. => .simpleDescRsp <$> processSimpleDescRsp l
  | matchDescRspSent .. => .matchDescRspSent <$> processMatchDescRspSent
  | mgmtNwkDiscRsp .. => .mgmtNwkDiscRsp <$> processMgmtNwkDiscRsp l
  | mgmtLqiRsp .. => .mgmtLqiRsp <$> processMgmtLqiRsp l
  | mgmtRtgRsp .. => .mgmtRtgRsp <$> processMgmtRtgRsp l
  | mgmtBindRsp .. => .mgmtBindRsp <$> processMgmtBindRsp l
  | beaconNotifyInd .. => .beaconNotifyInd <$> processBeaconNotifyInd l

theorem handler_eq (m : TableMessage) (l : UInt8) :
    handler (mtRpcCmdAreq ||| mtRpcSysZdo) m.cmd1 l =
      some (.zdo m.cb, .zdo <$> m.decoder l) := by
  cases m <;> simp only [cmd1] <;> rfl

/-- The length that the decoder compares `rpcLen` with; `processMatchDescRspSent` does not. -/
def checked : TableMessage → UInt8
  | ieeeAddrRsp .. => 13
  | matchDescRspSent .. => 0
  | beaconNotifyInd .. => 1
  | _ => 6

/-- The length checks hold: `rpcLen` counts three bytes more than the payload has. -/
theorem checked_lt (m : TableMessage) : m.checked.toNat < m.payload.length + 3 := by
  cases m <;> simp [checked, payload, TableHeader.encode] <;> omega

/-- A list of devices without elements starts at index 0. -/
def StartKept : TableMessage → Prop
  | ieeeAddrRsp h [] => h.startIndex = 0
  | _ => True

/-- The numbers of elements fit into a byte each. -/
def Counted : TableMessage → Prop
  | ieeeAddrRsp _ xs => xs.length < 256
  | simpleDescRsp _ xs ys | matchDescRspSent _ xs ys => xs.length < 256 ∧ ys.length < 256
  | mgmtNwkDiscRsp _ xs => xs.length < 256
  | mgmtLqiRsp _ xs => xs.length < 256
  | mgmtRtgRsp _ xs => xs.length < 256
  | mgmtBindRsp _ => True
  | beaconNotifyInd xs => xs.length < 256

end TableMessage

section Decoders

variable {l : UInt8}

/-- The number of elements is at most the number of their bytes. -/
theorem length_le_flatMap {ρ : Type} (enc : ρ → List UInt8) (m : ℕ)
    (hm : ∀ r, (enc r).length = m + 1) (rs : List ρ) : rs.length ≤ (rs.flatMap enc).length := by
  rw [length_flatMap_const hm]
  exact Nat.le_mul_of_pos_right _ (Nat.succ_pos m)

/-- Two counted lists of words. -/
theorem undoes_twoLists {κ : Type} {size : ℕ} {ins outs : List UInt16}
    (hins : ins.length < 256) (houts : outs.length < 256)
    {g : UInt8 → CArray size UInt16 → UInt8 → CArray size UInt16 → κ} :
    Undoes (byte >>= fun n => list n.toNat word >>= fun a => byte >>= fun m =>
        list m.toNat word >>= fun b => .done (g n a m b))
      (counted (leBytes 2 ·.toNat) ins ++ counted (leBytes 2 ·.toNat) outs)
      (g (UInt8.ofNat ins.length) (.ofList ins) (UInt8.ofNat outs.length) (.ofList outs)) := by
  have hlist : Undoes (list (UInt8.ofNat ins.length).toNat word) _
      (.ofList ins : CArray size UInt16) :=
    (toNat_ofNat_length hins).symm ▸ undoes_list undoes_word ins
  rw [counted, List.cons_append, Undoes.byte_bind_iff, hlist.bind_iff]
  exact undoes_counted undoes_word houts

/-- The decoder drops the start index of a list without devices. -/
theorem undoes_processIeeeAddrRsp (h : NwkAddrFixed) {ws : List UInt16} (hl : l > 13)
    (hws : ws.length < 256) :
    Undoes (processIeeeAddrRsp l) (h.encode ++ counted (leBytes 2 ·.toNat) ws)
      { h.rsp ws with startIndex := if UInt8.ofNat ws.length = 0 then 0 else h.startIndex } := by
  simp only [processIeeeAddrRsp, NwkAddrFixed.encode, List.append_assoc, List.cons_append,
    List.nil_append, Undoes.byte_bind_iff, undoes_qword_bind, undoes_word_bind]
  exact undoes_countedIf hl undoes_word hws

/-- Where it is kept, the callback is given what the device sent. -/
theorem NwkAddrFixed.rsp_eq (h : NwkAddrFixed) {ws : List UInt16} (hws : ws.length < 256)
    (hkept : (TableMessage.ieeeAddrRsp h ws).StartKept) :
    { h.rsp ws with startIndex := if UInt8.ofNat ws.length = 0 then 0 else h.startIndex } =
      h.rsp ws := by
  cases ws with
  | nil => simp [NwkAddrFixed.rsp, show h.startIndex = 0 from hkept]
  | cons w ws =>
    have hne : UInt8.ofNat (w :: ws).length ≠ 0 := by
      intro h0
      have hlen := toNat_ofNat_length hws
      rw [h0] at hlen
      cases hlen
    rw [if_neg hne]
    rfl

theorem undoes_simpleDesc (h : SimpleDescFixed) {ins outs : List UInt16} (hl : l > 6)
    (hins : ins.length < 256) (houts : outs.length < 256) :
    Undoes (processSimpleDescRsp l)
      (h.encode ++ (counted (leBytes 2 ·.toNat) ins ++ counted (leBytes 2 ·.toNat) outs))
      ⟨h.srcAddr, h.status, h.nwkAddr, h.len, some ⟨h.endpoint, h.profileID, h.deviceID,
        h.deviceVersion, UInt8.ofNat ins.length, .ofList ins, UInt8.ofNat outs.length,
        .ofList outs⟩⟩ :=
  h.undoes_rsp hl fun _ => undoes_twoLists hins houts

/-- A management response with its records. -/
theorem undoes_mgmtTable {ρ κ : Type} {size : ℕ} {item : Reader ρ} {enc : ρ → List UInt8}
    {mk : UInt16 → UInt8 → UInt8 → UInt8 → UInt8 → CArray size ρ → κ}
    (hitem : ∀ r, Undoes item (enc r) r) (h : TableHeader) {records : List ρ} (hl : l > 6)
    (hcount : records.length < 256) :
    Undoes (mgmtTable l item mk) (h.encode (UInt8.ofNat records.length) ++ records.flatMap enc)
      (mk h.srcAddr h.status h.entries h.startIndex (UInt8.ofNat records.length)
        (.ofList records)) := by
  intro rest
  rw [List.append_assoc, mgmtTable, parse_header, toNat_ofNat_length hcount]
  exact (undoes_listIf hl hitem records).map rest

theorem undoes_emptyBindRsp (h : TableHeader) (hl : l > 6) :
    Undoes (processMgmtBindRsp l) (h.encode 0)
      ⟨h.srcAddr, h.status, h.entries, h.startIndex, 0, .empty⟩ := by
  intro rest
  rw [processMgmtBindRsp, parse_header, bindingTable, if_pos hl]
  rfl

end Decoders

namespace TableMessage

/-- A message that fits into a frame has less than 256 elements in each table. -/
theorem counted_of_length_le (m : TableMessage) (h : m.payload.length ≤ 250) : m.Counted := by
  have hwords (ws : List UInt16) :=
    length_le_flatMap (leBytes 2 ·.toNat) 1 (fun w => length_leBytes 2 w.toNat) ws
  cases m with
  | ieeeAddrRsp _ xs =>
    have hxs := hwords xs
    simp only [payload, List.length_append, length_counted] at h
    simp only [Counted]
    omega
  | simpleDescRsp _ xs ys | matchDescRspSent _ xs ys =>
    have hxs := hwords xs
    have hys := hwords ys
    simp only [payload, List.length_append, length_counted] at h
    simp only [Counted]
    omega
  | mgmtNwkDiscRsp _ xs =>
    have hxs := length_le_flatMap NetworkListItemFormat.encode 11
      (fun r => by simp [NetworkListItemFormat.encode]) xs
    simp only [payload, List.length_append] at h
    simp only [Counted]
    omega
  | mgmtLqiRsp _ xs =>
    have hxs := length_le_flatMap NeighborLqiListItemFormat.encode 21
      (fun r => by simp [NeighborLqiListItemFormat.encode]) xs
    simp only [payload, List.length_append] at h
    simp only [Counted]
    omega
  | mgmtRtgRsp _ xs =>
    have hxs := length_le_flatMap RoutingTableListItemFormat.encode 4
      (fun r => by simp [RoutingTableListItemFormat.encode]) xs
    simp only [payload, List.length_append] at h
    simp only [Counted]
    omega
  | mgmtBindRsp => trivial
  | beaconNotifyInd xs =>
    have hxs := length_le_flatMap BeaconListItemFormat.encode 20
      (fun r => by simp [BeaconListItemFormat.encode]) xs
    simp only [payload, length_counted] at h
    simp only [Counted]
    omega

/-- The decoder of a message undoes its payload. -/
theorem undoes_decoder (m : TableMessage) {l : UInt8} (hl : l > m.checked) (hc : m.Counted)
    (hkept : m.StartKept) : Undoes (m.decoder l) m.payload m.indication := by
  cases m with
  | ieeeAddrRsp h assocDevList =>
    have hread := undoes_processIeeeAddrRsp h hl hc
    rw [h.rsp_eq hc hkept] at hread
    exact hread.fmap
  | simpleDescRsp h ins outs => exact (undoes_simpleDesc h hl hc.1 hc.2).fmap
  | matchDescRspSent nwkAddr ins outs =>
    have hread : Undoes processMatchDescRspSent _ _ :=
      (undoes_word nwkAddr).bind (undoes_twoLists hc.1 hc.2)
    exact hread.fmap
  | mgmtNwkDiscRsp h records => exact (undoes_mgmtTable undoes_networkListItem h hl hc).fmap
  | mgmtLqiRsp h records => exact (undoes_mgmtTable undoes_neighborLqiListItem h hl hc).fmap
  | mgmtRtgRsp h records => exact (undoes_mgmtTable undoes_routingTableListItem h hl hc).fmap
  | mgmtBindRsp h => exact (undoes_emptyBindRsp h hl).fmap
  | beaconNotifyInd records =>
    have hread : Undoes (processBeaconNotifyInd l) _ _ :=
      undoes_countedIf hl undoes_beaconListItem hc
    exact hread.fmap

end TableMessage

/-! ## All messages -/

/-- A message from the device. -/
inductive DeviceMessage
  | fixed (m : FixedMessage)
  | list (m : ListMessage)
  | table (m : TableMessage)

namespace DeviceMessage

/-- Type and subsystem of the message. -/
def cmd0 : DeviceMessage → UInt8
  | fixed m => m.cmd0
  | list m => m.cmd0
  | table _ => mtRpcCmdAreq ||| mtRpcSysZdo

def cmd1 : DeviceMessage → UInt8
  | fixed m => m.cmd1
  | list m => m.cmd1
  | table m => m.cmd1

/-- What the device sends. -/
def payload : DeviceMessage → List UInt8
  | fixed m => m.payload
  | list m => m.payload
  | table m => m.payload

/-- The callback for the message. -/
def cb : DeviceMessage → Cb
  | fixed m => m.cb
  | list m => m.cb
  | table m => .zdo m.cb

/-- The structure with every field of the message and arrays of its elements. -/
def indication : DeviceMessage → Indication
  | fixed m => m.indication
  | list m => m.indication
  | table m => .zdo m.indication

/-- No start index is dropped. -/
def StartKept : DeviceMessage → Prop
  | table m => m.StartKept
  | _ => True

/-- The arrays have room for the lists, and no start index is dropped. -/
structure Kept (m : DeviceMessage) : Prop where
  inBounds : m.indication.InBounds
  startKept : m.StartKept

/-- The frame carries the message. -/
structure CarriedBy (m : DeviceMessage) (f : MtFrame) : Prop where
  cmd0 : f.cmd0 = m.cmd0
  cmd1 : f.cmd1 = m.cmd1
  payload : f.payload = m.payload

/-- Its callback is given the fields and the elements in arrays that hold them, and no other
callback is called, whatever is registered and whatever follows the payload in the buffer. -/
structure DecodedBy (m : DeviceMessage) (f : MtFrame) : Prop where
  result : ∀ registered rpcBuff, Delivered f rpcBuff →
    mtProcess registered rpcBuff (rpcLen f) = if registered m.cb then some m.indication else none
  inBounds : m.indication.InBounds

variable {m : DeviceMessage} {f : MtFrame}

/-- The dispatcher finds the decoder of a message, and the decoder finds the message. -/
theorem CarriedBy.finds (h : m.CarriedBy f) (hkept : m.StartKept) :
    ∃ d, handler f.cmd0 f.cmd1 (rpcLen f) = some (m.cb, d) ∧ Finds d f.payload m.indication := by
  have hle := f.payload_le
  rw [h.cmd0, h.cmd1, h.payload]
  cases m with
  | fixed m => exact ⟨m.decoder, m.handler_eq _, m.finds⟩
  | list m =>
    have hcount := m.count_le
    have hpay : f.payload.length = m.payload.length := congrArg List.length h.payload
    have hchecked : rpcLen f > m.checked := lt_rpcLenOf hle (hpay ▸ m.checked_lt)
    have hread := m.undoes_decoder hchecked (by omega)
    exact ⟨m.decoder _, m.handler_eq _, finds_of_undoes hread⟩
  | table m =>
    have hpay : f.payload.length = m.payload.length := congrArg List.length h.payload
    have hchecked : rpcLen f > m.checked := lt_rpcLenOf hle (hpay ▸ m.checked_lt)
    have hread := m.undoes_decoder hchecked (m.counted_of_length_le (hpay ▸ hle)) hkept
    exact ⟨_, m.handler_eq _, finds_of_undoes hread.fmap⟩

/-- What becomes of a frame with a message. -/
theorem CarriedBy.mtProcess_eq (h : m.CarriedBy f) (hkept : m.StartKept)
    (registered : Cb → Bool) {rpcBuff : Mem} (hm : Delivered f rpcBuff) :
    mtProcess registered rpcBuff (rpcLen f) =
      if registered m.cb then some m.indication else none := by
  obtain ⟨d, hcb, rest, hparse⟩ := h.finds hkept
  by_cases hreg : registered m.cb = true
  · rw [if_pos hreg]
    exact mtProcess_of_parse hcb hparse hreg hm
  · rw [if_neg hreg, hm.mtProcess_eq, Mt.decoder, hcb]
    simp [hreg]

/-- A response without devices reaches its callback with start index 0. -/
theorem CarriedBy.mtProcess_noDevices {h : NwkAddrFixed}
    (hf : CarriedBy (.table (.ieeeAddrRsp h [])) f) {rpcBuff : Mem} (hm : Delivered f rpcBuff) :
    mtProcess (fun _ => true) rpcBuff (rpcLen f) =
      some (.zdo (.ieeeAddrRsp { h.rsp [] with startIndex := 0 })) := by
  have hl : rpcLen f > 13 := by
    apply lt_rpcLenOf f.payload_le
    rw [hf.payload]
    exact TableMessage.checked_lt (.ieeeAddrRsp h [])
  have hread : Undoes (.ieeeAddrRsp <$> processIeeeAddrRsp (rpcLen f)) f.payload
      (ZdoIndication.ieeeAddrRsp { h.rsp [] with startIndex := 0 }) := by
    rw [hf.payload]
    exact (undoes_processIeeeAddrRsp h hl (by decide)).fmap
  obtain ⟨rest, hparse⟩ := finds_of_undoes (hread.fmap (g := Indication.zdo))
  have hcb : handler f.cmd0 f.cmd1 (rpcLen f) = some (.zdo .ieeeAddrRsp,
      .zdo <$> (.ieeeAddrRsp <$> processIeeeAddrRsp (rpcLen f))) := by
    rw [hf.cmd0, hf.cmd1]
    exact TableMessage.handler_eq (.ieeeAddrRsp h []) (rpcLen f)
  exact mtProcess_of_parse hcb hparse rfl hm

/-- A dropped start index was 0. -/
theorem DecodedBy.startKept (hd : m.DecodedBy f) (hf : m.CarriedBy f) : m.StartKept := by
  have hm := Delivered.ofList f fun _ => 0
  have hresult := hd.result (fun _ => true) _ hm
  match m with
  | table (.ieeeAddrRsp h []) =>
    rw [hf.mtProcess_noDevices hm] at hresult
    have hstart : 0 = h.startIndex := by
      simpa [indication, TableMessage.indication, NwkAddrFixed.rsp] using hresult
    exact hstart.symm
  | table (.ieeeAddrRsp h (_ :: _)) | table (.simpleDescRsp ..) | table (.matchDescRspSent ..)
  | table (.mgmtNwkDiscRsp ..) | table (.mgmtLqiRsp ..) | table (.mgmtRtgRsp ..)
  | table (.mgmtBindRsp _) | table (.beaconNotifyInd _) | fixed _ | list _ => trivial

end DeviceMessage

/-- **A message is decoded to what the device encoded**, and only for its own callback, exactly
when the arrays have room for its lists and no start index is dropped. -/
theorem device_decoded (m : DeviceMessage) (f : MtFrame) (hf : m.CarriedBy f) :
    m.DecodedBy f ↔ m.Kept := by
  constructor
  · intro hd
    exact ⟨hd.inBounds, hd.startKept hf⟩
  · intro hkept
    refine ⟨?_, hkept.inBounds⟩
    intro registered rpcBuff hm
    exact hf.mtProcess_eq hkept.startKept registered hm

/-- The announcement of an end device. -/
def endDeviceAnnce : DeviceMessage :=
  .fixed (.endDeviceAnnceInd ⟨0x1A62, 0x1A62, 0x00124B0001020304, 0x8E⟩)

/-- Its frame. -/
def endDeviceAnnceFrame : MtFrame :=
  zdoFrame mtZdoEndDeviceAnnceInd endDeviceAnnce.payload (by decide)

/-- It reaches its callback. -/
theorem device_decoded_endDeviceAnnce : endDeviceAnnce.DecodedBy endDeviceAnnceFrame :=
  (device_decoded endDeviceAnnce endDeviceAnnceFrame ⟨rfl, rfl, rfl⟩).mpr ⟨trivial, trivial⟩

end ZnpHost.Mt
