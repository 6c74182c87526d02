import ZnpHost.Mt.Decoding

/-!
# Messages with one list

Twelve messages end with a number and as many bytes or words behind it.  Their decoders
give the callback every field of the fixed part and the elements in order, up to the last
byte of the longest frame.  `AF_INCOMING_MSG_EXT` would be the thirteenth, but its decoder
reads the low byte of a length of two bytes.

## Main definitions

* `ListMessage` — the fields and the elements of such a message.
* `ListMessage.payload`, `ListMessage.indication` — what the device sends for it and what
  the callback is given.
* `lists_decoded` — a frame with this payload is decoded to this structure.
* `extDecoded_iff` — the extended message is decoded only when all its data bytes are zero.
-/

namespace ZnpHost.Mt

open Lib Reader Rpc

/-! ## The messages -/

/-- The fixed part of `AF_INCOMING_MSG`, without the number of data bytes. -/
structure IncomingMsgFixed where
  groupId : UInt16
  clusterId : UInt16
  srcAddr : UInt16
  srcEndpoint : UInt8
  dstEndpoint : UInt8
  wasVroadcast : UInt8
  linkQuality : UInt8
  securityUse : UInt8
  timeStamp : UInt32
  transSeqNum : UInt8

/-- The fixed part of `ZDO_NWK_ADDR_RSP`, without the number of devices. -/
structure NwkAddrFixed where
  status : UInt8
  ieeeAddr : UInt64
  nwkAddr : UInt16
  startIndex : UInt8

/-- The fixed part of the responses with a list of bytes, without their number. -/
structure ByteListFixed where
  srcAddr : UInt16
  status : UInt8
  nwkAddr : UInt16

def IncomingMsgFixed.encode (h : IncomingMsgFixed) : List UInt8 :=
  leBytes 2 h.groupId.toNat ++ leBytes 2 h.clusterId.toNat ++ leBytes 2 h.srcAddr.toNat ++
    [h.srcEndpoint, h.dstEndpoint, h.wasVroadcast, h.linkQuality, h.securityUse] ++
    leBytes 4 h.timeStamp.toNat ++ [h.transSeqNum]

def NwkAddrFixed.encode (h : NwkAddrFixed) : List UInt8 :=
  [h.status] ++ leBytes 8 h.ieeeAddr.toNat ++ leBytes 2 h.nwkAddr.toNat ++ [h.startIndex]

def ByteListFixed.encode (h : ByteListFixed) : List UInt8 :=
  leBytes 2 h.srcAddr.toNat ++ [h.status] ++ leBytes 2 h.nwkAddr.toNat

@[simp] theorem IncomingMsgFixed.length_encode (h : IncomingMsgFixed) :
    h.encode.length = 16 := by simp [encode]

@[simp] theorem NwkAddrFixed.length_encode (h : NwkAddrFixed) : h.encode.length = 12 := by
  simp [encode]

@[simp] theorem ByteListFixed.length_encode (h : ByteListFixed) : h.encode.length = 5 := by
  simp [encode]

/-- The structure of `AF_INCOMING_MSG` with these data bytes. -/
def IncomingMsgFixed.rsp (h : IncomingMsgFixed) (data : List UInt8) : IncomingMsgFormat where
  groupId := h.groupId
  clusterId := h.clusterId
  srcAddr := h.srcAddr
  srcEndpoint := h.srcEndpoint
  dstEndpoint := h.dstEndpoint
  wasVroadcast := h.wasVroadcast
  linkQuality := h.linkQuality
  securityUse := h.securityUse
  timeStamp := h.timeStamp
  transSeqNum := h.transSeqNum
  len := UInt8.ofNat data.length
  data := .ofList data

def NwkAddrFixed.rsp (h : NwkAddrFixed) (assocDevList : List UInt16) : NwkAddrRspFormat where
  status := h.status
  ieeeAddr := h.ieeeAddr
  nwkAddr := h.nwkAddr
  startIndex := h.startIndex
  numAssocDev := UInt8.ofNat assocDevList.length
  assocDevList := .ofList assocDevList

def ByteListFixed.rsp (h : ByteListFixed) (list : List UInt8) : ByteListRspFormat where
  srcAddr := h.srcAddr
  status := h.status
  nwkAddr := h.nwkAddr
  count := UInt8.ofNat list.length
  list := .ofList list

/-- A message with one list: its fixed part and the elements. -/
inductive ListMessage
  | incomingMsg (h : IncomingMsgFixed) (data : List UInt8)
  | dataRetrieve (status : UInt8) (data : List UInt8)
  | ramRead (status : UInt8) (value : List UInt8)
  | osalNvRead (status : UInt8) (value : List UInt8)
  | readConfiguration (status configId : UInt8) (value : List UInt8)
  | receiveDataInd (source command : UInt16) (data : List UInt8)
  | nwkAddrRsp (h : NwkAddrFixed) (assocDevList : List UInt16)
  | activeEpRsp (h : ByteListFixed) (activeEpList : List UInt8)
  | matchDescRsp (h : ByteListFixed) (matchList : List UInt8)
  | complexDescRsp (h : ByteListFixed) (complexList : List UInt8)
  | userDescRsp (h : ByteListFixed) (userDescriptor : List UInt8)
  | srcRtgInd (dstAddr : UInt16) (relayList : List UInt16)

namespace ListMessage

/-- Type and subsystem of the message. -/
def cmd0 : ListMessage → UInt8
  | incomingMsg .. => mtRpcCmdAreq ||| mtRpcSysAf
  | dataRetrieve .. => mtRpcCmdSrsp ||| mtRpcSysAf
  | ramRead .. | osalNvRead .. => mtRpcCmdSrsp ||| mtRpcSysSys
  | readConfiguration .. => mtRpcCmdSrsp ||| mtRpcSysSapi
  | receiveDataInd .. => mtRpcCmdAreq ||| mtRpcSysSapi
  | nwkAddrRsp .. | activeEpRsp .. | matchDescRsp .. | complexDescRsp .. | userDescRsp ..
  | srcRtgInd .. => mtRpcCmdAreq ||| mtRpcSysZdo

def cmd1 : ListMessage → UInt8
  | incomingMsg .. => mtAfIncomingMsg
  | dataRetrieve .. => mtAfDataRetrieve
  | ramRead .. => mtSysRamRead
  | osalNvRead .. => mtSysOsalNvRead
  | readConfiguration .. => mtSapiReadConfiguration
  | receiveDataInd .. => mtSapiReceiveDataInd
  | nwkAddrRsp .. => mtZdoNwkAddrRsp
  | activeEpRsp .. => mtZdoActiveEpRsp
  | matchDescRsp .. => mtZdoMatchDescRsp
  | complexDescRsp .. => mtZdoComplexDescRsp
  | userDescRsp .. => mtZdoUserDescRsp
  | srcRtgInd .. => mtZdoSrcRtgInd

/-- The fixed part, the number of elements and the elements, as the device sends them. -/
def payload : ListMessage → List UInt8
  | incomingMsg h data => h.encode ++ counted ([·]) data
  | dataRetrieve status data => status :: counted ([·]) data
  | ramRead status value => status :: counted ([·]) value
  | osalNvRead status value => status :: counted ([·]) value
  | readConfiguration status configId value => status :: configId :: counted ([·]) value
  | receiveDataInd source command data =>
    leBytes 2 source.toNat ++ leBytes 2 command.toNat ++ leBytes 2 data.length ++ data
  | nwkAddrRsp h assocDevList => h.encode ++ counted (leBytes 2 ·.toNat) assocDevList
  | activeEpRsp h list | matchDescRsp h list | complexDescRsp h list | userDescRsp h list =>
    h.encode ++ counted ([·]) list
  | srcRtgInd dstAddr relayList =>
    leBytes 2 dstAddr.toNat ++ counted (leBytes 2 ·.toNat) relayList

/-- The callback for the message. -/
def cb : ListMessage → Cb
  | incomingMsg .. => .af .incomingMsg
  | dataRetrieve .. => .af .dataRetrieve
  | ramRead .. => .sys .ramRead
  | osalNvRead .. => .sys .osalNvRead
  | readConfiguration .. => .sapi .readConfiguration
  | receiveDataInd .. => .sapi .receiveDataInd
  | nwkAddrRsp .. => .zdo .nwkAddrRsp
  | activeEpRsp .. => .zdo .activeEpRsp
  | matchDescRsp .. => .zdo .matchDescRsp
  | complexDescRsp .. => .zdo .complexDescRsp
  | userDescRsp .. => .zdo .userDescRsp
  | srcRtgInd .. => .zdo .srcRtgInd

/-- The structure with every field of the message and an array of its elements. -/
def indication : ListMessage → Indication
  | incomingMsg h data => .af (.incomingMsg (h.rsp data))
  | dataRetrieve status data =>
    .af (.dataRetrieve ⟨status, UInt8.ofNat data.length, .ofList data⟩)
  | ramRead status value => .sys (.ramRead ⟨status, UInt8.ofNat value.length, .ofList value⟩)
  | osalNvRead status value =>
    .sys (.osalNvRead ⟨status, UInt8.ofNat value.length, .ofList value⟩)
  | readConfiguration status configId value =>
    .sapi (.readConfiguration ⟨status, configId, UInt8.ofNat value.length, .ofList value⟩)
  | receiveDataInd source command data =>
    .sapi (.receiveDataInd ⟨source, command, UInt16.ofNat data.length, .ofList data⟩)
  | nwkAddrRsp h assocDevList => .zdo (.nwkAddrRsp (h.rsp assocDevList))
  | activeEpRsp h list => .zdo (.activeEpRsp (h.rsp list))
  | matchDescRsp h list => .zdo (.matchDescRsp (h.rsp list))
  | complexDescRsp h list => .zdo (.complexDescRsp (h.rsp list))
  | userDescRsp h list => .zdo (.userDescRsp (h.rsp list))
  | srcRtgInd dstAddr relayList =>
    .zdo (.srcRtgInd ⟨dstAddr, UInt8.ofNat relayList.length, .ofList relayList⟩)

/-- The decoder that `mtProcess` runs. -/
def decoder (l : UInt8) : ListMessage → Reader Indication
  | incomingMsg .. => .af <$> (.incomingMsg <$> processIncomingMsg l)
  | dataRetrieve .. => .af <$> (.dataRetrieve <$> processDataRetrieveSrsp l)
  | ramRead .. => .sys <$> (.ramRead <$> processRamReadSrsp l)
  | osalNvRead .. => .sys <$> (.osalNvRead <$> processOsalNvReadSrsp l)
  | readConfiguration .. => .sapi <$> (.readConfiguration <$> processReadConfigurationSrsp l)
  | receiveDataInd .. => .sapi <$> (.receiveDataInd <$> processReceiveDataInd l)
  | nwkAddrRsp .. => .zdo <$> (.nwkAddrRsp <$> processNwkAddrRsp l)
  | activeEpRsp .. => .zdo <$> (.activeEpRsp <$> processActiveEpRsp l)
  | matchDescRsp .. => .zdo <$> (.matchDescRsp <$> processMatchDescRsp l)
  | complexDescRsp .. => .zdo <$> (.complexDescRsp <$> processComplexDescRsp l)
  | userDescRsp .. => .zdo <$> (.userDescRsp <$> processUserDescRsp l)
  | srcRtgInd .. => .zdo <$> (.srcRtgInd <$> processSrcRtgInd)

theorem handler_eq (m : ListMessage) (l : UInt8) :
    handler m.cmd0 m.cmd1 l = some (m.cb, m.decoder l) := by
  cases m <;> simp only [cmd0, cmd1] <;> rfl

/-- The number of elements. -/
def count : ListMessage → ℕ
  | incomingMsg _ xs | dataRetrieve _ xs | ramRead _ xs | osalNvRead _ xs
  | readConfiguration _ _ xs | receiveDataInd _ _ xs | activeEpRsp _ xs | matchDescRsp _ xs
  | complexDescRsp _ xs | userDescRsp _ xs => xs.length
  | nwkAddrRsp _ xs | srcRtgInd _ xs => xs.length

/-- The length that the decoder compares `rpcLen` with; `processSrcRtgInd` does not. -/
def checked : ListMessage → UInt8
  | incomingMsg .. => 17
  | dataRetrieve .. | ramRead .. | osalNvRead .. => 2
  | readConfiguration .. => 3
  | receiveDataInd .. | activeEpRsp .. | matchDescRsp .. | complexDescRsp .. | userDescRsp .. => 6
  | nwkAddrRsp .. => 13
  | srcRtgInd .. => 0

/-- The size of the array in the response structure. -/
def room : ListMessage → ℕ
  | incomingMsg .. => 99
  | dataRetrieve .. => 248
  | ramRead .. => 128
  | osalNvRead .. => 248
  | readConfiguration .. => 128
  | receiveDataInd .. => 84
  | nwkAddrRsp .. => 70
  | activeEpRsp .. | matchDescRsp .. | complexDescRsp .. | userDescRsp .. => 77
  | srcRtgInd .. => 255

end ListMessage

/-- The frame carries the message. -/
structure Carries (f : MtFrame) (m : ListMessage) : Prop where
  cmd0 : f.cmd0 = m.cmd0
  cmd1 : f.cmd1 = m.cmd1
  payload : f.payload = m.payload

/-! ## The decoders -/

section Decoders

variable {l : UInt8} {xs : List UInt8} {ws : List UInt16}

theorem undoes_processIncomingMsg (h : IncomingMsgFixed) (hl : l > 17) (hxs : xs.length < 256) :
    Undoes (processIncomingMsg l) (h.encode ++ counted ([·]) xs) (h.rsp xs) := by
  simp only [processIncomingMsg, IncomingMsgFixed.encode, List.append_assoc, List.cons_append,
    List.nil_append, undoes_word_bind, Undoes.byte_bind_iff, undoes_dword_bind]
  exact undoes_countedIf hl .byte hxs

theorem straight_processIncomingMsg : (processIncomingMsg l).Straight := by
  simp [processIncomingMsg]

/-- Three SRSPs have a status and a list of bytes. -/
theorem undoes_statusList {κ : Type} {size : ℕ} {g : UInt8 → UInt8 → CArray size UInt8 → κ}
    (status : UInt8) (hl : l > 2) (hxs : xs.length < 256) :
    Undoes (byte >>= fun a => byte >>= fun n => listIf (l > 2) n.toNat byte >>= fun b =>
        .done (g a n b))
      (status :: counted ([·]) xs) (g status (UInt8.ofNat xs.length) (.ofList xs)) := by
  rw [Undoes.byte_bind_iff]
  exact undoes_countedIf hl .byte hxs

theorem straight_statusList {κ : Type} {size : ℕ} {g : UInt8 → UInt8 → CArray size UInt8 → κ} :
    (byte >>= fun a => byte >>= fun n => listIf (l > 2) n.toNat byte >>= fun b =>
      .done (g a n b)).Straight := by
  simp

theorem undoes_processReadConfigurationSrsp (status configId : UInt8) (hl : l > 3)
    (hxs : xs.length < 256) :
    Undoes (processReadConfigurationSrsp l) (status :: configId :: counted ([·]) xs)
      ⟨status, configId, UInt8.ofNat xs.length, .ofList xs⟩ := by
  rw [processReadConfigurationSrsp, Undoes.byte_bind_iff, Undoes.byte_bind_iff]
  exact undoes_countedIf hl .byte hxs

theorem straight_processReadConfigurationSrsp : (processReadConfigurationSrsp l).Straight := by
  simp [processReadConfigurationSrsp]

/-- The number of data bytes is a word here. -/
theorem undoes_processReceiveDataInd (source command : UInt16) (hl : l > 6)
    (hxs : xs.length < 256) :
    Undoes (processReceiveDataInd l)
      (leBytes 2 source.toNat ++ leBytes 2 command.toNat ++ leBytes 2 xs.length ++ xs)
      ⟨source, command, UInt16.ofNat xs.length, .ofList xs⟩ := by
  have hlen : (UInt16.ofNat xs.length).toNat = xs.length := by
    rw [UInt16.toNat_ofNat']
    omega
  have hlist : Undoes (listIf (l > 6) (UInt16.ofNat xs.length).toNat byte)
      (xs.flatMap ([·])) (.ofList xs : CArray 84 UInt8) := by
    rw [hlen]
    exact undoes_listIf hl .byte xs
  have hbytes : leBytes 2 xs.length ++ xs =
      leBytes 2 (UInt16.ofNat xs.length).toNat ++ xs.flatMap ([·]) := by
    rw [hlen, List.flatMap_singleton']
  rw [processReceiveDataInd, List.append_assoc, List.append_assoc, hbytes, undoes_word_bind,
    undoes_word_bind, undoes_word_bind]
  exact hlist.map

theorem straight_processReceiveDataInd : (processReceiveDataInd l).Straight := by
  simp [processReceiveDataInd]

theorem undoes_processNwkAddrRsp (h : NwkAddrFixed) (hl : l > 13) (hws : ws.length < 256) :
    Undoes (processNwkAddrRsp l) (h.encode ++ counted (leBytes 2 ·.toNat) ws) (h.rsp ws) := by
  simp only [processNwkAddrRsp, NwkAddrFixed.encode, List.append_assoc, List.cons_append,
    List.nil_append, Undoes.byte_bind_iff, undoes_qword_bind, undoes_word_bind]
  exact undoes_countedIf hl undoes_word hws

theorem straight_processNwkAddrRsp : (processNwkAddrRsp l).Straight := by
  simp [processNwkAddrRsp]

theorem undoes_byteListRsp (h : ByteListFixed) (hl : l > 6) (hxs : xs.length < 256) :
    Undoes (byteListRsp l) (h.encode ++ counted ([·]) xs) (h.rsp xs) := by
  simp only [byteListRsp, ByteListFixed.encode, List.append_assoc, List.cons_append,
    List.nil_append, undoes_word_bind, Undoes.byte_bind_iff]
  exact undoes_countedIf hl .byte hxs

theorem straight_byteListRsp : (byteListRsp l).Straight := by simp [byteListRsp]

theorem undoes_processSrcRtgInd (dstAddr : UInt16) (hws : ws.length < 256) :
    Undoes processSrcRtgInd (leBytes 2 dstAddr.toNat ++ counted (leBytes 2 ·.toNat) ws)
      ⟨dstAddr, UInt8.ofNat ws.length, .ofList ws⟩ := by
  rw [processSrcRtgInd, undoes_word_bind]
  exact undoes_counted undoes_word hws

theorem straight_processSrcRtgInd : processSrcRtgInd.Straight := by simp [processSrcRtgInd]

end Decoders

/-- The decoder of a message undoes its payload. -/
theorem ListMessage.undoes_decoder (m : ListMessage) {l : UInt8} (hl : l > m.checked)
    (hcount : m.count < 256) : Undoes (m.decoder l) m.payload m.indication := by
  cases m with
  | incomingMsg h data => exact (undoes_processIncomingMsg h hl hcount).fmap.fmap
  | dataRetrieve status _ | ramRead status _ | osalNvRead status _ =>
    exact (undoes_statusList status hl hcount).fmap.fmap
  | readConfiguration status configId value =>
    exact (undoes_processReadConfigurationSrsp status configId hl hcount).fmap.fmap
  | receiveDataInd source command data =>
    exact (undoes_processReceiveDataInd source command hl hcount).fmap.fmap
  | nwkAddrRsp h assocDevList => exact (undoes_processNwkAddrRsp h hl hcount).fmap.fmap
  | activeEpRsp h list | matchDescRsp h list | complexDescRsp h list | userDescRsp h list =>
    exact (undoes_byteListRsp h hl hcount).fmap.fmap
  | srcRtgInd dstAddr relayList => exact (undoes_processSrcRtgInd dstAddr hcount).fmap.fmap

/-- It reads each byte once. -/
theorem ListMessage.straight_decoder (m : ListMessage) (l : UInt8) :
    (m.decoder l).Straight := by
  cases m with
  | incomingMsg => exact straight_processIncomingMsg.fmap.fmap
  | dataRetrieve | ramRead | osalNvRead => exact straight_statusList.fmap.fmap
  | readConfiguration => exact straight_processReadConfigurationSrsp.fmap.fmap
  | receiveDataInd => exact straight_processReceiveDataInd.fmap.fmap
  | nwkAddrRsp => exact straight_processNwkAddrRsp.fmap.fmap
  | activeEpRsp | matchDescRsp | complexDescRsp | userDescRsp =>
    exact straight_byteListRsp.fmap.fmap
  | srcRtgInd => exact straight_processSrcRtgInd.fmap.fmap

/-! ## The callbacks -/

namespace ListMessage

variable (m : ListMessage)

/-- There is at least a byte for each element. -/
theorem count_le : m.count ≤ m.payload.length := by
  have hwords : ∀ ws : List UInt16, ws.length ≤ (ws.flatMap (leBytes 2 ·.toNat)).length := by
    intro ws
    rw [length_flatMap_const fun _ => length_leBytes 2 _]
    omega
  cases m with
  | nwkAddrRsp _ ws | srcRtgInd _ ws =>
    have hws := hwords ws
    simp only [count, payload, List.length_append, length_counted]
    omega
  | _ =>
    simp only [count, payload, List.length_append, List.length_cons, length_counted,
      List.flatMap_singleton']
    omega

/-- The length checks hold: `rpcLen` counts three bytes more than the payload has. -/
theorem checked_lt : m.checked.toNat < m.payload.length + 3 := by
  cases m <;> simp [checked, payload] <;> omega

/-- The array has room for as many elements as `room` says. -/
theorem inBounds_iff : m.indication.InBounds ↔ m.count ≤ m.room := by
  cases m <;> exact CArray.inBounds_ofList _

end ListMessage

/-- **Messages with one list are decoded exactly**: every field of the fixed part and the
elements in order reach the callback, and the decoder reads the payload byte by byte. -/
theorem lists_decoded (m : ListMessage) (f : MtFrame) (hf : Carries f m)
    (hroom : m.count ≤ m.room) : DecodedTo f m.cb m.indication ∧ m.indication.InBounds := by
  refine ⟨?_, m.inBounds_iff.mpr hroom⟩
  have hle := f.payload_le
  have hcount := m.count_le
  have hchecked : rpcLen f > m.checked := lt_rpcLenOf hle (hf.payload ▸ m.checked_lt)
  have hhandler := m.handler_eq (rpcLen f)
  rw [← hf.cmd0, ← hf.cmd1] at hhandler
  have hundoes := m.undoes_decoder hchecked (by rw [← hf.payload] at hcount; omega)
  rw [← hf.payload] at hundoes
  exact .of_undoes hhandler hundoes (m.straight_decoder _)

/-- The frame of a message that is short enough. -/
def ListMessage.frame (m : ListMessage) (h : m.payload.length ≤ 250) : MtFrame :=
  ⟨m.cmd0, m.cmd1, m.payload, h⟩

/-- The longest item of the NV memory that fits into a frame. -/
def longestItem : ListMessage := .osalNvRead 0 (List.replicate 248 0xAB)

/-- It fills the array and the frame. -/
theorem lists_decoded_longestItem :
    ∃ h, DecodedTo (longestItem.frame h) (.sys .osalNvRead) longestItem.indication ∧
      longestItem.indication.InBounds := by
  have hle : longestItem.payload.length ≤ 250 := by
    have hlen : ((List.replicate 248 (0xAB : UInt8)).flatMap ([·])).length = 248 := by
      rw [List.flatMap_singleton', List.length_replicate]
    change _ + 1 + 1 ≤ 250
    omega
  have hroom : longestItem.count ≤ longestItem.room :=
    Nat.le_of_eq List.length_replicate
  exact ⟨hle, lists_decoded longestItem (longestItem.frame hle) ⟨rfl, rfl, rfl⟩ hroom⟩

/-! ## The extended message -/

/-- The fixed part of `AF_INCOMING_MSG_EXT`, without the number of data bytes. -/
structure IncomingMsgExtFixed where
  groupId : UInt16
  clusterId : UInt16
  srcAddrMode : UInt8
  srcAddr : UInt64
  srcEndpoint : UInt8
  srcPanId : UInt16
  dstEndpoint : UInt8
  wasVroadcast : UInt8
  linkQuality : UInt8
  securityUse : UInt8
  timeStamp : UInt32
  transSeqNum : UInt8

namespace IncomingMsgExtFixed

def encode (h : IncomingMsgExtFixed) : List UInt8 :=
  leBytes 2 h.groupId.toNat ++ leBytes 2 h.clusterId.toNat ++ [h.srcAddrMode] ++
    leBytes 8 h.srcAddr.toNat ++ [h.srcEndpoint] ++ leBytes 2 h.srcPanId.toNat ++
    [h.dstEndpoint, h.wasVroadcast, h.linkQuality, h.securityUse] ++
    leBytes 4 h.timeStamp.toNat ++ [h.transSeqNum]

/-- The payload with a length of two bytes, which makes the fixed part the 27 bytes of the
length check. -/
def payload (h : IncomingMsgExtFixed) (data : List UInt8) : List UInt8 :=
  h.encode ++ leBytes 2 data.length ++ data

theorem length_payload (h : IncomingMsgExtFixed) (data : List UInt8) :
    (h.payload data).length = 27 + data.length := by
  simp [payload, encode]
  omega

end IncomingMsgExtFixed

/-- The callback is given the length and the data bytes. -/
def ExtDecoded (f : MtFrame) (data : List UInt8) : Prop :=
  ∀ registered rpcBuff, registered (.af .incomingMsgExt) = true → Delivered f rpcBuff →
    ∃ rsp, mtProcess registered rpcBuff (rpcLen f) = some (.af (.incomingMsgExt rsp)) ∧
      rsp.len.toNat = data.length ∧ ∀ k (hk : k < data.length), rsp.data.cell k = some data[k]

/-- The data bytes move up by one behind a zero byte. -/
theorem take_zero_cons_eq_iff (data : List UInt8) :
    (0 :: data).take data.length = data ↔ ∀ b ∈ data, b = 0 := by
  induction data with
  | nil => simp
  | cons b bs ih =>
    rw [List.length_cons, List.take_succ_cons, List.cons.injEq, List.forall_mem_cons]
    constructor
    · rintro ⟨rfl, hrest⟩
      exact ⟨rfl, ih.mp hrest⟩
    · rintro ⟨rfl, hrest⟩
      exact ⟨rfl, ih.mpr hrest⟩

section Ext

variable {f : MtFrame} {h : IncomingMsgExtFixed} {data : List UInt8}

/-- The decoder takes the high byte of the length for the first data byte. -/
theorem parse_processIncomingMsgExt (h : IncomingMsgExtFixed) (hlen : data.length < 256) :
    ∃ rsp, processIncomingMsgExt.parse (h.payload data) =
        some (rsp, (0 :: data).drop data.length) ∧
      rsp.len = UInt8.ofNat data.length ∧ rsp.data = .ofList ((0 :: data).take data.length) := by
  obtain ⟨srcAddr, -, haddr⟩ := Undoes.of_takes (takes_srcAddr h.srcAddrMode)
    (length_leBytes 8 h.srcAddr.toNat)
  let xs := (0 :: data).take data.length
  have hxs : xs.length = data.length := by
    simp [xs]
  have hread : Undoes processIncomingMsgExt (h.encode ++ counted ([·]) xs)
      ⟨h.groupId, h.clusterId, h.srcAddrMode, srcAddr, h.srcEndpoint, h.srcPanId, h.dstEndpoint,
        h.wasVroadcast, h.linkQuality, h.securityUse, h.timeStamp, h.transSeqNum,
        UInt8.ofNat xs.length, .ofList xs⟩ := by
    simp only [processIncomingMsgExt, IncomingMsgExtFixed.encode, List.append_assoc,
      List.cons_append, List.nil_append, undoes_word_bind, Undoes.byte_bind_iff, haddr.bind_iff,
      undoes_dword_bind]
    exact undoes_counted .byte (hxs ▸ hlen)
  have hhigh : UInt8.ofNat (data.length / 256) = 0 := by
    rw [Nat.div_eq_of_lt hlen]
    rfl
  have hsplit : leBytes 2 data.length ++ data =
      counted ([·]) xs ++ (0 :: data).drop data.length := by
    simp [leBytes, hhigh, counted, hxs, xs]
  have hparse := hread ((0 :: data).drop data.length)
  rw [IncomingMsgExtFixed.payload, List.append_assoc, hsplit, ← List.append_assoc]
  exact ⟨_, hparse, by rw [hxs], rfl⟩

/-- What the callback is given for the message. -/
theorem mtProcess_incomingMsgExt (hlen : data.length < 256)
    (h0 : f.cmd0 = mtRpcCmdAreq ||| mtRpcSysAf) (h1 : f.cmd1 = mtAfIncomingMsgExt)
    (hf : f.payload = h.payload data) :
    ∃ rsp, rsp.len = UInt8.ofNat data.length ∧
      rsp.data = .ofList ((0 :: data).take data.length) ∧
      ∀ registered rpcBuff, registered (.af .incomingMsgExt) = true → Delivered f rpcBuff →
        mtProcess registered rpcBuff (rpcLen f) = some (.af (.incomingMsgExt rsp)) := by
  obtain ⟨rsp, hparse, hrlen, hrdata⟩ := parse_processIncomingMsgExt h hlen
  rw [← hf] at hparse
  have hcb : handler f.cmd0 f.cmd1 (rpcLen f) = some (.af .incomingMsgExt,
      .af <$> (.incomingMsgExt <$> processIncomingMsgExt)) := by
    rw [h0, h1]
    rfl
  refine ⟨rsp, hrlen, hrdata, ?_⟩
  intro registered rpcBuff hreg hm
  exact mtProcess_of_parse hcb (parse_map (parse_map hparse _) _) hreg hm

/-- The first data byte found is zero, and each one is found in the place of the next. -/
theorem ExtDecoded.eq_zero (hd : ExtDecoded f data) (hlen : data.length < 256)
    (h0 : f.cmd0 = mtRpcCmdAreq ||| mtRpcSysAf) (h1 : f.cmd1 = mtAfIncomingMsgExt)
    (hf : f.payload = h.payload data) : ∀ b ∈ data, b = 0 := by
  obtain ⟨rsp, -, hrdata, hrun⟩ := mtProcess_incomingMsgExt hlen h0 h1 hf
  obtain ⟨rsp', hrun', -, hcells⟩ := hd (fun _ => true) _ rfl (Delivered.ofList f fun _ => 0)
  rw [hrun _ _ rfl (Delivered.ofList f fun _ => 0)] at hrun'
  obtain rfl : rsp = rsp' := by simpa using hrun'
  apply (take_zero_cons_eq_iff data).mp
  apply List.ext_getElem
  · simp
  · intro k _ hk
    have hcell := hcells k hk
    rw [hrdata] at hcell
    exact (List.getElem?_eq_some_iff.mp hcell).2

/-- **Extended messages are decoded to their data** exactly when all data bytes are zero: the
decoder skips one byte of the length only, and every data byte comes one place too late. -/
theorem extDecoded_iff (h : IncomingMsgExtFixed) (data : List UInt8) (hlen : data.length ≤ 99)
    (f : MtFrame) (h0 : f.cmd0 = mtRpcCmdAreq ||| mtRpcSysAf) (h1 : f.cmd1 = mtAfIncomingMsgExt)
    (hf : f.payload = h.payload data) : ExtDecoded f data ↔ ∀ b ∈ data, b = 0 := by
  have hlt : data.length < 256 := by omega
  constructor
  · intro hd
    exact hd.eq_zero hlt h0 h1 hf
  · intro hzero registered rpcBuff hreg hm
    obtain ⟨rsp, hrlen, hrdata, hrun⟩ := mtProcess_incomingMsgExt hlt h0 h1 hf
    refine ⟨rsp, hrun registered rpcBuff hreg hm, ?_, ?_⟩
    · rw [hrlen]
      exact toNat_ofNat_length hlt
    · intro k hk
      rw [hrdata, (take_zero_cons_eq_iff data).mpr hzero]
      exact List.getElem?_eq_getElem hk

end Ext

/-- A message from endpoint 1 to endpoint 2, addressed by a short address. -/
def extFixed : IncomingMsgExtFixed := ⟨0, 6, 2, 0x1A62, 1, 0, 2, 0, 120, 0, 0, 5⟩

/-- Its frame with these data bytes. -/
def extFrame (data : List UInt8) (hlen : data.length ≤ 99) : MtFrame where
  cmd0 := mtRpcCmdAreq ||| mtRpcSysAf
  cmd1 := mtAfIncomingMsgExt
  payload := extFixed.payload data
  payload_le := by
    rw [extFixed.length_payload]
    omega

/-- Of two zero bytes nothing is lost. -/
theorem extDecoded_zeroData : ExtDecoded (extFrame [0, 0] (by decide)) [0, 0] := by
  have hiff := extDecoded_iff extFixed [0, 0] (by decide) (extFrame [0, 0] (by decide)) rfl rfl rfl
  exact hiff.mpr (by simp)

/-- A single byte is replaced by the high byte of the length. -/
theorem not_extDecoded_oneByte : ¬ ExtDecoded (extFrame [0x11] (by decide)) [0x11] := by
  intro hd
  have hzero := hd.eq_zero (h := extFixed) (by decide) rfl rfl rfl
  exact absurd (hzero 0x11 (by decide)) (by decide)

end ZnpHost.Mt
