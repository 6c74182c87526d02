import ZnpHost.Mt.Lists
import ZnpHost.Mt.Tables

/-!
# Messages without a list

Two thirds of the messages from the device are records of fields: bytes, words and addresses
in the order of the response structure.  Their decoders give the callback what the device
encoded.  Two of them leave the index in front of a field that they read.

## Main definitions

* `FixedMessage` — the fields of such a message.
* `FixedMessage.payload`, `FixedMessage.indication` — what the device sends for it and what
  the callback is given.
* `Finds` — what a decoder makes of a payload.
* `FixedMessage.finds` — the decoder of a message finds its fields.
-/

namespace ZnpHost.Mt

open Lib Reader Rpc

/-! ## Encodings -/

/-- A block of `n` bytes. -/
abbrev Block (n : ℕ) := { bs : List UInt8 // bs.length = n }

def NodeDescRspFormat.encode (r : NodeDescRspFormat) : List UInt8 :=
  leBytes 2 r.srcAddr.toNat ++ [r.status] ++ leBytes 2 r.nwkAddr.toNat ++
    [r.loTyComDescAvUsrDesAv, r.apsFlgFrqBnd, r.macCapFlg] ++
    leBytes 2 r.manufacturerCode.toNat ++ [r.maxBufferSize] ++
    leBytes 2 r.maxTransferSize.toNat ++ leBytes 2 r.serverMask.toNat ++
    leBytes 2 r.maxOutTransferSize.toNat ++ [r.descriptorCapabilities]

def PowerDescRspFormat.encode (r : PowerDescRspFormat) : List UInt8 :=
  leBytes 2 r.srcAddr.toNat ++ [r.status] ++ leBytes 2 r.nwkAddr.toNat ++
    [r.currntPwrModeAvalPwrSrcs, r.currntPwrSrcCurrntPwrSrcLvl]

def UserDescConfFormat.encode (r : UserDescConfFormat) : List UInt8 :=
  leBytes 2 r.srcAddr.toNat ++ [r.status] ++ leBytes 2 r.nwkAddr.toNat

def ServerDiscRspFormat.encode (r : ServerDiscRspFormat) : List UInt8 :=
  leBytes 2 r.srcAddr.toNat ++ [r.status] ++ leBytes 2 r.serverMask.toNat

def StatusRspFormat.encode (r : StatusRspFormat) : List UInt8 :=
  leBytes 2 r.srcAddr.toNat ++ [r.status]

def EndDeviceAnnceIndFormat.encode (r : EndDeviceAnnceIndFormat) : List UInt8 :=
  leBytes 2 r.srcAddr.toNat ++ leBytes 2 r.nwkAddr.toNat ++ leBytes 8 r.ieeeAddr.toNat ++
    [r.capabilities]

def JoinCnfFormat.encode (r : JoinCnfFormat) : List UInt8 :=
  [r.status] ++ leBytes 2 r.devAddr.toNat ++ leBytes 2 r.parentAddr.toNat

def LeaveIndFormat.encode (r : LeaveIndFormat) : List UInt8 :=
  leBytes 2 r.srcAddr.toNat ++ leBytes 8 r.extAddr.toNat ++ [r.request, r.remove, r.rejoin]

/-- The member `notUsed` is not sent. -/
def MsgCbIncomingFormat.encode (r : MsgCbIncomingFormat) : List UInt8 :=
  leBytes 2 r.srcAddr.toNat ++ [r.wasBroadcast] ++ leBytes 2 r.clusterID.toNat ++
    [r.securityUse, r.seqNum] ++ leBytes 2 r.macDstAddr.toNat ++ [r.status] ++
    leBytes 8 r.extAddr.toNat ++ leBytes 2 r.nwkAddr.toNat

def GetTimeSrspFormat.encode (r : GetTimeSrspFormat) : List UInt8 :=
  leBytes 4 r.utcTime.toNat ++ [r.hour, r.minute, r.second, r.month, r.day] ++
    leBytes 2 r.year.toNat

def ReflectErrorFormat.encode (r : ReflectErrorFormat) : List UInt8 :=
  [r.status, r.endpoint, r.transId, r.dstAddrMode] ++ leBytes 2 r.dstAddr.toNat

/-- A message without a list. -/
inductive FixedMessage
  | getLinkKey (status : UInt8) (ieeeAddr : UInt64) (linkKeyData : Block 16)
  | stateChangeInd (state : UInt8)
  | nodeDescRsp (rsp : NodeDescRspFormat)
  | powerDescRsp (rsp : PowerDescRspFormat)
  | userDescConf (rsp : UserDescConfFormat)
  | serverDiscRsp (rsp : ServerDiscRspFormat)
  | endDeviceBindRsp (rsp : StatusRspFormat)
  | bindRsp (rsp : StatusRspFormat)
  | unbindRsp (rsp : StatusRspFormat)
  | mgmtLeaveRsp (rsp : StatusRspFormat)
  | mgmtDirectJoinRsp (rsp : StatusRspFormat)
  | mgmtPermitJoinRsp (rsp : StatusRspFormat)
  | statusErrorRsp (rsp : StatusRspFormat)
  | endDeviceAnnceInd (rsp : EndDeviceAnnceIndFormat)
  | joinCnf (rsp : JoinCnfFormat)
  | nwkDiscoveryCnf (status : UInt8)
  | leaveInd (rsp : LeaveIndFormat)
  | msgCbIncoming (rsp : MsgCbIncomingFormat)
  | ping (capabilities : UInt16)
  | getExtAddr (extAddr : UInt64)
  | version (rsp : VersionSrspFormat)
  | osalNvLength (itemLen : UInt16)
  | stackTune (value : UInt8)
  | adcRead (value : UInt16)
  | gpio (value : UInt8)
  | random (value : UInt16)
  | getTime (rsp : GetTimeSrspFormat)
  | setTxPower (txPower : UInt8)
  | resetInd (rsp : ResetIndFormat)
  | osalTimerExpired (id : UInt8)
  | dataConfirm (rsp : DataConfirmFormat)
  | reflectError (rsp : ReflectErrorFormat)
  | getDeviceInfo (param : UInt8) (value : Block 8)
  | findDeviceCnf (searchKey : UInt16) (result : UInt64)
  | sendDataCnf (handle status : UInt8)
  | allowBindCnf (source : UInt16)
  | bindCnf (commandId : UInt16) (status : UInt8)
  | startCnf (status : UInt8)

namespace FixedMessage

/-- Type and subsystem of the message. -/
def cmd0 : FixedMessage → UInt8
  | getLinkKey .. => mtRpcCmdSrsp ||| mtRpcSysZdo
  | ping .. | getExtAddr .. | version .. | osalNvLength .. | stackTune .. | adcRead .. | gpio ..
  | random .. | getTime .. | setTxPower .. => mtRpcCmdSrsp ||| mtRpcSysSys
  | resetInd .. | osalTimerExpired .. => mtRpcCmdAreq ||| mtRpcSysSys
  | dataConfirm .. | reflectError .. => mtRpcCmdAreq ||| mtRpcSysAf
  | getDeviceInfo .. => mtRpcCmdSrsp ||| mtRpcSysSapi
  | findDeviceCnf .. | sendDataCnf .. | allowBindCnf .. | bindCnf .. | startCnf .. =>
    mtRpcCmdAreq ||| mtRpcSysSapi
  | _ => mtRpcCmdAreq ||| mtRpcSysZdo

def cmd1 : FixedMessage → UInt8
  | getLinkKey .. => mtZdoGetLinkKey
  | stateChangeInd .. => mtZdoStateChangeInd
  | nodeDescRsp .. => mtZdoNodeDescRsp
  | powerDescRsp .. => mtZdoPowerDescRsp
  | userDescConf .. => mtZdoUserDescConf
  | serverDiscRsp .. => mtZdoServerDiscRsp
  | endDeviceBindRsp .. => mtZdoEndDeviceBindRsp
  | bindRsp .. => mtZdoBindRsp
  | unbindRsp .. => mtZdoUnbindRsp
  | mgmtLeaveRsp .. => mtZdoMgmtLeaveRsp
  | mgmtDirectJoinRsp .. => mtZdoMgmtDirectJoinRsp
  | mgmtPermitJoinRsp .. => mtZdoMgmtPermitJoinRsp
  | statusErrorRsp .. => mtZdoStatusErrorRsp
  | endDeviceAnnceInd .. => mtZdoEndDeviceAnnceInd
  | joinCnf .. => mtZdoJoinCnf
  | nwkDiscoveryCnf .. => mtZdoNwkDiscoveryCnf
  | leaveInd .. => mtZdoLeaveInd
  | msgCbIncoming .. => mtZdoMsgCbIncoming
  | ping .. => mtSysPing
  | getExtAddr .. => mtSysGetExtAddr
  | version .. => mtSysVersion
  | osalNvLength .. => mtSysOsalNvLength
  | stackTune .. => mtSysStackTune
  | adcRead .. => mtSysAdcRead
  | gpio .. => mtSysGpio
  | random .. => mtSysRandom
  | getTime .. => mtSysGetTime
  | setTxPower .. => mtSysSetTxPower
  | resetInd .. => mtSysResetInd
  | osalTimerExpired .. => mtSysOsalTimerExpired
  | dataConfirm .. => mtAfDataConfirm
  | reflectError .. => mtAfReflectError
  | getDeviceInfo .. => mtSapiGetDeviceInfo
  | findDeviceCnf .. => mtSapiFindDeviceCnf
  | sendDataCnf .. => mtSapiSendDataCnf
  | allowBindCnf .. => mtSapiAllowBindCnf
  | bindCnf .. => mtSapiBindCnf
  | startCnf .. => mtSapiStartCnf

/-- The fields, as the device sends them. -/
def payload : FixedMessage → List UInt8
  | getLinkKey status ieeeAddr linkKeyData =>
    status :: leBytes 8 ieeeAddr.toNat ++ linkKeyData.val
  | stateChangeInd b | nwkDiscoveryCnf b | stackTune b | gpio b | setTxPower b
  | osalTimerExpired b | startCnf b => [b]
  | nodeDescRsp rsp => rsp.encode
  | powerDescRsp rsp => rsp.encode
  | userDescConf rsp => rsp.encode
  | serverDiscRsp rsp => rsp.encode
  | endDeviceBindRsp rsp | bindRsp rsp | unbindRsp rsp | mgmtLeaveRsp rsp
  | mgmtDirectJoinRsp rsp | mgmtPermitJoinRsp rsp | statusErrorRsp rsp => rsp.encode
  | endDeviceAnnceInd rsp => rsp.encode
  | joinCnf rsp => rsp.encode
  | leaveInd rsp => rsp.encode
  | msgCbIncoming rsp => rsp.encode
  | ping w | osalNvLength w | adcRead w | random w | allowBindCnf w => leBytes 2 w.toNat
  | getExtAddr extAddr => leBytes 8 extAddr.toNat
  | version rsp => [rsp.transportRev, rsp.product, rsp.majorRel, rsp.minorRel, rsp.maintRel]
  | getTime rsp => rsp.encode
  | resetInd rsp =>
    [rsp.reason, rsp.transportRev, rsp.productId, rsp.majorRel, rsp.minorRel, rsp.hwRev]
  | dataConfirm rsp => [rsp.status, rsp.endpoint, rsp.transId]
  | reflectError rsp => rsp.encode
  | getDeviceInfo param value => param :: value.val
  | findDeviceCnf searchKey result => leBytes 2 searchKey.toNat ++ leBytes 8 result.toNat
  | sendDataCnf handle status => [handle, status]
  | bindCnf commandId status => leBytes 2 commandId.toNat ++ [status]

/-- The callback for the message. -/
def cb : FixedMessage → Cb
  | getLinkKey .. => .zdo .getLinkKey
  | stateChangeInd .. => .zdo .stateChangeInd
  | nodeDescRsp .. => .zdo .nodeDescRsp
  | powerDescRsp .. => .zdo .powerDescRsp
  | userDescConf .. => .zdo .userDescConf
  | serverDiscRsp .. => .zdo .serverDiscRsp
  | endDeviceBindRsp .. => .zdo .endDeviceBindRsp
  | bindRsp .. => .zdo .bindRsp
  | unbindRsp .. => .zdo .unbindRsp
  | mgmtLeaveRsp .. => .zdo .mgmtLeaveRsp
  | mgmtDirectJoinRsp .. => .zdo .mgmtDirectJoinRsp
  | mgmtPermitJoinRsp .. => .zdo .mgmtPermitJoinRsp
  | statusErrorRsp .. => .zdo .statusErrorRsp
  | endDeviceAnnceInd .. => .zdo .endDeviceAnnceInd
  | joinCnf .. => .zdo .joinCnf
  | nwkDiscoveryCnf .. => .zdo .nwkDiscoveryCnf
  | leaveInd .. => .zdo .leaveInd
  | msgCbIncoming .. => .zdo .msgCbIncoming
  | ping .. => .sys .ping
  | getExtAddr .. => .sys .getExtAddr
  | version .. => .sys .version
  | osalNvLength .. => .sys .osalNvLength
  | stackTune .. => .sys .stackTune
  | adcRead .. => .sys .adcRead
  | gpio .. => .sys .gpio
  | random .. => .sys .random
  | getTime .. => .sys .getTime
  | setTxPower .. => .sys .setTxPower
  | resetInd .. => .sys .resetInd
  | osalTimerExpired .. => .sys .osalTimerExpired
  | dataConfirm .. => .af .dataConfirm
  | reflectError .. => .af .reflectError
  | getDeviceInfo .. => .sapi .getDeviceInfo
  | findDeviceCnf .. => .sapi .findDeviceCnf
  | sendDataCnf .. => .sapi .sendDataCnf
  | allowBindCnf .. => .sapi .allowBindCnf
  | bindCnf .. => .sapi .bindCnf
  | startCnf .. => .sapi .startCnf

/-- The structure with every field of the message. -/
def indication : FixedMessage → Indication
  | getLinkKey status ieeeAddr linkKeyData =>
    .zdo (.getLinkKey ⟨status, ieeeAddr, linkKeyData.val⟩)
  | stateChangeInd state => .zdo (.stateChangeInd state)
  | nodeDescRsp rsp => .zdo (.nodeDescRsp rsp)
  | powerDescRsp rsp => .zdo (.powerDescRsp rsp)
  | userDescConf rsp => .zdo (.userDescConf rsp)
  | serverDiscRsp rsp => .zdo (.serverDiscRsp rsp)
  | endDeviceBindRsp rsp => .zdo (.endDeviceBindRsp rsp)
  | bindRsp rsp => .zdo (.bindRsp rsp)
  | unbindRsp rsp => .zdo (.unbindRsp rsp)
  | mgmtLeaveRsp rsp => .zdo (.mgmtLeaveRsp rsp)
  | mgmtDirectJoinRsp rsp => .zdo (.mgmtDirectJoinRsp rsp)
  | mgmtPermitJoinRsp rsp => .zdo (.mgmtPermitJoinRsp rsp)
  | statusErrorRsp rsp => .zdo (.statusErrorRsp rsp)
  | endDeviceAnnceInd rsp => .zdo (.endDeviceAnnceInd rsp)
  | joinCnf rsp => .zdo (.joinCnf rsp)
  | nwkDiscoveryCnf status => .zdo (.nwkDiscoveryCnf ⟨status⟩)
  | leaveInd rsp => .zdo (.leaveInd rsp)
  -- the byte behind the last address is taken from that address
  | msgCbIncoming rsp =>
    .zdo (.msgCbIncoming { rsp with notUsed := UInt8.ofNat rsp.nwkAddr.toNat })
  | ping capabilities => .sys (.ping ⟨capabilities⟩)
  | getExtAddr extAddr => .sys (.getExtAddr ⟨extAddr⟩)
  | version rsp => .sys (.version rsp)
  | osalNvLength itemLen => .sys (.osalNvLength ⟨itemLen⟩)
  | stackTune value => .sys (.stackTune ⟨value⟩)
  | adcRead value => .sys (.adcRead ⟨value⟩)
  | gpio value => .sys (.gpio ⟨value⟩)
  | random value => .sys (.random ⟨value⟩)
  | getTime rsp => .sys (.getTime rsp)
  | setTxPower txPower => .sys (.setTxPower ⟨txPower⟩)
  | resetInd rsp => .sys (.resetInd rsp)
  | osalTimerExpired id => .sys (.osalTimerExpired ⟨id⟩)
  | dataConfirm rsp => .af (.dataConfirm rsp)
  | reflectError rsp => .af (.reflectError rsp)
  | getDeviceInfo param value => .sapi (.getDeviceInfo ⟨param, .ofList value.val⟩)
  | findDeviceCnf searchKey result => .sapi (.findDeviceCnf ⟨searchKey, result⟩)
  | sendDataCnf handle status => .sapi (.sendDataCnf ⟨handle, status⟩)
  | allowBindCnf source => .sapi (.allowBindCnf ⟨source⟩)
  | bindCnf commandId status => .sapi (.bindCnf ⟨commandId, status⟩)
  | startCnf status => .sapi (.startCnf ⟨status⟩)

/-- The decoder that `mtProcess` runs. -/
def decoder : FixedMessage → Reader Indication
  | getLinkKey .. => .zdo <$> (.getLinkKey <$> processGetLinkKey)
  | stateChangeInd .. => .zdo <$> (.stateChangeInd <$> processStateChange)
  | nodeDescRsp .. => .zdo <$> (.nodeDescRsp <$> processNodeDescRsp)
  | powerDescRsp .. => .zdo <$> (.powerDescRsp <$> processPowerDescRsp)
  | userDescConf .. => .zdo <$> (.userDescConf <$> processUserDescConf)
  | serverDiscRsp .. => .zdo <$> (.serverDiscRsp <$> processServerDiscRsp)
  | endDeviceBindRsp .. => .zdo <$> (.endDeviceBindRsp <$> processEndDeviceBindRsp)
  | bindRsp .. => .zdo <$> (.bindRsp <$> processBindRsp)
  | unbindRsp .. => .zdo <$> (.unbindRsp <$> processUnbindRsp)
  | mgmtLeaveRsp .. => .zdo <$> (.mgmtLeaveRsp <$> processMgmtLeaveRsp)
  | mgmtDirectJoinRsp .. => .zdo <$> (.mgmtDirectJoinRsp <$> processMgmtDirectJoinRsp)
  | mgmtPermitJoinRsp .. => .zdo <$> (.mgmtPermitJoinRsp <$> processMgmtPermitJoinRsp)
  | statusErrorRsp .. => .zdo <$> (.statusErrorRsp <$> processStatusErrorRsp)
  | endDeviceAnnceInd .. => .zdo <$> (.endDeviceAnnceInd <$> processEndDeviceAnnceInd)
  | joinCnf .. => .zdo <$> (.joinCnf <$> processJoinCnf)
  | nwkDiscoveryCnf .. => .zdo <$> (.nwkDiscoveryCnf <$> processNwkDiscoveryCnf)
  | leaveInd .. => .zdo <$> (.leaveInd <$> processLeaveInd)
  | msgCbIncoming .. => .zdo <$> (.msgCbIncoming <$> processMsgCbIncoming)
  | ping .. => .sys <$> (.ping <$> processPingSrsp)
  | getExtAddr .. => .sys <$> (.getExtAddr <$> processGetExtAddrSrsp)
  | version .. => .sys <$> (.version <$> processVersionSrsp)
  | osalNvLength .. => .sys <$> (.osalNvLength <$> processOsalNvLengthSrsp)
  | stackTune .. => .sys <$> (.stackTune <$> processStackTuneSrsp)
  | adcRead .. => .sys <$> (.adcRead <$> processAdcReadSrsp)
  | gpio .. => .sys <$> (.gpio <$> processGpioSrsp)
  | random .. => .sys <$> (.random <$> processRandomSrsp)
  | getTime .. => .sys <$> (.getTime <$> processGetTimeSrsp)
  | setTxPower .. => .sys <$> (.setTxPower <$> processSetTxPowerSrsp)
  | resetInd .. => .sys <$> (.resetInd <$> processResetInd)
  | osalTimerExpired .. => .sys <$> (.osalTimerExpired <$> processOsalTimerExpired)
  | dataConfirm .. => .af <$> (.dataConfirm <$> processDataConfirm)
  | reflectError .. => .af <$> (.reflectError <$> processReflectError)
  | getDeviceInfo .. => .sapi <$> (.getDeviceInfo <$> processGetDeviceInfoSrsp)
  | findDeviceCnf .. => .sapi <$> (.findDeviceCnf <$> processFindDeviceCnf)
  | sendDataCnf .. => .sapi <$> (.sendDataCnf <$> processSendDataCnf)
  | allowBindCnf .. => .sapi <$> (.allowBindCnf <$> processAllowBindCnf)
  | bindCnf .. => .sapi <$> (.bindCnf <$> processBindCnf)
  | startCnf .. => .sapi <$> (.startCnf <$> processStartCnf)

theorem handler_eq (m : FixedMessage) (l : UInt8) :
    handler m.cmd0 m.cmd1 l = some (m.cb, m.decoder) := by
  cases m <;> simp only [cmd0, cmd1] <;> rfl

end FixedMessage

/-! ## Decoders -/

/-- The decoder makes this of a payload, and may leave some of its bytes. -/
def Finds {α : Type} (d : Reader α) (bs : List UInt8) (a : α) : Prop :=
  ∃ rest, d.parse bs = some (a, rest)

theorem Finds.fmap {α β : Type} {d : Reader α} {bs : List UInt8} {a : α} (h : Finds d bs a)
    (g : α → β) : Finds (g <$> d) bs (g a) := by
  obtain ⟨rest, hparse⟩ := h
  exact ⟨rest, parse_map hparse g⟩

theorem finds_of_undoes {α : Type} {d : Reader α} {bs : List UInt8} {a : α} (h : Undoes d bs a) :
    Finds d bs a :=
  ⟨[], h.parse_eq⟩

/-- A copied block. -/
theorem undoes_block {n : ℕ} (bs : Block n) : Undoes (block n) bs.val bs.val := by
  obtain ⟨bs, rfl⟩ := bs
  intro rest
  have hle : bs.length + 0 ≤ (bs ++ rest).length := by
    rw [List.length_append]
    omega
  have hcopy : (List.ofFn fun j : Fin (bs.length + 0) => (bs ++ rest)[j]) = bs := by
    apply List.ext_getElem
    · simp
    · intro j hj hj'
      simp
  rw [block, parse, dif_pos hle, parse_done, hcopy, List.drop_left]

/-- A word in front of which the index stays. -/
theorem parse_peekWord (a : UInt16) (rest : List UInt8) :
    peekWord.parse (leBytes 2 a.toNat ++ rest) = some (a, leBytes 2 a.toNat ++ rest) := by
  have hword := undoes_word a rest
  rw [← loHi_eq_leBytes] at hword ⊢
  simp only [word, peekWord, parse, List.cons_append, List.nil_append, List.length_cons] at hword ⊢
  simpa using hword

theorem undoes_statusRsp (r : StatusRspFormat) : Undoes statusRsp r.encode r := by
  simp [statusRsp, StatusRspFormat.encode]

theorem undoes_processNodeDescRsp (r : NodeDescRspFormat) :
    Undoes processNodeDescRsp r.encode r := by
  simp [processNodeDescRsp, NodeDescRspFormat.encode]

theorem undoes_processPowerDescRsp (r : PowerDescRspFormat) :
    Undoes processPowerDescRsp r.encode r := by
  simp [processPowerDescRsp, PowerDescRspFormat.encode]

theorem undoes_processUserDescConf (r : UserDescConfFormat) :
    Undoes processUserDescConf r.encode r := by
  simp [processUserDescConf, UserDescConfFormat.encode]

theorem undoes_processServerDiscRsp (r : ServerDiscRspFormat) :
    Undoes processServerDiscRsp r.encode r := by
  simp [processServerDiscRsp, ServerDiscRspFormat.encode]

theorem undoes_processEndDeviceAnnceInd (r : EndDeviceAnnceIndFormat) :
    Undoes processEndDeviceAnnceInd r.encode r := by
  simp [processEndDeviceAnnceInd, EndDeviceAnnceIndFormat.encode]

theorem undoes_processJoinCnf (r : JoinCnfFormat) : Undoes processJoinCnf r.encode r := by
  simp [processJoinCnf, JoinCnfFormat.encode]

theorem undoes_processLeaveInd (r : LeaveIndFormat) : Undoes processLeaveInd r.encode r := by
  simp [processLeaveInd, LeaveIndFormat.encode]

theorem undoes_processGetTimeSrsp (r : GetTimeSrspFormat) :
    Undoes processGetTimeSrsp r.encode r := by
  simp [processGetTimeSrsp, GetTimeSrspFormat.encode]

theorem undoes_processReflectError (r : ReflectErrorFormat) :
    Undoes processReflectError r.encode r := by
  simp [processReflectError, ReflectErrorFormat.encode]

/-- The last member is the low byte of the last address. -/
theorem finds_processMsgCbIncoming (r : MsgCbIncomingFormat) :
    Finds processMsgCbIncoming r.encode
      { r with notUsed := UInt8.ofNat r.nwkAddr.toNat } := by
  refine ⟨leBytes 2 r.nwkAddr.toNat, ?_⟩
  have hlast : peekWord.parse (leBytes 2 r.nwkAddr.toNat) =
      some (r.nwkAddr, leBytes 2 r.nwkAddr.toNat) := by
    have hpeek := parse_peekWord r.nwkAddr []
    rwa [List.append_nil] at hpeek
  have hlow : peek.parse (leBytes 2 r.nwkAddr.toNat) =
      some (UInt8.ofNat r.nwkAddr.toNat, leBytes 2 r.nwkAddr.toNat) := by
    simp [peek, parse, leBytes]
  simp only [processMsgCbIncoming, MsgCbIncomingFormat.encode, List.append_assoc,
    List.cons_append, List.nil_append, parse_bind, undoes_word _ _, undoes_qword _ _,
    parse_byte_cons, Option.bind_some, hlast, hlow, pure_def, parse_done]

/-- **The decoder of a message finds its fields.** -/
theorem FixedMessage.finds (m : FixedMessage) : Finds m.decoder m.payload m.indication := by
  cases m with
  | getLinkKey status ieeeAddr linkKeyData =>
    have hread : Undoes processGetLinkKey _ ⟨status, ieeeAddr, linkKeyData.val⟩ :=
      (Undoes.byte status).bind ((undoes_qword ieeeAddr).bind (undoes_block linkKeyData).map)
    exact ((finds_of_undoes hread).fmap _).fmap _
  | stateChangeInd state => exact ⟨[state], rfl⟩
  | nodeDescRsp rsp => exact finds_of_undoes (undoes_processNodeDescRsp rsp).fmap.fmap
  | powerDescRsp rsp => exact finds_of_undoes (undoes_processPowerDescRsp rsp).fmap.fmap
  | userDescConf rsp => exact finds_of_undoes (undoes_processUserDescConf rsp).fmap.fmap
  | serverDiscRsp rsp => exact finds_of_undoes (undoes_processServerDiscRsp rsp).fmap.fmap
  | endDeviceBindRsp rsp | bindRsp rsp | unbindRsp rsp | mgmtLeaveRsp rsp
  | mgmtDirectJoinRsp rsp | mgmtPermitJoinRsp rsp | statusErrorRsp rsp =>
    exact finds_of_undoes (undoes_statusRsp rsp).fmap.fmap
  | endDeviceAnnceInd rsp =>
    exact finds_of_undoes (undoes_processEndDeviceAnnceInd rsp).fmap.fmap
  | joinCnf rsp => exact finds_of_undoes (undoes_processJoinCnf rsp).fmap.fmap
  | leaveInd rsp => exact finds_of_undoes (undoes_processLeaveInd rsp).fmap.fmap
  | msgCbIncoming rsp => exact ((finds_processMsgCbIncoming rsp).fmap _).fmap _
  | ping w | osalNvLength w | adcRead w | random w | allowBindCnf w =>
    exact finds_of_undoes (undoes_word w).map.fmap.fmap
  | getExtAddr extAddr => exact finds_of_undoes (undoes_qword extAddr).map.fmap.fmap
  | getTime rsp => exact finds_of_undoes (undoes_processGetTimeSrsp rsp).fmap.fmap
  | reflectError rsp => exact finds_of_undoes (undoes_processReflectError rsp).fmap.fmap
  | getDeviceInfo param value =>
    have hlist : Undoes (list value.val.length byte) _ (.ofList value.val : CArray 8 UInt8) :=
      undoes_list .byte value.val
    rw [value.property, List.flatMap_singleton'] at hlist
    exact finds_of_undoes ((Undoes.byte param).bind hlist.map).fmap.fmap
  | findDeviceCnf searchKey result =>
    exact finds_of_undoes ((undoes_word searchKey).bind (undoes_qword result).map).fmap.fmap
  | bindCnf commandId status =>
    exact finds_of_undoes ((undoes_word commandId).bind (Undoes.byte status).map).fmap.fmap
  | nwkDiscoveryCnf | version | stackTune | gpio | setTxPower | resetInd | osalTimerExpired
  | dataConfirm | sendDataCnf | startCnf => exact ⟨[], rfl⟩

end ZnpHost.Mt
