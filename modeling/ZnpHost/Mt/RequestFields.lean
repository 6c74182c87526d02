import ZnpHost.Mt.LargeRequests

/-!
# The fields of every request

What a builder stores is the encoding of the fields of its request, whichever builder it is.
The two command bytes tell the layout: all builders with the same command bytes have the
same one, and a reader of the layout finds the fields again.

## Main definitions

* `Request.items` — the fields of a request, as far as they are sent.
* `requestReader` — the layout that belongs to two command bytes.
* `PlainRequest`, `AnyRequest` — the requests without payload, and all of them.
* `AnyRequest.encoded` — the stores encode the fields, and the layout is theirs.
-/

namespace ZnpHost.Mt

open Lib Reader Rpc

/-! ## Fields -/

/-- A whole array. -/
def allBytes {size : ℕ} (a : Vector UInt8 size) : Item := .u8s a.toList

def AddrOfInterestReqFormat.items (req : AddrOfInterestReqFormat) : List Item :=
  [.u16 req.dstAddr, .u16 req.nwkAddrOfInterest]

def StartIndexReqFormat.items (req : StartIndexReqFormat) : List Item :=
  [.u16 req.dstAddr, .u8 req.startIndex]

def IeeeaddrReqFormat.items (req : IeeeaddrReqFormat) : List Item := [allBytes req.ieeeaddr]

def MsgCbReqFormat.items (req : MsgCbReqFormat) : List Item := [.u16 req.clusterID]

/-- The destination has two forms. -/
def BindReqFormat.items (req : BindReqFormat) : List Item :=
  [.u16 req.dstAddr, allBytes req.srcAddress, .u8 req.srcEndpoint, .u16 req.clusterID,
    .u8 req.dstAddrMode] ++
  if req.dstAddrMode = 3 then [allBytes req.dstAddress, .u8 req.dstEndpoint]
  else [.u8s (req.dstAddress.toList.take 2)]

/-- The length is a word here. -/
def DataRequestExtFormat.items (req : DataRequestExtFormat) : List Item :=
  [.u8 req.dstAddrMode, allBytes req.dstAddr, .u8 req.dstEndpoint, .u16 req.dstPanID,
    .u8 req.srcEndpoint, .u16 req.clusterId, .u8 req.transId, .u8 req.options, .u8 req.radius,
    .u16 req.len, .u8s (req.data.toList.take req.len.toNat)]

def ZdoRequest.items : ZdoRequest → List Item
  | nwkAddrReq req => [allBytes req.ieeeAddress, .u8 req.reqType, .u8 req.startIndex]
  | ieeeAddrReq req => [.u16 req.shortAddr, .u8 req.reqType, .u8 req.startIndex]
  | nodeDescReq req | powerDescReq req | activeEpReq req | complexDescReq req
  | userDescReq req => req.items
  | simpleDescReq req => [.u16 req.dstAddr, .u16 req.nwkAddrOfInterest, .u8 req.endpoint]
  | matchDescReq req => req.items
  | deviceAnnce req => [.u16 req.nwkAddr, allBytes req.ieeeAddr, .u8 req.capabilities]
  | userDescSet req => req.items
  | serverDiscReq req => [.u16 req.serverMask]
  | endDeviceBindReq req => req.items
  | bindReq req | unbindReq req => req.items
  | mgmtNwkDiscReq req =>
    [.u16 req.dstAddr, allBytes req.scanChannels, .u8 req.scanDuration, .u8 req.startIndex]
  | mgmtLqiReq req | mgmtRtgReq req | mgmtBindReq req => req.items
  | mgmtLeaveReq req =>
    [.u16 req.dstAddr, allBytes req.deviceAddr, .u8 req.removeChildreRejoin]
  | mgmtDirectJoinReq req => [.u16 req.dstAddr, allBytes req.deviceAddr, .u8 req.capInfo]
  | mgmtPermitJoinReq req =>
    [.u8 req.addrMode, .u16 req.dstAddr, .u8 req.duration, .u8 req.tcSignificance]
  | mgmtNwkUpdateReq req =>
    [.u16 req.dstAddr, .u8 req.dstAddrMode, allBytes req.channelMask, .u8 req.scanDuration,
      .u8 req.scanCount, .u16 req.nwkManagerAddr]
  | startupFromApp req => [.u16 req.startDelay]
  | autoFindDestination req => [.u8 req.endpoint]
  | setLinkKey req => [.u16 req.shortAddr, allBytes req.ieeeaddr, allBytes req.linkKeyData]
  | removeLinkKey req | getLinkKey req => req.items
  | nwkDiscoveryReq req => [allBytes req.scanChannels, .u8 req.scanDuration]
  | joinReq req =>
    [.u8 req.logicalChannel, .u16 req.panID, allBytes req.extendedPanID, .u16 req.chosenParent,
      .u8 req.parentDepth, .u8 req.stackProfile]
  | msgCbRegister req | msgCbRemove req => req.items
  | init => [.u16 0]

def SysRequest.items : SysRequest → List Item
  | setExtAddr req => [allBytes req.extAddr]
  | ramRead req => [.u16 req.address, .u8 req.len]
  | ramWrite req => [.u16 req.address, .u8 req.len, firstBytes req.value req.len]
  | resetReq req => [.u8 req.type]
  | osalNvRead req => [.u16 req.id, .u8 req.offset]
  | osalNvWrite req => req.items
  | osalNvItemInit req => req.items
  | osalNvDelete req => [.u16 req.id, .u16 req.itemLen]
  | osalNvLength req => [.u16 req.id]
  | osalStartTimer req => [.u8 req.id, .u16 req.timeout]
  | osalStopTimer req => [.u8 req.id]
  | stackTune req => [.u8 req.operation, .u8 req.value]
  | adcRead req => [.u8 req.channel, .u8 req.resolution]
  | gpio req => [.u8 req.operation, .u8 req.value]
  | setTime req =>
    [allBytes req.utcTime, .u8 req.hour, .u8 req.minute, .u8 req.second, .u8 req.month,
      .u8 req.day, .u16 req.year]
  | setTxPower req => [.u8 req.txPower]

def AfRequest.items : AfRequest → List Item
  | register req => req.items
  | dataRequest req => req.items
  | dataRequestExt req => req.items
  | dataRequestSrcRtg req => req.items
  | interPanCtl req => [.u8 req.command, firstBytes req.data req.command]
  | dataStore req => req.items
  | dataRetrieve req => [allBytes req.timeStamp, .u16 req.index, .u8 req.length]
  | apsfConfigSet req => [.u8 req.endpoint, .u8 req.frameDelay, .u8 req.windowSize]

def SapiRequest.items : SapiRequest → List Item
  | appRegisterReq req => req.items
  | permitJoiningReq req => [.u16 req.destination, .u8 req.timeout]
  | bindDevice req => [.u8 req.create, .u16 req.commandId, allBytes req.dstIeee]
  | allowBind req => [.u8 req.timeout]
  | sendDataReq req => req.items
  | findDeviceReq req => [allBytes req.searchKey]
  | writeConfiguration req => [.u8 req.configId, .u8 req.len, firstBytes req.value req.len]
  | getDeviceInfo req => [.u8 req.param]
  | readConfiguration req => [.u8 req.configId]

/-- The fields of a request, as far as they are sent, with the first elements of each list. -/
def Request.items : Request → List Item
  | zdo req => req.items
  | sys req => req.items
  | af req => req.items
  | sapi req => req.items

/-! ## Requests without payload -/

def mtSapiSysReset : UInt8 := 0x09
def mtSapiStartReq : UInt8 := 0x00

/-- The functions that call `rpcSendFrame` with a null pointer. -/
inductive PlainRequest
  | sysPing
  | sysGetExtAddr
  | sysVersion
  | sysRandom
  | sysGetTime
  | zbSystemReset
  | zbStartReq

def PlainRequest.cmd0 : PlainRequest → UInt8
  | sysPing | sysGetExtAddr | sysVersion | sysRandom | sysGetTime => mtRpcCmdSreq ||| mtRpcSysSys
  | zbSystemReset => mtRpcCmdAreq ||| mtRpcSysSapi
  | zbStartReq => mtRpcCmdSreq ||| mtRpcSysSapi

def PlainRequest.cmd1 : PlainRequest → UInt8
  | sysPing => mtSysPing
  | sysGetExtAddr => mtSysGetExtAddr
  | sysVersion => mtSysVersion
  | sysRandom => mtSysRandom
  | sysGetTime => mtSysGetTime
  | zbSystemReset => mtSapiSysReset
  | zbStartReq => mtSapiStartReq

/-- A call of any request function. -/
inductive AnyRequest
  | built (req : Request)
  | plain (req : PlainRequest)

namespace AnyRequest

def build : AnyRequest → Cmd
  | built req => req.build
  -- with length 0 the null pointer is not read
  | plain req => ⟨req.cmd0, req.cmd1, 0, []⟩

def items : AnyRequest → List Item
  | built req => req.items
  | plain _ => []

def Miscounted : AnyRequest → Prop
  | built req => req.Miscounted
  | plain _ => False

theorem count {req : AnyRequest} (h : ¬ req.Miscounted) :
    req.build.stores.length = req.build.cmdLen := by
  cases req with
  | built req => exact req.count_iff.mpr h
  | plain req => rfl

end AnyRequest

/-! ## Layouts -/

/-- The address mode tells the form of the destination. -/
def bindReader : Reader (List Item) := do
  let xs ← readParts [.u16, .u8s 8, .u8, .u16]
  let mode ← byte
  let ys ← readParts (if mode = 3 then [.u8s 8, .u8] else [.u8s 2])
  return xs ++ .u8 mode :: ys

def dataRequestExtReader : Reader (List Item) := do
  let xs ← readParts [.u8, .u8s 8, .u8, .u16, .u8, .u16, .u8, .u8, .u8]
  let len ← word
  let data ← times len.toNat byte
  return xs ++ [.u16 len, .u8s data]

/-- The layouts of the ZDO requests. -/
def zdoReaders : List (UInt8 × Reader (List Item)) :=
  [(mtZdoNwkAddrReq, readParts [.u8s 8, .u8, .u8]),
    (mtZdoIeeeAddrReq, readParts [.u16, .u8, .u8]),
    (mtZdoNodeDescReq, readParts [.u16, .u16]),
    (mtZdoPowerDescReq, readParts [.u16, .u16]),
    (mtZdoSimpleDescReq, readParts [.u16, .u16, .u8]),
    (mtZdoActiveEpReq, readParts [.u16, .u16]),
    (mtZdoMatchDescReq, readParts matchDescReqParts),
    (mtZdoComplexDescReq, readParts [.u16, .u16]),
    (mtZdoUserDescReq, readParts [.u16, .u16]),
    (mtZdoDeviceAnnce, readParts [.u16, .u8s 8, .u8]),
    (mtZdoUserDescSet, readParts userDescSetParts),
    (mtZdoServerDiscReq, readParts [.u16]),
    (mtZdoEndDeviceBindReq, readParts endDeviceBindReqParts),
    (mtZdoBindReq, bindReader),
    (mtZdoUnbindReq, bindReader),
    (mtZdoSetLinkKey, readParts [.u16, .u8s 8, .u8s 16]),
    (mtZdoRemoveLinkKey, readParts [.u8s 8]),
    (mtZdoGetLinkKey, readParts [.u8s 8]),
    (mtZdoNwkDiscoveryReq, readParts [.u8s 4, .u8]),
    (mtZdoJoinReq, readParts [.u8, .u16, .u8s 8, .u16, .u8, .u8]),
    (mtZdoMgmtNwkDiscReq, readParts [.u16, .u8s 4, .u8, .u8]),
    (mtZdoMgmtLqiReq, readParts [.u16, .u8]),
    (mtZdoMgmtRtgReq, readParts [.u16, .u8]),
    (mtZdoMgmtBindReq, readParts [.u16, .u8]),
    (mtZdoMgmtLeaveReq, readParts [.u16, .u8s 8, .u8]),
    (mtZdoMgmtDirectJoinReq, readParts [.u16, .u8s 8, .u8]),
    (mtZdoMgmtPermitJoinReq, readParts [.u8, .u16, .u8, .u8]),
    (mtZdoMgmtNwkUpdateReq, readParts [.u16, .u8, .u8s 4, .u8, .u8, .u16]),
    (mtZdoMsgCbRegister, readParts [.u16]),
    (mtZdoMsgCbRemove, readParts [.u16]),
    (mtZdoStartupFromApp, readParts [.u16]),
    (mtZdoAutoFindDestination, readParts [.u8])]

/-- The layouts of the SYS requests that are answered. -/
def sysReaders : List (UInt8 × Reader (List Item)) :=
  [(mtSysPing, readParts []),
    (mtSysGetExtAddr, readParts []),
    (mtSysVersion, readParts []),
    (mtSysRandom, readParts []),
    (mtSysGetTime, readParts []),
    (mtSysSetExtAddr, readParts [.u8s 8]),
    (mtSysRamRead, readParts [.u16, .u8]),
    (mtSysRamWrite, readParts [.u16, .listU8]),
    (mtSysOsalNvRead, readParts [.u16, .u8]),
    (mtSysOsalNvWrite, readParts osalNvWriteParts),
    (mtSysOsalNvItemInit, readParts osalNvItemInitParts),
    (mtSysOsalNvDelete, readParts [.u16, .u16]),
    (mtSysOsalNvLength, readParts [.u16]),
    (mtSysOsalStartTimer, readParts [.u8, .u16]),
    (mtSysOsalStopTimer, readParts [.u8]),
    (mtSysStackTune, readParts [.u8, .u8]),
    (mtSysAdcRead, readParts [.u8, .u8]),
    (mtSysGpio, readParts [.u8, .u8]),
    (mtSysSetTime, readParts [.u8s 4, .u8, .u8, .u8, .u8, .u8, .u16]),
    (mtSysSetTxPower, readParts [.u8])]

/-- The layouts of the AF requests. -/
def afReaders : List (UInt8 × Reader (List Item)) :=
  [(mtAfRegister, readParts registerParts),
    (mtAfDataRequest, readParts dataRequestParts),
    (mtAfDataRequestExt, dataRequestExtReader),
    (mtAfDataRequestSrcRtg,
      readParts [.u16, .u8, .u8, .u16, .u8, .u8, .u8, .listU16, .listU8]),
    (mtAfInterPanCtl, readParts [.listU8]),
    (mtAfDataStore, readParts dataStoreParts),
    (mtAfDataRetrieve, readParts [.u8s 4, .u16, .u8]),
    (mtAfApsfConfigSet, readParts [.u8, .u8, .u8])]

/-- The layouts of the SAPI requests. -/
def sapiReaders : List (UInt8 × Reader (List Item)) :=
  [(mtSapiStartReq, readParts []),
    (mtSapiAppRegisterReq, readParts [.u8, .u16, .u16, .u8, .u8, .listU16, .listU16]),
    (mtSapiPermitJoiningReq, readParts [.u16, .u8]),
    (mtSapiBindDevice, readParts [.u8, .u16, .u8s 8]),
    (mtSapiAllowBind, readParts [.u8]),
    (mtSapiSendDataReq, readParts sendDataReqParts),
    (mtSapiFindDeviceReq, readParts [.u8s 8]),
    (mtSapiWriteConfiguration, readParts [.u8, .listU8]),
    (mtSapiGetDeviceInfo, readParts [.u8]),
    (mtSapiReadConfiguration, readParts [.u8])]

/-- The layout that belongs to two command bytes, if they are those of a request. -/
def requestReader (cmd0 cmd1 : UInt8) : Option (Reader (List Item)) :=
  if cmd0 = mtRpcCmdSreq ||| mtRpcSysZdo then zdoReaders.lookup cmd1
  else if cmd0 = mtRpcCmdSreq ||| mtRpcSysSys then sysReaders.lookup cmd1
  else if cmd0 = mtRpcCmdAreq ||| mtRpcSysSys ∧ cmd1 = mtSysResetReq then some (readParts [.u8])
  else if cmd0 = mtRpcCmdAreq ||| mtRpcSysSapi ∧ cmd1 = mtSapiSysReset then some (readParts [])
  else if cmd0 = mtRpcCmdSreq ||| mtRpcSysAf then afReaders.lookup cmd1
  else if cmd0 = mtRpcCmdSreq ||| mtRpcSysSapi then sapiReaders.lookup cmd1
  else none

/-! ## The fields are what is stored -/

/-- The fields are of these kinds, and each list has the length before it. -/
def Shaped : List Part → List Item → Prop
  | [], [] => True
  | .u8 :: ps, .u8 _ :: items => Shaped ps items
  | .u16 :: ps, .u16 _ :: items => Shaped ps items
  | .u8s n :: ps, .u8s xs :: items => xs.length = n ∧ Shaped ps items
  | .listU8 :: ps, .u8 n :: .u8s xs :: items => xs.length = n.toNat ∧ Shaped ps items
  | .listU16 :: ps, .u8 n :: .u16s xs :: items => xs.length = n.toNat ∧ Shaped ps items
  | _, _ => False

theorem Shaped.shapes {ps : List Part} {items : List Item} (h : Shaped ps items) :
    Shapes ps items := by
  fun_induction Shaped ps items with
  | case1 => exact .nil
  | case2 ps x items ih => exact .u8 x (ih h)
  | case3 ps x items ih => exact .u16 x (ih h)
  | case4 n ps xs items ih => exact .u8s h.1 (ih h.2)
  | case5 ps n xs items ih => exact .listU8 h.1 (ih h.2)
  | case6 ps n xs items ih => exact .listU16 h.1 (ih h.2)
  | case7 => exact h.elim

/-- The stores of a builder encode these fields, and its command bytes tell their layout. -/
structure Encoded (c : Cmd) (items : List Item) : Prop where
  stores : c.stores = encode items
  reads : ∃ d, requestReader c.cmd0 c.cmd1 = some d ∧ Undoes d (encode items) items

theorem Encoded.of_shaped {c : Cmd} {items : List Item} {ps : List Part}
    (hreader : requestReader c.cmd0 c.cmd1 = some (readParts ps)) (hshaped : Shaped ps items)
    (hstores : c.stores = encode items) : Encoded c items where
  stores := hstores
  reads := ⟨_, hreader, undoes_readParts hshaped.shapes⟩

@[simp] theorem bytes_all {size : ℕ} (a : Vector UInt8 size) : bytes a size = a.toList :=
  List.take_of_length_le (by simp)

theorem encode_append (xs ys : List Item) : encode (xs ++ ys) = encode xs ++ encode ys :=
  List.flatMap_append

/-- The stores of both functions encode the fields. -/
theorem encode_bindItems (req : BindReqFormat) : bindStores req = encode req.items := by
  have htake : bytes req.dstAddress 2 = req.dstAddress.toList.take 2 := rfl
  by_cases h : req.dstAddrMode = 3 <;>
    simp [bindStores, BindReqFormat.items, BindReqFormat.addrmd, BindReqFormat.endP, h, htake,
      allBytes, encode, Item.encode, leBytes_two]

theorem undoes_bindReader (req : BindReqFormat) :
    Undoes bindReader (encode req.items) req.items := by
  let xs : List Item :=
    [.u16 req.dstAddr, allBytes req.srcAddress, .u8 req.srcEndpoint, .u16 req.clusterID]
  let ys : List Item :=
    if req.dstAddrMode = 3 then [allBytes req.dstAddress, .u8 req.dstEndpoint]
    else [.u8s (req.dstAddress.toList.take 2)]
  have hitems : req.items = xs ++ .u8 req.dstAddrMode :: ys := by simp [BindReqFormat.items, xs, ys]
  have hxs : Undoes (readParts [.u16, .u8s 8, .u8, .u16]) (encode xs) xs :=
    undoes_readParts (Shaped.shapes (by simp [Shaped, xs, allBytes]))
  have hys : Undoes (readParts (if req.dstAddrMode = 3 then [.u8s 8, .u8] else [.u8s 2]))
      (encode ys) ys := by
    apply undoes_readParts
    by_cases h : req.dstAddrMode = 3
    · have hlong : Shaped [.u8s 8, .u8] [allBytes req.dstAddress, .u8 req.dstEndpoint] := by
        simp [Shaped, allBytes]
      simpa [h, ys] using hlong.shapes
    · have hshort : Shaped [.u8s 2] [.u8s (req.dstAddress.toList.take 2)] := by simp [Shaped]
      simpa [h, ys] using hshort.shapes
  rw [hitems, encode_append]
  exact hxs.bind ((Undoes.byte _).bind hys.map)

theorem undoes_dataRequestExtReader (req : DataRequestExtFormat) :
    Undoes dataRequestExtReader (encode req.items) req.items := by
  let xs : List Item :=
    [.u8 req.dstAddrMode, allBytes req.dstAddr, .u8 req.dstEndpoint, .u16 req.dstPanID,
      .u8 req.srcEndpoint, .u16 req.clusterId, .u8 req.transId, .u8 req.options, .u8 req.radius]
  let data := req.data.toList.take req.len.toNat
  have hitems : req.items = xs ++ [.u16 req.len, .u8s data] := rfl
  have hxs : Undoes (readParts [.u8, .u8s 8, .u8, .u16, .u8, .u16, .u8, .u8, .u8])
      (encode xs) xs :=
    undoes_readParts (Shaped.shapes (by simp [Shaped, xs, allBytes]))
  have hlen : data.length = req.len.toNat := by
    have hle := req.len_le
    simp [data]
    omega
  have hdata : Undoes (times req.len.toNat byte) data data := hlen ▸ Undoes.bytes data
  have hencode : encode [.u16 req.len, .u8s data] = leBytes 2 req.len.toNat ++ data := by
    simp [encode, Item.encode]
  rw [hitems, encode_append, hencode]
  exact hxs.bind ((undoes_word _).bind hdata.map)

theorem ZdoRequest.encoded (req : ZdoRequest) : Encoded req.build req.items := by
  cases req with
  | bindReq req => exact ⟨encode_bindItems req, bindReader, rfl, undoes_bindReader req⟩
  | unbindReq req => exact ⟨encode_bindItems req, bindReader, rfl, undoes_bindReader req⟩
  | matchDescReq req =>
    refine .of_shaped rfl ?_ ?_
    · simp [items, MatchDescReqFormat.items, matchDescReqParts, Shaped, firstWords,
        req.numInClusters_le, req.numOutClusters_le]
    · simp [build, zdoMatchDescReq, items, MatchDescReqFormat.items, firstWords, encode,
        Item.encode, leBytes_two, words]
  | endDeviceBindReq req =>
    refine .of_shaped rfl ?_ ?_
    · simp [items, EndDeviceBindReqFormat.items, endDeviceBindReqParts, Shaped, firstWords,
        req.numInClusters_le, req.numOutClusters_le]
    · simp [build, zdoEndDeviceBindReq, items, EndDeviceBindReqFormat.items, firstWords, encode,
        Item.encode, leBytes_two, words]
  | userDescSet req =>
    refine .of_shaped rfl ?_ ?_
    · simp [items, UserDescSetFormat.items, userDescSetParts, Shaped, firstBytes, req.len_le]
    · simp [build, zdoUserDescSet, items, UserDescSetFormat.items, firstBytes, encode,
        Item.encode, leBytes_two, bytes]
  | init => exact .of_shaped rfl trivial rfl
  | _ =>
    refine .of_shaped rfl ?_ ?_
    · simp [items, AddrOfInterestReqFormat.items, StartIndexReqFormat.items,
        IeeeaddrReqFormat.items, MsgCbReqFormat.items, Shaped, allBytes]
    · simp [build, addrOfInterestReq, startIndexReq, ieeeaddrReq, msgCbReq,
        zdoNwkAddrReq, zdoIeeeAddrReq, zdoNodeDescReq, zdoPowerDescReq, zdoSimpleDescReq,
        zdoActiveEpReq, zdoComplexDescReq, zdoUserDescReq, zdoDeviceAnnce, zdoServerDiscReq,
        zdoMgmtNwkDiscReq, zdoMgmtLqiReq, zdoMgmtRtgReq, zdoMgmtBindReq, zdoMgmtLeaveReq,
        zdoMgmtDirectJoinReq, zdoMgmtPermitJoinReq, zdoMgmtNwkUpdateReq, zdoStartupFromApp,
        zdoAutoFindDestination, zdoSetLinkKey, zdoRemoveLinkKey, zdoGetLinkKey,
        zdoNwkDiscoveryReq, zdoJoinReq, zdoMsgCbRegister, zdoMsgCbRemove, items,
        AddrOfInterestReqFormat.items, StartIndexReqFormat.items, IeeeaddrReqFormat.items,
        MsgCbReqFormat.items, allBytes, encode, Item.encode, leBytes_two]

theorem SysRequest.encoded (req : SysRequest) : Encoded req.build req.items := by
  cases req with
  | ramWrite req =>
    refine .of_shaped rfl ?_ ?_
    · simp [items, Shaped, firstBytes, req.len_le]
    · simp [build, sysRamWrite, items, firstBytes, encode, Item.encode, leBytes_two, bytes]
  | osalNvWrite req =>
    refine .of_shaped rfl ?_ ?_
    · simp [items, OsalNvWriteFormat.items, osalNvWriteParts, Shaped, firstBytes, req.len_le]
    · simp [build, sysOsalNvWrite, items, OsalNvWriteFormat.items, firstBytes, encode,
        Item.encode, leBytes_two, bytes]
  | osalNvItemInit req =>
    refine .of_shaped rfl ?_ ?_
    · simp [items, OsalNvItemInitFormat.items, osalNvItemInitParts, Shaped, firstBytes,
        req.initLen_le]
    · simp [build, sysOsalNvItemInit, items, OsalNvItemInitFormat.items, firstBytes, encode,
        Item.encode, leBytes_two, bytes]
  | _ =>
    refine .of_shaped rfl ?_ ?_
    · simp [items, Shaped, allBytes]
    · simp [build, sysSetExtAddr, sysRamRead, sysResetReq, sysOsalNvRead, sysOsalNvDelete,
        sysOsalNvLength, sysOsalStartTimer, sysOsalStopTimer, sysStackTune, sysAdcRead, sysGpio,
        sysSetTime, sysSetTxPower, items, allBytes, encode, Item.encode, leBytes_two]

theorem AfRequest.encoded (req : AfRequest) : Encoded req.build req.items := by
  cases req with
  | register req =>
    refine .of_shaped rfl ?_ ?_
    · simp [items, RegisterFormat.items, registerParts, Shaped, firstWords,
        req.appNumInClusters_le, req.appNumOutClusters_le]
    · simp [build, afRegister, items, RegisterFormat.items, firstWords, encode, Item.encode,
        leBytes_two, words]
  | dataRequest req =>
    refine .of_shaped rfl ?_ ?_
    · simp [items, DataRequestFormat.items, dataRequestParts, Shaped, firstBytes, req.len_le]
    · simp [build, afDataRequest, items, DataRequestFormat.items, firstBytes, encode,
        Item.encode, leBytes_two, bytes]
  | dataRequestExt req =>
    refine ⟨?_, dataRequestExtReader, rfl, undoes_dataRequestExtReader req⟩
    -- the data is in its array, so this is the builder for data of any length
    rw [build, ← afDataRequestExtAny_any req fun _ => 0, stores_afDataRequestExtAny,
      take_data _ _ req.len_le]
    simp [DataRequestExtFormat.any, DataRequestExtAny.header, items, DataRequestExtFormat.items,
      allBytes, encode, Item.encode]
  | dataRequestSrcRtg req =>
    refine .of_shaped rfl ?_ (stores_afDataRequestSrcRtg req)
    have hrelay := req.relayCount.toNat_lt
    simp [items, DataRequestSrcRtgFormat.items, Shaped, firstWords, firstBytes, req.len_le]
    omega
  | interPanCtl req =>
    refine .of_shaped rfl ?_ ?_
    · simp [items, Shaped, firstBytes, req.command_le]
    · simp [build, afInterPanCtl, items, firstBytes, encode, Item.encode, bytes]
  | dataStore req =>
    refine .of_shaped rfl ?_ ?_
    · simp [items, DataStoreFormat.items, dataStoreParts, Shaped, firstBytes, req.length_le]
    · simp [build, afDataStore, items, DataStoreFormat.items, firstBytes, encode, Item.encode,
        leBytes_two, bytes]
  | _ =>
    refine .of_shaped rfl ?_ ?_
    · simp [items, Shaped, allBytes]
    · simp [build, afDataRetrieve, afApsfConfigSet, items, allBytes, encode, Item.encode,
        leBytes_two]

theorem SapiRequest.encoded (req : SapiRequest) : Encoded req.build req.items := by
  cases req with
  | appRegisterReq req =>
    refine .of_shaped rfl ?_ (stores_zbAppRegisterReq req)
    have hin := req.inputCommandsNum.toNat_lt
    have hout := req.outputCommandsNum.toNat_lt
    simp [items, AppRegisterReqFormat.items, Shaped, firstWords]
    omega
  | sendDataReq req =>
    refine .of_shaped rfl ?_ ?_
    · simp [items, SendDataReqFormat.items, sendDataReqParts, Shaped, firstBytes, req.len_le]
    · simp [build, zbSendDataReq, items, SendDataReqFormat.items, firstBytes, encode,
        Item.encode, leBytes_two, bytes]
  | writeConfiguration req =>
    refine .of_shaped rfl ?_ ?_
    · simp [items, Shaped, firstBytes, req.len_le]
    · simp [build, zbWriteConfiguration, items, firstBytes, encode, Item.encode, bytes]
  | _ =>
    refine .of_shaped rfl ?_ ?_
    · simp [items, Shaped, allBytes]
    · simp [build, zbPermitJoiningReq, zbBindDevice, zbAllowBind, zbFindDeviceReq,
        zbGetDeviceInfo, zbReadConfiguration, items, allBytes, encode, Item.encode, leBytes_two]

theorem PlainRequest.encoded (req : PlainRequest) : Encoded ⟨req.cmd0, req.cmd1, 0, []⟩ [] := by
  have hshaped : Shaped [] [] := trivial
  cases req <;> exact .of_shaped rfl hshaped rfl

/-- **What a request function sends is the encoding of its fields**, and the command bytes tell
how to read it. -/
theorem AnyRequest.encoded (req : AnyRequest) : Encoded req.build req.items := by
  cases req with
  | plain req => exact req.encoded
  | built req =>
    cases req with
    | zdo req => exact req.encoded
    | sys req => exact req.encoded
    | af req => exact req.encoded
    | sapi req => exact req.encoded

end ZnpHost.Mt
