import ZnpHost.Mt.Words

/-!
# ZDO messages from the device

The response structures of `mtZdo.h` and the decoders of `mtZdo.c`, each as a reader
that starts at index 2 of the buffer.  `rpcLen` counts `cmd0`, `cmd1` and the checksum.
The length checks that only print are left out.

## Main definitions

* `processNwkAddrRsp` … `processMsgCbIncoming` — the decoders.
* `ZdoIndication` — what a callback is given.
* `zdoSrspTable`, `zdoAreqTable` — the callback and the decoder of a command.
-/

namespace ZnpHost.Mt

open Lib Reader

/-! ## Responses -/

structure GetLinkKeySrspFormat where
  status : UInt8
  ieeeAddr : UInt64
  linkKeyData : List UInt8

def processGetLinkKey : Reader GetLinkKeySrspFormat := do
  let status ← byte
  let ieeeAddr ← qword
  let linkKeyData ← block 16
  return { status, ieeeAddr, linkKeyData }

structure NwkAddrRspFormat where
  status : UInt8
  ieeeAddr : UInt64
  nwkAddr : UInt16
  startIndex : UInt8
  numAssocDev : UInt8
  assocDevList : CArray 70 UInt16

def processNwkAddrRsp (rpcLen : UInt8) : Reader NwkAddrRspFormat := do
  let status ← byte
  let ieeeAddr ← qword
  let nwkAddr ← word
  let startIndex ← byte
  let numAssocDev ← byte
  let assocDevList ← listIf (rpcLen > 13) numAssocDev.toNat word
  return { status, ieeeAddr, nwkAddr, startIndex, numAssocDev, assocDevList }

/-- `IeeeAddrRspFormat_t` has the members of `NwkAddrRspFormat_t`. -/
abbrev IeeeAddrRspFormat := NwkAddrRspFormat

def processIeeeAddrRsp (rpcLen : UInt8) : Reader IeeeAddrRspFormat := do
  let status ← byte
  let ieeeAddr ← qword
  let nwkAddr ← word
  let startIndex ← byte
  let numAssocDev ← byte
  let startIndex := if numAssocDev = 0 then 0 else startIndex
  let assocDevList ← listIf (rpcLen > 13) numAssocDev.toNat word
  return { status, ieeeAddr, nwkAddr, startIndex, numAssocDev, assocDevList }

structure NodeDescRspFormat where
  srcAddr : UInt16
  status : UInt8
  nwkAddr : UInt16
  loTyComDescAvUsrDesAv : UInt8
  apsFlgFrqBnd : UInt8
  macCapFlg : UInt8
  manufacturerCode : UInt16
  maxBufferSize : UInt8
  maxTransferSize : UInt16
  serverMask : UInt16
  maxOutTransferSize : UInt16
  descriptorCapabilities : UInt8

def processNodeDescRsp : Reader NodeDescRspFormat := do
  let srcAddr ← word
  let status ← byte
  let nwkAddr ← word
  let loTyComDescAvUsrDesAv ← byte
  let apsFlgFrqBnd ← byte
  let macCapFlg ← byte
  let manufacturerCode ← word
  let maxBufferSize ← byte
  let maxTransferSize ← word
  let serverMask ← word
  let maxOutTransferSize ← word
  let descriptorCapabilities ← byte
  return {
    srcAddr, status, nwkAddr, loTyComDescAvUsrDesAv, apsFlgFrqBnd, macCapFlg,
    manufacturerCode, maxBufferSize, maxTransferSize, serverMask, maxOutTransferSize,
    descriptorCapabilities }

structure PowerDescRspFormat where
  srcAddr : UInt16
  status : UInt8
  nwkAddr : UInt16
  currntPwrModeAvalPwrSrcs : UInt8
  currntPwrSrcCurrntPwrSrcLvl : UInt8

def processPowerDescRsp : Reader PowerDescRspFormat := do
  let srcAddr ← word
  let status ← byte
  let nwkAddr ← word
  let currntPwrModeAvalPwrSrcs ← byte
  let currntPwrSrcCurrntPwrSrcLvl ← byte
  return { srcAddr, status, nwkAddr, currntPwrModeAvalPwrSrcs, currntPwrSrcCurrntPwrSrcLvl }

/-- The members of `SimpleDescRspFormat_t` that are filled together. -/
structure SimpleDescriptor where
  endpoint : UInt8
  profileID : UInt16
  deviceID : UInt16
  deviceVersion : UInt8
  numInClusters : UInt8
  inClusterList : CArray 16 UInt16
  numOutClusters : UInt8
  outClusterList : CArray 16 UInt16

structure SimpleDescRspFormat where
  srcAddr : UInt16
  status : UInt8
  nwkAddr : UInt16
  len : UInt8
  /-- `none` when the remaining members are left as they were. -/
  descriptor : Option SimpleDescriptor

def simpleDescriptor : Reader SimpleDescriptor := do
  let endpoint ← byte
  let profileID ← word
  let deviceID ← word
  let deviceVersion ← byte
  let numInClusters ← byte
  let inClusterList ← list numInClusters.toNat word
  let numOutClusters ← byte
  let outClusterList ← list numOutClusters.toNat word
  return {
    endpoint, profileID, deviceID, deviceVersion, numInClusters, inClusterList,
    numOutClusters, outClusterList }

def processSimpleDescRsp (rpcLen : UInt8) : Reader SimpleDescRspFormat := do
  let srcAddr ← word
  let status ← byte
  let nwkAddr ← word
  let len ← byte
  if rpcLen > 6 then
    let descriptor ← simpleDescriptor
    return { srcAddr, status, nwkAddr, len, descriptor := some descriptor }
  else
    return { srcAddr, status, nwkAddr, len, descriptor := none }

/-- The shape of `ActiveEpRspFormat_t`, `MatchDescRspFormat_t`, `ComplexDescRspFormat_t` and
`UserDescRspFormat_t`: an address and a list of bytes. -/
structure ByteListRspFormat where
  srcAddr : UInt16
  status : UInt8
  nwkAddr : UInt16
  count : UInt8
  list : CArray 77 UInt8

def byteListRsp (rpcLen : UInt8) : Reader ByteListRspFormat := do
  let srcAddr ← word
  let status ← byte
  let nwkAddr ← word
  let count ← byte
  let list ← listIf (rpcLen > 6) count.toNat byte
  return { srcAddr, status, nwkAddr, count, list }

def processActiveEpRsp (rpcLen : UInt8) : Reader ByteListRspFormat := byteListRsp rpcLen
def processMatchDescRsp (rpcLen : UInt8) : Reader ByteListRspFormat := byteListRsp rpcLen
def processComplexDescRsp (rpcLen : UInt8) : Reader ByteListRspFormat := byteListRsp rpcLen
def processUserDescRsp (rpcLen : UInt8) : Reader ByteListRspFormat := byteListRsp rpcLen

structure UserDescConfFormat where
  srcAddr : UInt16
  status : UInt8
  nwkAddr : UInt16

def processUserDescConf : Reader UserDescConfFormat := do
  let srcAddr ← word
  let status ← byte
  let nwkAddr ← word
  return { srcAddr, status, nwkAddr }

structure ServerDiscRspFormat where
  srcAddr : UInt16
  status : UInt8
  serverMask : UInt16

def processServerDiscRsp : Reader ServerDiscRspFormat := do
  let srcAddr ← word
  let status ← byte
  let serverMask ← word
  return { srcAddr, status, serverMask }

/-- The shape of the responses that carry an address and a status only. -/
structure StatusRspFormat where
  srcAddr : UInt16
  status : UInt8

def statusRsp : Reader StatusRspFormat := do
  let srcAddr ← word
  let status ← byte
  return { srcAddr, status }

def processEndDeviceBindRsp : Reader StatusRspFormat := statusRsp
def processBindRsp : Reader StatusRspFormat := statusRsp
def processUnbindRsp : Reader StatusRspFormat := statusRsp
def processMgmtLeaveRsp : Reader StatusRspFormat := statusRsp
def processMgmtDirectJoinRsp : Reader StatusRspFormat := statusRsp
def processMgmtPermitJoinRsp : Reader StatusRspFormat := statusRsp
def processStatusErrorRsp : Reader StatusRspFormat := statusRsp

structure NetworkListItemFormat where
  panID : UInt64
  logicalChannel : UInt8
  stackProfZigVer : UInt8
  beacOrdSupFramOrd : UInt8
  permitJoin : UInt8

def networkListItem : Reader NetworkListItemFormat := do
  let panID ← qword
  let logicalChannel ← byte
  let stackProfZigVer ← byte
  let beacOrdSupFramOrd ← byte
  let permitJoin ← byte
  return { panID, logicalChannel, stackProfZigVer, beacOrdSupFramOrd, permitJoin }

structure MgmtNwkDiscRspFormat where
  srcAddr : UInt16
  status : UInt8
  networkCount : UInt8
  startIndex : UInt8
  networkListCount : UInt8
  networkList : CArray 72 NetworkListItemFormat

def processMgmtNwkDiscRsp (rpcLen : UInt8) : Reader MgmtNwkDiscRspFormat := do
  let srcAddr ← word
  let status ← byte
  let networkCount ← byte
  let startIndex ← byte
  let networkListCount ← byte
  let networkList ← listIf (rpcLen > 6) networkListCount.toNat networkListItem
  return { srcAddr, status, networkCount, startIndex, networkListCount, networkList }

structure NeighborLqiListItemFormat where
  extendedPanID : UInt64
  extendedAddress : UInt64
  networkAddress : UInt16
  devTypRxOnWhenIdleRelat : UInt8
  permitJoining : UInt8
  depth : UInt8
  lqi : UInt8

def neighborLqiListItem : Reader NeighborLqiListItemFormat := do
  let extendedPanID ← qword
  let extendedAddress ← qword
  let networkAddress ← word
  let devTypRxOnWhenIdleRelat ← byte
  let permitJoining ← byte
  let depth ← byte
  let lqi ← byte
  return {
    extendedPanID, extendedAddress, networkAddress, devTypRxOnWhenIdleRelat,
    permitJoining, depth, lqi }

structure MgmtLqiRspFormat where
  srcAddr : UInt16
  status : UInt8
  neighborTableEntries : UInt8
  startIndex : UInt8
  neighborLqiListCount : UInt8
  neighborLqiList : CArray 66 NeighborLqiListItemFormat

def processMgmtLqiRsp (rpcLen : UInt8) : Reader MgmtLqiRspFormat := do
  let srcAddr ← word
  let status ← byte
  let neighborTableEntries ← byte
  let startIndex ← byte
  let neighborLqiListCount ← byte
  let neighborLqiList ← listIf (rpcLen > 6) neighborLqiListCount.toNat neighborLqiListItem
  return {
    srcAddr, status, neighborTableEntries, startIndex, neighborLqiListCount,
    neighborLqiList }

structure RoutingTableListItemFormat where
  dstAddr : UInt16
  status : UInt8
  nextHop : UInt16

def routingTableListItem : Reader RoutingTableListItemFormat := do
  let dstAddr ← word
  let status ← byte
  let nextHop ← word
  return { dstAddr, status, nextHop }

structure MgmtRtgRspFormat where
  srcAddr : UInt16
  status : UInt8
  routingTableEntries : UInt8
  startIndex : UInt8
  routingTableListCount : UInt8
  routingTableList : CArray 75 RoutingTableListItemFormat

def processMgmtRtgRsp (rpcLen : UInt8) : Reader MgmtRtgRspFormat := do
  let srcAddr ← word
  let status ← byte
  let routingTableEntries ← byte
  let startIndex ← byte
  let routingTableListCount ← byte
  let routingTableList ← listIf (rpcLen > 6) routingTableListCount.toNat routingTableListItem
  return {
    srcAddr, status, routingTableEntries, startIndex, routingTableListCount,
    routingTableList }

/-- An entry of the binding table; `none` is a member without a defined value. -/
structure BindingTableListItemFormat where
  srcIEEEAddr : Option UInt64 := none
  srcEndpoint : Option UInt8 := none
  clusterID : Option UInt8 := none
  dstAddrMode : Option UInt8 := none
  dstIEEEAddr : Option UInt64 := none
  dstEndpoint : Option UInt8 := none

namespace BindingTableListItemFormat

/-- `SrcIEEEAddr |= x`. -/
def orSrc (x : UInt64) (c : BindingTableListItemFormat) : BindingTableListItemFormat :=
  { c with srcIEEEAddr := c.srcIEEEAddr.map (· ||| x) }

/-- `DstIEEEAddr |= x`. -/
def orDst (x : UInt64) (c : BindingTableListItemFormat) : BindingTableListItemFormat :=
  { c with dstIEEEAddr := c.dstIEEEAddr.map (· ||| x) }

end BindingTableListItemFormat

/-- The array of `MgmtBindRspFormat_t`. -/
abbrev BindingTable := CArray 75 BindingTableListItemFormat

/-- Change the members of one entry. -/
def BindingTable.set (t : BindingTable) (i : ℕ)
    (f : BindingTableListItemFormat → BindingTableListItemFormat) : BindingTable :=
  t.modify i fun c => f (c.getD {})

/-- The address loops: byte `j` goes to entry `j`, at bit `8 * j`. -/
def BindingTable.orEach (f : UInt64 → BindingTableListItemFormat → BindingTableListItemFormat) :
    List UInt8 → ℕ → BindingTable → BindingTable
  | [], _, t => t
  | b :: bs, j, t => orEach f bs (j + 1) (t.set j (f (b.toUInt64 <<< UInt64.ofNat (j * 8))))

/-- Round `i` of the loop over the binding table.  After the first store an inner counter
hides `i`; it runs from 0 to 7 in the address loops and is 8 after them. -/
def bindingTableRound (i : ℕ) (t : BindingTable) : Reader BindingTable := do
  let t := t.set i ({ · with srcIEEEAddr := some 0 })
  let src ← times 8 byte
  let t := BindingTable.orEach .orSrc src 0 t
  let srcEndpoint ← byte
  let clusterID ← byte
  let dstAddrMode ← byte
  let t := t.set 8 ({ · with
    srcEndpoint := some srcEndpoint
    clusterID := some clusterID
    dstAddrMode := some dstAddrMode
    dstIEEEAddr := some 0 })
  let dst ← times 8 byte
  let t := BindingTable.orEach .orDst dst 0 t
  let dstEndpoint ← byte
  return t.set 8 ({ · with dstEndpoint := some dstEndpoint })

/-- The loop under a condition on the length of the message. -/
def bindingTable (c : Prop) [Decidable c] (n : ℕ) : Reader BindingTable :=
  if c then loop bindingTableRound n 0 .empty else pure .empty

structure MgmtBindRspFormat where
  srcAddr : UInt16
  status : UInt8
  bindingTableEntries : UInt8
  startIndex : UInt8
  bindingTableListCount : UInt8
  bindingTableList : BindingTable

def processMgmtBindRsp (rpcLen : UInt8) : Reader MgmtBindRspFormat := do
  let srcAddr ← word
  let status ← byte
  let bindingTableEntries ← byte
  let startIndex ← byte
  let bindingTableListCount ← byte
  let bindingTableList ← bindingTable (rpcLen > 6) bindingTableListCount.toNat
  return {
    srcAddr, status, bindingTableEntries, startIndex, bindingTableListCount,
    bindingTableList }

/-! ## Indications -/

structure EndDeviceAnnceIndFormat where
  srcAddr : UInt16
  nwkAddr : UInt16
  ieeeAddr : UInt64
  capabilities : UInt8

def processEndDeviceAnnceInd : Reader EndDeviceAnnceIndFormat := do
  let srcAddr ← word
  let nwkAddr ← word
  let ieeeAddr ← qword
  let capabilities ← byte
  return { srcAddr, nwkAddr, ieeeAddr, capabilities }

structure MatchDescRspSentFormat where
  nwkAddr : UInt16
  numInClusters : UInt8
  inClusterList : CArray 16 UInt16
  numOutClusters : UInt8
  outClusterList : CArray 16 UInt16

def processMatchDescRspSent : Reader MatchDescRspSentFormat := do
  let nwkAddr ← word
  let numInClusters ← byte
  let inClusterList ← list numInClusters.toNat word
  let numOutClusters ← byte
  let outClusterList ← list numOutClusters.toNat word
  return { nwkAddr, numInClusters, inClusterList, numOutClusters, outClusterList }

structure SrcRtgIndFormat where
  dstAddr : UInt16
  relayCount : UInt8
  relayList : CArray 255 UInt16

def processSrcRtgInd : Reader SrcRtgIndFormat := do
  let dstAddr ← word
  let relayCount ← byte
  let relayList ← list relayCount.toNat word
  return { dstAddr, relayCount, relayList }

structure BeaconListItemFormat where
  srcAddr : UInt16
  panId : UInt16
  logicalChannel : UInt8
  permitJoining : UInt8
  routerCap : UInt8
  devCap : UInt8
  protocolVer : UInt8
  stackProf : UInt8
  lqi : UInt8
  depth : UInt8
  updateId : UInt8
  extendedPanId : UInt64

def beaconListItem : Reader BeaconListItemFormat := do
  let srcAddr ← word
  let panId ← word
  let logicalChannel ← byte
  let permitJoining ← byte
  let routerCap ← byte
  let devCap ← byte
  let protocolVer ← byte
  let stackProf ← byte
  let lqi ← byte
  let depth ← byte
  let updateId ← byte
  let extendedPanId ← qword
  return {
    srcAddr, panId, logicalChannel, permitJoining, routerCap, devCap, protocolVer,
    stackProf, lqi, depth, updateId, extendedPanId }

structure BeaconNotifyIndFormat where
  beaconCount : UInt8
  beaconList : CArray 21 BeaconListItemFormat

def processBeaconNotifyInd (rpcLen : UInt8) : Reader BeaconNotifyIndFormat := do
  let beaconCount ← byte
  let beaconList ← listIf (rpcLen > 1) beaconCount.toNat beaconListItem
  return { beaconCount, beaconList }

structure JoinCnfFormat where
  status : UInt8
  devAddr : UInt16
  parentAddr : UInt16

def processJoinCnf : Reader JoinCnfFormat := do
  let status ← byte
  let devAddr ← word
  let parentAddr ← word
  return { status, devAddr, parentAddr }

structure NwkDiscoveryCnfFormat where
  status : UInt8

def processNwkDiscoveryCnf : Reader NwkDiscoveryCnfFormat := do
  let status ← byte
  return { status }

structure LeaveIndFormat where
  srcAddr : UInt16
  extAddr : UInt64
  request : UInt8
  remove : UInt8
  rejoin : UInt8

def processLeaveInd : Reader LeaveIndFormat := do
  let srcAddr ← word
  let extAddr ← qword
  let request ← byte
  let remove ← byte
  let rejoin ← byte
  return { srcAddr, extAddr, request, remove, rejoin }

structure MsgCbIncomingFormat where
  srcAddr : UInt16
  wasBroadcast : UInt8
  clusterID : UInt16
  securityUse : UInt8
  seqNum : UInt8
  macDstAddr : UInt16
  status : UInt8
  extAddr : UInt64
  nwkAddr : UInt16
  notUsed : UInt8

def processMsgCbIncoming : Reader MsgCbIncomingFormat := do
  let srcAddr ← word
  let wasBroadcast ← byte
  let clusterID ← word
  let securityUse ← byte
  let seqNum ← byte
  let macDstAddr ← word
  let status ← byte
  let extAddr ← qword
  -- the index is not moved past the last address
  let nwkAddr ← peekWord
  let notUsed ← peek
  return {
    srcAddr, wasBroadcast, clusterID, securityUse, seqNum, macDstAddr, status, extAddr,
    nwkAddr, notUsed }

/-- The state, read at index 2. -/
def processStateChange : Reader UInt8 := peek

/-! ## Dispatch -/

def mtZdoGetLinkKey : UInt8 := 0x25
def mtZdoStateChangeInd : UInt8 := 0xC0
def mtZdoNwkAddrRsp : UInt8 := 0x80
def mtZdoIeeeAddrRsp : UInt8 := 0x81
def mtZdoNodeDescRsp : UInt8 := 0x82
def mtZdoPowerDescRsp : UInt8 := 0x83
def mtZdoSimpleDescRsp : UInt8 := 0x84
def mtZdoActiveEpRsp : UInt8 := 0x85
def mtZdoMatchDescRsp : UInt8 := 0x86
def mtZdoComplexDescRsp : UInt8 := 0x90
def mtZdoUserDescRsp : UInt8 := 0x91
def mtZdoUserDescConf : UInt8 := 0x94
def mtZdoServerDiscRsp : UInt8 := 0x95
def mtZdoEndDeviceBindRsp : UInt8 := 0xA0
def mtZdoBindRsp : UInt8 := 0xA1
def mtZdoUnbindRsp : UInt8 := 0xA2
def mtZdoMgmtNwkDiscRsp : UInt8 := 0xB0
def mtZdoMgmtLqiRsp : UInt8 := 0xB1
def mtZdoMgmtRtgRsp : UInt8 := 0xB2
def mtZdoMgmtBindRsp : UInt8 := 0xB3
def mtZdoMgmtLeaveRsp : UInt8 := 0xB4
def mtZdoMgmtDirectJoinRsp : UInt8 := 0xB5
def mtZdoMgmtPermitJoinRsp : UInt8 := 0xB6
def mtZdoEndDeviceAnnceInd : UInt8 := 0xC1
def mtZdoMatchDescRspSent : UInt8 := 0xC2
def mtZdoStatusErrorRsp : UInt8 := 0xC3
def mtZdoSrcRtgInd : UInt8 := 0xC4
def mtZdoBeaconNotifyInd : UInt8 := 0xC5
def mtZdoJoinCnf : UInt8 := 0xC6
def mtZdoNwkDiscoveryCnf : UInt8 := 0xC7
def mtZdoLeaveInd : UInt8 := 0xC9
def mtZdoMsgCbIncoming : UInt8 := 0xFF

/-- What a ZDO callback is given. -/
inductive ZdoIndication
  | getLinkKey (rsp : GetLinkKeySrspFormat)
  | stateChangeInd (rsp : UInt8)
  | nwkAddrRsp (rsp : NwkAddrRspFormat)
  | ieeeAddrRsp (rsp : IeeeAddrRspFormat)
  | nodeDescRsp (rsp : NodeDescRspFormat)
  | powerDescRsp (rsp : PowerDescRspFormat)
  | simpleDescRsp (rsp : SimpleDescRspFormat)
  | activeEpRsp (rsp : ByteListRspFormat)
  | matchDescRsp (rsp : ByteListRspFormat)
  | complexDescRsp (rsp : ByteListRspFormat)
  | userDescRsp (rsp : ByteListRspFormat)
  | userDescConf (rsp : UserDescConfFormat)
  | serverDiscRsp (rsp : ServerDiscRspFormat)
  | endDeviceBindRsp (rsp : StatusRspFormat)
  | bindRsp (rsp : StatusRspFormat)
  | unbindRsp (rsp : StatusRspFormat)
  | mgmtNwkDiscRsp (rsp : MgmtNwkDiscRspFormat)
  | mgmtLqiRsp (rsp : MgmtLqiRspFormat)
  | mgmtRtgRsp (rsp : MgmtRtgRspFormat)
  | mgmtBindRsp (rsp : MgmtBindRspFormat)
  | mgmtLeaveRsp (rsp : StatusRspFormat)
  | mgmtDirectJoinRsp (rsp : StatusRspFormat)
  | mgmtPermitJoinRsp (rsp : StatusRspFormat)
  | endDeviceAnnceInd (rsp : EndDeviceAnnceIndFormat)
  | matchDescRspSent (rsp : MatchDescRspSentFormat)
  | statusErrorRsp (rsp : StatusRspFormat)
  | srcRtgInd (rsp : SrcRtgIndFormat)
  | beaconNotifyInd (rsp : BeaconNotifyIndFormat)
  | joinCnf (rsp : JoinCnfFormat)
  | nwkDiscoveryCnf (rsp : NwkDiscoveryCnfFormat)
  | leaveInd (rsp : LeaveIndFormat)
  | msgCbIncoming (rsp : MsgCbIncomingFormat)

/-- The callbacks of `mtZdoCb_t`. -/
inductive ZdoCb
  | getLinkKey | stateChangeInd | nwkAddrRsp | ieeeAddrRsp | nodeDescRsp | powerDescRsp
  | simpleDescRsp | activeEpRsp | matchDescRsp | complexDescRsp | userDescRsp | userDescConf
  | serverDiscRsp | endDeviceBindRsp | bindRsp | unbindRsp | mgmtNwkDiscRsp | mgmtLqiRsp
  | mgmtRtgRsp | mgmtBindRsp | mgmtLeaveRsp | mgmtDirectJoinRsp | mgmtPermitJoinRsp
  | endDeviceAnnceInd | matchDescRspSent | statusErrorRsp | srcRtgInd | beaconNotifyInd | joinCnf
  | nwkDiscoveryCnf | leaveInd | msgCbIncoming
  deriving DecidableEq

/-- The cases of `processSrsp`. -/
def zdoSrspTable : List (UInt8 × ZdoCb × Reader ZdoIndication) :=
  [(mtZdoGetLinkKey, .getLinkKey, .getLinkKey <$> processGetLinkKey)]

/-- The cases of `zdoProcess` for messages other than SRSPs. -/
def zdoAreqTable (rpcLen : UInt8) : List (UInt8 × ZdoCb × Reader ZdoIndication) :=
  [(mtZdoStateChangeInd, .stateChangeInd, .stateChangeInd <$> processStateChange),
   (mtZdoNwkAddrRsp, .nwkAddrRsp, .nwkAddrRsp <$> processNwkAddrRsp rpcLen),
   (mtZdoIeeeAddrRsp, .ieeeAddrRsp, .ieeeAddrRsp <$> processIeeeAddrRsp rpcLen),
   (mtZdoNodeDescRsp, .nodeDescRsp, .nodeDescRsp <$> processNodeDescRsp),
   (mtZdoPowerDescRsp, .powerDescRsp, .powerDescRsp <$> processPowerDescRsp),
   (mtZdoSimpleDescRsp, .simpleDescRsp, .simpleDescRsp <$> processSimpleDescRsp rpcLen),
   (mtZdoActiveEpRsp, .activeEpRsp, .activeEpRsp <$> processActiveEpRsp rpcLen),
   (mtZdoMatchDescRsp, .matchDescRsp, .matchDescRsp <$> processMatchDescRsp rpcLen),
   (mtZdoComplexDescRsp, .complexDescRsp, .complexDescRsp <$> processComplexDescRsp rpcLen),
   (mtZdoUserDescRsp, .userDescRsp, .userDescRsp <$> processUserDescRsp rpcLen),
   (mtZdoUserDescConf, .userDescConf, .userDescConf <$> processUserDescConf),
   (mtZdoServerDiscRsp, .serverDiscRsp, .serverDiscRsp <$> processServerDiscRsp),
   (mtZdoEndDeviceBindRsp, .endDeviceBindRsp, .endDeviceBindRsp <$> processEndDeviceBindRsp),
   (mtZdoBindRsp, .bindRsp, .bindRsp <$> processBindRsp),
   (mtZdoUnbindRsp, .unbindRsp, .unbindRsp <$> processUnbindRsp),
   (mtZdoMgmtNwkDiscRsp, .mgmtNwkDiscRsp, .mgmtNwkDiscRsp <$> processMgmtNwkDiscRsp rpcLen),
   (mtZdoMgmtLqiRsp, .mgmtLqiRsp, .mgmtLqiRsp <$> processMgmtLqiRsp rpcLen),
   (mtZdoMgmtRtgRsp, .mgmtRtgRsp, .mgmtRtgRsp <$> processMgmtRtgRsp rpcLen),
   (mtZdoMgmtBindRsp, .mgmtBindRsp, .mgmtBindRsp <$> processMgmtBindRsp rpcLen),
   (mtZdoMgmtLeaveRsp, .mgmtLeaveRsp, .mgmtLeaveRsp <$> processMgmtLeaveRsp),
   (mtZdoMgmtDirectJoinRsp, .mgmtDirectJoinRsp, .mgmtDirectJoinRsp <$> processMgmtDirectJoinRsp),
   (mtZdoMgmtPermitJoinRsp, .mgmtPermitJoinRsp, .mgmtPermitJoinRsp <$> processMgmtPermitJoinRsp),
   (mtZdoEndDeviceAnnceInd, .endDeviceAnnceInd, .endDeviceAnnceInd <$> processEndDeviceAnnceInd),
   (mtZdoMatchDescRspSent, .matchDescRspSent, .matchDescRspSent <$> processMatchDescRspSent),
   (mtZdoStatusErrorRsp, .statusErrorRsp, .statusErrorRsp <$> processStatusErrorRsp),
   (mtZdoSrcRtgInd, .srcRtgInd, .srcRtgInd <$> processSrcRtgInd),
   (mtZdoBeaconNotifyInd, .beaconNotifyInd, .beaconNotifyInd <$> processBeaconNotifyInd rpcLen),
   (mtZdoJoinCnf, .joinCnf, .joinCnf <$> processJoinCnf),
   (mtZdoNwkDiscoveryCnf, .nwkDiscoveryCnf, .nwkDiscoveryCnf <$> processNwkDiscoveryCnf),
   (mtZdoLeaveInd, .leaveInd, .leaveInd <$> processLeaveInd),
   (mtZdoMsgCbIncoming, .msgCbIncoming, .msgCbIncoming <$> processMsgCbIncoming)]

end ZnpHost.Mt
