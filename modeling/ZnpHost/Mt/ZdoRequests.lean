import ZnpHost.Mt.Cmd
import ZnpHost.Mt.ZdoResponses
import ZnpHost.Rpc.Frame

/-!
# ZDO requests

The request structures of `mtZdo.h` and what the request functions of `mtZdo.c` store.
A number of list elements is at most the size of its array, as a field of the structure.

## Main definitions

* `zdoNwkAddrReq` … `zdoInit` — the builders that allocate a buffer.
* `ZdoRequest`, `ZdoRequest.build` — any of them.
-/

namespace ZnpHost.Mt

open Lib Rpc

def mtZdoNwkAddrReq : UInt8 := 0x00
def mtZdoIeeeAddrReq : UInt8 := 0x01
def mtZdoNodeDescReq : UInt8 := 0x02
def mtZdoPowerDescReq : UInt8 := 0x03
def mtZdoSimpleDescReq : UInt8 := 0x04
def mtZdoActiveEpReq : UInt8 := 0x05
def mtZdoMatchDescReq : UInt8 := 0x06
def mtZdoComplexDescReq : UInt8 := 0x07
def mtZdoUserDescReq : UInt8 := 0x08
def mtZdoDeviceAnnce : UInt8 := 0x0A
def mtZdoUserDescSet : UInt8 := 0x0B
def mtZdoServerDiscReq : UInt8 := 0x0C
def mtZdoEndDeviceBindReq : UInt8 := 0x20
def mtZdoBindReq : UInt8 := 0x21
def mtZdoUnbindReq : UInt8 := 0x22
def mtZdoMgmtNwkDiscReq : UInt8 := 0x30
def mtZdoMgmtLqiReq : UInt8 := 0x31
def mtZdoMgmtRtgReq : UInt8 := 0x32
def mtZdoMgmtBindReq : UInt8 := 0x33
def mtZdoMgmtLeaveReq : UInt8 := 0x34
def mtZdoMgmtDirectJoinReq : UInt8 := 0x35
def mtZdoMgmtPermitJoinReq : UInt8 := 0x36
def mtZdoMgmtNwkUpdateReq : UInt8 := 0x37
def mtZdoStartupFromApp : UInt8 := 0x40
def mtZdoAutoFindDestination : UInt8 := 0x41
def mtZdoSetLinkKey : UInt8 := 0x23
def mtZdoRemoveLinkKey : UInt8 := 0x24
def mtZdoNwkDiscoveryReq : UInt8 := 0x26
def mtZdoJoinReq : UInt8 := 0x27
def mtZdoMsgCbRegister : UInt8 := 0x3E
def mtZdoMsgCbRemove : UInt8 := 0x3F

structure NwkAddrReqFormat where
  ieeeAddress : Vector UInt8 8
  reqType : UInt8
  startIndex : UInt8

def zdoNwkAddrReq (req : NwkAddrReqFormat) : Cmd where
  cmd0 := mtRpcCmdSreq ||| mtRpcSysZdo
  cmd1 := mtZdoNwkAddrReq
  cmdLen := 10
  stores := bytes req.ieeeAddress 8 ++ [req.reqType, req.startIndex]

structure IeeeAddrReqFormat where
  shortAddr : UInt16
  reqType : UInt8
  startIndex : UInt8

def zdoIeeeAddrReq (req : IeeeAddrReqFormat) : Cmd where
  cmd0 := mtRpcCmdSreq ||| mtRpcSysZdo
  cmd1 := mtZdoIeeeAddrReq
  cmdLen := 4
  stores := [loUint16 req.shortAddr, hiUint16 req.shortAddr, req.reqType, req.startIndex]

/-- The request of `zdoNodeDescReq`, `zdoPowerDescReq`, `zdoActiveEpReq`, `zdoComplexDescReq`
and `zdoUserDescReq`. -/
structure AddrOfInterestReqFormat where
  dstAddr : UInt16
  nwkAddrOfInterest : UInt16

def addrOfInterestReq (cmd1 : UInt8) (req : AddrOfInterestReqFormat) : Cmd where
  cmd0 := mtRpcCmdSreq ||| mtRpcSysZdo
  cmd1 := cmd1
  cmdLen := 4
  stores :=
    [loUint16 req.dstAddr, hiUint16 req.dstAddr, loUint16 req.nwkAddrOfInterest,
      hiUint16 req.nwkAddrOfInterest]

def zdoNodeDescReq (req : AddrOfInterestReqFormat) : Cmd :=
  addrOfInterestReq mtZdoNodeDescReq req

def zdoPowerDescReq (req : AddrOfInterestReqFormat) : Cmd :=
  addrOfInterestReq mtZdoPowerDescReq req

def zdoActiveEpReq (req : AddrOfInterestReqFormat) : Cmd :=
  addrOfInterestReq mtZdoActiveEpReq req

def zdoComplexDescReq (req : AddrOfInterestReqFormat) : Cmd :=
  addrOfInterestReq mtZdoComplexDescReq req

def zdoUserDescReq (req : AddrOfInterestReqFormat) : Cmd :=
  addrOfInterestReq mtZdoUserDescReq req

structure SimpleDescReqFormat where
  dstAddr : UInt16
  nwkAddrOfInterest : UInt16
  endpoint : UInt8

def zdoSimpleDescReq (req : SimpleDescReqFormat) : Cmd where
  cmd0 := mtRpcCmdSreq ||| mtRpcSysZdo
  cmd1 := mtZdoSimpleDescReq
  cmdLen := 5
  stores :=
    [loUint16 req.dstAddr, hiUint16 req.dstAddr, loUint16 req.nwkAddrOfInterest,
      hiUint16 req.nwkAddrOfInterest, req.endpoint]

structure MatchDescReqFormat where
  dstAddr : UInt16
  nwkAddrOfInterest : UInt16
  profileID : UInt16
  numInClusters : UInt8
  inClusterList : Vector UInt16 16
  numOutClusters : UInt8
  outClusterList : Vector UInt16 16
  numInClusters_le : numInClusters.toNat ≤ 16
  numOutClusters_le : numOutClusters.toNat ≤ 16

def zdoMatchDescReq (req : MatchDescReqFormat) : Cmd where
  cmd0 := mtRpcCmdSreq ||| mtRpcSysZdo
  cmd1 := mtZdoMatchDescReq
  cmdLen := 8 + (req.numInClusters.toNat * 2) + (req.numOutClusters.toNat * 2)
  stores :=
    [loUint16 req.dstAddr, hiUint16 req.dstAddr, loUint16 req.nwkAddrOfInterest,
      hiUint16 req.nwkAddrOfInterest, loUint16 req.profileID, hiUint16 req.profileID,
      req.numInClusters] ++ words req.inClusterList req.numInClusters.toNat ++
    [req.numOutClusters] ++ words req.outClusterList req.numOutClusters.toNat

structure DeviceAnnceFormat where
  nwkAddr : UInt16
  ieeeAddr : Vector UInt8 8
  capabilities : UInt8

def zdoDeviceAnnce (req : DeviceAnnceFormat) : Cmd where
  cmd0 := mtRpcCmdSreq ||| mtRpcSysZdo
  cmd1 := mtZdoDeviceAnnce
  cmdLen := 11
  stores := [loUint16 req.nwkAddr, hiUint16 req.nwkAddr] ++ bytes req.ieeeAddr 8 ++
    [req.capabilities]

structure UserDescSetFormat where
  dstAddr : UInt16
  nwkAddrOfInterest : UInt16
  len : UInt8
  userDescriptor : Vector UInt8 16
  len_le : len.toNat ≤ 16

def zdoUserDescSet (req : UserDescSetFormat) : Cmd where
  cmd0 := mtRpcCmdSreq ||| mtRpcSysZdo
  cmd1 := mtZdoUserDescSet
  cmdLen := 5 + req.len.toNat
  stores :=
    [loUint16 req.dstAddr, hiUint16 req.dstAddr, loUint16 req.nwkAddrOfInterest,
      hiUint16 req.nwkAddrOfInterest, req.len] ++ bytes req.userDescriptor req.len.toNat

structure ServerDiscReqFormat where
  serverMask : UInt16

def zdoServerDiscReq (req : ServerDiscReqFormat) : Cmd where
  cmd0 := mtRpcCmdSreq ||| mtRpcSysZdo
  cmd1 := mtZdoServerDiscReq
  cmdLen := 2
  stores := [loUint16 req.serverMask, hiUint16 req.serverMask]

structure EndDeviceBindReqFormat where
  dstAddr : UInt16
  localCoordinator : UInt16
  coordinatorIEEE : Vector UInt8 8
  endPoint : UInt8
  profileID : UInt16
  numInClusters : UInt8
  inClusterList : Vector UInt16 16
  numOutClusters : UInt8
  outClusterList : Vector UInt16 16
  numInClusters_le : numInClusters.toNat ≤ 16
  numOutClusters_le : numOutClusters.toNat ≤ 16

def zdoEndDeviceBindReq (req : EndDeviceBindReqFormat) : Cmd where
  cmd0 := mtRpcCmdSreq ||| mtRpcSysZdo
  cmd1 := mtZdoEndDeviceBindReq
  cmdLen := 17 + (req.numInClusters.toNat * 2) + (req.numOutClusters.toNat * 2)
  stores :=
    [loUint16 req.dstAddr, hiUint16 req.dstAddr, loUint16 req.localCoordinator,
      hiUint16 req.localCoordinator] ++ bytes req.coordinatorIEEE 8 ++
    [req.endPoint, loUint16 req.profileID, hiUint16 req.profileID, req.numInClusters] ++
    words req.inClusterList req.numInClusters.toNat ++ [req.numOutClusters] ++
    words req.outClusterList req.numOutClusters.toNat

/-- The request of `zdoBindReq` and `zdoUnbindReq`. -/
structure BindReqFormat where
  dstAddr : UInt16
  srcAddress : Vector UInt8 8
  srcEndpoint : UInt8
  clusterID : UInt16
  dstAddrMode : UInt8
  dstAddress : Vector UInt8 8
  dstEndpoint : UInt8

/-- The size of the destination address. -/
def BindReqFormat.addrmd (req : BindReqFormat) : ℕ := if req.dstAddrMode = 3 then 8 else 2

/-- Whether there is a destination endpoint. -/
def BindReqFormat.endP (req : BindReqFormat) : ℕ := if req.dstAddrMode = 3 then 1 else 0

/-- The stores of both functions. -/
def bindStores (req : BindReqFormat) : List UInt8 :=
  [loUint16 req.dstAddr, hiUint16 req.dstAddr] ++ bytes req.srcAddress 8 ++
    [req.srcEndpoint, loUint16 req.clusterID, hiUint16 req.clusterID, req.dstAddrMode] ++
    bytes req.dstAddress req.addrmd ++ if req.endP ≠ 0 then [req.dstEndpoint] else []

def zdoBindReq (req : BindReqFormat) : Cmd where
  cmd0 := mtRpcCmdSreq ||| mtRpcSysZdo
  cmd1 := mtZdoBindReq
  cmdLen := 14 + req.addrmd + req.endP
  stores := bindStores req

/-- The length does not depend on the address mode here. -/
def zdoUnbindReq (req : BindReqFormat) : Cmd where
  cmd0 := mtRpcCmdSreq ||| mtRpcSysZdo
  cmd1 := mtZdoUnbindReq
  cmdLen := 16
  stores := bindStores req

structure MgmtNwkDiscReqFormat where
  dstAddr : UInt16
  scanChannels : Vector UInt8 4
  scanDuration : UInt8
  startIndex : UInt8

def zdoMgmtNwkDiscReq (req : MgmtNwkDiscReqFormat) : Cmd where
  cmd0 := mtRpcCmdSreq ||| mtRpcSysZdo
  cmd1 := mtZdoMgmtNwkDiscReq
  cmdLen := 8
  stores := [loUint16 req.dstAddr, hiUint16 req.dstAddr] ++ bytes req.scanChannels 4 ++
    [req.scanDuration, req.startIndex]

/-- The request of `zdoMgmtLqiReq`, `zdoMgmtRtgReq` and `zdoMgmtBindReq`. -/
structure StartIndexReqFormat where
  dstAddr : UInt16
  startIndex : UInt8

def startIndexReq (cmd1 : UInt8) (req : StartIndexReqFormat) : Cmd where
  cmd0 := mtRpcCmdSreq ||| mtRpcSysZdo
  cmd1 := cmd1
  cmdLen := 3
  stores := [loUint16 req.dstAddr, hiUint16 req.dstAddr, req.startIndex]

def zdoMgmtLqiReq (req : StartIndexReqFormat) : Cmd := startIndexReq mtZdoMgmtLqiReq req
def zdoMgmtRtgReq (req : StartIndexReqFormat) : Cmd := startIndexReq mtZdoMgmtRtgReq req
def zdoMgmtBindReq (req : StartIndexReqFormat) : Cmd := startIndexReq mtZdoMgmtBindReq req

structure MgmtLeaveReqFormat where
  dstAddr : UInt16
  deviceAddr : Vector UInt8 8
  removeChildreRejoin : UInt8

def zdoMgmtLeaveReq (req : MgmtLeaveReqFormat) : Cmd where
  cmd0 := mtRpcCmdSreq ||| mtRpcSysZdo
  cmd1 := mtZdoMgmtLeaveReq
  cmdLen := 11
  stores := [loUint16 req.dstAddr, hiUint16 req.dstAddr] ++ bytes req.deviceAddr 8 ++
    [req.removeChildreRejoin]

structure MgmtDirectJoinReqFormat where
  dstAddr : UInt16
  deviceAddr : Vector UInt8 8
  capInfo : UInt8

def zdoMgmtDirectJoinReq (req : MgmtDirectJoinReqFormat) : Cmd where
  cmd0 := mtRpcCmdSreq ||| mtRpcSysZdo
  cmd1 := mtZdoMgmtDirectJoinReq
  cmdLen := 11
  stores := [loUint16 req.dstAddr, hiUint16 req.dstAddr] ++ bytes req.deviceAddr 8 ++
    [req.capInfo]

structure MgmtPermitJoinReqFormat where
  addrMode : UInt8
  dstAddr : UInt16
  duration : UInt8
  tcSignificance : UInt8

def zdoMgmtPermitJoinReq (req : MgmtPermitJoinReqFormat) : Cmd where
  cmd0 := mtRpcCmdSreq ||| mtRpcSysZdo
  cmd1 := mtZdoMgmtPermitJoinReq
  cmdLen := 5
  stores :=
    [req.addrMode, loUint16 req.dstAddr, hiUint16 req.dstAddr, req.duration, req.tcSignificance]

structure MgmtNwkUpdateReqFormat where
  dstAddr : UInt16
  dstAddrMode : UInt8
  channelMask : Vector UInt8 4
  scanDuration : UInt8
  scanCount : UInt8
  nwkManagerAddr : UInt16

def zdoMgmtNwkUpdateReq (req : MgmtNwkUpdateReqFormat) : Cmd where
  cmd0 := mtRpcCmdSreq ||| mtRpcSysZdo
  cmd1 := mtZdoMgmtNwkUpdateReq
  cmdLen := 11
  stores := [loUint16 req.dstAddr, hiUint16 req.dstAddr, req.dstAddrMode] ++
    bytes req.channelMask 4 ++
    [req.scanDuration, req.scanCount, loUint16 req.nwkManagerAddr, hiUint16 req.nwkManagerAddr]

structure StartupFromAppFormat where
  startDelay : UInt16

def zdoStartupFromApp (req : StartupFromAppFormat) : Cmd where
  cmd0 := mtRpcCmdSreq ||| mtRpcSysZdo
  cmd1 := mtZdoStartupFromApp
  cmdLen := 2
  stores := [loUint16 req.startDelay, hiUint16 req.startDelay]

structure AutoFindDestinationFormat where
  endpoint : UInt8

def zdoAutoFindDestination (req : AutoFindDestinationFormat) : Cmd where
  cmd0 := mtRpcCmdSreq ||| mtRpcSysZdo
  cmd1 := mtZdoAutoFindDestination
  cmdLen := 1
  stores := [req.endpoint]

structure SetLinkKeyFormat where
  shortAddr : UInt16
  ieeeaddr : Vector UInt8 8
  linkKeyData : Vector UInt8 16

def zdoSetLinkKey (req : SetLinkKeyFormat) : Cmd where
  cmd0 := mtRpcCmdSreq ||| mtRpcSysZdo
  cmd1 := mtZdoSetLinkKey
  cmdLen := 26
  stores := [loUint16 req.shortAddr, hiUint16 req.shortAddr] ++ bytes req.ieeeaddr 8 ++
    bytes req.linkKeyData 16

/-- The request of `zdoRemoveLinkKey` and `zdoGetLinkKey`. -/
structure IeeeaddrReqFormat where
  ieeeaddr : Vector UInt8 8

def ieeeaddrReq (cmd1 : UInt8) (req : IeeeaddrReqFormat) : Cmd where
  cmd0 := mtRpcCmdSreq ||| mtRpcSysZdo
  cmd1 := cmd1
  cmdLen := 8
  stores := bytes req.ieeeaddr 8

def zdoRemoveLinkKey (req : IeeeaddrReqFormat) : Cmd := ieeeaddrReq mtZdoRemoveLinkKey req
def zdoGetLinkKey (req : IeeeaddrReqFormat) : Cmd := ieeeaddrReq mtZdoGetLinkKey req

structure NwkDiscoveryReqFormat where
  scanChannels : Vector UInt8 4
  scanDuration : UInt8

def zdoNwkDiscoveryReq (req : NwkDiscoveryReqFormat) : Cmd where
  cmd0 := mtRpcCmdSreq ||| mtRpcSysZdo
  cmd1 := mtZdoNwkDiscoveryReq
  cmdLen := 5
  stores := bytes req.scanChannels 4 ++ [req.scanDuration]

structure JoinReqFormat where
  logicalChannel : UInt8
  panID : UInt16
  extendedPanID : Vector UInt8 8
  chosenParent : UInt16
  parentDepth : UInt8
  stackProfile : UInt8

def zdoJoinReq (req : JoinReqFormat) : Cmd where
  cmd0 := mtRpcCmdSreq ||| mtRpcSysZdo
  cmd1 := mtZdoJoinReq
  cmdLen := 15
  stores := [req.logicalChannel, loUint16 req.panID, hiUint16 req.panID] ++
    bytes req.extendedPanID 8 ++
    [loUint16 req.chosenParent, hiUint16 req.chosenParent, req.parentDepth, req.stackProfile]

/-- The request of `zdoMsgCbRegister` and `zdoMsgCbRemove`. -/
structure MsgCbReqFormat where
  clusterID : UInt16

def msgCbReq (cmd1 : UInt8) (req : MsgCbReqFormat) : Cmd where
  cmd0 := mtRpcCmdSreq ||| mtRpcSysZdo
  cmd1 := cmd1
  cmdLen := 2
  stores := [loUint16 req.clusterID, hiUint16 req.clusterID]

def zdoMsgCbRegister (req : MsgCbReqFormat) : Cmd := msgCbReq mtZdoMsgCbRegister req
def zdoMsgCbRemove (req : MsgCbReqFormat) : Cmd := msgCbReq mtZdoMsgCbRemove req

/-- `zdoInit`: the start delay is the constant `STARTDELAY`. -/
def zdoInit : Cmd where
  cmd0 := mtRpcCmdSreq ||| mtRpcSysZdo
  cmd1 := mtZdoStartupFromApp
  cmdLen := 2
  stores := [loUint16 0, hiUint16 0]

/-- A call of a request function of `mtZdo.c`. -/
inductive ZdoRequest
  | nwkAddrReq (req : NwkAddrReqFormat)
  | ieeeAddrReq (req : IeeeAddrReqFormat)
  | nodeDescReq (req : AddrOfInterestReqFormat)
  | powerDescReq (req : AddrOfInterestReqFormat)
  | simpleDescReq (req : SimpleDescReqFormat)
  | activeEpReq (req : AddrOfInterestReqFormat)
  | matchDescReq (req : MatchDescReqFormat)
  | complexDescReq (req : AddrOfInterestReqFormat)
  | userDescReq (req : AddrOfInterestReqFormat)
  | deviceAnnce (req : DeviceAnnceFormat)
  | userDescSet (req : UserDescSetFormat)
  | serverDiscReq (req : ServerDiscReqFormat)
  | endDeviceBindReq (req : EndDeviceBindReqFormat)
  | bindReq (req : BindReqFormat)
  | unbindReq (req : BindReqFormat)
  | mgmtNwkDiscReq (req : MgmtNwkDiscReqFormat)
  | mgmtLqiReq (req : StartIndexReqFormat)
  | mgmtRtgReq (req : StartIndexReqFormat)
  | mgmtBindReq (req : StartIndexReqFormat)
  | mgmtLeaveReq (req : MgmtLeaveReqFormat)
  | mgmtDirectJoinReq (req : MgmtDirectJoinReqFormat)
  | mgmtPermitJoinReq (req : MgmtPermitJoinReqFormat)
  | mgmtNwkUpdateReq (req : MgmtNwkUpdateReqFormat)
  | startupFromApp (req : StartupFromAppFormat)
  | autoFindDestination (req : AutoFindDestinationFormat)
  | setLinkKey (req : SetLinkKeyFormat)
  | removeLinkKey (req : IeeeaddrReqFormat)
  | getLinkKey (req : IeeeaddrReqFormat)
  | nwkDiscoveryReq (req : NwkDiscoveryReqFormat)
  | joinReq (req : JoinReqFormat)
  | msgCbRegister (req : MsgCbReqFormat)
  | msgCbRemove (req : MsgCbReqFormat)
  | init

/-- The buffer the function fills. -/
def ZdoRequest.build : ZdoRequest → Cmd
  | nwkAddrReq req => zdoNwkAddrReq req
  | ieeeAddrReq req => zdoIeeeAddrReq req
  | nodeDescReq req => zdoNodeDescReq req
  | powerDescReq req => zdoPowerDescReq req
  | simpleDescReq req => zdoSimpleDescReq req
  | activeEpReq req => zdoActiveEpReq req
  | matchDescReq req => zdoMatchDescReq req
  | complexDescReq req => zdoComplexDescReq req
  | userDescReq req => zdoUserDescReq req
  | deviceAnnce req => zdoDeviceAnnce req
  | userDescSet req => zdoUserDescSet req
  | serverDiscReq req => zdoServerDiscReq req
  | endDeviceBindReq req => zdoEndDeviceBindReq req
  | bindReq req => zdoBindReq req
  | unbindReq req => zdoUnbindReq req
  | mgmtNwkDiscReq req => zdoMgmtNwkDiscReq req
  | mgmtLqiReq req => zdoMgmtLqiReq req
  | mgmtRtgReq req => zdoMgmtRtgReq req
  | mgmtBindReq req => zdoMgmtBindReq req
  | mgmtLeaveReq req => zdoMgmtLeaveReq req
  | mgmtDirectJoinReq req => zdoMgmtDirectJoinReq req
  | mgmtPermitJoinReq req => zdoMgmtPermitJoinReq req
  | mgmtNwkUpdateReq req => zdoMgmtNwkUpdateReq req
  | startupFromApp req => zdoStartupFromApp req
  | autoFindDestination req => zdoAutoFindDestination req
  | setLinkKey req => zdoSetLinkKey req
  | removeLinkKey req => zdoRemoveLinkKey req
  | getLinkKey req => zdoGetLinkKey req
  | nwkDiscoveryReq req => zdoNwkDiscoveryReq req
  | joinReq req => zdoJoinReq req
  | msgCbRegister req => zdoMsgCbRegister req
  | msgCbRemove req => zdoMsgCbRemove req
  | init => zdoInit

end ZnpHost.Mt
