import ZnpHost.Mt.Cmd
import ZnpHost.Mt.AfResponses
import ZnpHost.Rpc.Frame

/-!
# AF requests

The request structures of `mtAf.h` and what the request functions of `mtAf.c` store.
A number of list elements is at most the size of its array, as a field of the structure.

## Main definitions

* `afRegister` … `afApsfConfigSet` — the builders that allocate a buffer.
* `AfRequest`, `AfRequest.build` — any of them.
-/

namespace ZnpHost.Mt

open Lib Rpc

def mtAfRegister : UInt8 := 0x00
def mtAfDataRequest : UInt8 := 0x01
def mtAfDataRequestExt : UInt8 := 0x02
def mtAfDataRequestSrcRtg : UInt8 := 0x03
def mtAfInterPanCtl : UInt8 := 0x10
def mtAfDataStore : UInt8 := 0x11
def mtAfApsfConfigSet : UInt8 := 0x13

structure RegisterFormat where
  endPoint : UInt8
  appProfId : UInt16
  appDeviceId : UInt16
  appDevVer : UInt8
  latencyReq : UInt8
  appNumInClusters : UInt8
  appInClusterList : Vector UInt16 16
  appNumOutClusters : UInt8
  appOutClusterList : Vector UInt16 16
  appNumInClusters_le : appNumInClusters.toNat ≤ 16
  appNumOutClusters_le : appNumOutClusters.toNat ≤ 16

def afRegister (req : RegisterFormat) : Cmd where
  cmd0 := mtRpcCmdSreq ||| mtRpcSysAf
  cmd1 := mtAfRegister
  cmdLen := 9 + (req.appNumInClusters.toNat * 2) + (req.appNumOutClusters.toNat * 2)
  stores :=
    [req.endPoint, loUint16 req.appProfId, hiUint16 req.appProfId, loUint16 req.appDeviceId,
      hiUint16 req.appDeviceId, req.appDevVer, req.latencyReq, req.appNumInClusters] ++
    words req.appInClusterList req.appNumInClusters.toNat ++ [req.appNumOutClusters] ++
    words req.appOutClusterList req.appNumOutClusters.toNat

structure DataRequestFormat where
  dstAddr : UInt16
  dstEndpoint : UInt8
  srcEndpoint : UInt8
  clusterID : UInt16
  transID : UInt8
  options : UInt8
  radius : UInt8
  len : UInt8
  data : Vector UInt8 128
  len_le : len.toNat ≤ 128

def afDataRequest (req : DataRequestFormat) : Cmd where
  cmd0 := mtRpcCmdSreq ||| mtRpcSysAf
  cmd1 := mtAfDataRequest
  cmdLen := 10 + req.len.toNat
  stores :=
    [loUint16 req.dstAddr, hiUint16 req.dstAddr, req.dstEndpoint, req.srcEndpoint,
      loUint16 req.clusterID, hiUint16 req.clusterID, req.transID, req.options, req.radius,
      req.len] ++ bytes req.data req.len.toNat

structure DataRequestExtFormat where
  dstAddrMode : UInt8
  dstAddr : Vector UInt8 8
  dstEndpoint : UInt8
  dstPanID : UInt16
  srcEndpoint : UInt8
  clusterId : UInt16
  transId : UInt8
  options : UInt8
  radius : UInt8
  len : UInt16
  data : Vector UInt8 230
  len_le : len.toNat ≤ 230

def afDataRequestExt (req : DataRequestExtFormat) : Cmd where
  cmd0 := mtRpcCmdSreq ||| mtRpcSysAf
  cmd1 := mtAfDataRequestExt
  cmdLen := 20 + req.len.toNat
  stores := [req.dstAddrMode] ++ bytes req.dstAddr 8 ++
    [req.dstEndpoint, loUint16 req.dstPanID, hiUint16 req.dstPanID, req.srcEndpoint,
      loUint16 req.clusterId, hiUint16 req.clusterId, req.transId, req.options, req.radius,
      loUint16 req.len, hiUint16 req.len] ++ bytes req.data req.len.toNat

structure DataRequestSrcRtgFormat where
  dstAddr : UInt16
  dstEndpoint : UInt8
  srcEndpoint : UInt8
  clusterID : UInt16
  transID : UInt8
  options : UInt8
  radius : UInt8
  relayCount : UInt8
  relayList : Vector UInt16 255
  len : UInt8
  data : Vector UInt8 128
  len_le : len.toNat ≤ 128

def afDataRequestSrcRtg (req : DataRequestSrcRtgFormat) : Cmd where
  cmd0 := mtRpcCmdSreq ||| mtRpcSysAf
  cmd1 := mtAfDataRequestSrcRtg
  cmdLen := 11 + (req.relayCount.toNat * 2) + req.len.toNat
  stores :=
    [loUint16 req.dstAddr, hiUint16 req.dstAddr, req.dstEndpoint, req.srcEndpoint,
      loUint16 req.clusterID, hiUint16 req.clusterID, req.transID, req.options, req.radius,
      req.relayCount] ++ words req.relayList req.relayCount.toNat ++ [req.len] ++
    bytes req.data req.len.toNat

structure InterPanCtlFormat where
  command : UInt8
  data : Vector UInt8 3
  command_le : command.toNat ≤ 3

def afInterPanCtl (req : InterPanCtlFormat) : Cmd where
  cmd0 := mtRpcCmdSreq ||| mtRpcSysAf
  cmd1 := mtAfInterPanCtl
  cmdLen := 1 + req.command.toNat
  stores := [req.command] ++ bytes req.data req.command.toNat

structure DataStoreFormat where
  index : UInt16
  length : UInt8
  data : Vector UInt8 247
  length_le : length.toNat ≤ 247

def afDataStore (req : DataStoreFormat) : Cmd where
  cmd0 := mtRpcCmdSreq ||| mtRpcSysAf
  cmd1 := mtAfDataStore
  cmdLen := 3 + req.length.toNat
  stores := [loUint16 req.index, hiUint16 req.index, req.length] ++
    bytes req.data req.length.toNat

structure DataRetrieveFormat where
  timeStamp : Vector UInt8 4
  index : UInt16
  length : UInt8

def afDataRetrieve (req : DataRetrieveFormat) : Cmd where
  cmd0 := mtRpcCmdSreq ||| mtRpcSysAf
  cmd1 := mtAfDataRetrieve
  cmdLen := 7
  stores := bytes req.timeStamp 4 ++ [loUint16 req.index, hiUint16 req.index, req.length]

structure ApsfConfigSetFormat where
  endpoint : UInt8
  frameDelay : UInt8
  windowSize : UInt8

def afApsfConfigSet (req : ApsfConfigSetFormat) : Cmd where
  cmd0 := mtRpcCmdSreq ||| mtRpcSysAf
  cmd1 := mtAfApsfConfigSet
  cmdLen := 3
  stores := [req.endpoint, req.frameDelay, req.windowSize]

/-- A call of a request function of `mtAf.c`. -/
inductive AfRequest
  | register (req : RegisterFormat)
  | dataRequest (req : DataRequestFormat)
  | dataRequestExt (req : DataRequestExtFormat)
  | dataRequestSrcRtg (req : DataRequestSrcRtgFormat)
  | interPanCtl (req : InterPanCtlFormat)
  | dataStore (req : DataStoreFormat)
  | dataRetrieve (req : DataRetrieveFormat)
  | apsfConfigSet (req : ApsfConfigSetFormat)

/-- The buffer the function fills. -/
def AfRequest.build : AfRequest → Cmd
  | register req => afRegister req
  | dataRequest req => afDataRequest req
  | dataRequestExt req => afDataRequestExt req
  | dataRequestSrcRtg req => afDataRequestSrcRtg req
  | interPanCtl req => afInterPanCtl req
  | dataStore req => afDataStore req
  | dataRetrieve req => afDataRetrieve req
  | apsfConfigSet req => afApsfConfigSet req

end ZnpHost.Mt
