import ZnpHost.Mt.Cmd
import ZnpHost.Mt.SapiResponses
import ZnpHost.Rpc.Frame

/-!
# SAPI requests

The request structures of `mtSapi.h` and what the request functions of `mtSapi.c` store.
A number of list elements is at most the size of its array, as a field of the structure.

## Main definitions

* `zbAppRegisterReq` … `zbReadConfiguration` — the builders that allocate a buffer.
* `SapiRequest`, `SapiRequest.build` — any of them.
-/

namespace ZnpHost.Mt

open Lib Rpc

def mtSapiAppRegisterReq : UInt8 := 0x0A
def mtSapiPermitJoiningReq : UInt8 := 0x08
def mtSapiBindDevice : UInt8 := 0x01
def mtSapiAllowBind : UInt8 := 0x02
def mtSapiSendDataReq : UInt8 := 0x03
def mtSapiFindDeviceReq : UInt8 := 0x07
def mtSapiWriteConfiguration : UInt8 := 0x05

structure AppRegisterReqFormat where
  appEndpoint : UInt8
  appProfileId : UInt16
  deviceId : UInt16
  deviceVersion : UInt8
  unused : UInt8
  inputCommandsNum : UInt8
  inputCommandsList : Vector UInt16 255
  outputCommandsNum : UInt8
  outputCommandsList : Vector UInt16 255

def zbAppRegisterReq (req : AppRegisterReqFormat) : Cmd where
  cmd0 := mtRpcCmdSreq ||| mtRpcSysSapi
  cmd1 := mtSapiAppRegisterReq
  cmdLen := 9 + (req.inputCommandsNum.toNat * 2) + (req.outputCommandsNum.toNat * 2)
  stores :=
    [req.appEndpoint, loUint16 req.appProfileId, hiUint16 req.appProfileId,
      loUint16 req.deviceId, hiUint16 req.deviceId, req.deviceVersion, req.unused,
      req.inputCommandsNum] ++ words req.inputCommandsList req.inputCommandsNum.toNat ++
    [req.outputCommandsNum] ++ words req.outputCommandsList req.outputCommandsNum.toNat

structure PermitJoiningReqFormat where
  destination : UInt16
  timeout : UInt8

def zbPermitJoiningReq (req : PermitJoiningReqFormat) : Cmd where
  cmd0 := mtRpcCmdSreq ||| mtRpcSysSapi
  cmd1 := mtSapiPermitJoiningReq
  cmdLen := 3
  stores := [loUint16 req.destination, hiUint16 req.destination, req.timeout]

structure BindDeviceFormat where
  create : UInt8
  commandId : UInt16
  dstIeee : Vector UInt8 8

def zbBindDevice (req : BindDeviceFormat) : Cmd where
  cmd0 := mtRpcCmdSreq ||| mtRpcSysSapi
  cmd1 := mtSapiBindDevice
  cmdLen := 11
  stores := [req.create, loUint16 req.commandId, hiUint16 req.commandId] ++ bytes req.dstIeee 8

structure AllowBindFormat where
  timeout : UInt8

def zbAllowBind (req : AllowBindFormat) : Cmd where
  cmd0 := mtRpcCmdSreq ||| mtRpcSysSapi
  cmd1 := mtSapiAllowBind
  cmdLen := 1
  stores := [req.timeout]

structure SendDataReqFormat where
  destination : UInt16
  commandId : UInt16
  handle : UInt8
  ack : UInt8
  radius : UInt8
  len : UInt8
  data : Vector UInt8 99
  len_le : len.toNat ≤ 99

def zbSendDataReq (req : SendDataReqFormat) : Cmd where
  cmd0 := mtRpcCmdSreq ||| mtRpcSysSapi
  cmd1 := mtSapiSendDataReq
  cmdLen := 8 + req.len.toNat
  stores :=
    [loUint16 req.destination, hiUint16 req.destination, loUint16 req.commandId,
      hiUint16 req.commandId, req.handle, req.ack, req.radius, req.len] ++
    bytes req.data req.len.toNat

structure FindDeviceReqFormat where
  searchKey : Vector UInt8 8

def zbFindDeviceReq (req : FindDeviceReqFormat) : Cmd where
  cmd0 := mtRpcCmdSreq ||| mtRpcSysSapi
  cmd1 := mtSapiFindDeviceReq
  cmdLen := 8
  stores := bytes req.searchKey 8

structure WriteConfigurationFormat where
  configId : UInt8
  len : UInt8
  value : Vector UInt8 128
  len_le : len.toNat ≤ 128

def zbWriteConfiguration (req : WriteConfigurationFormat) : Cmd where
  cmd0 := mtRpcCmdSreq ||| mtRpcSysSapi
  cmd1 := mtSapiWriteConfiguration
  cmdLen := 3 + req.len.toNat
  stores := [req.configId, req.len] ++ bytes req.value req.len.toNat

structure GetDeviceInfoFormat where
  param : UInt8

def zbGetDeviceInfo (req : GetDeviceInfoFormat) : Cmd where
  cmd0 := mtRpcCmdSreq ||| mtRpcSysSapi
  cmd1 := mtSapiGetDeviceInfo
  cmdLen := 1
  stores := [req.param]

structure ReadConfigurationFormat where
  configId : UInt8

def zbReadConfiguration (req : ReadConfigurationFormat) : Cmd where
  cmd0 := mtRpcCmdSreq ||| mtRpcSysSapi
  cmd1 := mtSapiReadConfiguration
  cmdLen := 1
  stores := [req.configId]

/-- A call of a request function of `mtSapi.c`. -/
inductive SapiRequest
  | appRegisterReq (req : AppRegisterReqFormat)
  | permitJoiningReq (req : PermitJoiningReqFormat)
  | bindDevice (req : BindDeviceFormat)
  | allowBind (req : AllowBindFormat)
  | sendDataReq (req : SendDataReqFormat)
  | findDeviceReq (req : FindDeviceReqFormat)
  | writeConfiguration (req : WriteConfigurationFormat)
  | getDeviceInfo (req : GetDeviceInfoFormat)
  | readConfiguration (req : ReadConfigurationFormat)

/-- The buffer the function fills. -/
def SapiRequest.build : SapiRequest → Cmd
  | appRegisterReq req => zbAppRegisterReq req
  | permitJoiningReq req => zbPermitJoiningReq req
  | bindDevice req => zbBindDevice req
  | allowBind req => zbAllowBind req
  | sendDataReq req => zbSendDataReq req
  | findDeviceReq req => zbFindDeviceReq req
  | writeConfiguration req => zbWriteConfiguration req
  | getDeviceInfo req => zbGetDeviceInfo req
  | readConfiguration req => zbReadConfiguration req

end ZnpHost.Mt
