import ZnpHost.Mt.Words

/-!
# SAPI messages from the device

The response structures of `mtSapi.h` and the decoders of `mtSapi.c`.

## Main definitions

* `processReadConfigurationSrsp`, `processGetDeviceInfoSrsp` — the decoders of the SRSPs.
* `processFindDeviceCnf` … `processStartCnf` — the decoders of the indications.
* `sapiSrspTable`, `sapiAreqTable` — the callback and the decoder of a command.
-/

namespace ZnpHost.Mt

open Lib Reader

structure ReadConfigurationSrspFormat where
  status : UInt8
  configId : UInt8
  len : UInt8
  value : CArray 128 UInt8

def processReadConfigurationSrsp (rpcLen : UInt8) : Reader ReadConfigurationSrspFormat := do
  let status ← byte
  let configId ← byte
  let len ← byte
  let value ← listIf (rpcLen > 3) len.toNat byte
  return { status, configId, len, value }

structure GetDeviceInfoSrspFormat where
  param : UInt8
  value : CArray 8 UInt8

def processGetDeviceInfoSrsp : Reader GetDeviceInfoSrspFormat := do
  let param ← byte
  let value ← list 8 byte
  return { param, value }

structure FindDeviceCnfFormat where
  searchKey : UInt16
  result : UInt64

def processFindDeviceCnf : Reader FindDeviceCnfFormat := do
  let searchKey ← word
  let result ← qword
  return { searchKey, result }

structure SendDataCnfFormat where
  handle : UInt8
  status : UInt8

def processSendDataCnf : Reader SendDataCnfFormat := do
  let handle ← byte
  let status ← byte
  return { handle, status }

/-- The number of bytes is a 16-bit word. -/
structure ReceiveDataIndFormat where
  source : UInt16
  command : UInt16
  len : UInt16
  data : CArray 84 UInt8

def processReceiveDataInd (rpcLen : UInt8) : Reader ReceiveDataIndFormat := do
  let source ← word
  let command ← word
  let len ← word
  let data ← listIf (rpcLen > 6) len.toNat byte
  return { source, command, len, data }

structure AllowBindCnfFormat where
  source : UInt16

def processAllowBindCnf : Reader AllowBindCnfFormat := do
  let source ← word
  return { source }

structure BindCnfFormat where
  commandId : UInt16
  status : UInt8

def processBindCnf : Reader BindCnfFormat := do
  let commandId ← word
  let status ← byte
  return { commandId, status }

structure StartCnfFormat where
  status : UInt8

def processStartCnf : Reader StartCnfFormat := do
  let status ← byte
  return { status }

/-! ## Dispatch -/

def mtSapiReadConfiguration : UInt8 := 0x04
def mtSapiGetDeviceInfo : UInt8 := 0x06
def mtSapiFindDeviceCnf : UInt8 := 0x85
def mtSapiSendDataCnf : UInt8 := 0x83
def mtSapiReceiveDataInd : UInt8 := 0x87
def mtSapiAllowBindCnf : UInt8 := 0x82
def mtSapiBindCnf : UInt8 := 0x81
def mtSapiStartCnf : UInt8 := 0x80

/-- What a SAPI callback is given. -/
inductive SapiIndication
  | readConfiguration (rsp : ReadConfigurationSrspFormat)
  | getDeviceInfo (rsp : GetDeviceInfoSrspFormat)
  | findDeviceCnf (rsp : FindDeviceCnfFormat)
  | sendDataCnf (rsp : SendDataCnfFormat)
  | receiveDataInd (rsp : ReceiveDataIndFormat)
  | allowBindCnf (rsp : AllowBindCnfFormat)
  | bindCnf (rsp : BindCnfFormat)
  | startCnf (rsp : StartCnfFormat)

/-- The callbacks of `mtSapiCb_t`. -/
inductive SapiCb
  | readConfiguration | getDeviceInfo | findDeviceCnf | sendDataCnf | receiveDataInd
  | allowBindCnf | bindCnf | startCnf
  deriving DecidableEq

/-- The cases of `processSrsp`. -/
def sapiSrspTable (rpcLen : UInt8) : List (UInt8 × SapiCb × Reader SapiIndication) :=
  [(mtSapiReadConfiguration, .readConfiguration,
      .readConfiguration <$> processReadConfigurationSrsp rpcLen),
   (mtSapiGetDeviceInfo, .getDeviceInfo, .getDeviceInfo <$> processGetDeviceInfoSrsp)]

/-- The cases of `sapiProcess` for messages other than SRSPs. -/
def sapiAreqTable (rpcLen : UInt8) : List (UInt8 × SapiCb × Reader SapiIndication) :=
  [(mtSapiFindDeviceCnf, .findDeviceCnf, .findDeviceCnf <$> processFindDeviceCnf),
   (mtSapiSendDataCnf, .sendDataCnf, .sendDataCnf <$> processSendDataCnf),
   (mtSapiReceiveDataInd, .receiveDataInd, .receiveDataInd <$> processReceiveDataInd rpcLen),
   (mtSapiAllowBindCnf, .allowBindCnf, .allowBindCnf <$> processAllowBindCnf),
   (mtSapiBindCnf, .bindCnf, .bindCnf <$> processBindCnf),
   (mtSapiStartCnf, .startCnf, .startCnf <$> processStartCnf)]

end ZnpHost.Mt
