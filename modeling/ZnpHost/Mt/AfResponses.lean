import ZnpHost.Mt.Words

/-!
# AF messages from the device

The response structures of `mtAf.h` and the decoders of `mtAf.c`.

## Main definitions

* `processDataRetrieveSrsp` — the decoder of the SRSP.
* `processDataConfirm` … `processReflectError` — the decoders of the indications.
* `afSrspTable`, `afAreqTable` — the callback and the decoder of a command.
-/

namespace ZnpHost.Mt

open Lib Reader

structure DataConfirmFormat where
  status : UInt8
  endpoint : UInt8
  transId : UInt8

def processDataConfirm : Reader DataConfirmFormat := do
  let status ← byte
  let endpoint ← byte
  let transId ← byte
  return { status, endpoint, transId }

structure IncomingMsgFormat where
  groupId : UInt16
  clusterId : UInt16
  srcAddr : UInt16
  srcEndpoint : UInt8
  dstEndpoint : UInt8
  wasVroadcast : UInt8
  linkQuality : UInt8
  securityUse : UInt8
  timeStamp : UInt32
  transSeqNum : UInt8
  len : UInt8
  data : CArray 99 UInt8

def processIncomingMsg (rpcLen : UInt8) : Reader IncomingMsgFormat := do
  let groupId ← word
  let clusterId ← word
  let srcAddr ← word
  let srcEndpoint ← byte
  let dstEndpoint ← byte
  let wasVroadcast ← byte
  let linkQuality ← byte
  let securityUse ← byte
  let timeStamp ← dword
  let transSeqNum ← byte
  let len ← byte
  let data ← listIf (rpcLen > 17) len.toNat byte
  return {
    groupId, clusterId, srcAddr, srcEndpoint, dstEndpoint, wasVroadcast, linkQuality,
    securityUse, timeStamp, transSeqNum, len, data }

structure IncomingMsgExtFormat where
  groupId : UInt16
  clusterId : UInt16
  srcAddrMode : UInt8
  srcAddr : UInt64
  srcEndpoint : UInt8
  srcPanId : UInt16
  dstEndpoint : UInt8
  wasVroadcast : UInt8
  linkQuality : UInt8
  securityUse : UInt8
  timeStamp : UInt32
  transSeqNum : UInt8
  len : UInt8
  data : CArray 99 UInt8

/-- Round `i` of the loop over the source address, which always takes eight bytes. -/
def srcAddrRound (srcAddrMode : UInt8) (i : ℕ) (srcAddr : UInt64) : Reader UInt64 := do
  -- the code moves the index past a byte it does not need without looking at it
  let b ← byte
  if (srcAddrMode = 2 ∧ i < 2) ∨ srcAddrMode = 3 then
    return srcAddr ||| (b.toUInt64 <<< UInt64.ofNat (i * 8))
  else
    return srcAddr

def processIncomingMsgExt : Reader IncomingMsgExtFormat := do
  let groupId ← word
  let clusterId ← word
  let srcAddrMode ← byte
  let srcAddr ← loop (srcAddrRound srcAddrMode) 8 0 0
  let srcEndpoint ← byte
  let srcPanId ← word
  let dstEndpoint ← byte
  let wasVroadcast ← byte
  let linkQuality ← byte
  let securityUse ← byte
  let timeStamp ← dword
  let transSeqNum ← byte
  let len ← byte
  let data ← list len.toNat byte
  return {
    groupId, clusterId, srcAddrMode, srcAddr, srcEndpoint, srcPanId, dstEndpoint,
    wasVroadcast, linkQuality, securityUse, timeStamp, transSeqNum, len, data }

structure DataRetrieveSrspFormat where
  status : UInt8
  length : UInt8
  data : CArray 248 UInt8

def processDataRetrieveSrsp (rpcLen : UInt8) : Reader DataRetrieveSrspFormat := do
  let status ← byte
  let length ← byte
  let data ← listIf (rpcLen > 2) length.toNat byte
  return { status, length, data }

structure ReflectErrorFormat where
  status : UInt8
  endpoint : UInt8
  transId : UInt8
  dstAddrMode : UInt8
  dstAddr : UInt16

def processReflectError : Reader ReflectErrorFormat := do
  let status ← byte
  let endpoint ← byte
  let transId ← byte
  let dstAddrMode ← byte
  let dstAddr ← word
  return { status, endpoint, transId, dstAddrMode, dstAddr }

/-! ## Dispatch -/

def mtAfDataRetrieve : UInt8 := 0x12
def mtAfDataConfirm : UInt8 := 0x80
def mtAfIncomingMsg : UInt8 := 0x81
def mtAfIncomingMsgExt : UInt8 := 0x82
def mtAfReflectError : UInt8 := 0x83

/-- What an AF callback is given. -/
inductive AfIndication
  | dataRetrieve (rsp : DataRetrieveSrspFormat)
  | dataConfirm (rsp : DataConfirmFormat)
  | incomingMsg (rsp : IncomingMsgFormat)
  | incomingMsgExt (rsp : IncomingMsgExtFormat)
  | reflectError (rsp : ReflectErrorFormat)

/-- The callbacks of `mtAfCb_t`. -/
inductive AfCb
  | dataRetrieve | dataConfirm | incomingMsg | incomingMsgExt | reflectError
  deriving DecidableEq

/-- The cases of `processSrsp`. -/
def afSrspTable (rpcLen : UInt8) : List (UInt8 × AfCb × Reader AfIndication) :=
  [(mtAfDataRetrieve, .dataRetrieve, .dataRetrieve <$> processDataRetrieveSrsp rpcLen)]

/-- The cases of `afProcess` for messages other than SRSPs. -/
def afAreqTable (rpcLen : UInt8) : List (UInt8 × AfCb × Reader AfIndication) :=
  [(mtAfDataConfirm, .dataConfirm, .dataConfirm <$> processDataConfirm),
   (mtAfIncomingMsg, .incomingMsg, .incomingMsg <$> processIncomingMsg rpcLen),
   (mtAfIncomingMsgExt, .incomingMsgExt, .incomingMsgExt <$> processIncomingMsgExt),
   (mtAfReflectError, .reflectError, .reflectError <$> processReflectError)]

end ZnpHost.Mt
