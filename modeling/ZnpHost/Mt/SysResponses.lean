import ZnpHost.Mt.Words

/-!
# SYS messages from the device

The response structures of `mtSys.h` and the decoders of `mtSys.c`.

## Main definitions

* `processPingSrsp` … `processSetTxPowerSrsp` — the decoders of the SRSPs.
* `processResetInd`, `processOsalTimerExpired` — the decoders of the indications.
* `sysSrspTable`, `sysAreqTable` — the callback and the decoder of a command.
-/

namespace ZnpHost.Mt

open Lib Reader

/-! ## Synchronous responses -/

structure PingSrspFormat where
  capabilities : UInt16

def processPingSrsp : Reader PingSrspFormat := do
  let capabilities ← word
  return { capabilities }

structure GetExtAddrSrspFormat where
  extAddr : UInt64

def processGetExtAddrSrsp : Reader GetExtAddrSrspFormat := do
  let extAddr ← qword
  return { extAddr }

structure RamReadSrspFormat where
  status : UInt8
  len : UInt8
  value : CArray 128 UInt8

def processRamReadSrsp (rpcLen : UInt8) : Reader RamReadSrspFormat := do
  let status ← byte
  let len ← byte
  let value ← listIf (rpcLen > 2) len.toNat byte
  return { status, len, value }

structure VersionSrspFormat where
  transportRev : UInt8
  product : UInt8
  majorRel : UInt8
  minorRel : UInt8
  maintRel : UInt8

def processVersionSrsp : Reader VersionSrspFormat := do
  let transportRev ← byte
  let product ← byte
  let majorRel ← byte
  let minorRel ← byte
  let maintRel ← byte
  return { transportRev, product, majorRel, minorRel, maintRel }

structure OsalNvReadSrspFormat where
  status : UInt8
  len : UInt8
  value : CArray 248 UInt8

def processOsalNvReadSrsp (rpcLen : UInt8) : Reader OsalNvReadSrspFormat := do
  let status ← byte
  let len ← byte
  let value ← listIf (rpcLen > 2) len.toNat byte
  return { status, len, value }

structure OsalNvLengthSrspFormat where
  itemLen : UInt16

def processOsalNvLengthSrsp : Reader OsalNvLengthSrspFormat := do
  let itemLen ← word
  return { itemLen }

structure StackTuneSrspFormat where
  value : UInt8

def processStackTuneSrsp : Reader StackTuneSrspFormat := do
  let value ← byte
  return { value }

structure AdcReadSrspFormat where
  value : UInt16

def processAdcReadSrsp : Reader AdcReadSrspFormat := do
  let value ← word
  return { value }

structure GpioSrspFormat where
  value : UInt8

def processGpioSrsp : Reader GpioSrspFormat := do
  let value ← byte
  return { value }

structure RandomSrspFormat where
  value : UInt16

def processRandomSrsp : Reader RandomSrspFormat := do
  let value ← word
  return { value }

structure GetTimeSrspFormat where
  utcTime : UInt32
  hour : UInt8
  minute : UInt8
  second : UInt8
  month : UInt8
  day : UInt8
  year : UInt16

def processGetTimeSrsp : Reader GetTimeSrspFormat := do
  let utcTime ← dword
  let hour ← byte
  let minute ← byte
  let second ← byte
  let month ← byte
  let day ← byte
  let year ← word
  return { utcTime, hour, minute, second, month, day, year }

structure SetTxPowerSrspFormat where
  txPower : UInt8

def processSetTxPowerSrsp : Reader SetTxPowerSrspFormat := do
  let txPower ← byte
  return { txPower }

/-! ## Indications -/

structure ResetIndFormat where
  reason : UInt8
  transportRev : UInt8
  productId : UInt8
  majorRel : UInt8
  minorRel : UInt8
  hwRev : UInt8

def processResetInd : Reader ResetIndFormat := do
  let reason ← byte
  let transportRev ← byte
  let productId ← byte
  let majorRel ← byte
  let minorRel ← byte
  let hwRev ← byte
  return { reason, transportRev, productId, majorRel, minorRel, hwRev }

structure OsalTimerExpiredFormat where
  id : UInt8

def processOsalTimerExpired : Reader OsalTimerExpiredFormat := do
  let id ← byte
  return { id }

/-! ## Dispatch -/

def mtSysPing : UInt8 := 0x01
def mtSysGetExtAddr : UInt8 := 0x04
def mtSysRamRead : UInt8 := 0x05
def mtSysVersion : UInt8 := 0x02
def mtSysOsalNvRead : UInt8 := 0x08
def mtSysOsalNvLength : UInt8 := 0x13
def mtSysStackTune : UInt8 := 0x0F
def mtSysAdcRead : UInt8 := 0x0D
def mtSysGpio : UInt8 := 0x0E
def mtSysRandom : UInt8 := 0x0C
def mtSysGetTime : UInt8 := 0x11
def mtSysSetTxPower : UInt8 := 0x14
def mtSysResetInd : UInt8 := 0x80
def mtSysOsalTimerExpired : UInt8 := 0x81

/-- What a SYS callback is given. -/
inductive SysIndication
  | ping (rsp : PingSrspFormat)
  | getExtAddr (rsp : GetExtAddrSrspFormat)
  | ramRead (rsp : RamReadSrspFormat)
  | version (rsp : VersionSrspFormat)
  | osalNvRead (rsp : OsalNvReadSrspFormat)
  | osalNvLength (rsp : OsalNvLengthSrspFormat)
  | stackTune (rsp : StackTuneSrspFormat)
  | adcRead (rsp : AdcReadSrspFormat)
  | gpio (rsp : GpioSrspFormat)
  | random (rsp : RandomSrspFormat)
  | getTime (rsp : GetTimeSrspFormat)
  | setTxPower (rsp : SetTxPowerSrspFormat)
  | resetInd (rsp : ResetIndFormat)
  | osalTimerExpired (rsp : OsalTimerExpiredFormat)

/-- The callbacks of `mtSysCb_t`. -/
inductive SysCb
  | ping | getExtAddr | ramRead | version | osalNvRead | osalNvLength | stackTune | adcRead
  | gpio | random | getTime | setTxPower | resetInd | osalTimerExpired
  deriving DecidableEq

/-- The cases of `processSrsp`. -/
def sysSrspTable (rpcLen : UInt8) : List (UInt8 × SysCb × Reader SysIndication) :=
  [(mtSysPing, .ping, .ping <$> processPingSrsp),
   (mtSysGetExtAddr, .getExtAddr, .getExtAddr <$> processGetExtAddrSrsp),
   (mtSysRamRead, .ramRead, .ramRead <$> processRamReadSrsp rpcLen),
   (mtSysVersion, .version, .version <$> processVersionSrsp),
   (mtSysOsalNvRead, .osalNvRead, .osalNvRead <$> processOsalNvReadSrsp rpcLen),
   (mtSysOsalNvLength, .osalNvLength, .osalNvLength <$> processOsalNvLengthSrsp),
   (mtSysStackTune, .stackTune, .stackTune <$> processStackTuneSrsp),
   (mtSysAdcRead, .adcRead, .adcRead <$> processAdcReadSrsp),
   (mtSysGpio, .gpio, .gpio <$> processGpioSrsp),
   (mtSysRandom, .random, .random <$> processRandomSrsp),
   (mtSysGetTime, .getTime, .getTime <$> processGetTimeSrsp),
   (mtSysSetTxPower, .setTxPower, .setTxPower <$> processSetTxPowerSrsp)]

/-- The cases of `sysProcess` for messages other than SRSPs. -/
def sysAreqTable : List (UInt8 × SysCb × Reader SysIndication) :=
  [(mtSysResetInd, .resetInd, .resetInd <$> processResetInd),
   (mtSysOsalTimerExpired, .osalTimerExpired, .osalTimerExpired <$> processOsalTimerExpired)]

end ZnpHost.Mt
