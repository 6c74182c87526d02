import ZnpHost.Mt.Cmd
import ZnpHost.Mt.SysResponses
import ZnpHost.Rpc.Frame

/-!
# SYS requests

The request structures of `mtSys.h` and what the request functions of `mtSys.c` store.
A number of list elements is at most the size of its array, as a field of the structure.

## Main definitions

* `sysSetExtAddr` … `sysSetTxPower` — the builders that allocate a buffer.
* `SysRequest`, `SysRequest.build` — any of them.
-/

namespace ZnpHost.Mt

open Lib Rpc

def mtSysSetExtAddr : UInt8 := 0x03
def mtSysRamWrite : UInt8 := 0x06
def mtSysResetReq : UInt8 := 0x00
def mtSysOsalNvWrite : UInt8 := 0x09
def mtSysOsalNvItemInit : UInt8 := 0x07
def mtSysOsalNvDelete : UInt8 := 0x12
def mtSysOsalStartTimer : UInt8 := 0x0A
def mtSysOsalStopTimer : UInt8 := 0x0B
def mtSysSetTime : UInt8 := 0x10

structure SetExtAddrFormat where
  extAddr : Vector UInt8 8

def sysSetExtAddr (req : SetExtAddrFormat) : Cmd where
  cmd0 := mtRpcCmdSreq ||| mtRpcSysSys
  cmd1 := mtSysSetExtAddr
  cmdLen := 8
  stores := bytes req.extAddr 8

structure RamReadFormat where
  address : UInt16
  len : UInt8

def sysRamRead (req : RamReadFormat) : Cmd where
  cmd0 := mtRpcCmdSreq ||| mtRpcSysSys
  cmd1 := mtSysRamRead
  cmdLen := 3
  stores := [loUint16 req.address, hiUint16 req.address, req.len]

structure RamWriteFormat where
  address : UInt16
  len : UInt8
  value : Vector UInt8 128
  len_le : len.toNat ≤ 128

def sysRamWrite (req : RamWriteFormat) : Cmd where
  cmd0 := mtRpcCmdSreq ||| mtRpcSysSys
  cmd1 := mtSysRamWrite
  cmdLen := 4 + req.len.toNat
  stores := [loUint16 req.address, hiUint16 req.address, req.len] ++
    bytes req.value req.len.toNat

structure ResetReqFormat where
  type : UInt8

def sysResetReq (req : ResetReqFormat) : Cmd where
  cmd0 := mtRpcCmdAreq ||| mtRpcSysSys
  cmd1 := mtSysResetReq
  cmdLen := 1
  stores := [req.type]

structure OsalNvReadFormat where
  id : UInt16
  offset : UInt8

def sysOsalNvRead (req : OsalNvReadFormat) : Cmd where
  cmd0 := mtRpcCmdSreq ||| mtRpcSysSys
  cmd1 := mtSysOsalNvRead
  cmdLen := 3
  stores := [loUint16 req.id, hiUint16 req.id, req.offset]

structure OsalNvWriteFormat where
  id : UInt16
  offset : UInt8
  len : UInt8
  value : Vector UInt8 246
  len_le : len.toNat ≤ 246

def sysOsalNvWrite (req : OsalNvWriteFormat) : Cmd where
  cmd0 := mtRpcCmdSreq ||| mtRpcSysSys
  cmd1 := mtSysOsalNvWrite
  cmdLen := 4 + req.len.toNat
  stores := [loUint16 req.id, hiUint16 req.id, req.offset, req.len] ++
    bytes req.value req.len.toNat

structure OsalNvItemInitFormat where
  id : UInt16
  itemLen : UInt16
  initLen : UInt8
  initData : Vector UInt8 245
  initLen_le : initLen.toNat ≤ 245

def sysOsalNvItemInit (req : OsalNvItemInitFormat) : Cmd where
  cmd0 := mtRpcCmdSreq ||| mtRpcSysSys
  cmd1 := mtSysOsalNvItemInit
  cmdLen := 5 + req.initLen.toNat
  stores :=
    [loUint16 req.id, hiUint16 req.id, loUint16 req.itemLen, hiUint16 req.itemLen, req.initLen] ++
    bytes req.initData req.initLen.toNat

structure OsalNvDeleteFormat where
  id : UInt16
  itemLen : UInt16

def sysOsalNvDelete (req : OsalNvDeleteFormat) : Cmd where
  cmd0 := mtRpcCmdSreq ||| mtRpcSysSys
  cmd1 := mtSysOsalNvDelete
  cmdLen := 4
  stores := [loUint16 req.id, hiUint16 req.id, loUint16 req.itemLen, hiUint16 req.itemLen]

structure OsalNvLengthFormat where
  id : UInt16

def sysOsalNvLength (req : OsalNvLengthFormat) : Cmd where
  cmd0 := mtRpcCmdSreq ||| mtRpcSysSys
  cmd1 := mtSysOsalNvLength
  cmdLen := 2
  stores := [loUint16 req.id, hiUint16 req.id]

structure OsalStartTimerFormat where
  id : UInt8
  timeout : UInt16

def sysOsalStartTimer (req : OsalStartTimerFormat) : Cmd where
  cmd0 := mtRpcCmdSreq ||| mtRpcSysSys
  cmd1 := mtSysOsalStartTimer
  cmdLen := 3
  stores := [req.id, loUint16 req.timeout, hiUint16 req.timeout]

structure OsalStopTimerFormat where
  id : UInt8

def sysOsalStopTimer (req : OsalStopTimerFormat) : Cmd where
  cmd0 := mtRpcCmdSreq ||| mtRpcSysSys
  cmd1 := mtSysOsalStopTimer
  cmdLen := 1
  stores := [req.id]

structure StackTuneFormat where
  operation : UInt8
  value : UInt8

def sysStackTune (req : StackTuneFormat) : Cmd where
  cmd0 := mtRpcCmdSreq ||| mtRpcSysSys
  cmd1 := mtSysStackTune
  cmdLen := 2
  stores := [req.operation, req.value]

structure AdcReadFormat where
  channel : UInt8
  resolution : UInt8

def sysAdcRead (req : AdcReadFormat) : Cmd where
  cmd0 := mtRpcCmdSreq ||| mtRpcSysSys
  cmd1 := mtSysAdcRead
  cmdLen := 2
  stores := [req.channel, req.resolution]

structure GpioFormat where
  operation : UInt8
  value : UInt8

def sysGpio (req : GpioFormat) : Cmd where
  cmd0 := mtRpcCmdSreq ||| mtRpcSysSys
  cmd1 := mtSysGpio
  cmdLen := 2
  stores := [req.operation, req.value]

structure SetTimeFormat where
  utcTime : Vector UInt8 4
  hour : UInt8
  minute : UInt8
  second : UInt8
  month : UInt8
  day : UInt8
  year : UInt16

def sysSetTime (req : SetTimeFormat) : Cmd where
  cmd0 := mtRpcCmdSreq ||| mtRpcSysSys
  cmd1 := mtSysSetTime
  cmdLen := 11
  stores := bytes req.utcTime 4 ++
    [req.hour, req.minute, req.second, req.month, req.day, loUint16 req.year, hiUint16 req.year]

structure SetTxPowerFormat where
  txPower : UInt8

def sysSetTxPower (req : SetTxPowerFormat) : Cmd where
  cmd0 := mtRpcCmdSreq ||| mtRpcSysSys
  cmd1 := mtSysSetTxPower
  cmdLen := 1
  stores := [req.txPower]

/-- A call of a request function of `mtSys.c`. -/
inductive SysRequest
  | setExtAddr (req : SetExtAddrFormat)
  | ramRead (req : RamReadFormat)
  | ramWrite (req : RamWriteFormat)
  | resetReq (req : ResetReqFormat)
  | osalNvRead (req : OsalNvReadFormat)
  | osalNvWrite (req : OsalNvWriteFormat)
  | osalNvItemInit (req : OsalNvItemInitFormat)
  | osalNvDelete (req : OsalNvDeleteFormat)
  | osalNvLength (req : OsalNvLengthFormat)
  | osalStartTimer (req : OsalStartTimerFormat)
  | osalStopTimer (req : OsalStopTimerFormat)
  | stackTune (req : StackTuneFormat)
  | adcRead (req : AdcReadFormat)
  | gpio (req : GpioFormat)
  | setTime (req : SetTimeFormat)
  | setTxPower (req : SetTxPowerFormat)

/-- The buffer the function fills. -/
def SysRequest.build : SysRequest → Cmd
  | setExtAddr req => sysSetExtAddr req
  | ramRead req => sysRamRead req
  | ramWrite req => sysRamWrite req
  | resetReq req => sysResetReq req
  | osalNvRead req => sysOsalNvRead req
  | osalNvWrite req => sysOsalNvWrite req
  | osalNvItemInit req => sysOsalNvItemInit req
  | osalNvDelete req => sysOsalNvDelete req
  | osalNvLength req => sysOsalNvLength req
  | osalStartTimer req => sysOsalStartTimer req
  | osalStopTimer req => sysOsalStopTimer req
  | stackTune req => sysStackTune req
  | adcRead req => sysAdcRead req
  | gpio req => sysGpio req
  | setTime req => sysSetTime req
  | setTxPower req => sysSetTxPower req

end ZnpHost.Mt
