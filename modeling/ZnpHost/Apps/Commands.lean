import ZnpHost.Lib.StructLayout

/-!
# The commands of the command line

The table that `InitCmds` fills, and the request structures to which `sendCmd` casts what was
entered.  Attributes and members are listed in the order of the source; the members of a
structure have the names of the attributes of its command.

## Main definitions

* `CmdAtt`, `Cmd`, `commands` — the table.
* `sendCmd` — the structure that the builder of a command gets.
* `commands_shape` — every attribute is a member of that structure, in its place.
-/

namespace ZnpHost.Apps

open Lib

/-! ## The table -/

/-- `cmdAtt_t`: a value of `size` bytes, or with `isList ≠ 0` fewer than `isList` values, whose
number is the attribute before. -/
structure CmdAtt where
  name : String
  size : ℕ
  isList : ℕ
  deriving DecidableEq

/-- `cmd_t` without its description; `attNum` is the number of attributes. -/
structure Cmd where
  cmdName : String
  atts : List CmdAtt

/-- `InitCmds`. -/
def commands : List Cmd :=
  [ ⟨"SYS_PING", []⟩,
    ⟨"SYS_SET_EXTADDR", [⟨"ExtAddr", 8, 0⟩]⟩,
    ⟨"SYS_GET_EXTADDR", []⟩,
    ⟨"SYS_RAM_READ", [⟨"Address", 2, 0⟩, ⟨"Len", 1, 0⟩]⟩,
    ⟨"SYS_RAM_WRITE", [⟨"Address", 2, 0⟩, ⟨"Len", 1, 0⟩, ⟨"Value", 1, 128⟩]⟩,
    ⟨"SYS_RESET_REQ", [⟨"Type", 1, 0⟩]⟩,
    ⟨"SYS_VERSION", []⟩,
    ⟨"SYS_OSAL_NV_READ", [⟨"Id", 2, 0⟩, ⟨"Offset", 1, 0⟩]⟩,
    ⟨"SYS_OSAL_NV_WRITE", [⟨"Id", 2, 0⟩, ⟨"Offset", 1, 0⟩, ⟨"Len", 1, 0⟩, ⟨"Value", 1, 246⟩]⟩,
    ⟨"SYS_OSAL_NV_ITEM_INIT",
      [⟨"Id", 2, 0⟩, ⟨"ItemLen", 2, 0⟩, ⟨"InitLen", 1, 0⟩, ⟨"InitData", 1, 245⟩]⟩,
    ⟨"SYS_OSAL_NV_DELETE", [⟨"Id", 2, 0⟩, ⟨"ItemLen", 2, 0⟩]⟩,
    ⟨"SYS_OSAL_NV_LENGTH", [⟨"Id", 2, 0⟩]⟩,
    ⟨"SYS_OSAL_START_TIMER", [⟨"Id", 1, 0⟩, ⟨"Timeout", 2, 0⟩]⟩,
    ⟨"SYS_OSAL_STOP_TIMER", [⟨"Id", 1, 0⟩]⟩,
    ⟨"SYS_STACK_TUNE", [⟨"Operation", 1, 0⟩, ⟨"Value", 1, 0⟩]⟩,
    ⟨"SYS_ADC_READ", [⟨"Channel", 1, 0⟩, ⟨"Resolution", 1, 0⟩]⟩,
    ⟨"SYS_GPIO", [⟨"Operation", 1, 0⟩, ⟨"Value", 1, 0⟩]⟩,
    ⟨"SYS_RANDOM", []⟩,
    ⟨"SYS_SET_TIME",
      [⟨"UTCTime", 4, 0⟩, ⟨"Hour", 1, 0⟩, ⟨"Minute", 1, 0⟩, ⟨"Second", 1, 0⟩, ⟨"Month", 1, 0⟩,
        ⟨"Day", 1, 0⟩, ⟨"Year", 2, 0⟩]⟩,
    ⟨"SYS_GET_TIME", []⟩,
    ⟨"SYS_SET_TX_POWER", [⟨"TxPower", 1, 0⟩]⟩,
    ⟨"AF_REGISTER",
      [⟨"EndPoint", 1, 0⟩, ⟨"AppProfId", 2, 0⟩, ⟨"AppDeviceId", 2, 0⟩, ⟨"AppDevVer", 1, 0⟩,
        ⟨"LatencyReq", 1, 0⟩, ⟨"AppNumInClusters", 1, 0⟩, ⟨"AppInClusterList", 2, 16⟩,
        ⟨"AppNumOutClusters", 1, 0⟩, ⟨"AppOutClusterList", 2, 16⟩]⟩,
    ⟨"AF_DATA_REQUEST",
      [⟨"DstAddr", 2, 0⟩, ⟨"DstEndpoint", 1, 0⟩, ⟨"SrcEndpoint", 1, 0⟩, ⟨"ClusterID", 2, 0⟩,
        ⟨"TransID", 1, 0⟩, ⟨"Options", 1, 0⟩, ⟨"Radius", 1, 0⟩, ⟨"Len", 1, 0⟩, ⟨"Data", 1, 128⟩]⟩,
    ⟨"AF_DATA_REQUEST_EXT",
      [⟨"DstAddrMode", 1, 0⟩, ⟨"DstAddr", 8, 0⟩, ⟨"DstEndpoint", 1, 0⟩, ⟨"DstPanID", 2, 0⟩,
        ⟨"SrcEndpoint", 1, 0⟩, ⟨"ClusterId", 2, 0⟩, ⟨"TransId", 1, 0⟩, ⟨"Options", 1, 0⟩,
        ⟨"Radius", 1, 0⟩, ⟨"Len", 2, 0⟩, ⟨"Data", 1, 230⟩]⟩,
    ⟨"AF_DATA_REQUEST_SRC_RTG",
      [⟨"DstAddr", 2, 0⟩, ⟨"DstEndpoint", 1, 0⟩, ⟨"SrcEndpoint", 1, 0⟩, ⟨"ClusterID", 2, 0⟩,
        ⟨"TransID", 1, 0⟩, ⟨"Options", 1, 0⟩, ⟨"Radius", 1, 0⟩, ⟨"RelayCount", 1, 0⟩,
        ⟨"RelayList", 2, 255⟩, ⟨"Len", 1, 0⟩, ⟨"Data", 1, 128⟩]⟩,
    ⟨"AF_INTER_PAN_CTL", [⟨"Command", 1, 0⟩, ⟨"Data", 1, 3⟩]⟩,
    ⟨"AF_DATA_STORE", [⟨"Index", 2, 0⟩, ⟨"Length", 1, 0⟩, ⟨"Data", 1, 247⟩]⟩,
    ⟨"AF_DATA_RETRIEVE", [⟨"TimeStamp", 4, 0⟩, ⟨"Index", 2, 0⟩, ⟨"Length", 1, 0⟩]⟩,
    ⟨"AF_APSF_CONFIG_SET", [⟨"Endpoint", 1, 0⟩, ⟨"FrameDelay", 1, 0⟩, ⟨"WindowSize", 1, 0⟩]⟩,
    ⟨"ZDO_NWK_ADDR_REQ", [⟨"IEEEAddress", 8, 0⟩, ⟨"ReqType", 1, 0⟩, ⟨"StartIndex", 1, 0⟩]⟩,
    ⟨"ZDO_IEEE_ADDR_REQ", [⟨"ShortAddr", 2, 0⟩, ⟨"ReqType", 1, 0⟩, ⟨"StartIndex", 1, 0⟩]⟩,
    ⟨"ZDO_NODE_DESC_REQ", [⟨"DstAddr", 2, 0⟩, ⟨"NwkAddrOfInterest", 2, 0⟩]⟩,
    ⟨"ZDO_POWER_DESC_REQ", [⟨"DstAddr", 2, 0⟩, ⟨"NwkAddrOfInterest", 2, 0⟩]⟩,
    ⟨"ZDO_SIMPLE_DESC_REQ", [⟨"DstAddr", 2, 0⟩, ⟨"NwkAddrOfInterest", 2, 0⟩, ⟨"Endpoint", 1, 0⟩]⟩,
    ⟨"ZDO_ACTIVE_EP_REQ", [⟨"DstAddr", 2, 0⟩, ⟨"NwkAddrOfInterest", 2, 0⟩]⟩,
    ⟨"ZDO_MATCH_DESC_REQ",
      [⟨"DstAddr", 2, 0⟩, ⟨"NwkAddrOfInterest", 2, 0⟩, ⟨"ProfileID", 2, 0⟩,
        ⟨"NumInClusters", 1, 0⟩, ⟨"InClusterList", 2, 16⟩, ⟨"NumOutClusters", 1, 0⟩,
        ⟨"OutClusterList", 2, 16⟩]⟩,
    ⟨"ZDO_COMPLEX_DESC_REQ", [⟨"DstAddr", 2, 0⟩, ⟨"NwkAddrOfInterest", 2, 0⟩]⟩,
    ⟨"ZDO_USER_DESC_REQ", [⟨"DstAddr", 2, 0⟩, ⟨"NwkAddrOfInterest", 2, 0⟩]⟩,
    ⟨"ZDO_DEVICE_ANNCE", [⟨"NWKAddr", 2, 0⟩, ⟨"IEEEAddr", 8, 0⟩, ⟨"Capabilities", 1, 0⟩]⟩,
    ⟨"ZDO_USER_DESC_SET",
      [⟨"DstAddr", 2, 0⟩, ⟨"NwkAddrOfInterest", 2, 0⟩, ⟨"Len", 1, 0⟩, ⟨"UserDescriptor", 1, 16⟩]⟩,
    ⟨"ZDO_SERVER_DISC_REQ", [⟨"ServerMask", 2, 0⟩]⟩,
    ⟨"ZDO_END_DEVICE_BIND_REQ",
      [⟨"DstAddr", 2, 0⟩, ⟨"LocalCoordinator", 2, 0⟩, ⟨"CoordinatorIEEE", 8, 0⟩,
        ⟨"EndPoint", 1, 0⟩, ⟨"ProfileID", 2, 0⟩, ⟨"NumInClusters", 1, 0⟩,
        ⟨"InClusterList", 2, 16⟩, ⟨"NumOutClusters", 1, 0⟩, ⟨"OutClusterList", 2, 16⟩]⟩,
    ⟨"ZDO_BIND_REQ",
      [⟨"DstAddr", 2, 0⟩, ⟨"SrcAddress", 8, 0⟩, ⟨"SrcEndpoint", 1, 0⟩, ⟨"ClusterID", 2, 0⟩,
        ⟨"DstAddrMode", 1, 0⟩, ⟨"DstAddress", 8, 0⟩, ⟨"DstEndpoint", 1, 0⟩]⟩,
    ⟨"ZDO_UNBIND_REQ",
      [⟨"DstAddr", 2, 0⟩, ⟨"SrcAddress", 8, 0⟩, ⟨"SrcEndpoint", 1, 0⟩, ⟨"ClusterID", 2, 0⟩,
        ⟨"DstAddrMode", 1, 0⟩, ⟨"DstAddress", 8, 0⟩, ⟨"DstEndpoint", 1, 0⟩]⟩,
    ⟨"ZDO_MGMT_NWK_DISC_REQ",
      [⟨"DstAddr", 2, 0⟩, ⟨"ScanChannels", 4, 0⟩, ⟨"ScanDuration", 1, 0⟩, ⟨"StartIndex", 1, 0⟩]⟩,
    ⟨"ZDO_MGMT_LQI_REQ", [⟨"DstAddr", 2, 0⟩, ⟨"StartIndex", 1, 0⟩]⟩,
    ⟨"ZDO_MGMT_RTG_REQ", [⟨"DstAddr", 2, 0⟩, ⟨"StartIndex", 1, 0⟩]⟩,
    ⟨"ZDO_MGMT_BIND_REQ", [⟨"DstAddr", 2, 0⟩, ⟨"StartIndex", 1, 0⟩]⟩,
    ⟨"ZDO_MGMT_LEAVE_REQ",
      [⟨"DstAddr", 2, 0⟩, ⟨"DeviceAddr", 8, 0⟩, ⟨"RemoveChildre_Rejoin", 1, 0⟩]⟩,
    ⟨"ZDO_MGMT_DIRECT_JOIN_REQ", [⟨"DstAddr", 2, 0⟩, ⟨"DeviceAddr", 8, 0⟩, ⟨"CapInfo", 1, 0⟩]⟩,
    ⟨"ZDO_MGMT_PERMIT_JOIN_REQ",
      [⟨"AddrMode", 1, 0⟩, ⟨"DstAddr", 2, 0⟩, ⟨"Duration", 1, 0⟩, ⟨"TCSignificance", 1, 0⟩]⟩,
    ⟨"ZDO_MGMT_NWK_UPDATE_REQ",
      [⟨"DstAddr", 2, 0⟩, ⟨"DstAddrMode", 1, 0⟩, ⟨"ChannelMask", 4, 0⟩, ⟨"ScanDuration", 1, 0⟩,
        ⟨"ScanCount", 1, 0⟩, ⟨"NwkManagerAddr", 2, 0⟩]⟩,
    ⟨"ZDO_STARTUP_FROM_APP", [⟨"StartDelay", 2, 0⟩]⟩,
    ⟨"ZDO_AUTO_FIND_DESTINATION", [⟨"Endpoint", 1, 0⟩]⟩,
    ⟨"ZDO_SET_LINK_KEY", [⟨"ShortAddr", 2, 0⟩, ⟨"IEEEaddr", 8, 0⟩, ⟨"LinkKeyData", 16, 0⟩]⟩,
    ⟨"ZDO_REMOVE_LINK_KEY", [⟨"IEEEaddr", 8, 0⟩]⟩,
    ⟨"ZDO_GET_LINK_KEY", [⟨"IEEEaddr", 8, 0⟩]⟩,
    ⟨"ZDO_NWK_DISCOVERY_REQ", [⟨"ScanChannels", 4, 0⟩, ⟨"ScanDuration", 1, 0⟩]⟩,
    ⟨"ZDO_JOIN_REQ",
      [⟨"LogicalChannel", 1, 0⟩, ⟨"PanID", 2, 0⟩, ⟨"ExtendedPanID", 8, 0⟩, ⟨"ChosenParent", 2, 0⟩,
        ⟨"ParentDepth", 1, 0⟩, ⟨"StackProfile", 1, 0⟩]⟩,
    ⟨"ZDO_MSG_CB_REGISTER", [⟨"ClusterID", 2, 0⟩]⟩,
    ⟨"ZDO_MSG_CB_REMOVE", [⟨"ClusterID", 2, 0⟩]⟩,
    ⟨"ZB_SYSTEM_RESET", []⟩,
    ⟨"ZB_APP_REGISTER_REQ",
      [⟨"AppEndpoint", 1, 0⟩, ⟨"AppProfileId", 2, 0⟩, ⟨"DeviceId", 2, 0⟩, ⟨"DeviceVersion", 1, 0⟩,
        ⟨"Unused", 1, 0⟩, ⟨"InputCommandsNum", 1, 0⟩, ⟨"InputCommandsList", 2, 255⟩,
        ⟨"OutputCommandsNum", 1, 0⟩, ⟨"OutputCommandsList", 2, 255⟩]⟩,
    ⟨"ZB_START_REQ", []⟩,
    ⟨"ZB_PERMIT_JOINING_REQ", [⟨"Destination", 2, 0⟩, ⟨"Timeout", 1, 0⟩]⟩,
    ⟨"ZB_BIND_DEVICE", [⟨"Create", 1, 0⟩, ⟨"CommandId", 2, 0⟩, ⟨"DstIeee", 8, 0⟩]⟩,
    ⟨"ZB_ALLOW_BIND", [⟨"Timeout", 1, 0⟩]⟩,
    ⟨"ZB_SEND_DATA_REQ",
      [⟨"Destination", 2, 0⟩, ⟨"CommandId", 2, 0⟩, ⟨"Handle", 1, 0⟩, ⟨"Ack", 1, 0⟩,
        ⟨"Radius", 1, 0⟩, ⟨"Len", 1, 0⟩, ⟨"Data", 1, 99⟩]⟩,
    ⟨"ZB_FIND_DEVICE_REQ", [⟨"SearchKey", 8, 0⟩]⟩,
    ⟨"ZB_WRITE_CONFIGURATION", [⟨"ConfigId", 1, 0⟩, ⟨"Len", 1, 0⟩, ⟨"Value", 1, 128⟩]⟩,
    ⟨"ZB_GET_DEVICE_INFO", [⟨"Param", 1, 0⟩]⟩,
    ⟨"ZB_READ_CONFIGURATION", [⟨"ConfigId", 1, 0⟩]⟩ ]

/-! ## The request structures -/

/-- A member of a request structure. -/
structure Field where
  name : String
  member : Member

/-- `uint8_t name`. -/
def uint8 (name : String) : Field := ⟨name, 1, 1⟩

/-- `uint16_t name`. -/
def uint16 (name : String) : Field := ⟨name, 2, 1⟩

/-- `uint8_t name[n]`. -/
def uint8s (name : String) (n : ℕ) : Field := ⟨name, 1, n⟩

/-- `uint16_t name[n]`. -/
def uint16s (name : String) (n : ℕ) : Field := ⟨name, 2, n⟩

def setExtAddrFormat : List Field := [uint8s "ExtAddr" 8]

def ramReadFormat : List Field := [uint16 "Address", uint8 "Len"]

def ramWriteFormat : List Field := [uint16 "Address", uint8 "Len", uint8s "Value" 128]

def resetReqFormat : List Field := [uint8 "Type"]

def osalNvReadFormat : List Field := [uint16 "Id", uint8 "Offset"]

def osalNvWriteFormat : List Field := [uint16 "Id", uint8 "Offset", uint8 "Len", uint8s "Value" 246]

def osalNvItemInitFormat : List Field :=
  [uint16 "Id", uint16 "ItemLen", uint8 "InitLen", uint8s "InitData" 245]

def osalNvDeleteFormat : List Field := [uint16 "Id", uint16 "ItemLen"]

def osalNvLengthFormat : List Field := [uint16 "Id"]

def osalStartTimerFormat : List Field := [uint8 "Id", uint16 "Timeout"]

def osalStopTimerFormat : List Field := [uint8 "Id"]

def stackTuneFormat : List Field := [uint8 "Operation", uint8 "Value"]

def adcReadFormat : List Field := [uint8 "Channel", uint8 "Resolution"]

def gpioFormat : List Field := [uint8 "Operation", uint8 "Value"]

def setTimeFormat : List Field :=
  [uint8s "UTCTime" 4, uint8 "Hour", uint8 "Minute", uint8 "Second", uint8 "Month", uint8 "Day",
   uint16 "Year"]

def setTxPowerFormat : List Field := [uint8 "TxPower"]

def registerFormat : List Field :=
  [uint8 "EndPoint", uint16 "AppProfId", uint16 "AppDeviceId", uint8 "AppDevVer",
   uint8 "LatencyReq", uint8 "AppNumInClusters", uint16s "AppInClusterList" 16,
   uint8 "AppNumOutClusters", uint16s "AppOutClusterList" 16]

def dataRequestFormat : List Field :=
  [uint16 "DstAddr", uint8 "DstEndpoint", uint8 "SrcEndpoint", uint16 "ClusterID",
   uint8 "TransID", uint8 "Options", uint8 "Radius", uint8 "Len", uint8s "Data" 128]

def dataRequestExtFormat : List Field :=
  [uint8 "DstAddrMode", uint8s "DstAddr" 8, uint8 "DstEndpoint", uint16 "DstPanID",
   uint8 "SrcEndpoint", uint16 "ClusterId", uint8 "TransId", uint8 "Options", uint8 "Radius",
   uint16 "Len", uint8s "Data" 230]

def dataRequestSrcRtgFormat : List Field :=
  [uint16 "DstAddr", uint8 "DstEndpoint", uint8 "SrcEndpoint", uint16 "ClusterID",
   uint8 "TransID", uint8 "Options", uint8 "Radius", uint8 "RelayCount", uint16s "RelayList" 255,
   uint8 "Len", uint8s "Data" 128]

def interPanCtlFormat : List Field := [uint8 "Command", uint8s "Data" 3]

def dataStoreFormat : List Field := [uint16 "Index", uint8 "Length", uint8s "Data" 247]

def dataRetrieveFormat : List Field := [uint8s "TimeStamp" 4, uint16 "Index", uint8 "Length"]

def apsfConfigSetFormat : List Field := [uint8 "Endpoint", uint8 "FrameDelay", uint8 "WindowSize"]

def nwkAddrReqFormat : List Field := [uint8s "IEEEAddress" 8, uint8 "ReqType", uint8 "StartIndex"]

def ieeeAddrReqFormat : List Field := [uint16 "ShortAddr", uint8 "ReqType", uint8 "StartIndex"]

def nodeDescReqFormat : List Field := [uint16 "DstAddr", uint16 "NwkAddrOfInterest"]

def powerDescReqFormat : List Field := [uint16 "DstAddr", uint16 "NwkAddrOfInterest"]

def simpleDescReqFormat : List Field :=
  [uint16 "DstAddr", uint16 "NwkAddrOfInterest", uint8 "Endpoint"]

def activeEpReqFormat : List Field := [uint16 "DstAddr", uint16 "NwkAddrOfInterest"]

def matchDescReqFormat : List Field :=
  [uint16 "DstAddr", uint16 "NwkAddrOfInterest", uint16 "ProfileID", uint8 "NumInClusters",
   uint16s "InClusterList" 16, uint8 "NumOutClusters", uint16s "OutClusterList" 16]

def complexDescReqFormat : List Field := [uint16 "DstAddr", uint16 "NwkAddrOfInterest"]

def userDescReqFormat : List Field := [uint16 "DstAddr", uint16 "NwkAddrOfInterest"]

def deviceAnnceFormat : List Field := [uint16 "NWKAddr", uint8s "IEEEAddr" 8, uint8 "Capabilities"]

def userDescSetFormat : List Field :=
  [uint16 "DstAddr", uint16 "NwkAddrOfInterest", uint8 "Len", uint8s "UserDescriptor" 16]

def serverDiscReqFormat : List Field := [uint16 "ServerMask"]

def endDeviceBindReqFormat : List Field :=
  [uint16 "DstAddr", uint16 "LocalCoordinator", uint8s "CoordinatorIEEE" 8, uint8 "EndPoint",
   uint16 "ProfileID", uint8 "NumInClusters", uint16s "InClusterList" 16, uint8 "NumOutClusters",
   uint16s "OutClusterList" 16]

def bindReqFormat : List Field :=
  [uint16 "DstAddr", uint8s "SrcAddress" 8, uint8 "SrcEndpoint", uint16 "ClusterID",
   uint8 "DstAddrMode", uint8s "DstAddress" 8, uint8 "DstEndpoint"]

def unbindReqFormat : List Field :=
  [uint16 "DstAddr", uint8s "SrcAddress" 8, uint8 "SrcEndpoint", uint16 "ClusterID",
   uint8 "DstAddrMode", uint8s "DstAddress" 8, uint8 "DstEndpoint"]

def mgmtNwkDiscReqFormat : List Field :=
  [uint16 "DstAddr", uint8s "ScanChannels" 4, uint8 "ScanDuration", uint8 "StartIndex"]

def mgmtLqiReqFormat : List Field := [uint16 "DstAddr", uint8 "StartIndex"]

def mgmtRtgReqFormat : List Field := [uint16 "DstAddr", uint8 "StartIndex"]

def mgmtBindReqFormat : List Field := [uint16 "DstAddr", uint8 "StartIndex"]

def mgmtLeaveReqFormat : List Field :=
  [uint16 "DstAddr", uint8s "DeviceAddr" 8, uint8 "RemoveChildre_Rejoin"]

def mgmtDirectJoinReqFormat : List Field :=
  [uint16 "DstAddr", uint8s "DeviceAddr" 8, uint8 "CapInfo"]

def mgmtPermitJoinReqFormat : List Field :=
  [uint8 "AddrMode", uint16 "DstAddr", uint8 "Duration", uint8 "TCSignificance"]

def mgmtNwkUpdateReqFormat : List Field :=
  [uint16 "DstAddr", uint8 "DstAddrMode", uint8s "ChannelMask" 4, uint8 "ScanDuration",
   uint8 "ScanCount", uint16 "NwkManagerAddr"]

def startupFromAppFormat : List Field := [uint16 "StartDelay"]

def autoFindDestinationFormat : List Field := [uint8 "Endpoint"]

def setLinkKeyFormat : List Field :=
  [uint16 "ShortAddr", uint8s "IEEEaddr" 8, uint8s "LinkKeyData" 16]

def removeLinkKeyFormat : List Field := [uint8s "IEEEaddr" 8]

def getLinkKeyFormat : List Field := [uint8s "IEEEaddr" 8]

def nwkDiscoveryReqFormat : List Field := [uint8s "ScanChannels" 4, uint8 "ScanDuration"]

def joinReqFormat : List Field :=
  [uint8 "LogicalChannel", uint16 "PanID", uint8s "ExtendedPanID" 8, uint16 "ChosenParent",
   uint8 "ParentDepth", uint8 "StackProfile"]

def msgCbRegisterFormat : List Field := [uint16 "ClusterID"]

def msgCbRemoveFormat : List Field := [uint16 "ClusterID"]

def appRegisterReqFormat : List Field :=
  [uint8 "AppEndpoint", uint16 "AppProfileId", uint16 "DeviceId", uint8 "DeviceVersion",
   uint8 "Unused", uint8 "InputCommandsNum", uint16s "InputCommandsList" 255,
   uint8 "OutputCommandsNum", uint16s "OutputCommandsList" 255]

def permitJoiningReqFormat : List Field := [uint16 "Destination", uint8 "Timeout"]

def bindDeviceFormat : List Field := [uint8 "Create", uint16 "CommandId", uint8s "DstIeee" 8]

def allowBindFormat : List Field := [uint8 "Timeout"]

def sendDataReqFormat : List Field :=
  [uint16 "Destination", uint16 "CommandId", uint8 "Handle", uint8 "Ack", uint8 "Radius",
   uint8 "Len", uint8s "Data" 99]

def findDeviceReqFormat : List Field := [uint8s "SearchKey" 8]

def writeConfigurationFormat : List Field := [uint8 "ConfigId", uint8 "Len", uint8s "Value" 128]

def getDeviceInfoFormat : List Field := [uint8 "Param"]

def readConfigurationFormat : List Field := [uint8 "ConfigId"]

/-- `sendCmd`: the members behind the pointer that the builder gets; the other commands have no
request. -/
def sendCmd : ℕ → List Field
  | 1 => setExtAddrFormat
  | 3 => ramReadFormat
  | 4 => ramWriteFormat
  | 5 => resetReqFormat
  | 7 => osalNvReadFormat
  | 8 => osalNvWriteFormat
  | 9 => osalNvItemInitFormat
  | 10 => osalNvDeleteFormat
  | 11 => osalNvLengthFormat
  | 12 => osalStartTimerFormat
  | 13 => osalStopTimerFormat
  | 14 => stackTuneFormat
  | 15 => adcReadFormat
  | 16 => gpioFormat
  | 18 => setTimeFormat
  | 20 => setTxPowerFormat
  | 21 => registerFormat
  | 22 => dataRequestFormat
  | 23 => dataRequestExtFormat
  | 24 => dataRequestSrcRtgFormat
  | 25 => interPanCtlFormat
  | 26 => dataStoreFormat
  | 27 => dataRetrieveFormat
  | 28 => apsfConfigSetFormat
  | 29 => nwkAddrReqFormat
  | 30 => ieeeAddrReqFormat
  | 31 => nodeDescReqFormat
  | 32 => powerDescReqFormat
  | 33 => simpleDescReqFormat
  | 34 => activeEpReqFormat
  | 35 => matchDescReqFormat
  | 36 => complexDescReqFormat
  | 37 => userDescReqFormat
  | 38 => deviceAnnceFormat
  | 39 => userDescSetFormat
  | 40 => serverDiscReqFormat
  | 41 => endDeviceBindReqFormat
  | 42 => bindReqFormat
  | 43 => unbindReqFormat
  | 44 => mgmtNwkDiscReqFormat
  | 45 => mgmtLqiReqFormat
  | 46 => mgmtRtgReqFormat
  | 47 => mgmtBindReqFormat
  | 48 => mgmtLeaveReqFormat
  | 49 => mgmtDirectJoinReqFormat
  | 50 => mgmtPermitJoinReqFormat
  | 51 => mgmtNwkUpdateReqFormat
  | 52 => startupFromAppFormat
  | 53 => autoFindDestinationFormat
  | 54 => setLinkKeyFormat
  | 55 => removeLinkKeyFormat
  | 56 => getLinkKeyFormat
  | 57 => nwkDiscoveryReqFormat
  | 58 => joinReqFormat
  | 59 => msgCbRegisterFormat
  | 60 => msgCbRemoveFormat
  | 62 => appRegisterReqFormat
  | 64 => permitJoiningReqFormat
  | 65 => bindDeviceFormat
  | 66 => allowBindFormat
  | 67 => sendDataReqFormat
  | 68 => findDeviceReqFormat
  | 69 => writeConfigurationFormat
  | 70 => getDeviceInfoFormat
  | 71 => readConfigurationFormat
  | _ => []

/-- The member that an attribute stands for. -/
def CmdAtt.toField (a : CmdAtt) : Field :=
  if a.isList ≠ 0 then ⟨a.name, a.size, a.isList⟩
  else if a.size ≤ 2 then ⟨a.name, a.size, 1⟩
  else ⟨a.name, 1, a.size⟩

/-- **The table and the structures agree**, name by name and size by size. -/
theorem commands_shape :
    commands.map (fun c => c.atts.map CmdAtt.toField) = (List.range 72).map sendCmd := rfl

end ZnpHost.Apps
