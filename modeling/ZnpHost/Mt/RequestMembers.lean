import ZnpHost.Lib.StructLayout
import ZnpHost.Mt.RequestFields

/-!
# Requests behind a pointer

A request function gets a pointer to its request.  Every member is read at its offset, a word
low byte first.  A structure with a list is given up here if its length is beyond the array.

## Main definitions

* `Ptr` — a pointer to a structure with known members.
* `Ptr.uint8`, `Ptr.uint16`, `Ptr.uint8s`, `Ptr.uint16s` — a member, by its kind.
* `RegisterFormat.ofPtr` … — the structures with many members or with lists.
* `bytes_uint8s`, `words_uint16s` — what a builder copies from a list is what stands there.
-/

namespace ZnpHost.Mt

open Lib

/-- A pointer to a structure. -/
structure Ptr where
  members : List Member
  mem : Mem

namespace Ptr

variable (r : Ptr)

/-- The bytes from member `j` on. -/
def field (j : ℕ) : Mem := r.mem.shift (offset r.members j)

def uint8 (j : ℕ) : UInt8 := r.field j 0

def uint16 (j : ℕ) : UInt16 := buildUint16 (r.field j 0) (r.field j 1)

def uint8s {n : ℕ} (j : ℕ) : Vector UInt8 n := .ofFn fun i => r.field j i

def uint16s {n : ℕ} (j : ℕ) : Vector UInt16 n :=
  .ofFn fun i => buildUint16 (r.field j (2 * i)) (r.field j (2 * i + 1))

end Ptr

/-! ## The structures -/

def RamWriteFormat.ofPtr (r : Ptr) : Option RamWriteFormat :=
  if h : (r.uint8 1).toNat ≤ 128 then some
    { address := r.uint16 0
      len := r.uint8 1
      value := r.uint8s 2
      len_le := h }
  else none

def OsalNvWriteFormat.ofPtr (r : Ptr) : Option OsalNvWriteFormat :=
  if h : (r.uint8 2).toNat ≤ 246 then some
    { id := r.uint16 0
      offset := r.uint8 1
      len := r.uint8 2
      value := r.uint8s 3
      len_le := h }
  else none

def OsalNvItemInitFormat.ofPtr (r : Ptr) : Option OsalNvItemInitFormat :=
  if h : (r.uint8 2).toNat ≤ 245 then some
    { id := r.uint16 0
      itemLen := r.uint16 1
      initLen := r.uint8 2
      initData := r.uint8s 3
      initLen_le := h }
  else none

def SetTimeFormat.ofPtr (r : Ptr) : SetTimeFormat where
  utcTime := r.uint8s 0
  hour := r.uint8 1
  minute := r.uint8 2
  second := r.uint8 3
  month := r.uint8 4
  day := r.uint8 5
  year := r.uint16 6

def RegisterFormat.ofPtr (r : Ptr) : Option RegisterFormat :=
  if h : (r.uint8 5).toNat ≤ 16 ∧ (r.uint8 7).toNat ≤ 16 then some
    { endPoint := r.uint8 0
      appProfId := r.uint16 1
      appDeviceId := r.uint16 2
      appDevVer := r.uint8 3
      latencyReq := r.uint8 4
      appNumInClusters := r.uint8 5
      appInClusterList := r.uint16s 6
      appNumOutClusters := r.uint8 7
      appOutClusterList := r.uint16s 8
      appNumInClusters_le := h.1
      appNumOutClusters_le := h.2 }
  else none

def DataRequestFormat.ofPtr (r : Ptr) : Option DataRequestFormat :=
  if h : (r.uint8 7).toNat ≤ 128 then some
    { dstAddr := r.uint16 0
      dstEndpoint := r.uint8 1
      srcEndpoint := r.uint8 2
      clusterID := r.uint16 3
      transID := r.uint8 4
      options := r.uint8 5
      radius := r.uint8 6
      len := r.uint8 7
      data := r.uint8s 8
      len_le := h }
  else none

def DataRequestExtFormat.ofPtr (r : Ptr) : Option DataRequestExtFormat :=
  if h : (r.uint16 9).toNat ≤ 230 then some
    { dstAddrMode := r.uint8 0
      dstAddr := r.uint8s 1
      dstEndpoint := r.uint8 2
      dstPanID := r.uint16 3
      srcEndpoint := r.uint8 4
      clusterId := r.uint16 5
      transId := r.uint8 6
      options := r.uint8 7
      radius := r.uint8 8
      len := r.uint16 9
      data := r.uint8s 10
      len_le := h }
  else none

def DataRequestSrcRtgFormat.ofPtr (r : Ptr) : Option DataRequestSrcRtgFormat :=
  if h : (r.uint8 9).toNat ≤ 128 then some
    { dstAddr := r.uint16 0
      dstEndpoint := r.uint8 1
      srcEndpoint := r.uint8 2
      clusterID := r.uint16 3
      transID := r.uint8 4
      options := r.uint8 5
      radius := r.uint8 6
      relayCount := r.uint8 7
      relayList := r.uint16s 8
      len := r.uint8 9
      data := r.uint8s 10
      len_le := h }
  else none

def InterPanCtlFormat.ofPtr (r : Ptr) : Option InterPanCtlFormat :=
  if h : (r.uint8 0).toNat ≤ 3 then some
    { command := r.uint8 0
      data := r.uint8s 1
      command_le := h }
  else none

def DataStoreFormat.ofPtr (r : Ptr) : Option DataStoreFormat :=
  if h : (r.uint8 1).toNat ≤ 247 then some
    { index := r.uint16 0
      length := r.uint8 1
      data := r.uint8s 2
      length_le := h }
  else none

def MatchDescReqFormat.ofPtr (r : Ptr) : Option MatchDescReqFormat :=
  if h : (r.uint8 3).toNat ≤ 16 ∧ (r.uint8 5).toNat ≤ 16 then some
    { dstAddr := r.uint16 0
      nwkAddrOfInterest := r.uint16 1
      profileID := r.uint16 2
      numInClusters := r.uint8 3
      inClusterList := r.uint16s 4
      numOutClusters := r.uint8 5
      outClusterList := r.uint16s 6
      numInClusters_le := h.1
      numOutClusters_le := h.2 }
  else none

def UserDescSetFormat.ofPtr (r : Ptr) : Option UserDescSetFormat :=
  if h : (r.uint8 2).toNat ≤ 16 then some
    { dstAddr := r.uint16 0
      nwkAddrOfInterest := r.uint16 1
      len := r.uint8 2
      userDescriptor := r.uint8s 3
      len_le := h }
  else none

def EndDeviceBindReqFormat.ofPtr (r : Ptr) : Option EndDeviceBindReqFormat :=
  if h : (r.uint8 5).toNat ≤ 16 ∧ (r.uint8 7).toNat ≤ 16 then some
    { dstAddr := r.uint16 0
      localCoordinator := r.uint16 1
      coordinatorIEEE := r.uint8s 2
      endPoint := r.uint8 3
      profileID := r.uint16 4
      numInClusters := r.uint8 5
      inClusterList := r.uint16s 6
      numOutClusters := r.uint8 7
      outClusterList := r.uint16s 8
      numInClusters_le := h.1
      numOutClusters_le := h.2 }
  else none

def BindReqFormat.ofPtr (r : Ptr) : BindReqFormat where
  dstAddr := r.uint16 0
  srcAddress := r.uint8s 1
  srcEndpoint := r.uint8 2
  clusterID := r.uint16 3
  dstAddrMode := r.uint8 4
  dstAddress := r.uint8s 5
  dstEndpoint := r.uint8 6

def MgmtNwkUpdateReqFormat.ofPtr (r : Ptr) : MgmtNwkUpdateReqFormat where
  dstAddr := r.uint16 0
  dstAddrMode := r.uint8 1
  channelMask := r.uint8s 2
  scanDuration := r.uint8 3
  scanCount := r.uint8 4
  nwkManagerAddr := r.uint16 5

def JoinReqFormat.ofPtr (r : Ptr) : JoinReqFormat where
  logicalChannel := r.uint8 0
  panID := r.uint16 1
  extendedPanID := r.uint8s 2
  chosenParent := r.uint16 3
  parentDepth := r.uint8 4
  stackProfile := r.uint8 5

def AppRegisterReqFormat.ofPtr (r : Ptr) : AppRegisterReqFormat where
  appEndpoint := r.uint8 0
  appProfileId := r.uint16 1
  deviceId := r.uint16 2
  deviceVersion := r.uint8 3
  unused := r.uint8 4
  inputCommandsNum := r.uint8 5
  inputCommandsList := r.uint16s 6
  outputCommandsNum := r.uint8 7
  outputCommandsList := r.uint16s 8

def SendDataReqFormat.ofPtr (r : Ptr) : Option SendDataReqFormat :=
  if h : (r.uint8 5).toNat ≤ 99 then some
    { destination := r.uint16 0
      commandId := r.uint16 1
      handle := r.uint8 2
      ack := r.uint8 3
      radius := r.uint8 4
      len := r.uint8 5
      data := r.uint8s 6
      len_le := h }
  else none

def WriteConfigurationFormat.ofPtr (r : Ptr) : Option WriteConfigurationFormat :=
  if h : (r.uint8 1).toNat ≤ 128 then some
    { configId := r.uint8 0
      len := r.uint8 1
      value := r.uint8s 2
      len_le := h }
  else none

/-! ## What the builders copy -/

theorem loUint16_buildUint16 (lo hi : UInt8) : loUint16 (buildUint16 lo hi) = lo := by
  apply UInt8.toNat_inj.mp
  have hlo := lo.toNat_lt
  rw [loUint16_eq, UInt8.toNat_ofNat', toNat_buildUint16]
  omega

theorem hiUint16_buildUint16 (lo hi : UInt8) : hiUint16 (buildUint16 lo hi) = hi := by
  apply UInt8.toNat_inj.mp
  have hlo := lo.toNat_lt
  have hhi := hi.toNat_lt
  rw [hiUint16_eq, UInt8.toNat_ofNat', toNat_buildUint16]
  omega

namespace Ptr

variable {r : Ptr} {n k : ℕ}

theorem toList_uint8s (j : ℕ) : (r.uint8s j : Vector UInt8 n).toList = (r.field j).take n := by
  apply List.ext_getElem
  · simp
  · intro i _ _
    simp [uint8s, Mem.take]

theorem bytes_uint8s (j : ℕ) (h : k ≤ n) :
    bytes (r.uint8s j : Vector UInt8 n) k = (r.field j).take k := by
  rw [bytes, toList_uint8s, Mem.take, Mem.take, ← List.map_take, List.take_range,
    Nat.min_eq_left h]

theorem words_uint16s (j : ℕ) (h : k ≤ n) :
    words (r.uint16s j : Vector UInt16 n) k = (r.field j).take (2 * k) := by
  have hlist : ((r.uint16s j : Vector UInt16 n).toList.take k) =
      (List.range k).map fun i =>
        buildUint16 (r.field j (2 * i)) (r.field j (2 * i + 1)) := by
    apply List.ext_getElem
    · simp [h]
    · intro i _ _
      simp [uint16s]
  rw [words, hlist]
  clear hlist h
  induction k with
  | zero => rfl
  | succ k ih =>
    rw [List.range_succ, List.map_append, List.flatMap_append, ih, Nat.mul_succ]
    simp [Mem.take, List.range_succ, loUint16_buildUint16, hiUint16_buildUint16]

/-- A word is its two bytes. -/
theorem toNat_uint16 (j : ℕ) : (r.uint16 j).toNat = leNat ((r.field j).take 2) := by
  rw [uint16, toNat_buildUint16]
  simp [Mem.take, List.range_succ, leNat]

end Ptr

end ZnpHost.Mt
