import ZnpHost.Mt.Builders
import ZnpHost.Mt.Fields

/-!
# Requests with lists are decodable

The payload of a request is the little-endian concatenation of its fields, and a decoder
that knows their kinds gets them back from it.  The index `cmInd` stays below 250 here, so
that every byte goes to a cell of its own.

## Main definitions

* `RegisterFormat.items` … `SendDataReqFormat.items` — the fields of each request in the
  order of their declaration, with the first elements of each list.
* `Decodable` — what is passed to `rpcSendFrame` is the encoding, and is decoded.
* `requests_decodable` — this holds of nine builders.
-/

namespace ZnpHost.Mt

open Lib Reader

/-! ## The fields of each request -/

/-- The first `n` words of an array. -/
def firstWords {size : ℕ} (a : Vector UInt16 size) (n : UInt8) : Item :=
  .u16s (a.toList.take n.toNat)

/-- The first `n` bytes of an array. -/
def firstBytes {size : ℕ} (a : Vector UInt8 size) (n : UInt8) : Item :=
  .u8s (a.toList.take n.toNat)

def RegisterFormat.items (req : RegisterFormat) : List Item :=
  [.u8 req.endPoint, .u16 req.appProfId, .u16 req.appDeviceId, .u8 req.appDevVer,
    .u8 req.latencyReq, .u8 req.appNumInClusters,
    firstWords req.appInClusterList req.appNumInClusters, .u8 req.appNumOutClusters,
    firstWords req.appOutClusterList req.appNumOutClusters]

def registerParts : List Part := [.u8, .u16, .u16, .u8, .u8, .listU16, .listU16]

def DataRequestFormat.items (req : DataRequestFormat) : List Item :=
  [.u16 req.dstAddr, .u8 req.dstEndpoint, .u8 req.srcEndpoint, .u16 req.clusterID,
    .u8 req.transID, .u8 req.options, .u8 req.radius, .u8 req.len, firstBytes req.data req.len]

def dataRequestParts : List Part := [.u16, .u8, .u8, .u16, .u8, .u8, .u8, .listU8]

def DataStoreFormat.items (req : DataStoreFormat) : List Item :=
  [.u16 req.index, .u8 req.length, firstBytes req.data req.length]

def dataStoreParts : List Part := [.u16, .listU8]

def MatchDescReqFormat.items (req : MatchDescReqFormat) : List Item :=
  [.u16 req.dstAddr, .u16 req.nwkAddrOfInterest, .u16 req.profileID, .u8 req.numInClusters,
    firstWords req.inClusterList req.numInClusters, .u8 req.numOutClusters,
    firstWords req.outClusterList req.numOutClusters]

def matchDescReqParts : List Part := [.u16, .u16, .u16, .listU16, .listU16]

def EndDeviceBindReqFormat.items (req : EndDeviceBindReqFormat) : List Item :=
  [.u16 req.dstAddr, .u16 req.localCoordinator, .u8s req.coordinatorIEEE.toList,
    .u8 req.endPoint, .u16 req.profileID, .u8 req.numInClusters,
    firstWords req.inClusterList req.numInClusters, .u8 req.numOutClusters,
    firstWords req.outClusterList req.numOutClusters]

def endDeviceBindReqParts : List Part :=
  [.u16, .u16, .u8s 8, .u8, .u16, .listU16, .listU16]

def UserDescSetFormat.items (req : UserDescSetFormat) : List Item :=
  [.u16 req.dstAddr, .u16 req.nwkAddrOfInterest, .u8 req.len,
    firstBytes req.userDescriptor req.len]

def userDescSetParts : List Part := [.u16, .u16, .listU8]

def OsalNvWriteFormat.items (req : OsalNvWriteFormat) : List Item :=
  [.u16 req.id, .u8 req.offset, .u8 req.len, firstBytes req.value req.len]

def osalNvWriteParts : List Part := [.u16, .u8, .listU8]

def OsalNvItemInitFormat.items (req : OsalNvItemInitFormat) : List Item :=
  [.u16 req.id, .u16 req.itemLen, .u8 req.initLen, firstBytes req.initData req.initLen]

def osalNvItemInitParts : List Part := [.u16, .u16, .listU8]

def SendDataReqFormat.items (req : SendDataReqFormat) : List Item :=
  [.u16 req.destination, .u16 req.commandId, .u8 req.handle, .u8 req.ack, .u8 req.radius,
    .u8 req.len, firstBytes req.data req.len]

def sendDataReqParts : List Part := [.u16, .u16, .u8, .u8, .u8, .listU8]

/-! ## Rules -/

/-- What a builder stores for a word is its encoding. -/
theorem leBytes_two (a : UInt16) : leBytes 2 a.toNat = [loUint16 a, hiUint16 a] :=
  (loHi_eq_leBytes a).symm

theorem length_take_toList {α : Type} {size : ℕ} (a : Vector α size) {n : UInt8}
    (h : n.toNat ≤ size) : (a.toList.take n.toNat).length = n.toNat := by
  rw [List.length_take, Vector.length_toList]
  omega

theorem Shapes.firstBytes {size : ℕ} (a : Vector UInt8 size) {n : UInt8} (h : n.toNat ≤ size)
    {ps : List Part} {items : List Item} (hrest : Shapes ps items) :
    Shapes (.listU8 :: ps) (.u8 n :: Mt.firstBytes a n :: items) :=
  .listU8 (length_take_toList a h) hrest

theorem Shapes.firstWords {size : ℕ} (a : Vector UInt16 size) {n : UInt8} (h : n.toNat ≤ size)
    {ps : List Part} {items : List Item} (hrest : Shapes ps items) :
    Shapes (.listU16 :: ps) (.u8 n :: Mt.firstWords a n :: items) :=
  .listU16 (length_take_toList a h) hrest

/-- The payload passed to `rpcSendFrame` is the encoding of the fields, is short enough for
a frame, and is decoded to the fields; the stores go to consecutive cells. -/
structure Decodable {ρ : Type} (build : ρ → Cmd) (items : ρ → List Item) (d : Reader (List Item)) :
    Prop where
  encoded : ∀ req block, (build req).passed block = encode (items req)
  recovered : ∀ req block, d.parse ((build req).passed block) = some (items req, [])
  short : ∀ req block, ((build req).passed block).length ≤ 250
  consecutive : ∀ req, (build req).indices = List.range (build req).stores.length

theorem Decodable.of_shapes {ρ : Type} {build : ρ → Cmd} {items : ρ → List Item}
    {parts : List Part} (hstores : ∀ req, (build req).stores = encode (items req))
    (hshapes : ∀ req, Shapes parts (items req))
    (hcount : ∀ req, (build req).stores.length = (build req).cmdLen)
    (hle : ∀ req, (build req).cmdLen ≤ 250) : Decodable build items (readParts parts) := by
  have hpassed : ∀ req block, (build req).passed block = (build req).stores := by
    intro req block
    exact (build req).passed_eq_stores (hcount req) (Nat.le_trans (hle req) (by decide)) block
  constructor
  · intro req block
    rw [hpassed, hstores]
  · intro req block
    rw [hpassed, hstores]
    exact (undoes_readParts (hshapes req)).parse_eq
  · intro req block
    rw [hpassed, hcount]
    exact hle req
  · intro req
    apply Cmd.indices_eq_range
    rw [hcount]
    exact Nat.le_trans (hle req) (by decide)

/-! ## The builders -/

theorem decodable_afRegister :
    Decodable afRegister RegisterFormat.items (readParts registerParts) := by
  apply Decodable.of_shapes
  · intro req
    simp [afRegister, RegisterFormat.items, firstWords, encode, Item.encode, leBytes_two, words]
  · intro req
    exact .u8 _ (.u16 _ (.u16 _ (.u8 _ (.u8 _ (.firstWords _ req.appNumInClusters_le
      (.firstWords _ req.appNumOutClusters_le .nil))))))
  · intro req
    exact (AfRequest.count (.register req)).mpr not_false
  · intro req
    have hin := req.appNumInClusters_le
    have hout := req.appNumOutClusters_le
    simp only [afRegister]
    omega

theorem decodable_afDataRequest :
    Decodable afDataRequest DataRequestFormat.items (readParts dataRequestParts) := by
  apply Decodable.of_shapes
  · intro req
    simp [afDataRequest, DataRequestFormat.items, firstBytes, encode, Item.encode, leBytes_two,
      bytes]
  · intro req
    exact .u16 _ (.u8 _ (.u8 _ (.u16 _ (.u8 _ (.u8 _ (.u8 _
      (.firstBytes _ req.len_le .nil)))))))
  · intro req
    exact (AfRequest.count (.dataRequest req)).mpr not_false
  · intro req
    have hlen := req.len_le
    simp only [afDataRequest]
    omega

theorem decodable_afDataStore :
    Decodable afDataStore DataStoreFormat.items (readParts dataStoreParts) := by
  apply Decodable.of_shapes
  · intro req
    simp [afDataStore, DataStoreFormat.items, firstBytes, encode, Item.encode, leBytes_two, bytes]
  · intro req
    exact .u16 _ (.firstBytes _ req.length_le .nil)
  · intro req
    exact (AfRequest.count (.dataStore req)).mpr not_false
  · intro req
    have hlength := req.length_le
    simp only [afDataStore]
    omega

theorem decodable_zdoMatchDescReq :
    Decodable zdoMatchDescReq MatchDescReqFormat.items (readParts matchDescReqParts) := by
  apply Decodable.of_shapes
  · intro req
    simp [zdoMatchDescReq, MatchDescReqFormat.items, firstWords, encode, Item.encode,
      leBytes_two, words]
  · intro req
    exact .u16 _ (.u16 _ (.u16 _ (.firstWords _ req.numInClusters_le
      (.firstWords _ req.numOutClusters_le .nil))))
  · intro req
    exact (ZdoRequest.count (.matchDescReq req)).mpr not_false
  · intro req
    have hin := req.numInClusters_le
    have hout := req.numOutClusters_le
    simp only [zdoMatchDescReq]
    omega

theorem decodable_zdoEndDeviceBindReq :
    Decodable zdoEndDeviceBindReq EndDeviceBindReqFormat.items
      (readParts endDeviceBindReqParts) := by
  apply Decodable.of_shapes
  · intro req
    have hieee : req.coordinatorIEEE.toList.take 8 = req.coordinatorIEEE.toList :=
      List.take_of_length_le (by simp)
    simp [zdoEndDeviceBindReq, EndDeviceBindReqFormat.items, firstWords, encode, Item.encode,
      leBytes_two, words, bytes, hieee]
  · intro req
    exact .u16 _ (.u16 _ (.u8s Vector.length_toList (.u8 _ (.u16 _
      (.firstWords _ req.numInClusters_le (.firstWords _ req.numOutClusters_le .nil))))))
  · intro req
    exact (ZdoRequest.count (.endDeviceBindReq req)).mpr not_false
  · intro req
    have hin := req.numInClusters_le
    have hout := req.numOutClusters_le
    simp only [zdoEndDeviceBindReq]
    omega

theorem decodable_zdoUserDescSet :
    Decodable zdoUserDescSet UserDescSetFormat.items (readParts userDescSetParts) := by
  apply Decodable.of_shapes
  · intro req
    simp [zdoUserDescSet, UserDescSetFormat.items, firstBytes, encode, Item.encode, leBytes_two,
      bytes]
  · intro req
    exact .u16 _ (.u16 _ (.firstBytes _ req.len_le .nil))
  · intro req
    exact (ZdoRequest.count (.userDescSet req)).mpr not_false
  · intro req
    have hlen := req.len_le
    simp only [zdoUserDescSet]
    omega

theorem decodable_sysOsalNvWrite :
    Decodable sysOsalNvWrite OsalNvWriteFormat.items (readParts osalNvWriteParts) := by
  apply Decodable.of_shapes
  · intro req
    simp [sysOsalNvWrite, OsalNvWriteFormat.items, firstBytes, encode, Item.encode, leBytes_two,
      bytes]
  · intro req
    exact .u16 _ (.u8 _ (.firstBytes _ req.len_le .nil))
  · intro req
    exact (SysRequest.count (.osalNvWrite req)).mpr not_false
  · intro req
    have hlen := req.len_le
    simp only [sysOsalNvWrite]
    omega

theorem decodable_sysOsalNvItemInit :
    Decodable sysOsalNvItemInit OsalNvItemInitFormat.items (readParts osalNvItemInitParts) := by
  apply Decodable.of_shapes
  · intro req
    simp [sysOsalNvItemInit, OsalNvItemInitFormat.items, firstBytes, encode, Item.encode,
      leBytes_two, bytes]
  · intro req
    exact .u16 _ (.u16 _ (.firstBytes _ req.initLen_le .nil))
  · intro req
    exact (SysRequest.count (.osalNvItemInit req)).mpr not_false
  · intro req
    have hlen := req.initLen_le
    simp only [sysOsalNvItemInit]
    omega

theorem decodable_zbSendDataReq :
    Decodable zbSendDataReq SendDataReqFormat.items (readParts sendDataReqParts) := by
  apply Decodable.of_shapes
  · intro req
    simp [zbSendDataReq, SendDataReqFormat.items, firstBytes, encode, Item.encode, leBytes_two,
      bytes]
  · intro req
    exact .u16 _ (.u16 _ (.u8 _ (.u8 _ (.u8 _ (.firstBytes _ req.len_le .nil)))))
  · intro req
    exact (SapiRequest.count (.sendDataReq req)).mpr not_false
  · intro req
    have hlen := req.len_le
    simp only [zbSendDataReq]
    omega

/-- **Requests with lists are decodable**: each of the nine payloads is the encoding of the
fields, fits into a frame, and is decoded to every scalar and the first elements of every
list. -/
theorem requests_decodable :
    Decodable afRegister RegisterFormat.items (readParts registerParts) ∧
    Decodable afDataRequest DataRequestFormat.items (readParts dataRequestParts) ∧
    Decodable afDataStore DataStoreFormat.items (readParts dataStoreParts) ∧
    Decodable zdoMatchDescReq MatchDescReqFormat.items (readParts matchDescReqParts) ∧
    Decodable zdoEndDeviceBindReq EndDeviceBindReqFormat.items
      (readParts endDeviceBindReqParts) ∧
    Decodable zdoUserDescSet UserDescSetFormat.items (readParts userDescSetParts) ∧
    Decodable sysOsalNvWrite OsalNvWriteFormat.items (readParts osalNvWriteParts) ∧
    Decodable sysOsalNvItemInit OsalNvItemInitFormat.items (readParts osalNvItemInitParts) ∧
    Decodable zbSendDataReq SendDataReqFormat.items (readParts sendDataReqParts) :=
  ⟨decodable_afRegister, decodable_afDataRequest, decodable_afDataStore,
    decodable_zdoMatchDescReq, decodable_zdoEndDeviceBindReq, decodable_zdoUserDescSet,
    decodable_sysOsalNvWrite, decodable_sysOsalNvItemInit, decodable_zbSendDataReq⟩

end ZnpHost.Mt
