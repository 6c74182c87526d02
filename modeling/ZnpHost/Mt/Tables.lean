import ZnpHost.Mt.Decoding

/-!
# Tables in messages from the device

Four ZDO messages carry a number of records and as many records behind it.  Their decoders
read each byte of the payload once and store the records in order, and the frame is too
short for more records than the array holds.  The decoder of the binding table does not.

## Main definitions

* `TableHeader` — what comes before the number of records in the management responses.
* `TableFrame` — a frame with a table.
* `TableDecoded` — the callback is given the header and the records.
* `tables_decoded` — this holds of four messages.
* `bindingTableDecoded_iff` — for the binding table it holds only when there are no entries.
-/

namespace ZnpHost.Mt

open Lib Reader Rpc

variable {ρ κ β : Type} {size : ℕ}

/-! ## Frames -/

/-- Source address, status, number of entries and start index. -/
structure TableHeader where
  srcAddr : UInt16
  status : UInt8
  entries : UInt8
  startIndex : UInt8

/-- The header and the number of records behind it. -/
def TableHeader.encode (h : TableHeader) (count : UInt8) : List UInt8 :=
  leBytes 2 h.srcAddr.toNat ++ [h.status, h.entries, h.startIndex, count]

/-- A ZDO message whose payload is a header and some records. -/
structure TableFrame (f : MtFrame) (cmd1 : UInt8) (header : List UInt8) (enc : ρ → List UInt8)
    (records : List ρ) : Prop where
  cmd0 : f.cmd0 = mtRpcCmdAreq ||| mtRpcSysZdo
  cmd1 : f.cmd1 = cmd1
  payload : f.payload = header ++ records.flatMap enc

/-- The frame is decoded to `ind` of an array with these records, in one pass over the
payload, and the array has room for them. -/
structure TableDecoded (f : MtFrame) (cb : Cb) (ind : CArray size ρ → Indication)
    (records : List ρ) : Prop where
  result : ∀ registered rpcBuff, registered cb = true → Delivered f rpcBuff →
    ∃ table, mtProcess registered rpcBuff (rpcLen f) = some (ind table) ∧ table.InBounds ∧
      ∀ k (hk : k < records.length), table.cell k = some records[k]
  reads : ∀ registered rpcBuff, registered cb = true → Delivered f rpcBuff →
    mtReads registered rpcBuff (rpcLen f) = List.range' 2 f.payload.length
  room : records.length ≤ size

/-! ## Readers -/

/-- The fields of the header are read in front of the rest. -/
theorem parse_header {f : UInt16 → UInt8 → UInt8 → UInt8 → UInt8 → Reader β} (h : TableHeader)
    (count : UInt8) (bs : List UInt8) :
    (word >>= fun srcAddr => byte >>= fun status => byte >>= fun entries =>
      byte >>= fun startIndex => byte >>= fun n => f srcAddr status entries startIndex n).parse
        (h.encode count ++ bs) =
      (f h.srcAddr h.status h.entries h.startIndex count).parse bs := by
  rw [TableHeader.encode, List.append_assoc, parse_bind, undoes_word, Option.bind_some]
  simp only [List.cons_append, List.nil_append, parse_bind, parse_byte_cons, Option.bind_some]

/-- A straight decoder that undoes the payload computes what the callback is given. -/
theorem TableDecoded.of_undoes {f : MtFrame} {cb : ZdoCb} {d : Reader κ} {g : κ → ZdoIndication}
    {mk : CArray size ρ → κ} {records : List ρ}
    (hcb : handler f.cmd0 f.cmd1 (rpcLen f) = some (.zdo cb, .zdo <$> (g <$> d)))
    (hd : Undoes d f.payload (mk (.ofList records))) (hs : d.Straight)
    (hroom : records.length ≤ size) :
    TableDecoded f (.zdo cb) (fun table => .zdo (g (mk table))) records := by
  have hdecoded := DecodedTo.of_undoes hcb hd.fmap.fmap hs.fmap.fmap
  constructor
  · intro registered rpcBuff hreg hm
    exact ⟨.ofList records, hdecoded.result registered rpcBuff hreg hm,
      (CArray.inBounds_ofList records).mpr hroom, fun k hk => List.getElem?_eq_getElem hk⟩
  · exact hdecoded.reads
  · exact hroom

/-! ## Records -/

def NetworkListItemFormat.encode (r : NetworkListItemFormat) : List UInt8 :=
  leBytes 8 r.panID.toNat ++
    [r.logicalChannel, r.stackProfZigVer, r.beacOrdSupFramOrd, r.permitJoin]

def NeighborLqiListItemFormat.encode (r : NeighborLqiListItemFormat) : List UInt8 :=
  leBytes 8 r.extendedPanID.toNat ++ leBytes 8 r.extendedAddress.toNat ++
    leBytes 2 r.networkAddress.toNat ++
    [r.devTypRxOnWhenIdleRelat, r.permitJoining, r.depth, r.lqi]

def RoutingTableListItemFormat.encode (r : RoutingTableListItemFormat) : List UInt8 :=
  leBytes 2 r.dstAddr.toNat ++ [r.status] ++ leBytes 2 r.nextHop.toNat

def BeaconListItemFormat.encode (r : BeaconListItemFormat) : List UInt8 :=
  leBytes 2 r.srcAddr.toNat ++ leBytes 2 r.panId.toNat ++
    [r.logicalChannel, r.permitJoining, r.routerCap, r.devCap, r.protocolVer, r.stackProf, r.lqi,
      r.depth, r.updateId] ++ leBytes 8 r.extendedPanId.toNat

theorem undoes_networkListItem (r : NetworkListItemFormat) :
    Undoes networkListItem r.encode r := by
  simp [networkListItem, NetworkListItemFormat.encode]

theorem undoes_neighborLqiListItem (r : NeighborLqiListItemFormat) :
    Undoes neighborLqiListItem r.encode r := by
  simp [neighborLqiListItem, NeighborLqiListItemFormat.encode]

theorem undoes_routingTableListItem (r : RoutingTableListItemFormat) :
    Undoes routingTableListItem r.encode r := by
  simp [routingTableListItem, RoutingTableListItemFormat.encode]

theorem undoes_beaconListItem (r : BeaconListItemFormat) :
    Undoes beaconListItem r.encode r := by
  simp [beaconListItem, BeaconListItemFormat.encode]

theorem straight_networkListItem : networkListItem.Straight := by simp [networkListItem]

theorem straight_neighborLqiListItem : neighborLqiListItem.Straight := by
  simp [neighborLqiListItem]

theorem straight_routingTableListItem : routingTableListItem.Straight := by
  simp [routingTableListItem]

theorem straight_beaconListItem : beaconListItem.Straight := by simp [beaconListItem]

/-! ## The four messages -/

/-- The decoders of the management responses with a list of records. -/
def mgmtTable (rpcLen : UInt8) (item : Reader ρ)
    (mk : UInt16 → UInt8 → UInt8 → UInt8 → UInt8 → CArray size ρ → κ) : Reader κ := do
  let srcAddr ← word
  let status ← byte
  let entries ← byte
  let startIndex ← byte
  let count ← byte
  let table ← listIf (rpcLen > 6) count.toNat item
  return mk srcAddr status entries startIndex count table

section Messages

variable {f : MtFrame} {h : TableHeader} {count : UInt8}

theorem straight_mgmtTable {rpcLen : UInt8} {item : Reader ρ}
    {mk : UInt16 → UInt8 → UInt8 → UInt8 → UInt8 → CArray size ρ → κ} (hs : item.Straight) :
    (mgmtTable rpcLen item mk).Straight := by
  simp [mgmtTable, hs]

/-- What a management response with `m` bytes a record is decoded to. -/
theorem mgmtTable_decoded {item : Reader ρ} {enc : ρ → List UInt8} {m : ℕ} {cb : ZdoCb}
    {cmd1 : UInt8} {g : κ → ZdoIndication}
    {mk : UInt16 → UInt8 → UInt8 → UInt8 → UInt8 → CArray size ρ → κ} {records : List ρ}
    (hitem : ∀ r, Undoes item (enc r) r) (hs : item.Straight) (hm : ∀ r, (enc r).length = m)
    (hroom : 244 < (size + 1) * m)
    (hcb : ∀ l, handler (mtRpcCmdAreq ||| mtRpcSysZdo) cmd1 l =
      some (.zdo cb, .zdo <$> (g <$> mgmtTable l item mk)))
    (hcount : count.toNat = records.length)
    (hf : TableFrame f cmd1 (h.encode count) enc records) :
    TableDecoded f (.zdo cb) (fun table => .zdo (g (mk h.srcAddr h.status h.entries h.startIndex
      count table))) records := by
  have hle := f.payload_le
  have hlen : f.payload.length = 6 + records.length * m := by
    rw [hf.payload, List.length_append, length_flatMap_const hm]
    simp [TableHeader.encode]
  have hsix : (6 : UInt8).toNat = 6 := rfl
  have hgt : rpcLen f > 6 := lt_rpcLenOf hle (by omega)
  have hhandler := hcb (rpcLen f)
  rw [← hf.cmd0, ← hf.cmd1] at hhandler
  apply TableDecoded.of_undoes hhandler
  · intro rest
    rw [hf.payload, List.append_assoc, mgmtTable, parse_header, hcount]
    exact (undoes_listIf hgt hitem records).map rest
  · exact straight_mgmtTable hs
  · have hlt : records.length * m < (size + 1) * m := by omega
    exact Nat.le_of_lt_succ (Nat.lt_of_mul_lt_mul_right hlt)

theorem mgmtNwkDiscRsp_decoded {records : List NetworkListItemFormat}
    (hcount : count.toNat = records.length)
    (hf : TableFrame f mtZdoMgmtNwkDiscRsp (h.encode count) NetworkListItemFormat.encode records) :
    TableDecoded f (.zdo .mgmtNwkDiscRsp) (fun table : CArray 72 _ => .zdo (.mgmtNwkDiscRsp
      ⟨h.srcAddr, h.status, h.entries, h.startIndex, count, table⟩)) records :=
  mgmtTable_decoded (m := 12) undoes_networkListItem straight_networkListItem
    (fun r => by simp [NetworkListItemFormat.encode]) (by decide) (fun _ => rfl) hcount hf

theorem mgmtLqiRsp_decoded {records : List NeighborLqiListItemFormat}
    (hcount : count.toNat = records.length)
    (hf : TableFrame f mtZdoMgmtLqiRsp (h.encode count) NeighborLqiListItemFormat.encode records) :
    TableDecoded f (.zdo .mgmtLqiRsp) (fun table : CArray 66 _ => .zdo (.mgmtLqiRsp
      ⟨h.srcAddr, h.status, h.entries, h.startIndex, count, table⟩)) records :=
  mgmtTable_decoded (m := 22) undoes_neighborLqiListItem straight_neighborLqiListItem
    (fun r => by simp [NeighborLqiListItemFormat.encode]) (by decide) (fun _ => rfl) hcount hf

theorem mgmtRtgRsp_decoded {records : List RoutingTableListItemFormat}
    (hcount : count.toNat = records.length)
    (hf : TableFrame f mtZdoMgmtRtgRsp (h.encode count) RoutingTableListItemFormat.encode
      records) :
    TableDecoded f (.zdo .mgmtRtgRsp) (fun table : CArray 75 _ => .zdo (.mgmtRtgRsp
      ⟨h.srcAddr, h.status, h.entries, h.startIndex, count, table⟩)) records :=
  mgmtTable_decoded (m := 5) undoes_routingTableListItem straight_routingTableListItem
    (fun r => by simp [RoutingTableListItemFormat.encode]) (by decide) (fun _ => rfl) hcount hf

theorem beaconNotifyInd_decoded {records : List BeaconListItemFormat}
    (hcount : count.toNat = records.length)
    (hf : TableFrame f mtZdoBeaconNotifyInd [count] BeaconListItemFormat.encode records) :
    TableDecoded f (.zdo .beaconNotifyInd)
      (fun table : CArray 21 _ => .zdo (.beaconNotifyInd ⟨count, table⟩)) records := by
  have hle := f.payload_le
  have hsize : ∀ r, (BeaconListItemFormat.encode r).length = 21 := by
    intro r
    simp [BeaconListItemFormat.encode]
  have hlen : f.payload.length = 1 + records.length * 21 := by
    rw [hf.payload, List.length_append, length_flatMap_const hsize]
    rfl
  have hone : (1 : UInt8).toNat = 1 := rfl
  have hgt : rpcLen f > 1 := lt_rpcLenOf hle (by omega)
  have hcb : handler f.cmd0 f.cmd1 (rpcLen f) = some (.zdo .beaconNotifyInd,
      .zdo <$> (.beaconNotifyInd <$> processBeaconNotifyInd (rpcLen f))) := by
    rw [hf.cmd0, hf.cmd1]
    rfl
  apply TableDecoded.of_undoes hcb
  · rw [hf.payload]
    refine (Undoes.byte count).bind ?_
    rw [hcount]
    exact (undoes_listIf hgt undoes_beaconListItem records).map
  · simp [processBeaconNotifyInd, straight_beaconListItem]
  · omega

/-- **Record tables are decoded exactly and within bounds**: each of the four messages, with
as many records as its count says, reaches the callback with its header and its records. -/
theorem tables_decoded (f : MtFrame) (h : TableHeader) (count : UInt8) :
    (∀ records : List NetworkListItemFormat, count.toNat = records.length →
      TableFrame f mtZdoMgmtNwkDiscRsp (h.encode count) NetworkListItemFormat.encode records →
      TableDecoded f (.zdo .mgmtNwkDiscRsp) (fun table : CArray 72 _ => .zdo (.mgmtNwkDiscRsp
        ⟨h.srcAddr, h.status, h.entries, h.startIndex, count, table⟩)) records) ∧
    (∀ records : List NeighborLqiListItemFormat, count.toNat = records.length →
      TableFrame f mtZdoMgmtLqiRsp (h.encode count) NeighborLqiListItemFormat.encode records →
      TableDecoded f (.zdo .mgmtLqiRsp) (fun table : CArray 66 _ => .zdo (.mgmtLqiRsp
        ⟨h.srcAddr, h.status, h.entries, h.startIndex, count, table⟩)) records) ∧
    (∀ records : List RoutingTableListItemFormat, count.toNat = records.length →
      TableFrame f mtZdoMgmtRtgRsp (h.encode count) RoutingTableListItemFormat.encode records →
      TableDecoded f (.zdo .mgmtRtgRsp) (fun table : CArray 75 _ => .zdo (.mgmtRtgRsp
        ⟨h.srcAddr, h.status, h.entries, h.startIndex, count, table⟩)) records) ∧
    (∀ records : List BeaconListItemFormat, count.toNat = records.length →
      TableFrame f mtZdoBeaconNotifyInd [count] BeaconListItemFormat.encode records →
      TableDecoded f (.zdo .beaconNotifyInd)
        (fun table : CArray 21 _ => .zdo (.beaconNotifyInd ⟨count, table⟩)) records) :=
  ⟨fun _ => mgmtNwkDiscRsp_decoded, fun _ => mgmtLqiRsp_decoded, fun _ => mgmtRtgRsp_decoded,
    fun _ => beaconNotifyInd_decoded⟩

end Messages

/-- A ZDO frame with this payload. -/
def zdoFrame (cmd1 : UInt8) (payload : List UInt8) (h : payload.length ≤ 250) : MtFrame :=
  ⟨mtRpcCmdAreq ||| mtRpcSysZdo, cmd1, payload, h⟩

/-- The header of an answer from the coordinator, with this number of entries in all. -/
def fromCoordinator (entries : UInt8) : TableHeader := ⟨0, 0, entries, 0⟩

def twoNetworks : List NetworkListItemFormat :=
  [⟨0x1A62, 11, 0x22, 0xFF, 1⟩, ⟨0x2B73, 25, 0x22, 0xFF, 0⟩]

def twoNeighbors : List NeighborLqiListItemFormat :=
  [⟨0x1A62, 0x124B, 0x7C5D, 0x25, 2, 15, 120⟩, ⟨0x1A62, 0x124C, 0x8D6E, 0x11, 1, 1, 255⟩]

def twoRoutes : List RoutingTableListItemFormat := [⟨0x7C5D, 0, 0x7C5D⟩, ⟨0x8D6E, 3, 0x7C5D⟩]

def twoBeacons : List BeaconListItemFormat :=
  [⟨0, 0x1A62, 11, 1, 1, 1, 2, 2, 120, 0, 0, 0x1A62⟩,
    ⟨0x7C5D, 0x2B73, 25, 0, 1, 1, 2, 2, 90, 1, 3, 0x2B73⟩]

/-- Two records in each of the four messages. -/
theorem tables_decoded_two :
    (∃ ind : CArray 72 _ → Indication, TableDecoded (zdoFrame mtZdoMgmtNwkDiscRsp
      ((fromCoordinator 2).encode 2 ++ twoNetworks.flatMap NetworkListItemFormat.encode)
      (by decide)) (.zdo .mgmtNwkDiscRsp) ind twoNetworks) ∧
    (∃ ind : CArray 66 _ → Indication, TableDecoded (zdoFrame mtZdoMgmtLqiRsp
      ((fromCoordinator 2).encode 2 ++ twoNeighbors.flatMap NeighborLqiListItemFormat.encode)
      (by decide)) (.zdo .mgmtLqiRsp) ind twoNeighbors) ∧
    (∃ ind : CArray 75 _ → Indication, TableDecoded (zdoFrame mtZdoMgmtRtgRsp
      ((fromCoordinator 2).encode 2 ++ twoRoutes.flatMap RoutingTableListItemFormat.encode)
      (by decide)) (.zdo .mgmtRtgRsp) ind twoRoutes) ∧
    (∃ ind : CArray 21 _ → Indication, TableDecoded (zdoFrame mtZdoBeaconNotifyInd
      ([2] ++ twoBeacons.flatMap BeaconListItemFormat.encode) (by decide)) (.zdo .beaconNotifyInd)
      ind twoBeacons) :=
  ⟨⟨_, (tables_decoded _ (fromCoordinator 2) 2).1 twoNetworks rfl ⟨rfl, rfl, rfl⟩⟩,
    ⟨_, (tables_decoded _ (fromCoordinator 2) 2).2.1 twoNeighbors rfl ⟨rfl, rfl, rfl⟩⟩,
    ⟨_, (tables_decoded _ (fromCoordinator 2) 2).2.2.1 twoRoutes rfl ⟨rfl, rfl, rfl⟩⟩,
    ⟨_, (tables_decoded _ (fromCoordinator 2) 2).2.2.2 twoBeacons rfl ⟨rfl, rfl, rfl⟩⟩⟩

/-! ## The binding table -/

/-- An entry of the binding table, as the device sends it. -/
structure BindingRecord where
  srcIEEEAddr : UInt64
  srcEndpoint : UInt8
  clusterID : UInt8
  dstAddrMode : UInt8
  dstIEEEAddr : UInt64
  dstEndpoint : UInt8

namespace BindingRecord

def encode (r : BindingRecord) : List UInt8 :=
  leBytes 8 r.srcIEEEAddr.toNat ++ [r.srcEndpoint, r.clusterID, r.dstAddrMode] ++
    leBytes 8 r.dstIEEEAddr.toNat ++ [r.dstEndpoint]

/-- The entry with every member stored. -/
def item (r : BindingRecord) : BindingTableListItemFormat where
  srcIEEEAddr := some r.srcIEEEAddr
  srcEndpoint := some r.srcEndpoint
  clusterID := some r.clusterID
  dstAddrMode := some r.dstAddrMode
  dstIEEEAddr := some r.dstIEEEAddr
  dstEndpoint := some r.dstEndpoint

theorem length_encode (r : BindingRecord) : r.encode.length = 20 := by simp [encode]

end BindingRecord

/-- The callback is given the records entry by entry. -/
def BindingTableDecoded (f : MtFrame) (records : List BindingRecord) : Prop :=
  ∀ registered rpcBuff, registered (.zdo .mgmtBindRsp) = true → Delivered f rpcBuff →
    ∃ rsp, mtProcess registered rpcBuff (rpcLen f) = some (.zdo (.mgmtBindRsp rsp)) ∧
      ∀ k (hk : k < records.length), rsp.bindingTableList.cell k = some records[k].item

/-- The source endpoint of the first entry has not been stored. -/
def NoEndpoint (t : BindingTable) : Prop := ∀ c, t.cell 0 = some c → c.srcEndpoint = none

namespace NoEndpoint

variable {t : BindingTable}

theorem empty : NoEndpoint .empty := by
  intro c hc
  cases hc

/-- A store to another entry, or to another member. -/
theorem set (ht : NoEndpoint t) {i : ℕ}
    {g : BindingTableListItemFormat → BindingTableListItemFormat}
    (hg : i = 0 → ∀ c, (g c).srcEndpoint = c.srcEndpoint) : NoEndpoint (t.set i g) := by
  intro c hc
  by_cases hi : i = 0
  · subst hi
    have hset : g ((t.cell 0).getD {}) = c := by
      simpa [BindingTable.set, CArray.modify] using hc
    rw [← hset, hg rfl]
    cases hcell : t.cell 0 with
    | none => rfl
    | some c₀ => exact ht c₀ hcell
  · have hkeep : (t.set i g).cell 0 = t.cell 0 := Function.update_of_ne (Ne.symm hi) _ _
    exact ht c (hkeep ▸ hc)

theorem orEach {g : UInt64 → BindingTableListItemFormat → BindingTableListItemFormat}
    (hg : ∀ x c, (g x c).srcEndpoint = c.srcEndpoint) (bs : List UInt8) (j : ℕ)
    (ht : NoEndpoint t) : NoEndpoint (BindingTable.orEach g bs j t) := by
  induction bs generalizing j t with
  | nil => exact ht
  | cons b bs ih => exact ih (j + 1) (ht.set fun _ => hg _)

end NoEndpoint

/-- The inner counter is 8 when the endpoint is stored: it goes to entry 8. -/
theorem takes_bindingTableRound_noEndpoint (i : ℕ) {t : BindingTable} (ht : NoEndpoint t) :
    Takes 20 (bindingTableRound i t) NoEndpoint := by
  apply takes_bindingTableRound
  intro src dst srcEndpoint clusterID dstAddrMode dstEndpoint _ _
  have horSrc : ∀ x c, (BindingTableListItemFormat.orSrc x c).srcEndpoint = c.srcEndpoint :=
    fun _ _ => rfl
  have horDst : ∀ x c, (BindingTableListItemFormat.orDst x c).srcEndpoint = c.srcEndpoint :=
    fun _ _ => rfl
  refine .set ?_ fun h => absurd h (by decide)
  refine .orEach horDst dst 0 ?_
  refine .set ?_ fun h => absurd h (by decide)
  refine .orEach horSrc src 0 ?_
  exact ht.set fun _ _ => rfl

/-- No round of the loop stores it. -/
theorem takes_bindingTable_noEndpoint {c : Prop} [Decidable c] (n : ℕ) (hc : c) :
    Takes (n * 20) (bindingTable c n) NoEndpoint := by
  rw [bindingTable, if_pos hc]
  exact Takes.loop (fun _ t => NoEndpoint t) (fun i _ ht => takes_bindingTableRound_noEndpoint i ht)
    n 0 .empty .empty

section BindingTable

variable {f : MtFrame} {h : TableHeader} {count : UInt8} {records : List BindingRecord}

/-- What the decoder makes of a well-formed frame. -/
theorem mtProcess_mgmtBindRsp (hcount : count.toNat = records.length)
    (hf : TableFrame f mtZdoMgmtBindRsp (h.encode count) BindingRecord.encode records) :
    ∃ rsp, NoEndpoint rsp.bindingTableList ∧
      ∀ registered rpcBuff, registered (.zdo .mgmtBindRsp) = true → Delivered f rpcBuff →
        mtProcess registered rpcBuff (rpcLen f) = some (.zdo (.mgmtBindRsp rsp)) := by
  have hle := f.payload_le
  have hbody : (records.flatMap BindingRecord.encode).length = count.toNat * 20 := by
    rw [length_flatMap_const BindingRecord.length_encode, hcount]
  have hlen : f.payload.length = 6 + count.toNat * 20 := by
    rw [hf.payload, List.length_append, hbody]
    simp [TableHeader.encode]
  have hsix : (6 : UInt8).toNat = 6 := rfl
  have hgt : rpcLen f > 6 := lt_rpcLenOf hle (by omega)
  obtain ⟨t, hparse, ht⟩ := (takes_bindingTable_noEndpoint count.toNat hgt).some_of_le
    (records.flatMap BindingRecord.encode) (Nat.le_of_eq hbody.symm)
  rw [← hbody, List.drop_length] at hparse
  refine ⟨⟨h.srcAddr, h.status, h.entries, h.startIndex, count, t⟩, ht, ?_⟩
  intro registered rpcBuff hreg hm
  have hcb : handler f.cmd0 f.cmd1 (rpcLen f) = some (.zdo .mgmtBindRsp,
      .zdo <$> (.mgmtBindRsp <$> processMgmtBindRsp (rpcLen f))) := by
    rw [hf.cmd0, hf.cmd1]
    rfl
  have hall : (processMgmtBindRsp (rpcLen f)).parse f.payload =
      some (⟨h.srcAddr, h.status, h.entries, h.startIndex, count, t⟩, []) := by
    rw [hf.payload, processMgmtBindRsp, parse_header, parse_bind, hparse]
    rfl
  exact mtProcess_of_parse hcb (parse_map (parse_map hall _) _) hreg hm

/-- An entry is decoded only if its source endpoint is stored. -/
theorem BindingTableDecoded.eq_nil (hd : BindingTableDecoded f records)
    (hcount : count.toNat = records.length)
    (hf : TableFrame f mtZdoMgmtBindRsp (h.encode count) BindingRecord.encode records) :
    records = [] := by
  obtain ⟨rsp, hno, hrun⟩ := mtProcess_mgmtBindRsp hcount hf
  cases records with
  | nil => rfl
  | cons r rs =>
    obtain ⟨rsp', hrun', hentries⟩ := hd (fun _ => true) _ rfl (Delivered.ofList f fun _ => 0)
    rw [hrun _ _ rfl (Delivered.ofList f fun _ => 0)] at hrun'
    obtain rfl : rsp = rsp' := by simpa using hrun'
    have hnone := hno _ (hentries 0 (Nat.zero_lt_succ _))
    cases hnone

/-- **The binding table is decoded entry by entry** exactly when it has no entries: the
inner loops hide the index of the entry. -/
theorem bindingTableDecoded_iff (hcount : count.toNat = records.length)
    (hf : TableFrame f mtZdoMgmtBindRsp (h.encode count) BindingRecord.encode records) :
    BindingTableDecoded f records ↔ records = [] := by
  constructor
  · intro hd
    exact hd.eq_nil hcount hf
  · rintro rfl registered rpcBuff hreg hm
    obtain ⟨rsp, -, hrun⟩ := mtProcess_mgmtBindRsp hcount hf
    exact ⟨rsp, hrun registered rpcBuff hreg hm, fun k hk => absurd hk (Nat.not_lt_zero k)⟩

end BindingTable

/-- An empty table. -/
theorem bindingTableDecoded_empty :
    BindingTableDecoded
      (zdoFrame mtZdoMgmtBindRsp ((fromCoordinator 0).encode 0) (by decide)) [] := by
  have hcount : (0 : UInt8).toNat = ([] : List BindingRecord).length := rfl
  exact (bindingTableDecoded_iff (h := fromCoordinator 0) hcount ⟨rfl, rfl, rfl⟩).mpr rfl

def oneBinding : BindingRecord := ⟨0x124B, 1, 6, 3, 0x1A62, 2⟩

/-- The endpoint of a single entry is lost. -/
theorem not_bindingTableDecoded_one :
    ¬ BindingTableDecoded (zdoFrame mtZdoMgmtBindRsp
      ((fromCoordinator 1).encode 1 ++ oneBinding.encode) (by decide)) [oneBinding] := by
  intro hd
  have hcount : (1 : UInt8).toNat = [oneBinding].length := rfl
  have hnil := hd.eq_nil (h := fromCoordinator 1) hcount ⟨rfl, rfl, rfl⟩
  cases hnil

end ZnpHost.Mt
