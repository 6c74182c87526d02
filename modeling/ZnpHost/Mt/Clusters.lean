import ZnpHost.Mt.Encodings
import ZnpHost.Mt.Tables

/-!
# Cluster lists

Three requests end with two lists of clusters, and two messages from the device end in the
same way.  The builders and the decoders agree on the format.  A `ZDO_SIMPLE_DESC_RSP` may
come without a descriptor, but its decoder then finds one in the bytes behind the payload.

## Main definitions

* `ClusterRequest`, `ClusterRequest.emitted` — a request and the bytes of its lists.
* `clusters_agree` — both decoders find the lists in these bytes.
* `HeaderOnly` — the decoder of the descriptor keeps to the six bytes in front of it.
* `headerOnly_iff` — it does so only when it does not run.
-/

namespace ZnpHost.Mt

open Lib Reader Rpc

/-! ## Requests with two lists -/

/-- A request with two cluster lists. -/
inductive ClusterRequest
  | matchDescReq (req : MatchDescReqFormat)
  | endDeviceBindReq (req : EndDeviceBindReqFormat)
  | register (req : RegisterFormat)

namespace ClusterRequest

variable (r : ClusterRequest)

def build : ClusterRequest → Cmd
  | matchDescReq req => zdoMatchDescReq req
  | endDeviceBindReq req => zdoEndDeviceBindReq req
  | register req => afRegister req

/-- The number of bytes in front of the lists. -/
def fixed : ClusterRequest → ℕ
  | matchDescReq _ => 6
  | endDeviceBindReq _ => 15
  | register _ => 7

/-- The two numbers and lists as they are passed to `rpcSendFrame`. -/
def emitted (block : Mem) : List UInt8 := (r.build.passed block).drop r.fixed

def numIn : ClusterRequest → UInt8
  | matchDescReq req => req.numInClusters
  | endDeviceBindReq req => req.numInClusters
  | register req => req.appNumInClusters

def numOut : ClusterRequest → UInt8
  | matchDescReq req => req.numOutClusters
  | endDeviceBindReq req => req.numOutClusters
  | register req => req.appNumOutClusters

/-- The input clusters: as many elements of the array as the request says. -/
def ins : ClusterRequest → List UInt16
  | matchDescReq req => req.inClusterList.toList.take req.numInClusters.toNat
  | endDeviceBindReq req => req.inClusterList.toList.take req.numInClusters.toNat
  | register req => req.appInClusterList.toList.take req.appNumInClusters.toNat

def outs : ClusterRequest → List UInt16
  | matchDescReq req => req.outClusterList.toList.take req.numOutClusters.toNat
  | endDeviceBindReq req => req.outClusterList.toList.take req.numOutClusters.toNat
  | register req => req.appOutClusterList.toList.take req.appNumOutClusters.toNat

theorem length_ins : r.ins.length = r.numIn.toNat := by
  cases r with
  | matchDescReq req => exact length_take_toList _ req.numInClusters_le
  | endDeviceBindReq req => exact length_take_toList _ req.numInClusters_le
  | register req => exact length_take_toList _ req.appNumInClusters_le

theorem length_outs : r.outs.length = r.numOut.toNat := by
  cases r with
  | matchDescReq req => exact length_take_toList _ req.numOutClusters_le
  | endDeviceBindReq req => exact length_take_toList _ req.numOutClusters_le
  | register req => exact length_take_toList _ req.appNumOutClusters_le

theorem numIn_le : r.numIn.toNat ≤ 16 := by
  cases r with
  | matchDescReq req => exact req.numInClusters_le
  | endDeviceBindReq req => exact req.numInClusters_le
  | register req => exact req.appNumInClusters_le

theorem numOut_le : r.numOut.toNat ≤ 16 := by
  cases r with
  | matchDescReq req => exact req.numOutClusters_le
  | endDeviceBindReq req => exact req.numOutClusters_le
  | register req => exact req.appNumOutClusters_le

/-- The lists as a device would send them. -/
def lists : List UInt8 :=
  r.numIn :: r.ins.flatMap (leBytes 2 ·.toNat) ++ r.numOut :: r.outs.flatMap (leBytes 2 ·.toNat)

/-- **The builders emit the lists in the format of the decoders.** -/
theorem emitted_eq (block : Mem) : r.emitted block = r.lists := by
  rw [lists]
  cases r with
  | matchDescReq req =>
    rw [emitted, build, decodable_zdoMatchDescReq.encoded]
    simp [MatchDescReqFormat.items, firstWords, encode, Item.encode, leBytes_two, fixed, numIn,
      numOut, ins, outs]
  | endDeviceBindReq req =>
    have hieee : (req.coordinatorIEEE.toList).length = 8 := Vector.length_toList
    rw [emitted, build, decodable_zdoEndDeviceBindReq.encoded]
    simp [EndDeviceBindReqFormat.items, firstWords, encode, Item.encode, leBytes_two, fixed,
      numIn, numOut, ins, outs, List.drop_append, hieee]
  | register req =>
    rw [emitted, build, decodable_afRegister.encoded]
    simp [RegisterFormat.items, firstWords, encode, Item.encode, leBytes_two, fixed, numIn,
      numOut, ins, outs]

end ClusterRequest

/-! ## The decoders -/

/-- The fixed part of `ZDO_SIMPLE_DESC_RSP` with a descriptor, without the lists. -/
structure SimpleDescFixed where
  srcAddr : UInt16
  status : UInt8
  nwkAddr : UInt16
  len : UInt8
  endpoint : UInt8
  profileID : UInt16
  deviceID : UInt16
  deviceVersion : UInt8

namespace SimpleDescFixed

variable (h : SimpleDescFixed)

def encode : List UInt8 :=
  leBytes 2 h.srcAddr.toNat ++ [h.status] ++ leBytes 2 h.nwkAddr.toNat ++ [h.len, h.endpoint] ++
    leBytes 2 h.profileID.toNat ++ leBytes 2 h.deviceID.toNat ++ [h.deviceVersion]

@[simp] theorem length_encode : h.encode.length = 12 := by simp [encode]

/-- The structure with the clusters of a request. -/
def rsp (r : ClusterRequest) : SimpleDescRspFormat where
  srcAddr := h.srcAddr
  status := h.status
  nwkAddr := h.nwkAddr
  len := h.len
  descriptor := some {
    endpoint := h.endpoint
    profileID := h.profileID
    deviceID := h.deviceID
    deviceVersion := h.deviceVersion
    numInClusters := r.numIn
    inClusterList := .ofList r.ins
    numOutClusters := r.numOut
    outClusterList := .ofList r.outs }

end SimpleDescFixed

section Decoders

variable (r : ClusterRequest) {l : UInt8}

/-- The second list starts where the first one ends. -/
theorem undoes_lists {κ : Type} {size : ℕ}
    {g : UInt8 → CArray size UInt16 → UInt8 → CArray size UInt16 → κ} :
    Undoes (byte >>= fun n => list n.toNat word >>= fun a => byte >>= fun m =>
        list m.toNat word >>= fun b => .done (g n a m b))
      r.lists (g r.numIn (.ofList r.ins) r.numOut (.ofList r.outs)) := by
  have hins : Undoes (list r.numIn.toNat word) _ (.ofList r.ins : CArray size UInt16) :=
    r.length_ins ▸ undoes_list undoes_word r.ins
  have houts : Undoes (list r.numOut.toNat word) _ (.ofList r.outs : CArray size UInt16) :=
    r.length_outs ▸ undoes_list undoes_word r.outs
  rw [ClusterRequest.lists, List.cons_append, Undoes.byte_bind_iff, hins.bind_iff,
    Undoes.byte_bind_iff]
  exact houts.map

theorem undoes_processMatchDescRspSent (addr : UInt16) :
    Undoes processMatchDescRspSent (leBytes 2 addr.toNat ++ r.lists)
      ⟨addr, r.numIn, .ofList r.ins, r.numOut, .ofList r.outs⟩ := by
  rw [processMatchDescRspSent, undoes_word_bind]
  exact undoes_lists r

/-- Two lists, one after the other, are read once. -/
theorem straight_lists {κ : Type} {size : ℕ}
    {g : UInt8 → CArray size UInt16 → UInt8 → CArray size UInt16 → κ} :
    (byte >>= fun n => list n.toNat word >>= fun a => byte >>= fun m =>
      list m.toNat word >>= fun b => .done (g n a m b)).Straight := by
  rw [Straight.byte_bind_iff]
  intro n
  apply (straight_list straight_word n.toNat).bind
  simp

theorem straight_processMatchDescRspSent : processMatchDescRspSent.Straight := by
  rw [processMatchDescRspSent, straight_word_bind]
  exact fun _ => straight_lists

/-- A descriptor is its fixed part and two lists. -/
theorem SimpleDescFixed.undoes_rsp (h : SimpleDescFixed) (hl : l > 6) {lists : List UInt8}
    {numIn numOut : UInt8} {ins outs : CArray 16 UInt16}
    (hlists : ∀ g : UInt8 → CArray 16 UInt16 → UInt8 → CArray 16 UInt16 → SimpleDescriptor,
      Undoes (byte >>= fun n => list n.toNat word >>= fun a => byte >>= fun m =>
        list m.toNat word >>= fun b => .done (g n a m b)) lists (g numIn ins numOut outs)) :
    Undoes (processSimpleDescRsp l) (h.encode ++ lists)
      ⟨h.srcAddr, h.status, h.nwkAddr, h.len, some ⟨h.endpoint, h.profileID, h.deviceID,
        h.deviceVersion, numIn, ins, numOut, outs⟩⟩ := by
  have hdesc : Undoes simpleDescriptor (h.endpoint :: (leBytes 2 h.profileID.toNat ++
      (leBytes 2 h.deviceID.toNat ++ h.deviceVersion :: lists)))
      ⟨h.endpoint, h.profileID, h.deviceID, h.deviceVersion, numIn, ins, numOut, outs⟩ := by
    rw [simpleDescriptor, Undoes.byte_bind_iff, undoes_word_bind, undoes_word_bind,
      Undoes.byte_bind_iff]
    exact hlists _
  simp only [processSimpleDescRsp, SimpleDescFixed.encode, List.append_assoc, List.cons_append,
    List.nil_append, undoes_word_bind, Undoes.byte_bind_iff, if_pos hl]
  exact hdesc.map

theorem undoes_processSimpleDescRsp (h : SimpleDescFixed) (hl : l > 6) :
    Undoes (processSimpleDescRsp l) (h.encode ++ r.lists) (h.rsp r) :=
  h.undoes_rsp hl fun _ => undoes_lists r

theorem straight_simpleDescriptor : simpleDescriptor.Straight := by
  refine Straight.byte.bind fun endpoint => ?_
  refine straight_word.bind fun profileID => ?_
  refine straight_word.bind fun deviceID => ?_
  refine Straight.byte.bind fun deviceVersion => ?_
  exact straight_lists

theorem straight_processSimpleDescRsp : (processSimpleDescRsp l).Straight := by
  simp only [processSimpleDescRsp, straight_word_bind, Straight.byte_bind_iff]
  intro srcAddr status nwkAddr len
  split
  · exact straight_simpleDescriptor.bind_done
  · exact .done _

theorem inBounds_ins : (.ofList r.ins : CArray 16 UInt16).InBounds := by
  rw [CArray.inBounds_ofList, r.length_ins]
  exact r.numIn_le

theorem inBounds_outs : (.ofList r.outs : CArray 16 UInt16).InBounds := by
  rw [CArray.inBounds_ofList, r.length_outs]
  exact r.numOut_le

end Decoders

theorem handler_simpleDescRsp {f : MtFrame} (h0 : f.cmd0 = mtRpcCmdAreq ||| mtRpcSysZdo)
    (h1 : f.cmd1 = mtZdoSimpleDescRsp) :
    handler f.cmd0 f.cmd1 (rpcLen f) = some (.zdo .simpleDescRsp,
      .zdo <$> (.simpleDescRsp <$> processSimpleDescRsp (rpcLen f))) := by
  rw [h0, h1]
  rfl

/-- **Builders and decoders agree on cluster lists**: the bytes that any of the three builders
emits for its lists are decoded to these lists, behind an address and behind the fixed part
of a descriptor. -/
theorem clusters_agree (r : ClusterRequest) (block : Mem) (f : MtFrame)
    (h0 : f.cmd0 = mtRpcCmdAreq ||| mtRpcSysZdo) :
    (∀ addr : UInt16, f.cmd1 = mtZdoMatchDescRspSent →
      f.payload = leBytes 2 addr.toNat ++ r.emitted block →
      DecodedTo f (.zdo .matchDescRspSent) (.zdo (.matchDescRspSent
        ⟨addr, r.numIn, .ofList r.ins, r.numOut, .ofList r.outs⟩))) ∧
    (∀ h : SimpleDescFixed, f.cmd1 = mtZdoSimpleDescRsp →
      f.payload = h.encode ++ r.emitted block →
      DecodedTo f (.zdo .simpleDescRsp) (.zdo (.simpleDescRsp (h.rsp r)))) ∧
    (.ofList r.ins : CArray 16 UInt16).InBounds ∧
    (.ofList r.outs : CArray 16 UInt16).InBounds := by
  rw [r.emitted_eq]
  refine ⟨?_, ?_, inBounds_ins r, inBounds_outs r⟩
  · intro addr h1 hf
    have hcb : handler f.cmd0 f.cmd1 (rpcLen f) = some (.zdo .matchDescRspSent,
        .zdo <$> (.matchDescRspSent <$> processMatchDescRspSent)) := by
      rw [h0, h1]
      rfl
    have hundoes := undoes_processMatchDescRspSent r addr
    rw [← hf] at hundoes
    exact .of_undoes hcb hundoes.fmap.fmap straight_processMatchDescRspSent.fmap.fmap
  · intro h h1 hf
    have hlen : 12 ≤ f.payload.length := by
      rw [hf, List.length_append, h.length_encode]
      omega
    have hsix : (6 : UInt8).toNat = 6 := rfl
    have hundoes := undoes_processSimpleDescRsp r h (lt_rpcLenOf f.payload_le (by omega))
    rw [← hf] at hundoes
    exact .of_undoes (handler_simpleDescRsp h0 h1) hundoes.fmap.fmap
      straight_processSimpleDescRsp.fmap.fmap

/-- A request for two input clusters and one output cluster. -/
def matchLights : MatchDescReqFormat where
  dstAddr := 0xFFFD
  nwkAddrOfInterest := 0
  profileID := 0x0104
  numInClusters := 2
  inClusterList := #v[6, 8, 0, 0, 0, 0, 0, 0, 0, 0, 0, 0, 0, 0, 0, 0]
  numOutClusters := 1
  outClusterList := #v[0x0300, 0, 0, 0, 0, 0, 0, 0, 0, 0, 0, 0, 0, 0, 0, 0]
  numInClusters_le := by decide
  numOutClusters_le := by decide

/-- Its lists in a message from the device. -/
theorem clusters_agree_matchLights :
    ∃ f : MtFrame, f.payload = [0x62, 0x1A, 2, 6, 0, 8, 0, 1, 0, 3] ∧
      DecodedTo f (.zdo .matchDescRspSent) (.zdo (.matchDescRspSent
        ⟨0x1A62, 2, .ofList [6, 8], 1, .ofList [0x0300]⟩)) := by
  let f := zdoFrame mtZdoMatchDescRspSent [0x62, 0x1A, 2, 6, 0, 8, 0, 1, 0, 3] (by decide)
  have hf : f.payload =
      leBytes 2 0x1A62 ++ (ClusterRequest.matchDescReq matchLights).emitted fun _ => 0 := by
    rw [ClusterRequest.emitted_eq]
    rfl
  exact ⟨f, rfl, (clusters_agree (.matchDescReq matchLights) (fun _ => 0) f rfl).1 0x1A62 rfl hf⟩

/-! ## No descriptor -/

/-- Address, status, address and the length 0. -/
def noDescriptor (srcAddr : UInt16) (status : UInt8) (nwkAddr : UInt16) : List UInt8 :=
  leBytes 2 srcAddr.toNat ++ [status] ++ leBytes 2 nwkAddr.toNat ++ [0]

/-- The message is decoded without a look behind its six bytes: no index from the one of the
checksum on is read, the members of the descriptor are left alone, and other bytes behind the
payload would not have changed anything. -/
structure HeaderOnly (registered : Cb → Bool) (f : MtFrame) (rpcBuff : Mem) : Prop where
  reads : ∀ i ∈ mtReads registered rpcBuff (rpcLen f), i < 8
  untouched : ∀ rsp, mtProcess registered rpcBuff (rpcLen f) =
    some (.zdo (.simpleDescRsp rsp)) → rsp.descriptor = none
  congr : ∀ rpcBuff', Delivered f rpcBuff' →
    mtProcess registered rpcBuff' (rpcLen f) = mtProcess registered rpcBuff (rpcLen f)

/-- The members in front of the descriptor. -/
def simpleDescHeader : Reader (Option SimpleDescriptor → SimpleDescRspFormat) := do
  let srcAddr ← word
  let status ← byte
  let nwkAddr ← word
  let len ← byte
  return fun descriptor => { srcAddr, status, nwkAddr, len, descriptor }

section NoDescriptor

variable {f : MtFrame} {registered : Cb → Bool} {rpcBuff : Mem} {srcAddr nwkAddr : UInt16}
  {status : UInt8}

theorem processSimpleDescRsp_eq {l : UInt8} (hl : l > 6) :
    processSimpleDescRsp l =
      simpleDescHeader >>= fun mk => simpleDescriptor >>= fun d => .done (mk (some d)) := by
  simp only [processSimpleDescRsp, if_pos hl]
  rfl

theorem undoes_simpleDescHeader (srcAddr : UInt16) (status : UInt8) (nwkAddr : UInt16) :
    Undoes simpleDescHeader (noDescriptor srcAddr status nwkAddr)
      fun descriptor => ⟨srcAddr, status, nwkAddr, 0, descriptor⟩ := by
  simp [simpleDescHeader, noDescriptor]

/-- The checksum and the bytes behind it are taken for a descriptor. -/
theorem mtProcess_noDescriptor (h0 : f.cmd0 = mtRpcCmdAreq ||| mtRpcSysZdo)
    (h1 : f.cmd1 = mtZdoSimpleDescRsp) (hf : f.payload = noDescriptor srcAddr status nwkAddr)
    (hreg : registered (.zdo .simpleDescRsp) = true) (hm : Delivered f rpcBuff) :
    mtProcess registered rpcBuff (rpcLen f) = some (.zdo (.simpleDescRsp
      ⟨srcAddr, status, nwkAddr, 0, some (simpleDescriptor.exec rpcBuff 8).1⟩)) := by
  have hlen : f.payload.length = 6 := by
    rw [hf]
    simp [noDescriptor]
  have hsix : (6 : UInt8).toNat = 6 := rfl
  have hl : rpcLen f > 6 := lt_rpcLenOf f.payload_le (by omega)
  have hheader := (undoes_simpleDescHeader srcAddr status nwkAddr).parse_eq
  rw [← hf] at hheader
  have hval := (exec_of_parse _ hm.holds hheader).1
  have hidx : (simpleDescHeader.exec rpcBuff 2).2 = 8 := rfl
  rw [hm.mtProcess_eq, decoder_eq_some_iff.mpr ⟨_, handler_simpleDescRsp h0 h1, hreg⟩,
    Option.map_some, exec_map, exec_map, processSimpleDescRsp_eq hl, exec_bind, exec_bind, hval,
    hidx]
  rfl

/-- **A response without a descriptor is decoded as such** exactly when no callback is
registered for it: the length that is compared with 6 counts three more bytes. -/
theorem headerOnly_iff (registered : Cb → Bool) (f : MtFrame) (rpcBuff : Mem)
    (srcAddr : UInt16) (status : UInt8) (nwkAddr : UInt16)
    (h0 : f.cmd0 = mtRpcCmdAreq ||| mtRpcSysZdo) (h1 : f.cmd1 = mtZdoSimpleDescRsp)
    (hf : f.payload = noDescriptor srcAddr status nwkAddr) (hm : Delivered f rpcBuff) :
    HeaderOnly registered f rpcBuff ↔ registered (.zdo .simpleDescRsp) = false := by
  constructor
  · intro honly
    by_contra hreg
    have hrun := mtProcess_noDescriptor h0 h1 hf (Bool.of_not_eq_false hreg) hm
    have hnone := honly.untouched _ hrun
    cases hnone
  · intro hreg
    have hdec : decoder registered f.cmd0 f.cmd1 (rpcLen f) = none := by
      rw [decoder, handler_simpleDescRsp h0 h1]
      simp [hreg]
    have hs := staysInside_of_decoder_none hdec
    have hnone : mtProcess registered rpcBuff (rpcLen f) = none := by
      rw [hm.mtProcess_eq, hdec, Option.map_none]
    constructor
    · intro i hi
      rw [mtReads, hm.cmd0, hm.cmd1, hdec] at hi
      cases hi
    · intro rsp hrun
      rw [hnone] at hrun
      cases hrun
    · intro rpcBuff' hm'
      exact hs.congr rpcBuff' rpcBuff hm' hm

end NoDescriptor

/-- The answer of a device that knows no such endpoint. -/
def invalidEndpoint : MtFrame :=
  zdoFrame mtZdoSimpleDescRsp (noDescriptor 0x1A62 0x82 0x1A62) (by decide)

/-- The buffer holds a long frame that came before. -/
def staleDescriptor : Mem := Mem.ofList
  (invalidEndpoint.cmd0 :: invalidEndpoint.cmd1 :: invalidEndpoint.payload) fun _ => 0x11

/-- Nothing is decoded if the application does not ask for it. -/
theorem headerOnly_unregistered : HeaderOnly (fun _ => false) invalidEndpoint staleDescriptor :=
  (headerOnly_iff _ invalidEndpoint staleDescriptor 0x1A62 0x82 0x1A62 rfl rfl rfl
    (Delivered.ofList invalidEndpoint _)).mpr rfl

/-- Otherwise 17 clusters are stored in an array for 16. -/
theorem not_headerOnly_invalidEndpoint :
    ¬ HeaderOnly (fun _ => true) invalidEndpoint staleDescriptor ∧
      ∃ ind, mtProcess (fun _ => true) staleDescriptor (rpcLen invalidEndpoint) = some ind ∧
        ¬ ind.InBounds := by
  have hm : Delivered invalidEndpoint staleDescriptor := Delivered.ofList invalidEndpoint _
  have hrun : mtProcess (fun _ => true) staleDescriptor (rpcLen invalidEndpoint) =
      some (.zdo (.simpleDescRsp
        ⟨0x1A62, 0x82, 0x1A62, 0, some (simpleDescriptor.exec staleDescriptor 8).1⟩)) :=
    mtProcess_noDescriptor rfl rfl rfl rfl hm
  constructor
  · intro honly
    have hnone := honly.untouched _ hrun
    cases hnone
  · refine ⟨_, hrun, ?_⟩
    intro hin
    exact absurd ((hin _ rfl).1 16 (by decide)) (by decide)

end ZnpHost.Mt
