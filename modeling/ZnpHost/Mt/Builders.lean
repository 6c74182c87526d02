import ZnpHost.Mt.AfRequests
import ZnpHost.Mt.SapiRequests
import ZnpHost.Mt.SysRequests
import ZnpHost.Mt.ZdoRequests

/-!
# Request builders send what they wrote

The length of a request is computed by one expression and its bytes are stored by
another.  They agree in all builders but three.

## Main results

* `Request.count_iff` — the number of stores is the length, except where
  `Request.Miscounted` holds.
* `sendsWhatItWrote_build_iff` — exactly the other requests are sent as they were written.
* `bindAgrees_iff` — when `zdoBindReq` and `zdoUnbindReq` send the same payload.
-/

namespace ZnpHost.Mt

open Lib

/-- A call of any builder. -/
inductive Request
  | zdo (req : ZdoRequest)
  | sys (req : SysRequest)
  | af (req : AfRequest)
  | sapi (req : SapiRequest)

def Request.build : Request → Cmd
  | zdo req => req.build
  | sys req => req.build
  | af req => req.build
  | sapi req => req.build

/-- The requests whose length is wrong: an unbind request with a long destination address,
and the two builders that count one byte they do not store. -/
def Request.Miscounted : Request → Prop
  | zdo (.unbindReq req) => req.dstAddrMode = 3
  | sys (.ramWrite _) => True
  | sapi (.writeConfiguration _) => True
  | _ => False

/-! ## Bind and unbind -/

/-- Both functions store the short address, or the long one with an endpoint. -/
theorem length_bindStores (req : BindReqFormat) :
    (bindStores req).length = 14 + req.addrmd + req.endP := by
  by_cases h : req.dstAddrMode = 3 <;>
    simp [bindStores, BindReqFormat.addrmd, BindReqFormat.endP, h]

/-- `zdoUnbindReq` allocates room for a short address only. -/
theorem count_zdoUnbindReq (req : BindReqFormat) :
    (zdoUnbindReq req).stores.length = (zdoUnbindReq req).cmdLen ↔ req.dstAddrMode ≠ 3 := by
  change (bindStores req).length = 16 ↔ _
  rw [length_bindStores]
  by_cases h : req.dstAddrMode = 3 <;> simp [BindReqFormat.addrmd, BindReqFormat.endP, h]

/-! ## The counts of each subsystem -/

theorem ZdoRequest.count (req : ZdoRequest) :
    req.build.stores.length = req.build.cmdLen ↔ ¬ (Request.zdo req).Miscounted := by
  cases req with
  | unbindReq req => exact count_zdoUnbindReq req
  | bindReq req => exact iff_of_true (length_bindStores req) not_false
  | matchDescReq req =>
    have hin := req.numInClusters_le
    have hout := req.numOutClusters_le
    simp [build, zdoMatchDescReq, Request.Miscounted]
    omega
  | endDeviceBindReq req =>
    have hin := req.numInClusters_le
    have hout := req.numOutClusters_le
    simp [build, zdoEndDeviceBindReq, Request.Miscounted]
    omega
  | userDescSet req =>
    have hlen := req.len_le
    simp [build, zdoUserDescSet, Request.Miscounted]
    omega
  | _ =>
    refine iff_of_true ?_ not_false
    simp [build, zdoInit, addrOfInterestReq, startIndexReq, ieeeaddrReq, msgCbReq, zdoNwkAddrReq,
      zdoIeeeAddrReq, zdoNodeDescReq, zdoPowerDescReq, zdoSimpleDescReq, zdoActiveEpReq,
      zdoComplexDescReq, zdoUserDescReq, zdoDeviceAnnce, zdoServerDiscReq, zdoMgmtNwkDiscReq,
      zdoMgmtLqiReq, zdoMgmtRtgReq, zdoMgmtBindReq, zdoMgmtLeaveReq, zdoMgmtDirectJoinReq,
      zdoMgmtPermitJoinReq, zdoMgmtNwkUpdateReq, zdoStartupFromApp, zdoAutoFindDestination,
      zdoSetLinkKey, zdoRemoveLinkKey, zdoGetLinkKey, zdoNwkDiscoveryReq, zdoJoinReq,
      zdoMsgCbRegister, zdoMsgCbRemove]

theorem SysRequest.count (req : SysRequest) :
    req.build.stores.length = req.build.cmdLen ↔ ¬ (Request.sys req).Miscounted := by
  cases req with
  | ramWrite req =>
    have hlen := req.len_le
    simp [build, sysRamWrite, Request.Miscounted]
    omega
  | osalNvWrite req =>
    have hlen := req.len_le
    simp [build, sysOsalNvWrite, Request.Miscounted]
    omega
  | osalNvItemInit req =>
    have hlen := req.initLen_le
    simp [build, sysOsalNvItemInit, Request.Miscounted]
    omega
  | _ =>
    refine iff_of_true ?_ not_false
    simp [build, sysSetExtAddr, sysRamRead, sysResetReq, sysOsalNvRead, sysOsalNvDelete,
      sysOsalNvLength, sysOsalStartTimer, sysOsalStopTimer, sysStackTune, sysAdcRead, sysGpio,
      sysSetTime, sysSetTxPower]

theorem AfRequest.count (req : AfRequest) :
    req.build.stores.length = req.build.cmdLen ↔ ¬ (Request.af req).Miscounted := by
  cases req with
  | register req =>
    have hin := req.appNumInClusters_le
    have hout := req.appNumOutClusters_le
    simp [build, afRegister, Request.Miscounted]
    omega
  | dataRequest req =>
    have hlen := req.len_le
    simp [build, afDataRequest, Request.Miscounted]
    omega
  | dataRequestExt req =>
    have hlen := req.len_le
    simp [build, afDataRequestExt, Request.Miscounted]
    omega
  | dataRequestSrcRtg req =>
    have hrelay := req.relayCount.toNat_lt
    have hlen := req.len_le
    simp [build, afDataRequestSrcRtg, Request.Miscounted]
    omega
  | interPanCtl req =>
    have hcommand := req.command_le
    simp [build, afInterPanCtl, Request.Miscounted]
    omega
  | dataStore req =>
    have hlength := req.length_le
    simp [build, afDataStore, Request.Miscounted]
    omega
  | dataRetrieve req =>
    refine iff_of_true ?_ not_false
    simp [build, afDataRetrieve]
  | apsfConfigSet req => exact iff_of_true rfl not_false

theorem SapiRequest.count (req : SapiRequest) :
    req.build.stores.length = req.build.cmdLen ↔ ¬ (Request.sapi req).Miscounted := by
  cases req with
  | appRegisterReq req =>
    have hin := req.inputCommandsNum.toNat_lt
    have hout := req.outputCommandsNum.toNat_lt
    simp [build, zbAppRegisterReq, Request.Miscounted]
    omega
  | sendDataReq req =>
    have hlen := req.len_le
    simp [build, zbSendDataReq, Request.Miscounted]
    omega
  | writeConfiguration req =>
    have hlen := req.len_le
    simp [build, zbWriteConfiguration, Request.Miscounted]
    omega
  | _ =>
    refine iff_of_true ?_ not_false
    simp [build, zbPermitJoiningReq, zbBindDevice, zbAllowBind, zbFindDeviceReq, zbGetDeviceInfo,
      zbReadConfiguration]

/-- The number of bytes stored is the length exactly when the builder counts right. -/
theorem Request.count_iff (req : Request) :
    req.build.stores.length = req.build.cmdLen ↔ ¬ req.Miscounted := by
  cases req with
  | zdo req => exact req.count
  | sys req => exact req.count
  | af req => exact req.count
  | sapi req => exact req.count

/-- **Every request but the miscounted ones is sent as it was written**: the stores fill the
allocated block, and what is sent does not depend on what the block held before. -/
theorem sendsWhatItWrote_build_iff (req : Request) (h : req.build.stores.length ≤ 250) :
    req.build.SendsWhatItWrote ↔ ¬ req.Miscounted := by
  rw [← req.count_iff]
  exact req.build.sendsWhatItWrote_iff (Nat.le_trans h (by decide))

/-! ## The three exceptions -/

/-- `zdoBindReq` counts right. -/
theorem count_zdoBindReq (req : BindReqFormat) :
    (zdoBindReq req).stores.length = (zdoBindReq req).cmdLen :=
  (ZdoRequest.count (.bindReq req)).mpr not_false

/-- The two functions send the same payload, and both stay inside the block they allocate. -/
structure BindAgrees (req : BindReqFormat) : Prop where
  payload : ∀ block block', (zdoUnbindReq req).passed block = (zdoBindReq req).passed block'
  bindInside : ∀ i ∈ (zdoBindReq req).indices, i < (zdoBindReq req).cmdLen
  unbindInside : ∀ i ∈ (zdoUnbindReq req).indices, i < (zdoUnbindReq req).cmdLen

/-- With a long address the payload of `zdoUnbindReq` is seven bytes short. -/
theorem not_bindAgrees {req : BindReqFormat} (h : req.dstAddrMode = 3) : ¬ BindAgrees req := by
  intro hagree
  have hlen := congrArg List.length (hagree.payload (fun _ => 0) fun _ => 0)
  rw [Cmd.length_passed, Cmd.length_passed] at hlen
  simp [zdoUnbindReq, zdoBindReq, BindReqFormat.addrmd, BindReqFormat.endP, h] at hlen

/-- **Bind and unbind agree on the wire** exactly for short addresses. -/
theorem bindAgrees_iff (req : BindReqFormat) : BindAgrees req ↔ req.dstAddrMode ≠ 3 := by
  constructor
  · intro hagree h
    exact not_bindAgrees h hagree
  · intro h
    have hbind := count_zdoBindReq req
    have hunbind := (count_zdoUnbindReq req).mpr h
    have hlen : (zdoBindReq req).cmdLen = 16 := by
      simp [zdoBindReq, BindReqFormat.addrmd, BindReqFormat.endP, h]
    have hlen' : (zdoUnbindReq req).cmdLen = 16 := rfl
    constructor
    · intro block block'
      rw [Cmd.passed_eq_stores _ hunbind (by omega), Cmd.passed_eq_stores _ hbind (by omega)]
      rfl
    · exact ((Cmd.sendsWhatItWrote_iff _ (by omega)).mpr hbind).inside
    · exact ((Cmd.sendsWhatItWrote_iff _ (by omega)).mpr hunbind).inside

/-- A request to remove a binding to a device. -/
def unbindReq (dstAddrMode : UInt8) : BindReqFormat where
  dstAddr := 0
  srcAddress := Vector.replicate 8 0
  srcEndpoint := 1
  clusterID := 6
  dstAddrMode := dstAddrMode
  dstAddress := Vector.replicate 8 0
  dstEndpoint := 1

/-- With a long address it does not agree with the request to add the binding. -/
theorem not_bindAgrees_long : ¬ BindAgrees (unbindReq 3) := not_bindAgrees rfl

/-- With a short address it is sent as it was written. -/
theorem sendsWhatItWrote_unbindReq_short :
    (Request.zdo (.unbindReq (unbindReq 2))).build.SendsWhatItWrote :=
  (sendsWhatItWrote_build_iff (.zdo (.unbindReq (unbindReq 2))) (by decide)).mpr
    fun h : (2 : UInt8) = 3 => absurd h (by decide)

/-- With a long address it is not, although the encoding is short. -/
theorem unbindReq_long_overruns :
    (Request.zdo (.unbindReq (unbindReq 3))).build.stores.length ≤ 250 ∧
      ¬ (Request.zdo (.unbindReq (unbindReq 3))).build.SendsWhatItWrote := by
  constructor
  · decide
  · intro hs
    have hcount : (zdoUnbindReq (unbindReq 3)).stores.length = 16 := hs.count
    exact absurd hcount (by decide)

end ZnpHost.Mt
