import ZnpHost.Mt.Layouts

/-!
# The decoders follow the layouts

Every decoder reads the parts of its layout one after the other, and stores within its
arrays exactly when the declared lengths do not exceed them.  The length checks of the
code change nothing: they hold as soon as the fixed part is there.

## Main results

* `decodes_processGetLinkKey` … `decodes_processStartCnf` — one result a decoder.
* `decodes_handler` — the decoder that `mtProcess` runs follows the layout of its message.
-/

namespace ZnpHost.Mt

open Lib Reader Rpc

/-! ## Rules for the fields of this protocol -/

section Rules

variable {α β : Type} {P : β → Prop} {L : Layout} {Q : Prop} {k l : ℕ}

theorem decodes_word {f : UInt16 → Reader β} (hf : ∀ a, Decodes P (f a) L Q (k + 2) l) :
    Decodes P (word >>= f) (.bytes 2 :: L) Q k l :=
  .bytes takes_word hf

theorem decodes_dword {f : UInt32 → Reader β} (hf : ∀ a, Decodes P (f a) L Q (k + 4) l) :
    Decodes P (dword >>= f) (.bytes 4 :: L) Q k l :=
  .bytes takes_dword hf

theorem decodes_qword {f : UInt64 → Reader β} (hf : ∀ a, Decodes P (f a) L Q (k + 8) l) :
    Decodes P (qword >>= f) (.bytes 8 :: L) Q k l :=
  .bytes takes_qword hf

/-- A list behind a byte that counts its elements. -/
theorem decodes_list {cap size : ℕ} {d : Reader α} (hd : Takes size d fun _ => True)
    {g : UInt8 → CArray cap α → Reader β}
    (hg : ∀ a x k', Decodes P (g a x) L (Q ∧ x.InBounds) k' l) :
    Decodes P (byte >>= fun a => list a.toNat d >>= g a) (.list 1 size cap :: L) Q k l :=
  .list .byte (fun _ a => takes_list hd a.toNat) hg

/-- The same under a length check that the fixed part implies. -/
theorem decodes_listIf {cap size : ℕ} {d : Reader α} (hd : Takes size d fun _ => True)
    {n : UInt8} (hl : l ≤ 250) (hn : n.toNat < k + 4) {g : UInt8 → CArray cap α → Reader β}
    (hg : ∀ a x k', Decodes P (g a x) L (Q ∧ x.InBounds) k' l) :
    Decodes P (byte >>= fun a => listIf (rpcLenOf l > n) a.toNat d >>= g a)
      (.list 1 size cap :: L) Q k l :=
  .list .byte (fun _ a => takes_listIf (lt_rpcLenOf hl (by omega)) hd a.toNat) hg

end Rules

variable {l : ℕ}

/-! ## ZDO -/

theorem decodes_processGetLinkKey :
    Decodes (fun _ => True) processGetLinkKey ZdoCb.getLinkKey.layout True 0 l := by
  refine .byte fun status => ?_
  refine decodes_qword fun ieeeAddr => ?_
  refine .bytes (.block 16) fun linkKeyData => ?_
  exact .done Iff.rfl

theorem decodes_processStateChange :
    Decodes (fun _ => True) processStateChange ZdoCb.stateChangeInd.layout True 0 l where
  covers bs _ := by
    cases bs <;>
      simp [processStateChange, Covers, peek, parse, ZdoCb.layout, Layout.Fits, Field.span]
  within _ _ _ _ _ := iff_of_true trivial ⟨trivial, trivial, trivial⟩

theorem decodes_processNwkAddrRsp (hl : l ≤ 250) :
    Decodes (fun rsp => rsp.assocDevList.InBounds) (processNwkAddrRsp (rpcLenOf l))
      ZdoCb.nwkAddrRsp.layout True 0 l := by
  refine .byte fun status => ?_
  refine decodes_qword fun ieeeAddr => ?_
  refine decodes_word fun nwkAddr => ?_
  refine .byte fun startIndex => ?_
  refine decodes_listIf takes_word hl (by decide) fun numAssocDev assocDevList _ => ?_
  exact .done (by simp)

theorem decodes_processIeeeAddrRsp (hl : l ≤ 250) :
    Decodes (fun rsp => rsp.assocDevList.InBounds) (processIeeeAddrRsp (rpcLenOf l))
      ZdoCb.ieeeAddrRsp.layout True 0 l := by
  refine .byte fun status => ?_
  refine decodes_qword fun ieeeAddr => ?_
  refine decodes_word fun nwkAddr => ?_
  refine .byte fun startIndex => ?_
  refine decodes_listIf takes_word hl (by decide) fun numAssocDev assocDevList _ => ?_
  exact .done (by simp)

theorem decodes_processNodeDescRsp :
    Decodes (fun _ => True) processNodeDescRsp ZdoCb.nodeDescRsp.layout True 0 l := by
  refine decodes_word fun srcAddr => ?_
  refine .byte fun status => ?_
  refine decodes_word fun nwkAddr => ?_
  refine .byte fun loTyComDescAvUsrDesAv => ?_
  refine .byte fun apsFlgFrqBnd => ?_
  refine .byte fun macCapFlg => ?_
  refine decodes_word fun manufacturerCode => ?_
  refine .byte fun maxBufferSize => ?_
  refine decodes_word fun maxTransferSize => ?_
  refine decodes_word fun serverMask => ?_
  refine decodes_word fun maxOutTransferSize => ?_
  refine .byte fun descriptorCapabilities => ?_
  exact .done Iff.rfl

theorem decodes_processPowerDescRsp :
    Decodes (fun _ => True) processPowerDescRsp ZdoCb.powerDescRsp.layout True 0 l := by
  refine decodes_word fun srcAddr => ?_
  refine .byte fun status => ?_
  refine decodes_word fun nwkAddr => ?_
  refine .byte fun currntPwrModeAvalPwrSrcs => ?_
  refine .byte fun currntPwrSrcCurrntPwrSrcLvl => ?_
  exact .done Iff.rfl

theorem decodes_simpleDescriptor :
    Decodes (fun d => d.inClusterList.InBounds ∧ d.outClusterList.InBounds) simpleDescriptor
      [.bytes 1, .bytes 2, .bytes 2, .bytes 1, .list 1 2 16, .list 1 2 16] True 6 l := by
  refine .byte fun endpoint => ?_
  refine decodes_word fun profileID => ?_
  refine decodes_word fun deviceID => ?_
  refine .byte fun deviceVersion => ?_
  refine decodes_list takes_word fun numInClusters inClusterList _ => ?_
  refine decodes_list takes_word fun numOutClusters outClusterList _ => ?_
  exact .done (by simp)

theorem decodes_processSimpleDescRsp (hl : l ≤ 250) :
    Decodes SimpleDescRspFormat.InBounds (processSimpleDescRsp (rpcLenOf l))
      ZdoCb.simpleDescRsp.layout True 0 l := by
  refine decodes_word fun srcAddr => ?_
  refine .byte fun status => ?_
  refine decodes_word fun nwkAddr => ?_
  refine .byte fun len => ?_
  refine .ite ?_ (.map ?_)
  · intro hk
    exact lt_rpcLenOf hl (by change 6 < _; omega)
  · simpa [SimpleDescRspFormat.InBounds] using decodes_simpleDescriptor

theorem decodes_byteListRsp (hl : l ≤ 250) :
    Decodes (fun rsp => rsp.list.InBounds) (byteListRsp (rpcLenOf l)) byteListLayout True 0 l := by
  refine decodes_word fun srcAddr => ?_
  refine .byte fun status => ?_
  refine decodes_word fun nwkAddr => ?_
  refine decodes_listIf .byte hl (by decide) fun count list _ => ?_
  exact .done (by simp)

theorem decodes_processUserDescConf :
    Decodes (fun _ => True) processUserDescConf ZdoCb.userDescConf.layout True 0 l := by
  refine decodes_word fun srcAddr => ?_
  refine .byte fun status => ?_
  refine decodes_word fun nwkAddr => ?_
  exact .done Iff.rfl

theorem decodes_processServerDiscRsp :
    Decodes (fun _ => True) processServerDiscRsp ZdoCb.serverDiscRsp.layout True 0 l := by
  refine decodes_word fun srcAddr => ?_
  refine .byte fun status => ?_
  refine decodes_word fun serverMask => ?_
  exact .done Iff.rfl

theorem decodes_statusRsp : Decodes (fun _ => True) statusRsp statusLayout True 0 l :=
  decodes_word fun _ => .byte fun _ => .done Iff.rfl

theorem takes_networkListItem : Takes 12 networkListItem fun _ => True := by
  show Takes (8 + (1 + (1 + (1 + (1 + 0))))) networkListItem _
  refine .bind takes_qword fun panID _ => ?_
  refine .bind .byte fun logicalChannel _ => ?_
  refine .bind .byte fun stackProfZigVer _ => ?_
  refine .bind .byte fun beacOrdSupFramOrd _ => ?_
  refine .bind .byte fun permitJoin _ => ?_
  exact .done trivial

theorem decodes_processMgmtNwkDiscRsp (hl : l ≤ 250) :
    Decodes (fun rsp => rsp.networkList.InBounds) (processMgmtNwkDiscRsp (rpcLenOf l))
      ZdoCb.mgmtNwkDiscRsp.layout True 0 l := by
  refine decodes_word fun srcAddr => ?_
  refine .byte fun status => ?_
  refine .byte fun networkCount => ?_
  refine .byte fun startIndex => ?_
  refine decodes_listIf takes_networkListItem hl (by decide) ?_
  intro networkListCount networkList _
  exact .done (by simp)

theorem takes_neighborLqiListItem : Takes 22 neighborLqiListItem fun _ => True := by
  show Takes (8 + (8 + (2 + (1 + (1 + (1 + (1 + 0))))))) neighborLqiListItem _
  refine .bind takes_qword fun extendedPanID _ => ?_
  refine .bind takes_qword fun extendedAddress _ => ?_
  refine .bind takes_word fun networkAddress _ => ?_
  refine .bind .byte fun devTypRxOnWhenIdleRelat _ => ?_
  refine .bind .byte fun permitJoining _ => ?_
  refine .bind .byte fun depth _ => ?_
  refine .bind .byte fun lqi _ => ?_
  exact .done trivial

theorem decodes_processMgmtLqiRsp (hl : l ≤ 250) :
    Decodes (fun rsp => rsp.neighborLqiList.InBounds) (processMgmtLqiRsp (rpcLenOf l))
      ZdoCb.mgmtLqiRsp.layout True 0 l := by
  refine decodes_word fun srcAddr => ?_
  refine .byte fun status => ?_
  refine .byte fun neighborTableEntries => ?_
  refine .byte fun startIndex => ?_
  refine decodes_listIf takes_neighborLqiListItem hl (by decide) ?_
  intro neighborLqiListCount neighborLqiList _
  exact .done (by simp)

theorem takes_routingTableListItem : Takes 5 routingTableListItem fun _ => True := by
  show Takes (2 + (1 + (2 + 0))) routingTableListItem _
  refine .bind takes_word fun dstAddr _ => ?_
  refine .bind .byte fun status _ => ?_
  refine .bind takes_word fun nextHop _ => ?_
  exact .done trivial

theorem decodes_processMgmtRtgRsp (hl : l ≤ 250) :
    Decodes (fun rsp => rsp.routingTableList.InBounds) (processMgmtRtgRsp (rpcLenOf l))
      ZdoCb.mgmtRtgRsp.layout True 0 l := by
  refine decodes_word fun srcAddr => ?_
  refine .byte fun status => ?_
  refine .byte fun routingTableEntries => ?_
  refine .byte fun startIndex => ?_
  refine decodes_listIf takes_routingTableListItem hl (by decide) ?_
  intro routingTableListCount routingTableList _
  exact .done (by simp)

theorem inBounds_set (t : BindingTable) (i : ℕ)
    (f : BindingTableListItemFormat → BindingTableListItemFormat) :
    (t.set i f).InBounds ↔ i < 75 ∧ t.InBounds :=
  CArray.inBounds_modify t i _

/-- The address loops store in the first cells only. -/
theorem inBounds_orEach
    (f : UInt64 → BindingTableListItemFormat → BindingTableListItemFormat) (bs : List UInt8)
    (j : ℕ) (t : BindingTable) (hj : j + bs.length ≤ 75) :
    (BindingTable.orEach f bs j t).InBounds ↔ t.InBounds := by
  induction bs generalizing j t with
  | nil => rfl
  | cons b bs ih =>
    rw [List.length_cons] at hj
    rw [BindingTable.orEach, ih _ _ (by omega), inBounds_set, and_iff_right (by omega)]

/-- A round reads two addresses and four bytes, and makes these stores of them. -/
theorem takes_bindingTableRound {P : BindingTable → Prop} {i : ℕ} {t : BindingTable}
    (h : ∀ (src dst : List UInt8) (srcEndpoint clusterID dstAddrMode dstEndpoint : UInt8),
      src.length = 8 → dst.length = 8 →
        P ((BindingTable.orEach .orDst dst 0
          ((BindingTable.orEach .orSrc src 0 (t.set i ({ · with srcIEEEAddr := some 0 }))).set 8
            ({ · with
              srcEndpoint := some srcEndpoint
              clusterID := some clusterID
              dstAddrMode := some dstAddrMode
              dstIEEEAddr := some 0 }))).set 8 ({ · with dstEndpoint := some dstEndpoint }))) :
    Takes 20 (bindingTableRound i t) P := by
  show Takes (8 * 1 + (1 + (1 + (1 + (8 * 1 + (1 + 0)))))) (bindingTableRound i t) P
  refine .bind (.times .byte 8) fun src hsrc => ?_
  refine .bind .byte fun srcEndpoint _ => ?_
  refine .bind .byte fun clusterID _ => ?_
  refine .bind .byte fun dstAddrMode _ => ?_
  refine .bind (.times .byte 8) fun dst hdst => ?_
  refine .bind .byte fun dstEndpoint _ => ?_
  exact .done (h src dst srcEndpoint clusterID dstAddrMode dstEndpoint hsrc hdst)

/-- A round stores at its own index once; the other stores go to entries 0 to 8. -/
theorem takes_bindingTableRound_inBounds (i : ℕ) (t : BindingTable) :
    Takes 20 (bindingTableRound i t) fun t' => t'.InBounds ↔ i < 75 ∧ t.InBounds := by
  apply takes_bindingTableRound
  intro src dst srcEndpoint clusterID dstAddrMode dstEndpoint hsrc hdst
  rw [inBounds_set, and_iff_right (by decide), inBounds_orEach _ _ _ _ (by omega), inBounds_set,
    and_iff_right (by decide), inBounds_orEach _ _ _ _ (by omega), inBounds_set]

theorem takes_bindingTable {c : Prop} [Decidable c] (hc : c) (n : ℕ) :
    Takes (n * 20) (bindingTable c n) fun t => t.InBounds ↔ n ≤ 75 := by
  have hloop := Takes.loop (fun i (t : BindingTable) => t.InBounds ↔ i ≤ 75)
    (fun i t ht => (takes_bindingTableRound_inBounds i t).mono fun t' ht' => ?_) n 0 .empty
    (by simp)
  · rw [bindingTable, if_pos hc]
    rwa [Nat.zero_add] at hloop
  · rw [ht', ht]
    omega

theorem decodes_processMgmtBindRsp (hl : l ≤ 250) :
    Decodes (fun rsp => rsp.bindingTableList.InBounds) (processMgmtBindRsp (rpcLenOf l))
      ZdoCb.mgmtBindRsp.layout True 0 l := by
  refine decodes_word fun srcAddr => ?_
  refine .byte fun status => ?_
  refine .byte fun bindingTableEntries => ?_
  refine .byte fun startIndex => ?_
  refine .list .byte ?_ fun bindingTableListCount bindingTableList _ => ?_
  · intro hk a
    exact takes_bindingTable (lt_rpcLenOf hl (by change 6 < _; omega)) a.toNat
  · exact .done (by simp)

theorem decodes_processEndDeviceAnnceInd :
    Decodes (fun _ => True) processEndDeviceAnnceInd ZdoCb.endDeviceAnnceInd.layout True 0 l := by
  refine decodes_word fun src => ?_
  refine decodes_word fun srcEndpoint => ?_
  refine decodes_qword fun clusterID => ?_
  refine .byte fun dstAddrMode => ?_
  exact .done Iff.rfl

theorem decodes_processMatchDescRspSent :
    Decodes MatchDescRspSentFormat.InBounds processMatchDescRspSent
      ZdoCb.matchDescRspSent.layout True 0 l := by
  refine decodes_word fun nwkAddr => ?_
  refine decodes_list takes_word fun numInClusters inClusterList _ => ?_
  refine decodes_list takes_word fun numOutClusters outClusterList _ => ?_
  exact .done (by simp [MatchDescRspSentFormat.InBounds])

theorem decodes_processSrcRtgInd :
    Decodes (fun rsp => rsp.relayList.InBounds) processSrcRtgInd ZdoCb.srcRtgInd.layout True 0 l :=
  decodes_word fun _ => decodes_list takes_word fun _ _ _ => .done (by simp)

theorem takes_beaconListItem : Takes 21 beaconListItem fun _ => True := by
  show Takes (2 + (2 + (1 + (1 + (1 + (1 + (1 + (1 + (1 + (1 + (1 + (8 + 0))))))))))))
    beaconListItem _
  refine .bind takes_word fun srcAddr _ => ?_
  refine .bind takes_word fun panId _ => ?_
  refine .bind .byte fun logicalChannel _ => ?_
  refine .bind .byte fun permitJoining _ => ?_
  refine .bind .byte fun routerCap _ => ?_
  refine .bind .byte fun devCap _ => ?_
  refine .bind .byte fun protocolVer _ => ?_
  refine .bind .byte fun stackProf _ => ?_
  refine .bind .byte fun lqi _ => ?_
  refine .bind .byte fun depth _ => ?_
  refine .bind .byte fun updateId _ => ?_
  refine .bind takes_qword fun extendedPanId _ => ?_
  exact .done trivial

theorem decodes_processBeaconNotifyInd (hl : l ≤ 250) :
    Decodes (fun rsp => rsp.beaconList.InBounds) (processBeaconNotifyInd (rpcLenOf l))
      ZdoCb.beaconNotifyInd.layout True 0 l :=
  decodes_listIf takes_beaconListItem hl (by decide) fun _ _ _ => .done (by simp)

theorem decodes_processJoinCnf :
    Decodes (fun _ => True) processJoinCnf ZdoCb.joinCnf.layout True 0 l := by
  refine .byte fun status => ?_
  refine decodes_word fun devAddr => ?_
  refine decodes_word fun parentAddr => ?_
  exact .done Iff.rfl

theorem decodes_processNwkDiscoveryCnf :
    Decodes (fun _ => True) processNwkDiscoveryCnf ZdoCb.nwkDiscoveryCnf.layout True 0 l :=
  .byte fun _ => .done Iff.rfl

theorem decodes_processLeaveInd :
    Decodes (fun _ => True) processLeaveInd ZdoCb.leaveInd.layout True 0 l := by
  refine decodes_word fun srcAddr => ?_
  refine decodes_qword fun extAddr => ?_
  refine .byte fun request => ?_
  refine .byte fun remove => ?_
  refine .byte fun rejoin => ?_
  exact .done Iff.rfl

theorem decodes_processMsgCbIncoming :
    Decodes (fun _ => True) processMsgCbIncoming ZdoCb.msgCbIncoming.layout True 0 l := by
  refine decodes_word fun srcAddr => ?_
  refine .byte fun wasBroadcast => ?_
  refine decodes_word fun clusterID => ?_
  refine .byte fun securityUse => ?_
  refine .byte fun seqNum => ?_
  refine decodes_word fun macDstAddr => ?_
  refine .byte fun status => ?_
  refine decodes_qword fun extAddr => ?_
  -- the last address is read without moving the index, and `notUsed` overlaps it
  constructor
  · intro bs _
    match bs with
    | [] => simp [Covers, peekWord, parse, Layout.Fits, Field.span]
    | [_] => simp [Covers, peekWord, parse, Layout.Fits, Field.span]
    | _ :: _ :: bs => simp [Covers, peekWord, peek, parse, Layout.Fits, Field.span]
  · intro bs _ a rest _
    exact iff_of_true trivial ⟨trivial, trivial, trivial⟩

/-! ## SYS -/

theorem decodes_processPingSrsp :
    Decodes (fun _ => True) processPingSrsp SysCb.ping.layout True 0 l :=
  decodes_word fun _ => .done Iff.rfl

theorem decodes_processGetExtAddrSrsp :
    Decodes (fun _ => True) processGetExtAddrSrsp SysCb.getExtAddr.layout True 0 l :=
  decodes_qword fun _ => .done Iff.rfl

theorem decodes_processRamReadSrsp (hl : l ≤ 250) :
    Decodes (fun rsp => rsp.value.InBounds) (processRamReadSrsp (rpcLenOf l))
      SysCb.ramRead.layout True 0 l :=
  .byte fun _ => decodes_listIf .byte hl (by decide) fun _ _ _ => .done (by simp)

theorem decodes_processVersionSrsp :
    Decodes (fun _ => True) processVersionSrsp SysCb.version.layout True 0 l := by
  refine .byte fun transportRev => ?_
  refine .byte fun product => ?_
  refine .byte fun majorRel => ?_
  refine .byte fun minorRel => ?_
  refine .byte fun maintRel => ?_
  exact .done Iff.rfl

theorem decodes_processOsalNvReadSrsp (hl : l ≤ 250) :
    Decodes (fun rsp => rsp.value.InBounds) (processOsalNvReadSrsp (rpcLenOf l))
      SysCb.osalNvRead.layout True 0 l :=
  .byte fun _ => decodes_listIf .byte hl (by decide) fun _ _ _ => .done (by simp)

theorem decodes_processOsalNvLengthSrsp :
    Decodes (fun _ => True) processOsalNvLengthSrsp SysCb.osalNvLength.layout True 0 l :=
  decodes_word fun _ => .done Iff.rfl

theorem decodes_processStackTuneSrsp :
    Decodes (fun _ => True) processStackTuneSrsp SysCb.stackTune.layout True 0 l :=
  .byte fun _ => .done Iff.rfl

theorem decodes_processAdcReadSrsp :
    Decodes (fun _ => True) processAdcReadSrsp SysCb.adcRead.layout True 0 l :=
  decodes_word fun _ => .done Iff.rfl

theorem decodes_processGpioSrsp :
    Decodes (fun _ => True) processGpioSrsp SysCb.gpio.layout True 0 l :=
  .byte fun _ => .done Iff.rfl

theorem decodes_processRandomSrsp :
    Decodes (fun _ => True) processRandomSrsp SysCb.random.layout True 0 l :=
  decodes_word fun _ => .done Iff.rfl

theorem decodes_processGetTimeSrsp :
    Decodes (fun _ => True) processGetTimeSrsp SysCb.getTime.layout True 0 l := by
  refine decodes_dword fun utcTime => ?_
  refine .byte fun hour => ?_
  refine .byte fun minute => ?_
  refine .byte fun second => ?_
  refine .byte fun month => ?_
  refine .byte fun day => ?_
  refine decodes_word fun year => ?_
  exact .done Iff.rfl

theorem decodes_processSetTxPowerSrsp :
    Decodes (fun _ => True) processSetTxPowerSrsp SysCb.setTxPower.layout True 0 l :=
  .byte fun _ => .done Iff.rfl

theorem decodes_processResetInd :
    Decodes (fun _ => True) processResetInd SysCb.resetInd.layout True 0 l := by
  refine .byte fun reason => ?_
  refine .byte fun transportRev => ?_
  refine .byte fun productId => ?_
  refine .byte fun majorRel => ?_
  refine .byte fun minorRel => ?_
  refine .byte fun hwRev => ?_
  exact .done Iff.rfl

theorem decodes_processOsalTimerExpired :
    Decodes (fun _ => True) processOsalTimerExpired SysCb.osalTimerExpired.layout True 0 l :=
  .byte fun _ => .done Iff.rfl

/-! ## AF -/

theorem decodes_processDataConfirm :
    Decodes (fun _ => True) processDataConfirm AfCb.dataConfirm.layout True 0 l := by
  refine .byte fun status => ?_
  refine .byte fun endpoint => ?_
  refine .byte fun transId => ?_
  exact .done Iff.rfl

theorem decodes_processIncomingMsg (hl : l ≤ 250) :
    Decodes (fun rsp => rsp.data.InBounds) (processIncomingMsg (rpcLenOf l))
      AfCb.incomingMsg.layout True 0 l := by
  refine decodes_word fun groupId => ?_
  refine decodes_word fun clusterId => ?_
  refine decodes_word fun srcAddr => ?_
  refine .byte fun srcEndpoint => ?_
  refine .byte fun dstEndpoint => ?_
  refine .byte fun wasVroadcast => ?_
  refine .byte fun linkQuality => ?_
  refine .byte fun securityUse => ?_
  refine decodes_dword fun timeStamp => ?_
  refine .byte fun transSeqNum => ?_
  refine decodes_listIf .byte hl (by decide) fun len data _ => ?_
  exact .done (by simp)

theorem takes_srcAddrRound (srcAddrMode : UInt8) (i : ℕ) (srcAddr : UInt64) :
    Takes 1 (srcAddrRound srcAddrMode i srcAddr) fun _ => True := by
  refine .bind (m := 0) .byte ?_
  intro b _
  split
  · exact .done trivial
  · exact .done trivial

theorem takes_srcAddr (srcAddrMode : UInt8) :
    Takes 8 (loop (srcAddrRound srcAddrMode) 8 0 0) fun _ => True :=
  .loop (fun _ _ => True) (fun i s _ => takes_srcAddrRound srcAddrMode i s) 8 0 0 trivial

theorem decodes_processIncomingMsgExt :
    Decodes (fun rsp => rsp.data.InBounds) processIncomingMsgExt
      AfCb.incomingMsgExt.layout True 0 l := by
  refine decodes_word fun groupId => ?_
  refine decodes_word fun clusterId => ?_
  refine .byte fun srcAddrMode => ?_
  refine .bytes (takes_srcAddr _) fun srcAddr => ?_
  refine .byte fun srcEndpoint => ?_
  refine decodes_word fun srcPanId => ?_
  refine .byte fun dstEndpoint => ?_
  refine .byte fun wasVroadcast => ?_
  refine .byte fun linkQuality => ?_
  refine .byte fun securityUse => ?_
  refine decodes_dword fun timeStamp => ?_
  refine .byte fun transSeqNum => ?_
  refine decodes_list .byte fun len data _ => ?_
  exact .done (by simp)

theorem decodes_processDataRetrieveSrsp (hl : l ≤ 250) :
    Decodes (fun rsp => rsp.data.InBounds) (processDataRetrieveSrsp (rpcLenOf l))
      AfCb.dataRetrieve.layout True 0 l :=
  .byte fun _ => decodes_listIf .byte hl (by decide) fun _ _ _ => .done (by simp)

theorem decodes_processReflectError :
    Decodes (fun _ => True) processReflectError AfCb.reflectError.layout True 0 l := by
  refine .byte fun status => ?_
  refine .byte fun endpoint => ?_
  refine .byte fun transId => ?_
  refine .byte fun dstAddrMode => ?_
  refine decodes_word fun dstAddr => ?_
  exact .done Iff.rfl

/-! ## SAPI -/

theorem decodes_processReadConfigurationSrsp (hl : l ≤ 250) :
    Decodes (fun rsp => rsp.value.InBounds) (processReadConfigurationSrsp (rpcLenOf l))
      SapiCb.readConfiguration.layout True 0 l := by
  refine .byte fun status => ?_
  refine .byte fun configId => ?_
  refine decodes_listIf .byte hl (by decide) fun len value _ => ?_
  exact .done (by simp)

theorem decodes_processGetDeviceInfoSrsp :
    Decodes (fun rsp => rsp.value.InBounds) processGetDeviceInfoSrsp
      SapiCb.getDeviceInfo.layout True 0 l :=
  .byte fun _ => .part (takes_list .byte 8) fun _ hx => .done (by simp [hx])

theorem decodes_processFindDeviceCnf :
    Decodes (fun _ => True) processFindDeviceCnf SapiCb.findDeviceCnf.layout True 0 l :=
  decodes_word fun _ => decodes_qword fun _ => .done Iff.rfl

theorem decodes_processSendDataCnf :
    Decodes (fun _ => True) processSendDataCnf SapiCb.sendDataCnf.layout True 0 l :=
  .byte fun _ => .byte fun _ => .done Iff.rfl

theorem decodes_processReceiveDataInd (hl : l ≤ 250) :
    Decodes (fun rsp => rsp.data.InBounds) (processReceiveDataInd (rpcLenOf l))
      SapiCb.receiveDataInd.layout True 0 l := by
  refine decodes_word fun source => ?_
  refine decodes_word fun command => ?_
  refine .list counts_word ?_ fun len data _ => ?_
  · intro hk a
    exact takes_listIf (lt_rpcLenOf hl (by change 6 < _; omega)) .byte a.toNat
  · exact .done (by simp)

theorem decodes_processAllowBindCnf :
    Decodes (fun _ => True) processAllowBindCnf SapiCb.allowBindCnf.layout True 0 l :=
  decodes_word fun _ => .done Iff.rfl

theorem decodes_processBindCnf :
    Decodes (fun _ => True) processBindCnf SapiCb.bindCnf.layout True 0 l :=
  decodes_word fun _ => .byte fun _ => .done Iff.rfl

theorem decodes_processStartCnf :
    Decodes (fun _ => True) processStartCnf SapiCb.startCnf.layout True 0 l :=
  .byte fun _ => .done Iff.rfl
/-! ## The dispatcher -/

/-- Every case of a table decodes the layout of its callback. -/
def Sound {ι κ : Type} (layout : ι → Layout) (InBounds : κ → Prop) (l : ℕ)
    (table : List (UInt8 × ι × Reader κ)) : Prop :=
  ∀ e ∈ table, Decodes InBounds e.2.2 (layout e.2.1) True 0 l

theorem sound_zdoSrspTable : Sound ZdoCb.layout ZdoIndication.InBounds l zdoSrspTable := by
  simp only [Sound, zdoSrspTable, List.forall_mem_cons, List.not_mem_nil, false_imp_iff,
    implies_true, and_true]
  exact .map decodes_processGetLinkKey

theorem sound_zdoAreqTable (hl : l ≤ 250) :
    Sound ZdoCb.layout ZdoIndication.InBounds l (zdoAreqTable (rpcLenOf l)) := by
  simp only [Sound, zdoAreqTable, List.forall_mem_cons, List.not_mem_nil, false_imp_iff,
    implies_true, and_true]
  refine ⟨.map decodes_processStateChange, .map (decodes_processNwkAddrRsp hl),
    .map (decodes_processIeeeAddrRsp hl), .map decodes_processNodeDescRsp,
    .map decodes_processPowerDescRsp, .map (decodes_processSimpleDescRsp hl),
    .map (decodes_byteListRsp hl), .map (decodes_byteListRsp hl),
    .map (decodes_byteListRsp hl), .map (decodes_byteListRsp hl),
    .map decodes_processUserDescConf, .map decodes_processServerDiscRsp, .map decodes_statusRsp,
    .map decodes_statusRsp, .map decodes_statusRsp, .map (decodes_processMgmtNwkDiscRsp hl),
    .map (decodes_processMgmtLqiRsp hl), .map (decodes_processMgmtRtgRsp hl),
    .map (decodes_processMgmtBindRsp hl), .map decodes_statusRsp, .map decodes_statusRsp,
    .map decodes_statusRsp, .map decodes_processEndDeviceAnnceInd,
    .map decodes_processMatchDescRspSent, .map decodes_statusRsp, .map decodes_processSrcRtgInd,
    .map (decodes_processBeaconNotifyInd hl), .map decodes_processJoinCnf,
    .map decodes_processNwkDiscoveryCnf, .map decodes_processLeaveInd,
    .map decodes_processMsgCbIncoming⟩

theorem sound_sysSrspTable (hl : l ≤ 250) :
    Sound SysCb.layout SysIndication.InBounds l (sysSrspTable (rpcLenOf l)) := by
  simp only [Sound, sysSrspTable, List.forall_mem_cons, List.not_mem_nil, false_imp_iff,
    implies_true, and_true]
  refine ⟨.map decodes_processPingSrsp, .map decodes_processGetExtAddrSrsp,
    .map (decodes_processRamReadSrsp hl), .map decodes_processVersionSrsp,
    .map (decodes_processOsalNvReadSrsp hl), .map decodes_processOsalNvLengthSrsp,
    .map decodes_processStackTuneSrsp, .map decodes_processAdcReadSrsp,
    .map decodes_processGpioSrsp, .map decodes_processRandomSrsp,
    .map decodes_processGetTimeSrsp, .map decodes_processSetTxPowerSrsp⟩

theorem sound_sysAreqTable : Sound SysCb.layout SysIndication.InBounds l sysAreqTable := by
  simp only [Sound, sysAreqTable, List.forall_mem_cons, List.not_mem_nil, false_imp_iff,
    implies_true, and_true]
  exact ⟨.map decodes_processResetInd, .map decodes_processOsalTimerExpired⟩

theorem sound_afSrspTable (hl : l ≤ 250) :
    Sound AfCb.layout AfIndication.InBounds l (afSrspTable (rpcLenOf l)) := by
  simp only [Sound, afSrspTable, List.forall_mem_cons, List.not_mem_nil, false_imp_iff,
    implies_true, and_true]
  exact .map (decodes_processDataRetrieveSrsp hl)

theorem sound_afAreqTable (hl : l ≤ 250) :
    Sound AfCb.layout AfIndication.InBounds l (afAreqTable (rpcLenOf l)) := by
  simp only [Sound, afAreqTable, List.forall_mem_cons, List.not_mem_nil, false_imp_iff,
    implies_true, and_true]
  exact ⟨.map decodes_processDataConfirm, .map (decodes_processIncomingMsg hl),
    .map decodes_processIncomingMsgExt, .map decodes_processReflectError⟩

theorem sound_sapiSrspTable (hl : l ≤ 250) :
    Sound SapiCb.layout SapiIndication.InBounds l (sapiSrspTable (rpcLenOf l)) := by
  simp only [Sound, sapiSrspTable, List.forall_mem_cons, List.not_mem_nil, false_imp_iff,
    implies_true, and_true]
  exact ⟨.map (decodes_processReadConfigurationSrsp hl), .map decodes_processGetDeviceInfoSrsp⟩

theorem sound_sapiAreqTable (hl : l ≤ 250) :
    Sound SapiCb.layout SapiIndication.InBounds l (sapiAreqTable (rpcLenOf l)) := by
  simp only [Sound, sapiAreqTable, List.forall_mem_cons, List.not_mem_nil, false_imp_iff,
    implies_true, and_true]
  exact ⟨.map decodes_processFindDeviceCnf, .map decodes_processSendDataCnf,
    .map (decodes_processReceiveDataInd hl), .map decodes_processAllowBindCnf,
    .map decodes_processBindCnf, .map decodes_processStartCnf⟩

/-- Wrapping the cases of a subsystem keeps them sound. -/
theorem Sound.handlers {ι κ : Type} {layout : ι → Layout} {InBounds : κ → Prop}
    {table : List (UInt8 × ι × Reader κ)} (h : Sound layout InBounds l table)
    {cb : ι → Cb} {ind : κ → Indication} (hcb : ∀ i, (cb i).layout = layout i)
    (hind : InBounds = fun k => (ind k).InBounds) :
    Sound Cb.layout Indication.InBounds l (handlers cb ind table) := by
  intro e he
  obtain ⟨e', he', rfl⟩ := List.mem_map.mp he
  subst hind
  rw [hcb]
  exact .map (h e' he')

theorem sound_mtHandlers (hl : l ≤ 250) (cmd0 : UInt8) :
    Sound Cb.layout Indication.InBounds l (mtHandlers cmd0 (rpcLenOf l)) := by
  unfold mtHandlers zdoProcess sysProcess afProcess sapiProcess
  repeat' split
  · exact sound_zdoSrspTable.handlers (fun _ => rfl) rfl
  · exact (sound_zdoAreqTable hl).handlers (fun _ => rfl) rfl
  · exact (sound_sysSrspTable hl).handlers (fun _ => rfl) rfl
  · exact sound_sysAreqTable.handlers (fun _ => rfl) rfl
  · exact (sound_afSrspTable hl).handlers (fun _ => rfl) rfl
  · exact (sound_afAreqTable hl).handlers (fun _ => rfl) rfl
  · exact (sound_sapiSrspTable hl).handlers (fun _ => rfl) rfl
  · exact (sound_sapiAreqTable hl).handlers (fun _ => rfl) rfl
  · intro e he
    cases he

/-- **The decoder of a message follows the layout of the message.** -/
theorem decodes_handler (hl : l ≤ 250) {cmd0 cmd1 : UInt8} {cb : Cb} {d : Reader Indication}
    (h : handler cmd0 cmd1 (rpcLenOf l) = some (cb, d)) :
    Decodes Indication.InBounds d cb.layout True 0 l := by
  obtain ⟨before, after, hsplit, -⟩ := List.lookup_eq_some_iff.mp h
  exact sound_mtHandlers hl cmd0 (cmd1, cb, d) (by simp [hsplit])

end ZnpHost.Mt
