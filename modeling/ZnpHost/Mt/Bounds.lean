import ZnpHost.Mt.Decoders

/-!
# Where the decoders read and store

No decoder compares the index it reads at with the length of the message, and none
compares a declared number of elements with the size of the array it fills.  Both
theorems below say exactly which frames this is harmless for.

## Main results

* `staysInside_iff` — the decoder stays inside the payload, and is a function of it, exactly
  when the payload holds the fixed part and the declared lists.
* `storesInBounds_iff` — on a well-formed frame the stores stay inside the arrays exactly when
  the declared lengths do, which only the messages of `smallArrays` can violate.
-/

namespace ZnpHost.Mt

open Lib Reader Rpc

variable {registered : Cb → Bool} {f : MtFrame} {rpcBuff : Mem} {cb : Cb} {d : Reader Indication}

/-- The length byte of the RPC layer for a frame. -/
abbrev rpcLen (f : MtFrame) : UInt8 := rpcLenOf f.payload.length

/-! ## One decoder on a delivered frame -/

theorem Delivered.mtProcess_eq (hm : Delivered f rpcBuff) :
    mtProcess registered rpcBuff (rpcLen f) =
      (decoder registered f.cmd0 f.cmd1 (rpcLen f)).map fun d => (d.exec rpcBuff 2).1 := by
  rw [mtProcess, hm.cmd0, hm.cmd1]

theorem Delivered.mtReads_eq (hm : Delivered f rpcBuff)
    (hd : decoder registered f.cmd0 f.cmd1 (rpcLen f) = some d) :
    mtReads registered rpcBuff (rpcLen f) = d.reads rpcBuff 2 := by
  rw [mtReads, hm.cmd0, hm.cmd1, hd]

/-- The decoder of a frame succeeds on the payload exactly when the payload fits the layout. -/
theorem covers_payload (h : handler f.cmd0 f.cmd1 (rpcLen f) = some (cb, d)) :
    d.Covers f.payload ↔ cb.layout.Fits f.payload :=
  (decodes_handler f.payload_le h).covers _ (Nat.zero_add _)

/-- It reads inside the payload under the same condition. -/
theorem reads_payload (hm : Delivered f rpcBuff)
    (h : handler f.cmd0 f.cmd1 (rpcLen f) = some (cb, d)) :
    (∀ i ∈ d.reads rpcBuff 2, 2 ≤ i ∧ i < (rpcLen f).toNat - 1) ↔
      cb.layout.Fits f.payload := by
  have hlen : (rpcLen f).toNat - 1 = (2 : UInt8).toNat + f.payload.length := by
    rw [toNat_rpcLenOf f.payload_le]
    change _ = 2 + _
    omega
  rw [hlen, ← covers_payload h]
  exact reads_inside_iff d hm.holds

/-- What it computes then depends on the payload alone. -/
theorem exec_payload (h : handler f.cmd0 f.cmd1 (rpcLen f) = some (cb, d))
    (hfits : cb.layout.Fits f.payload) :
    ∃ ind, (ind.InBounds ↔ cb.layout.Within f.payload) ∧
      ∀ rpcBuff, Delivered f rpcBuff → (d.exec rpcBuff 2).1 = ind := by
  obtain ⟨⟨ind, rest⟩, hparse⟩ := Option.isSome_iff_exists.mp ((covers_payload h).mpr hfits)
  refine ⟨ind, ?_, fun rpcBuff hm => (exec_of_parse d hm.holds hparse).1⟩
  have hin := (decodes_handler f.payload_le h).within _ (Nat.zero_add _) ind rest hparse
  exact hin.trans (and_iff_right trivial)

/-! ## Reading -/

/-- The decoding of the frame uses its payload and nothing else, and is refused when the
payload is too short. -/
structure StaysInside (registered : Cb → Bool) (f : MtFrame) : Prop where
  reads : ∀ rpcBuff, Delivered f rpcBuff →
    ∀ i ∈ mtReads registered rpcBuff (rpcLen f), 2 ≤ i ∧ i < (rpcLen f).toNat - 1
  refuses : ∀ cb, route f = some cb → ¬ cb.layout.Fits f.payload →
    ∀ rpcBuff, Delivered f rpcBuff → mtProcess registered rpcBuff (rpcLen f) = none
  congr : ∀ rpcBuff rpcBuff', Delivered f rpcBuff → Delivered f rpcBuff' →
    mtProcess registered rpcBuff (rpcLen f) = mtProcess registered rpcBuff' (rpcLen f)

theorem route_eq_some_iff :
    route f = some cb ↔ ∃ d, handler f.cmd0 f.cmd1 (rpcLen f) = some (cb, d) := by
  rw [route, Option.map_eq_some_iff]
  constructor
  · rintro ⟨⟨_, d⟩, h, rfl⟩
    exact ⟨d, h⟩
  · rintro ⟨d, h⟩
    exact ⟨_, h, rfl⟩

/-- A frame whose callback is not registered is not decoded. -/
theorem staysInside_of_decoder_none (h : decoder registered f.cmd0 f.cmd1 (rpcLen f) = none) :
    StaysInside registered f where
  reads rpcBuff hm i hi := by
    rw [mtReads, hm.cmd0, hm.cmd1, h] at hi
    cases hi
  refuses _ _ _ rpcBuff hm := by rw [hm.mtProcess_eq, h, Option.map_none]
  congr rpcBuff rpcBuff' hm hm' := by rw [hm.mtProcess_eq, hm'.mtProcess_eq, h]; rfl

/-- A payload that is too short is read beyond its end. -/
theorem StaysInside.fits (hs : StaysInside registered f) (hroute : route f = some cb)
    (hreg : registered cb = true) : cb.layout.Fits f.payload := by
  obtain ⟨d, hd⟩ := route_eq_some_iff.mp hroute
  have hdec := decoder_eq_some_iff.mpr ⟨cb, hd, hreg⟩
  have hm := Delivered.ofList f fun _ => 0
  apply (reads_payload hm hd).mp
  rw [← hm.mtReads_eq hdec]
  exact hs.reads _ hm

/-- **The decoders read inside the payload exactly when it is long enough**: when it holds
the fixed part of the message and the elements its counts declare. -/
theorem staysInside_iff (registered : Cb → Bool) (f : MtFrame) :
    StaysInside registered f ↔
      ∀ cb, route f = some cb → registered cb = true → cb.layout.Fits f.payload := by
  constructor
  · intro hs cb hroute hreg
    exact hs.fits hroute hreg
  · intro hfits
    cases hdec : decoder registered f.cmd0 f.cmd1 (rpcLen f) with
    | none => exact staysInside_of_decoder_none hdec
    | some d =>
      obtain ⟨cb, hd, hreg⟩ := decoder_eq_some_iff.mp hdec
      have hroute : route f = some cb := route_eq_some_iff.mpr ⟨d, hd⟩
      have hcb := hfits cb hroute hreg
      obtain ⟨ind, -, hexec⟩ := exec_payload hd hcb
      constructor
      · intro rpcBuff hm
        rw [hm.mtReads_eq hdec]
        exact (reads_payload hm hd).mpr hcb
      · intro cb' hroute' hshort
        rw [hroute, Option.some.injEq] at hroute'
        exact absurd (hroute' ▸ hcb) hshort
      · intro rpcBuff rpcBuff' hm hm'
        rw [hm.mtProcess_eq, hm'.mtProcess_eq, hdec, Option.map_some, Option.map_some,
          hexec _ hm, hexec _ hm']

/-- `SYS_RESET_IND` without its payload. -/
def emptyResetInd : MtFrame := ⟨mtRpcCmdAreq ||| mtRpcSysSys, mtSysResetInd, [], by decide⟩

/-- It is delivered, and all six members of the structure come from beyond the frame. -/
theorem emptyResetInd_reads_beyond :
    ¬ StaysInside (fun _ => true) emptyResetInd := by
  intro hs
  have hroute : route emptyResetInd = some (.sys .resetInd) := rfl
  exact absurd (hs.fits hroute rfl) (by decide)

/-! ## Storing -/

/-- The payload is the fixed part of the message and the elements its counts declare. -/
def WellFormed (f : MtFrame) : Prop := ∀ cb, route f = some cb → cb.layout.Exact f.payload

/-- No array of the structure passed to the callback is overrun. -/
def StoresInBounds (registered : Cb → Bool) (f : MtFrame) : Prop :=
  ∀ rpcBuff, Delivered f rpcBuff →
    ∀ ind, mtProcess registered rpcBuff (rpcLen f) = some ind → ind.InBounds

/-- The messages that can declare more elements than their array has cells. -/
def smallArrays : List Cb :=
  [.zdo .nwkAddrRsp, .zdo .ieeeAddrRsp, .zdo .simpleDescRsp, .zdo .activeEpRsp,
   .zdo .matchDescRsp, .zdo .complexDescRsp, .zdo .userDescRsp, .zdo .matchDescRspSent,
   .sys .ramRead, .af .incomingMsg, .af .incomingMsgExt, .sapi .readConfiguration,
   .sapi .receiveDataInd]

/-- In all other messages the size of a frame bounds the number of elements. -/
theorem roomy_of_not_mem (h : cb ∉ smallArrays) : cb.layout.Roomy 250 := by
  revert h
  rcases cb with cb | cb | cb | cb <;> cases cb <;> decide

/-- A list longer than its array is stored all the same. -/
theorem StoresInBounds.within (hs : StoresInBounds registered f) (hf : WellFormed f)
    (hroute : route f = some cb) (hreg : registered cb = true) : cb.layout.Within f.payload := by
  obtain ⟨d, hd⟩ := route_eq_some_iff.mp hroute
  obtain ⟨ind, hwithin, hexec⟩ := exec_payload hd (hf cb hroute).fits
  have hm := Delivered.ofList f fun _ => 0
  apply hwithin.mp
  apply hs _ hm
  rw [hm.mtProcess_eq, decoder_eq_some_iff.mpr ⟨cb, hd, hreg⟩, Option.map_some, hexec _ hm]

/-- **On a well-formed frame the stores stay inside the arrays exactly when the declared
lengths do**, and this is automatic outside `smallArrays`. -/
theorem storesInBounds_iff (registered : Cb → Bool) (f : MtFrame) (hf : WellFormed f) :
    StoresInBounds registered f ↔
      ∀ cb, route f = some cb → registered cb = true → cb ∈ smallArrays →
        cb.layout.Within f.payload := by
  constructor
  · intro hs cb hroute hreg _
    exact hs.within hf hroute hreg
  · intro hsmall rpcBuff hm ind hind
    rw [hm.mtProcess_eq, Option.map_eq_some_iff] at hind
    obtain ⟨d, hdec, rfl⟩ := hind
    obtain ⟨cb, hd, hreg⟩ := decoder_eq_some_iff.mp hdec
    have hroute : route f = some cb := route_eq_some_iff.mpr ⟨d, hd⟩
    have hfits := (hf cb hroute).fits
    obtain ⟨ind, hwithin, hexec⟩ := exec_payload hd hfits
    rw [hexec _ hm, hwithin]
    by_cases hmem : cb ∈ smallArrays
    · exact hsmall cb hroute hreg hmem
    · exact (roomy_of_not_mem hmem).within hfits f.payload_le

/-- An answer to `sysRamRead` with `n` bytes. -/
def ramReadSrsp (n : ℕ) (hn : n ≤ 248) : MtFrame where
  cmd0 := mtRpcCmdSrsp ||| mtRpcSysSys
  cmd1 := mtSysRamRead
  payload := 0 :: UInt8.ofNat n :: List.replicate n 0
  payload_le := by
    simp only [List.length_cons, List.length_replicate]
    omega

theorem route_ramReadSrsp (n : ℕ) (hn : n ≤ 248) :
    route (ramReadSrsp n hn) = some (.sys .ramRead) := by
  have hany : ∀ l, (handler (mtRpcCmdSrsp ||| mtRpcSysSys) mtSysRamRead l).map Prod.fst =
      some (.sys .ramRead) := fun _ => rfl
  exact hany _

theorem wellFormed_ramReadSrsp (n : ℕ) (hn : n ≤ 248) : WellFormed (ramReadSrsp n hn) := by
  intro cb hroute
  rw [route_ramReadSrsp, Option.some.injEq] at hroute
  have hlt : n % 256 = n := by omega
  subst hroute
  simp [Cb.layout, SysCb.layout, Layout.Exact, Field.span, ramReadSrsp, leNat, hlt]
  omega

/-- 128 bytes are the most that fit into `RamReadSrspFormat_t`. -/
theorem storesInBounds_ramReadSrsp :
    StoresInBounds (fun _ => true) (ramReadSrsp 128 (by decide)) := by
  apply (storesInBounds_iff _ _ (wellFormed_ramReadSrsp 128 (by decide))).mpr
  intro cb hroute _ _
  rw [route_ramReadSrsp, Option.some.injEq] at hroute
  subst hroute
  exact ⟨trivial, Nat.le_refl 128, trivial⟩

/-- With 129 bytes the last store is beyond the array. -/
theorem ramReadSrsp_overruns :
    WellFormed (ramReadSrsp 129 (by decide)) ∧
      ¬ StoresInBounds (fun _ => true) (ramReadSrsp 129 (by decide)) := by
  have hf := wellFormed_ramReadSrsp 129 (by decide)
  refine ⟨hf, ?_⟩
  intro hs
  have hwithin := hs.within hf (route_ramReadSrsp 129 (by decide)) rfl
  have hle : (129 : ℕ) ≤ 128 := hwithin.2.1
  exact absurd hle (by decide)

end ZnpHost.Mt
