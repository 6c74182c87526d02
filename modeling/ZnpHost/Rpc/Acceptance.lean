import ZnpHost.Rpc.RoundTrip

/-!
# Which frames change the state, and which calls return

A frame whose bytes arrive, in pieces of any size, is delivered to the queue or leaves no
trace.  What decides is its checksum.  A valid SRSP whose subsystem is not the expected one
does neither: the process ends.  Nor does a call return whose length byte is too large to print.

## Main definitions

* `Arrives` — a length byte and a body that the transport delivers after SOF.
* `rpcProcess_of_arrives` — the outcome of the call.
* `ActsAtomically` — the state changes for a valid frame, and how.
* `rpcProcess_changes_iff` — this holds for all frames but unexpected SRSPs.
* `Oversized`, `EndsProcess` — the lines on which a call does not return.
* `rpcProcess_returns_iff` — it returns on all others.
-/

namespace ZnpHost.Rpc

open Lib

variable {σ : Type} {read : Transport σ} {s s' : σ} {len : UInt8} {body : List UInt8} {e : ℕ}

/-! ## The receive buffer -/

/-- The dispatch of a message in the buffer. -/
theorem rpcDispatch_blit (st : RpcState) (m : Mem) (hbody : body.length = (len + 3).toNat)
    (hne : body ≠ []) :
    rpcDispatch st (m.blit 0 (len :: body)) (len + 3) = deliver st body := by
  have hmsg : ((m.blit 0 (len :: body)).shift 1).take (len + 3).toNat = body := by
    rw [Mem.blit_cons]
    exact Mem.take_shift_blit _ 1 body hbody.symm
  have hhead : (m.blit 0 (len :: body)) 1 = body.headD 0 := by
    cases body with
    | nil => exact absurd rfl hne
    | cons c body => exact Mem.blit_mid m 0 (len :: c :: body) (k := 1) (by simp)
  simp only [rpcDispatch, hmsg, hhead, deliver, printUnexpected_eq_none, Option.map_none]

/-! ## One call -/

/-- After SOF the transport delivers a length byte and a body of that length, without a
failure and in pieces of any size. -/
structure Arrives (read : Transport σ) (s : σ) (len : UInt8) (body : List UInt8) (s' : σ) :
    Prop where
  length : body.length = len.toNat + 3
  reads : ∃ s₁ s₂, read s 1 = some (.data [mtRpcSof], s₁) ∧
    read s₁ 1 = some (.data [len], s₂) ∧ Polled read s₂ (len.toNat + 3) body 0 s'

/-- The outcome of a call: a body whose checksum agrees is dispatched. -/
theorem rpcProcess_of_arrives (h : Arrives read s len body s') (hlen : len.toNat ≤ 252)
    (rpcBuff : Mem) (st : RpcState) :
    ∃ n, ∀ fuel, n ≤ fuel → ∃ v, rpcProcess read fuel s rpcBuff st =
      some (v, s', if xorAll (len :: body) = 0 then deliver st body else some st) := by
  obtain ⟨s₁, s₂, h₁, h₂, hpoll⟩ := h.reads
  have hne : body ≠ [] := by
    rintro rfl
    cases h.length
  obtain ⟨n, hrun, -⟩ :=
    rpcReadFrame_polled hpoll h.length hlen (Nat.zero_le 5) (.inr rfl) rpcBuff
  refine ⟨max (n + 1) 256, ?_⟩
  intro fuel hf
  simp only [rpcProcess, rpcReceive_frame h₁ h₂, hrun fuel (by omega) (by omega),
    Option.bind_eq_bind, Option.bind_some]
  by_cases hxor : xorAll (len :: body) = 0
  · have hdispatch := rpcDispatch_blit st rpcBuff (h.length.trans (toNat_add_three hlen).symm) hne
    refine ⟨.valid (rpcBuff.blit 0 (len :: body)) (len + 3), ?_⟩
    rw [if_pos hxor, if_pos hxor, ← hdispatch]
  · refine ⟨.fcsError, ?_⟩
    rw [if_neg hxor, if_neg hxor]

/-- Exact acceptance and atomic rejection: the call comes back; it changes the state exactly
when the bytes fold to zero and the frame is no unexpected SRSP; then it adds the body to the
queue, an SRSP at the head with one token for `srspSem`, any other frame at the tail; and a
valid frame altered in one byte of the body changes nothing. -/
def ActsAtomically (read : Transport σ) (s : σ) (len : UInt8) (body : List UInt8) (s' : σ)
    (rpcBuff : Mem) (st : RpcState) : Prop :=
  ∃ n, ∀ fuel, n ≤ fuel → ∃ v st',
    rpcProcess read fuel s rpcBuff st = some (v, s', some st') ∧
    (st' ≠ st ↔ xorAll (len :: body) = 0 ∧ ¬ Unexpected st body) ∧
    (st' ≠ st → st' = if cmdType (body.headD 0) = mtRpcCmdSrsp then
        { st with srspSem := st.srspSem + 1, rpcLlq := body :: st.rpcLlq }
      else { st with rpcLlq := st.rpcLlq ++ [body] }) ∧
    (∀ valid i b, xorAll (len :: valid) = 0 → (hi : i < valid.length) → b ≠ valid[i] →
      body = valid.set i b → st' = st)

/-- A valid frame that is not unexpected is queued. -/
theorem actsAtomically_of_valid (h : Arrives read s len body s') (hlen : len.toNat ≤ 252)
    (hxor : xorAll (len :: body) = 0) (rpcBuff : Mem) {st : RpcState}
    (hexp : ¬ Unexpected st body) : ActsAtomically read s len body s' rpcBuff st := by
  obtain ⟨n, hrun⟩ := rpcProcess_of_arrives h hlen rpcBuff st
  refine ⟨n, ?_⟩
  intro fuel hf
  obtain ⟨v, hcall⟩ := hrun fuel hf
  rw [if_pos hxor, deliver_of_expected hexp] at hcall
  refine ⟨v, _, hcall, iff_of_true ?_ ⟨hxor, hexp⟩, fun _ => rfl, ?_⟩
  · intro hsame
    have hllq := congrArg RpcState.rpcLlq hsame
    split at hllq <;> simp at hllq
  · rintro valid i b hvalid hi hb rfl
    have hdiff : xorAll ((len :: valid).set (i + 1) b) ≠ xorAll (len :: valid) :=
      xorAll_set_ne (by simpa using hi) (by simpa using hb)
    rw [List.set_cons_succ, hvalid] at hdiff
    exact absurd hxor hdiff

/-- A frame that is not valid leaves no trace. -/
theorem actsAtomically_of_invalid (h : Arrives read s len body s') (hlen : len.toNat ≤ 252)
    (hxor : xorAll (len :: body) ≠ 0) (rpcBuff : Mem) (st : RpcState) :
    ActsAtomically read s len body s' rpcBuff st := by
  obtain ⟨n, hrun⟩ := rpcProcess_of_arrives h hlen rpcBuff st
  refine ⟨n, ?_⟩
  intro fuel hf
  obtain ⟨v, hcall⟩ := hrun fuel hf
  rw [if_neg hxor] at hcall
  refine ⟨v, st, hcall, ?_, fun hne => absurd rfl hne, fun _ _ _ _ _ _ _ => rfl⟩
  exact iff_of_false (not_not.mpr rfl) fun hvalid => hxor hvalid.1

/-- On a valid SRSP for another subsystem the call does not come back. -/
theorem not_actsAtomically_of_unexpected (h : Arrives read s len body s') (hlen : len.toNat ≤ 252)
    (hxor : xorAll (len :: body) = 0) {rpcBuff : Mem} {st : RpcState} (hun : Unexpected st body) :
    ¬ ActsAtomically read s len body s' rpcBuff st := by
  rintro ⟨n, hatomic⟩
  obtain ⟨n', hrun⟩ := rpcProcess_of_arrives h hlen rpcBuff st
  obtain ⟨v, st', hcall, -⟩ := hatomic (max n n') (Nat.le_max_left n n')
  obtain ⟨v', hcall'⟩ := hrun (max n n') (Nat.le_max_right n n')
  rw [if_pos hxor, deliver_eq_none_iff.mpr hun, hcall] at hcall'
  cases hcall'

/-- **A call accepts or rejects its frame atomically** exactly when the frame is not a valid
SRSP for another subsystem than the expected one. -/
theorem rpcProcess_changes_iff (h : Arrives read s len body s') (hlen : len.toNat ≤ 250)
    (rpcBuff : Mem) (st : RpcState) :
    ActsAtomically read s len body s' rpcBuff st ↔
      ¬ (xorAll (len :: body) = 0 ∧ Unexpected st body) := by
  constructor
  · rintro hatomic ⟨hxor, hun⟩
    exact not_actsAtomically_of_unexpected h (by omega) hxor hun hatomic
  · intro hcond
    by_cases hxor : xorAll (len :: body) = 0
    · exact actsAtomically_of_valid h (by omega) hxor rpcBuff fun hun => hcond ⟨hxor, hun⟩
    · exact actsAtomically_of_invalid h (by omega) hxor rpcBuff st

/-- A reset indication without payload, in pieces, with a read that delivers nothing. -/
def resetIndLine : Line := ⟨[0xFE, 0, 0x41, 0x80, 0xC1], [1, 1, 2, 0, 1].map .bytes⟩

theorem arrives_resetIndLine :
    Arrives Line.read resetIndLine 0 [0x41, 0x80, 0xC1] ⟨[], []⟩ where
  length := rfl
  reads := by
    refine ⟨_, _, rfl, rfl, .data (d := [0x41, 0x80]) (by decide) rfl (by decide) ?_⟩
    refine .data (d := []) (by decide) rfl (by decide) ?_
    exact .data (d := [0xC1]) (by decide) rfl (by decide) (.stop _ _)

/-- It is accepted or rejected atomically. -/
theorem rpcProcess_changes_resetIndLine :
    ActsAtomically Line.read resetIndLine 0 [0x41, 0x80, 0xC1] ⟨[], []⟩ (fun _ => 0) rpcOpen :=
  (rpcProcess_changes_iff arrives_resetIndLine (by decide) (fun _ => 0) rpcOpen).mpr (by decide)

/-- The response to `SYS_PING`, in one piece. -/
def sysPingSrspLine : Line :=
  ⟨[0xFE, 2, 0x61, 0x01, 0x79, 0x07, 0x1C], [1, 1, 5].map .bytes⟩

theorem arrives_sysPingSrspLine :
    Arrives Line.read sysPingSrspLine 2 [0x61, 0x01, 0x79, 0x07, 0x1C] ⟨[], []⟩ where
  length := rfl
  reads := ⟨_, _, rfl, rfl, .data (d := [0x61, 0x01, 0x79, 0x07, 0x1C]) (by decide) rfl
    (by decide) (.stop _ _)⟩

/-- When nobody waits for it, the call does not come back. -/
theorem not_actsAtomically_sysPingSrspLine :
    Arrives Line.read sysPingSrspLine 2 [0x61, 0x01, 0x79, 0x07, 0x1C] ⟨[], []⟩ ∧
      ¬ ActsAtomically Line.read sysPingSrspLine 2 [0x61, 0x01, 0x79, 0x07, 0x1C] ⟨[], []⟩
        (fun _ => 0) rpcOpen := by
  refine ⟨arrives_sysPingSrspLine, ?_⟩
  exact not_actsAtomically_of_unexpected arrives_sysPingSrspLine (by decide) (by decide)
    (by decide)

/-! ## Which calls return -/

/-- With enough fuel the call returns, and the process goes on. -/
def Returns (read : Transport σ) (s : σ) (rpcBuff : Mem) (st : RpcState) : Prop :=
  ∃ n, ∀ fuel, n ≤ fuel → ∃ v s' st', rpcProcess read fuel s rpcBuff st = some (v, s', some st')

/-- The header announces a length byte of 254 or 255. -/
def Oversized (read : Transport σ) (s : σ) : Prop :=
  ∃ len s₂, Announces read s len s₂ ∧ 254 ≤ len.toNat

/-- The frame is a valid SRSP for another subsystem than the expected one.  Behind the length byte
253 no byte is read, and what the buffer held before is taken for the frame. -/
def EndsProcess (read : Transport σ) (s : σ) (rpcBuff : Mem) (st : RpcState) : Prop :=
  (∃ len body s', Arrives read s len body s' ∧ len.toNat ≤ 252 ∧ xorAll (len :: body) = 0 ∧
    Unexpected st body) ∨
  ((∃ s₂, Announces read s 253 s₂) ∧ rpcBuff 256 = 0 ∧ Unexpected st [rpcBuff 1])

/-- A transport with progress delivers any number of bytes that are asked for. -/
theorem Progressing.polled (h : Progressing read) (m : ℕ) :
    ∀ s, m < 256 → ∃ bs s', Polled read s m bs 0 s' ∧ bs.length = m := by
  induction m using Nat.strong_induction_on with
  | _ m ih =>
    intro s hm
    rcases Nat.eq_zero_or_pos m with rfl | hpos
    · exact ⟨[], s, .stop s 0, rfl⟩
    · have htoNat : (UInt8.ofNat m).toNat = m := by
        rw [UInt8.toNat_ofNat']
        exact Nat.mod_eq_of_lt hm
      have hpos' : 0 < UInt8.ofNat m := by
        rw [UInt8.lt_iff_toNat_lt, htoNat]
        exact hpos
      obtain ⟨d, s₁, hread, hd, hle⟩ := h s (UInt8.ofNat m) hpos'
      rw [htoNat] at hle
      obtain ⟨bs, s', hpoll, hlen⟩ := ih (m - d.length) (by omega) s₁ (by omega)
      refine ⟨d ++ bs, s', .data hpos hread hle hpoll, ?_⟩
      rw [List.length_append]
      omega

/-- So it delivers the body of a frame. -/
theorem Announces.arrives {s₂ : σ} (ha : Announces read s len s₂) (h : Progressing read)
    (hlen : len.toNat ≤ 252) : ∃ body s', Arrives read s len body s' := by
  obtain ⟨s₁, h₁, h₂⟩ := ha
  obtain ⟨body, s', hpoll, hbody⟩ := h.polled (len.toNat + 3) s₂ (by omega)
  exact ⟨body, s', hbody, s₁, s₂, h₁, h₂, hpoll⟩

/-- Behind the length byte 253 the body loop ends at once, and the checksum is taken of nothing. -/
theorem rpcReadFrame_of_253 (read : Transport σ) (s₂ : σ) (rpcBuff : Mem) {fuel : ℕ}
    (hf : 256 ≤ fuel) :
    rpcReadFrame read fuel s₂ rpcBuff 253 =
      some (if rpcBuff 256 = 0 then .valid (rpcBuff.set 0 253) 0 else .fcsError, s₂) := by
  obtain ⟨k, rfl⟩ : ∃ k, fuel = k + 1 := ⟨fuel - 1, by omega⟩
  have hempty : ¬ (BodyState.start rpcBuff 253).rpcTempLen > 0 := by
    show ¬ (253 + 3 : UInt8) > 0
    decide
  have hbody : readBody read (k + 1) s₂ (.start rpcBuff 253) =
      some (.complete (.start rpcBuff 253), s₂) := readBody_done hempty s₂ k
  have hprint : printRpcMsg 253 (k + 1) = some (253 + 2) :=
    printRpcMsg_ends (by decide) (Nat.lt_of_lt_of_le (by decide) hf)
  have hfcs : calcFcs (rpcBuff.set 0 253) (253 + 3) = 0 := rfl
  have hlast : (rpcBuff.set 0 253) ((253 : UInt8).toNat + 3) = rpcBuff 256 :=
    Function.update_of_ne (by decide) _ _
  rw [BodyState.start] at hbody
  simp only [rpcReadFrame, hbody, Option.bind_eq_bind, Option.bind_some, hprint, hfcs, hlast]
  split
  · rfl
  · rfl

/-- So the call looks at old content of its buffer. -/
theorem rpcProcess_of_253 {s₂ : σ} (ha : Announces read s 253 s₂) (rpcBuff : Mem) (st : RpcState)
    {fuel : ℕ} (hf : 256 ≤ fuel) :
    ∃ v, rpcProcess read fuel s rpcBuff st = some (v, s₂,
      if rpcBuff 256 = 0 then rpcDispatch st (rpcBuff.set 0 253) 0 else some st) := by
  obtain ⟨s₁, h₁, h₂⟩ := ha
  have hframe := rpcReadFrame_of_253 read s₂ rpcBuff hf
  by_cases hzero : rpcBuff 256 = 0
  · refine ⟨.valid (rpcBuff.set 0 253) 0, ?_⟩
    simp [rpcProcess, rpcReceive_frame h₁ h₂, hframe, hzero]
  · refine ⟨.fcsError, ?_⟩
    simp [rpcProcess, rpcReceive_frame h₁ h₂, hframe, hzero]

/-- It dispatches by the second byte of the buffer. -/
theorem rpcDispatch_eq_none_iff {b : Mem} {rpcLen : UInt8} {st : RpcState} :
    rpcDispatch st b rpcLen = none ↔ Unexpected st [b 1] := by
  simp only [rpcDispatch, Unexpected, List.headD_cons, printUnexpected_eq_none, Option.map_none]
  split
  · split <;> simp_all
  · simp_all

/-- Behind an oversized length byte the call does not return. -/
theorem not_returns_of_oversized (h : Progressing read) (hbig : Oversized read s) (rpcBuff : Mem)
    (st : RpcState) : ¬ Returns read s rpcBuff st := by
  rintro ⟨n, hret⟩
  obtain ⟨len, s₂, ⟨s₁, h₁, h₂⟩, hlen⟩ := hbig
  obtain ⟨v, s', st', hcall⟩ := hret n (Nat.le_refl n)
  simp [rpcProcess, rpcReceive_frame h₁ h₂, rpcReadFrame_hangs h s₂ rpcBuff hlen] at hcall

/-- Nor does it on an unexpected SRSP. -/
theorem not_returns_of_endsProcess {rpcBuff : Mem} {st : RpcState}
    (hends : EndsProcess read s rpcBuff st) : ¬ Returns read s rpcBuff st := by
  rintro ⟨n, hret⟩
  rcases hends with ⟨len, body, s', harr, hlen, hxor, hun⟩ | ⟨⟨s₂, ha⟩, hzero, hun⟩
  · obtain ⟨n', hrun⟩ := rpcProcess_of_arrives harr hlen rpcBuff st
    obtain ⟨v, t, st', hcall⟩ := hret (max n n') (Nat.le_max_left n n')
    obtain ⟨v', hcall'⟩ := hrun (max n n') (Nat.le_max_right n n')
    rw [if_pos hxor, deliver_eq_none_iff.mpr hun, hcall] at hcall'
    cases hcall'
  · obtain ⟨v, t, st', hcall⟩ := hret (max n 256) (Nat.le_max_left n 256)
    obtain ⟨v', hcall'⟩ := rpcProcess_of_253 ha rpcBuff st (Nat.le_max_right n 256)
    have hnone : rpcDispatch st (rpcBuff.set 0 253) 0 = none :=
      rpcDispatch_eq_none_iff.mpr hun
    rw [if_pos hzero, hnone, hcall] at hcall'
    cases hcall'

/-- A call whose frame has arrived returns, unless the frame is an unexpected SRSP. -/
theorem returns_of_arrives (h : Arrives read s len body s') (hlen : len.toNat ≤ 252)
    {rpcBuff : Mem} {st : RpcState} (hgoes : ¬ EndsProcess read s rpcBuff st) :
    Returns read s rpcBuff st := by
  obtain ⟨n, hrun⟩ := rpcProcess_of_arrives h hlen rpcBuff st
  refine ⟨n, ?_⟩
  intro fuel hf
  obtain ⟨v, hcall⟩ := hrun fuel hf
  by_cases hxor : xorAll (len :: body) = 0
  · have hexp : ¬ Unexpected st body := fun hun =>
      hgoes (.inl ⟨len, body, s', h, hlen, hxor, hun⟩)
    rw [if_pos hxor, deliver_of_expected hexp] at hcall
    exact ⟨v, s', _, hcall⟩
  · rw [if_neg hxor] at hcall
    exact ⟨v, s', st, hcall⟩

/-- So does a call on the length byte 253. -/
theorem returns_of_253 {s₂ : σ} (ha : Announces read s 253 s₂) {rpcBuff : Mem} {st : RpcState}
    (hgoes : ¬ EndsProcess read s rpcBuff st) : Returns read s rpcBuff st := by
  refine ⟨256, ?_⟩
  intro fuel hf
  obtain ⟨v, hcall⟩ := rpcProcess_of_253 ha rpcBuff st hf
  by_cases hzero : rpcBuff 256 = 0
  · obtain ⟨st', hst'⟩ : ∃ st', rpcDispatch st (rpcBuff.set 0 253) 0 = some st' := by
      rw [← Option.ne_none_iff_exists', ne_eq, rpcDispatch_eq_none_iff]
      exact fun hun => hgoes (.inr ⟨⟨s₂, ha⟩, hzero, hun⟩)
    rw [if_pos hzero, hst'] at hcall
    exact ⟨v, s₂, st', hcall⟩
  · rw [if_neg hzero] at hcall
    exact ⟨v, s₂, st, hcall⟩

/-- **A call of `rpcProcess` returns exactly when its frame is neither oversized nor an
unexpected SRSP.** -/
theorem rpcProcess_returns_iff (read : Transport σ) (h : Progressing read) (s : σ)
    (rpcBuff : Mem) (st : RpcState) :
    Returns read s rpcBuff st ↔ ¬ Oversized read s ∧ ¬ EndsProcess read s rpcBuff st := by
  constructor
  · intro hret
    exact ⟨fun hbig => not_returns_of_oversized h hbig rpcBuff st hret,
      fun hends => not_returns_of_endsProcess hends hret⟩
  · rintro ⟨hsmall, hgoes⟩
    rcases h.announces s with ⟨b, s₁, hb, h₁⟩ | ⟨len, s₂, ha⟩
    · refine ⟨0, ?_⟩
      intro fuel _
      exact ⟨.noSof, s₁, st, by simp [rpcProcess, rpcReceive_noSof h₁ hb]⟩
    · have hlen : len.toNat ≤ 253 := by
        by_contra hlarge
        exact hsmall ⟨len, s₂, ha, by omega⟩
      by_cases hbody : len.toNat ≤ 252
      · obtain ⟨body, s', harr⟩ := ha.arrives h hbody
        exact returns_of_arrives harr hbody hgoes
      · obtain rfl : len = 253 := UInt8.toNat_inj.mp (by
          have h253 : (253 : UInt8).toNat = 253 := rfl
          omega)
        exact returns_of_253 ha hgoes

/-- A line of bytes that are no SOF, which delivers one at each read. -/
def zeroLine : Transport ℕ := fun pos _ => some (.data [0], pos + 1)

theorem progressing_zeroLine : Progressing zeroLine := by
  intro s len hlen
  rw [UInt8.lt_iff_toNat_lt] at hlen
  exact ⟨_, _, rfl, Nat.one_pos, hlen⟩

/-- It announces no frame. -/
theorem not_announces_zeroLine {pos pos' : ℕ} : ¬ Announces zeroLine pos len pos' := by
  rintro ⟨s₁, h₁, -⟩
  obtain ⟨hdata, -⟩ := Prod.mk.inj (Option.some.inj h₁)
  exact absurd (ReadResult.data.inj hdata) (by decide)

/-- A call on it returns. -/
theorem rpcProcess_returns_iff_zeroLine : Returns zeroLine 0 (fun _ => 0) rpcOpen := by
  refine (rpcProcess_returns_iff zeroLine progressing_zeroLine 0 _ rpcOpen).mpr ⟨?_, ?_⟩
  · rintro ⟨len, s₂, ha, -⟩
    exact not_announces_zeroLine ha
  · rintro (⟨len, body, s', harr, -⟩ | ⟨⟨s₂, ha⟩, -⟩)
    · obtain ⟨s₁, s₂, h₁, h₂, -⟩ := harr.reads
      exact not_announces_zeroLine ⟨s₁, h₁, h₂⟩
    · exact not_announces_zeroLine ha

end ZnpHost.Rpc
