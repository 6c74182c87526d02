import ZnpHost.Rpc.Termination

/-!
# What the body loop reads

The body loop of `rpcProcess` asks for the missing bytes until none is missing.  `Polled`
says what a transport answers to that, without the buffer, the index and the counters of
the code; the loop collects exactly this, except that a failed read that asks for 255
bytes counts as 255 bytes read.

## Main definitions

* `Bounded` — a transport that never delivers more than it is asked for.
* `Polled` — the bytes delivered and the failures met while bytes are missing.
* `readBody_polled` — the loop on a transport that answers so.
* `polled_of_readBody` — what a completed loop has read.
* `rpcReadFrame_polled` — what becomes of a frame whose body is delivered.
-/

namespace ZnpHost.Rpc

open Lib

variable {σ : Type}

/-- No read delivers more bytes than requested. -/
def Bounded (read : Transport σ) : Prop :=
  ∀ s len bs s', read s len = some (.data bs, s') → bs.length ≤ len.toNat

/-- Reads that ask for the missing bytes, `m` at first: they deliver the bytes `bs` and fail
`e` times. -/
inductive Polled (read : Transport σ) : σ → ℕ → List UInt8 → ℕ → σ → Prop
  | stop (s : σ) (m : ℕ) : Polled read s m [] 0 s
  | failed {s s₁ s' : σ} {m e : ℕ} {bs : List UInt8} : 0 < m →
      read s (UInt8.ofNat m) = some (.error, s₁) → Polled read s₁ m bs e s' →
      Polled read s m bs (e + 1) s'
  | data {s s₁ s' : σ} {m e : ℕ} {d bs : List UInt8} : 0 < m →
      read s (UInt8.ofNat m) = some (.data d, s₁) → d.length ≤ m →
      Polled read s₁ (m - d.length) bs e s' → Polled read s m (d ++ bs) e s'

/-- Every read leaves less of what `μ` measures. -/
def UsesUp (read : Transport σ) (μ : σ → ℕ) : Prop :=
  ∀ s len r s', read s len = some (r, s') → μ s' < μ s

variable {read : Transport σ} {s s₁ s' : σ} {m e fuel : ℕ} {bs d : List UInt8}

theorem Polled.length_le (h : Polled read s m bs e s') : bs.length ≤ m := by
  induction h with
  | stop => exact Nat.zero_le _
  | failed _ _ _ ih => exact ih
  | data _ _ hd _ ih =>
    rw [List.length_append]
    omega

/-! ## One round of the loop -/

/-- A failed read with retries left changes the retry counter only. -/
theorem readBody_failed {b : BodyState} (hread : read s b.rpcTempLen = some (.error, s₁))
    (hpos : 0 < b.rpcTempLen.toNat) (hlen : b.rpcTempLen.toNat < 255)
    (hretry : b.retryAttempts.toNat < 5) (fuel : ℕ) :
    readBody read (fuel + 1) s b =
      readBody read fuel s₁ { b with retryAttempts := b.retryAttempts + 1 } := by
  have hgt : b.rpcTempLen > 0 := missing_iff.mpr hpos
  have herr : ReadResult.error.ret > b.rpcTempLen := gt_iff_toNat_lt.mpr hlen
  have hless : b.retryAttempts < 5 := retries_left_iff.mpr hretry
  simp [readBody, hgt, hread, herr, hless, BodyState.advance, ReadResult.bytes]

/-- The sixth failed read ends the loop. -/
theorem readBody_gaveUp {b : BodyState} (hread : read s b.rpcTempLen = some (.error, s₁))
    (hpos : 0 < b.rpcTempLen.toNat) (hlen : b.rpcTempLen.toNat < 255)
    (hretry : 5 ≤ b.retryAttempts.toNat) (fuel : ℕ) :
    readBody read (fuel + 1) s b = some (.aborted, s₁) := by
  have hgt : b.rpcTempLen > 0 := missing_iff.mpr hpos
  have herr : ReadResult.error.ret > b.rpcTempLen := gt_iff_toNat_lt.mpr hlen
  have hless : ¬ b.retryAttempts < 5 := mt retries_left_iff.mp (Nat.not_lt.mpr hretry)
  simp [readBody, hgt, hread, herr, hless]

/-- A failed read that asked for 255 bytes passes for a complete one. -/
theorem readBody_misread {b : BodyState} (hread : read s b.rpcTempLen = some (.error, s₁))
    (hlen : b.rpcTempLen.toNat = 255) (fuel : ℕ) :
    readBody read (fuel + 1) s b = readBody read fuel s₁ (b.advance 255) := by
  have hgt : b.rpcTempLen > 0 := by
    rw [gt_iff_toNat_lt, hlen]
    decide
  have hok : ¬ ReadResult.error.ret > b.rpcTempLen := by
    rw [gt_iff_toNat_lt, hlen]
    decide
  simp only [readBody, hgt, if_true, hread, Option.bind_eq_bind, Option.bind_some, hok, if_false,
    ReadResult.bytes, Mem.blit_nil]
  rfl

/-- After it nothing is missing. -/
theorem not_missing_of_misread {b : BodyState} (hlen : b.rpcTempLen.toNat = 255) :
    ¬ (b.advance 255).rpcTempLen > 0 := by
  have h255 : b.rpcTempLen = 255 := UInt8.toNat_inj.mp hlen
  simp [BodyState.advance, h255]

/-- A read of missing bytes stores them and moves on by their number. -/
theorem readBody_data {b : BodyState} (hread : read s b.rpcTempLen = some (.data d, s₁))
    (hpos : 0 < b.rpcTempLen.toNat) (hd : d.length ≤ b.rpcTempLen.toNat) (fuel : ℕ) :
    readBody read (fuel + 1) s b =
      readBody read fuel s₁ (BodyState.advance
        { b with rpcBuff := b.rpcBuff.blit b.rpcBuffIdx.toNat d } (UInt8.ofNat d.length)) := by
  have hlt := b.rpcTempLen.toNat_lt
  have hgt : b.rpcTempLen > 0 := missing_iff.mpr hpos
  have hok : ¬ UInt8.ofNat d.length > b.rpcTempLen := by
    rw [gt_iff_toNat_lt, UInt8.toNat_ofNat', Nat.mod_eq_of_lt (by omega)]
    omega
  simp only [readBody, hgt, if_true, hread, Option.bind_eq_bind, Option.bind_some,
    ReadResult.ret, ReadResult.bytes, hok, if_false]

/-- The number of bytes read moves the index of the buffer. -/
theorem toNat_advance_idx (b : BodyState) {k : ℕ} (hk : b.rpcBuffIdx.toNat + k ≤ 255) :
    (b.advance (UInt8.ofNat k)).rpcBuffIdx.toNat = b.rpcBuffIdx.toNat + k := by
  simp only [BodyState.advance, UInt8.toNat_add, UInt8.toNat_ofNat']
  omega

theorem toNat_ofNat_le {k : ℕ} {x : UInt8} (hk : k ≤ x.toNat) :
    (UInt8.ofNat k).toNat ≤ x.toNat := by
  rw [UInt8.toNat_ofNat']
  exact Nat.le_trans (Nat.mod_le _ _) hk

/-- The missing bytes fit behind the index, also after a read of some of them. -/
theorem advance_inside (b : BodyState) {x : UInt8} (hx : x.toNat ≤ b.rpcTempLen.toNat)
    (hidx : b.rpcBuffIdx.toNat + b.rpcTempLen.toNat ≤ 256) :
    (b.advance x).rpcBuffIdx.toNat + (b.advance x).rpcTempLen.toNat ≤ 256 := by
  have htemp := toNat_advance b hx
  rw [UInt8.ofNat_toNat] at htemp
  rw [htemp]
  simp only [BodyState.advance, UInt8.toNat_add]
  omega

/-- Two blocks stored one after the other; the index may wrap behind the last one. -/
theorem blit_advance (b : BodyState) (d bs : List UInt8)
    (hlen : b.rpcBuffIdx.toNat + d.length + bs.length ≤ 256) :
    (b.rpcBuff.blit b.rpcBuffIdx.toNat d).blit
        (b.advance (UInt8.ofNat d.length)).rpcBuffIdx.toNat bs =
      b.rpcBuff.blit b.rpcBuffIdx.toNat (d ++ bs) := by
  cases bs with
  | nil => simp
  | cons c bs =>
    rw [List.length_cons] at hlen
    rw [toNat_advance_idx b (by omega), Mem.blit_append]

/-! ## The whole loop -/

/-- In `n` rounds, with one read in each, the loop gets from `s` and `b` to `s'` and `b'`. -/
structure Rounds (read : Transport σ) (n : ℕ) (s : σ) (b : BodyState) (s' : σ)
    (b' : BodyState) : Prop where
  run : ∀ fuel, readBody read (fuel + n) s b = readBody read fuel s' b'
  uses : ∀ μ, UsesUp read μ → n + μ s' ≤ μ s

namespace Rounds

variable {n : ℕ} {b b₁ b' : BodyState}

theorem refl (read : Transport σ) (s : σ) (b : BodyState) : Rounds read 0 s b s b where
  run _ := rfl
  uses μ _ := Nat.le_of_eq (Nat.zero_add (μ s))

/-- One more round in front. -/
theorem head {r : ReadResult} (hread : read s b.rpcTempLen = some (r, s₁))
    (hround : ∀ fuel, readBody read (fuel + 1) s b = readBody read fuel s₁ b₁)
    (h : Rounds read n s₁ b₁ s' b') : Rounds read (n + 1) s b s' b' where
  run fuel := by rw [← Nat.add_assoc, hround, h.run]
  uses μ hμ := by
    have hrest := h.uses μ hμ
    have hless := hμ _ _ _ _ hread
    omega

/-- When no byte is missing any more, the loop ends. -/
theorem complete (h : Rounds read n s b s' b') (hdone : ¬ b'.rpcTempLen > 0) (hf : n < fuel) :
    readBody read fuel s b = some (.complete b', s') := by
  obtain ⟨k, rfl⟩ := Nat.exists_eq_add_of_lt hf
  rw [show n + k + 1 = (k + 1) + n by omega, h.run, readBody_done hdone]

end Rounds

/-- **The loop collects what the transport delivers**, as long as no failure meets a request
for 255 bytes. -/
theorem readBody_polled (h : Polled read s m bs e s') (b : BodyState)
    (hlen : b.rpcTempLen.toNat = m) (hidx : b.rpcBuffIdx.toNat + m ≤ 256)
    (hretry : b.retryAttempts.toNat + e ≤ 5) (hfull : m < 255 ∨ e = 0) :
    ∃ n b₁, Rounds read n s b s' b₁ ∧
      b₁.rpcBuff = b.rpcBuff.blit b.rpcBuffIdx.toNat bs ∧
      b₁.rpcTempLen.toNat = m - bs.length := by
  induction h generalizing b with
  | stop s m => exact ⟨0, b, .refl read s b, by simp, hlen⟩
  | @failed s s₁ s' m e bs hpos hread _ ih =>
    subst hlen
    rw [UInt8.ofNat_toNat] at hread
    have hsucc : (b.retryAttempts + 1).toNat = b.retryAttempts.toNat + 1 := toNat_succ (by omega)
    obtain ⟨n, b₁, hrun, hbuff, htemp⟩ := ih { b with retryAttempts := b.retryAttempts + 1 }
      rfl hidx (by rw [hsucc]; omega) (by omega)
    have hround := readBody_failed hread hpos (by omega) (by omega)
    exact ⟨n + 1, b₁, hrun.head hread hround, hbuff, htemp⟩
  | @data s s₁ s' m e d bs hpos hread hd hrest ih =>
    subst hlen
    rw [UInt8.ofNat_toNat] at hread
    have hle := hrest.length_le
    let b₀ : BodyState := { b with rpcBuff := b.rpcBuff.blit b.rpcBuffIdx.toNat d }
    have htemp₀ : (b₀.advance (UInt8.ofNat d.length)).rpcTempLen.toNat =
        b.rpcTempLen.toNat - d.length := toNat_advance b₀ hd
    have hidx₀ := advance_inside b₀ (x := UInt8.ofNat d.length) (toNat_ofNat_le hd) hidx
    obtain ⟨n, b₁, hrun, hbuff, htemp⟩ :=
      ih (b₀.advance (UInt8.ofNat d.length)) htemp₀ (htemp₀ ▸ hidx₀) hretry (by omega)
    refine ⟨n + 1, b₁, hrun.head hread (readBody_data hread hpos hd), ?_, ?_⟩
    · rw [hbuff]
      exact blit_advance b d bs (by omega)
    · rw [htemp, List.length_append]
      omega

/-- Once all missing bytes are delivered, none is missing. -/
theorem readBody_of_polled (h : Polled read s m bs e s') (hall : bs.length = m) (b : BodyState)
    (hlen : b.rpcTempLen.toNat = m) (hidx : b.rpcBuffIdx.toNat + m ≤ 256)
    (hretry : b.retryAttempts.toNat + e ≤ 5) (hfull : m < 255 ∨ e = 0) :
    ∃ n b₁, Rounds read n s b s' b₁ ∧ b₁.rpcBuff = b.rpcBuff.blit b.rpcBuffIdx.toNat bs ∧
      ¬ b₁.rpcTempLen > 0 := by
  obtain ⟨n, b₁, hrun, hbuff, htemp⟩ := readBody_polled h b hlen hidx hretry hfull
  refine ⟨n, b₁, hrun, hbuff, ?_⟩
  rw [missing_iff, htemp, hall, Nat.sub_self]
  exact Nat.lt_irrefl 0

/-- What the first round of a completed loop did: nothing was missing, the read failed and
is tried again, a failure passed for 255 bytes, or bytes were delivered. -/
inductive FirstRound (read : Transport σ) (fuel : ℕ) (s : σ) (b b' : BodyState) (s' : σ) : Prop
  | done : b.rpcTempLen.toNat = 0 → b' = b → s' = s → FirstRound read fuel s b b' s'
  | failed (s₁ : σ) : read s b.rpcTempLen = some (.error, s₁) → 0 < b.rpcTempLen.toNat →
      b.rpcTempLen.toNat < 255 → b.retryAttempts.toNat < 5 →
      readBody read fuel s₁ { b with retryAttempts := b.retryAttempts + 1 } =
        some (.complete b', s') → FirstRound read fuel s b b' s'
  | misread : read s b.rpcTempLen = some (.error, s') → b.rpcTempLen.toNat = 255 →
      b' = b.advance 255 → FirstRound read fuel s b b' s'
  | data (d : List UInt8) (s₁ : σ) : read s b.rpcTempLen = some (.data d, s₁) →
      0 < b.rpcTempLen.toNat → d.length ≤ b.rpcTempLen.toNat →
      readBody read fuel s₁ (BodyState.advance
        { b with rpcBuff := b.rpcBuff.blit b.rpcBuffIdx.toNat d } (UInt8.ofNat d.length)) =
        some (.complete b', s') → FirstRound read fuel s b b' s'

theorem firstRound (hread : Bounded read) {b b' : BodyState}
    (hrun : readBody read (fuel + 1) s b = some (.complete b', s')) :
    FirstRound read fuel s b b' s' := by
  by_cases hpos : b.rpcTempLen > 0
  case neg =>
    rw [readBody_done hpos] at hrun
    obtain ⟨rfl, rfl⟩ : b = b' ∧ s = s' := by simpa using hrun
    rw [missing_iff] at hpos
    exact .done (by omega) rfl rfl
  case pos =>
    have hpos' : 0 < b.rpcTempLen.toNat := missing_iff.mp hpos
    cases hres : read s b.rpcTempLen with
    | none => simp [readBody, hpos, hres] at hrun
    | some r =>
      obtain ⟨r, s₁⟩ := r
      cases r with
      | data d =>
        have hd := hread _ _ _ _ hres
        rw [readBody_data hres hpos' hd] at hrun
        exact .data d s₁ hres hpos' hd hrun
      | error =>
        by_cases hlen : b.rpcTempLen.toNat < 255
        · by_cases hfive : b.retryAttempts.toNat < 5
          · rw [readBody_failed hres hpos' hlen hfive] at hrun
            exact .failed s₁ hres hpos' hlen hfive hrun
          · have herr : ReadResult.error.ret > b.rpcTempLen := by
              rw [gt_iff_lt, UInt8.lt_iff_toNat_lt]
              exact hlen
            have habort : ¬ b.retryAttempts < 5 := by
              rw [UInt8.lt_iff_toNat_lt]
              exact hfive
            simp [readBody, hpos, hres, herr, habort] at hrun
        · have hlt := b.rpcTempLen.toNat_lt
          have h255 : b.rpcTempLen.toNat = 255 := by omega
          rw [readBody_misread hres h255] at hrun
          cases fuel with
          | zero => cases hrun
          | succ fuel =>
            rw [readBody_done (not_missing_of_misread h255)] at hrun
            obtain ⟨rfl, rfl⟩ : b.advance 255 = b' ∧ s₁ = s' := by simpa using hrun
            exact .misread hres h255 rfl

/-- **A completed loop has read all missing bytes**, or was misled by a failure that met a
request for 255 bytes. -/
theorem polled_of_readBody (hread : Bounded read) (fuel : ℕ) :
    ∀ (s : σ) (b b' : BodyState) (s' : σ),
      readBody read fuel s b = some (.complete b', s') →
      b.rpcBuffIdx.toNat + b.rpcTempLen.toNat ≤ 256 → b.retryAttempts.toNat ≤ 5 →
      (∃ bs e, Polled read s b.rpcTempLen.toNat bs e s' ∧ bs.length = b.rpcTempLen.toNat ∧
        b.retryAttempts.toNat + e ≤ 5 ∧
        b'.rpcBuff = b.rpcBuff.blit b.rpcBuffIdx.toNat bs) ∨
      (b.rpcTempLen.toNat = 255 ∧ b'.rpcBuff = b.rpcBuff ∧
        ∃ s₁, Polled read s 255 [] 0 s₁ ∧ read s₁ 255 = some (.error, s')) := by
  induction fuel with
  | zero =>
    intro s b b' s' hrun
    cases hrun
  | succ fuel ih =>
    intro s b b' s' hrun hidx hretry
    have hof : UInt8.ofNat b.rpcTempLen.toNat = b.rpcTempLen := UInt8.ofNat_toNat
    cases firstRound hread hrun with
    | done hzero hb hs =>
      subst hb hs
      exact .inl ⟨[], 0, .stop _ _, hzero.symm, hretry, by simp⟩
    | failed s₁ hres hpos hlen hfive hrest =>
      have hsucc : (b.retryAttempts + 1).toNat = b.retryAttempts.toNat + 1 := toNat_succ (by omega)
      rcases ih _ _ _ _ hrest hidx (by rw [hsucc]; omega) with
        ⟨bs, e, hpoll, hall, he, hbuff⟩ | ⟨h255, -⟩
      · rw [hsucc] at he
        exact .inl ⟨bs, e + 1, .failed hpos (by rwa [hof]) hpoll, hall, by omega, hbuff⟩
      · exact absurd h255 (Nat.ne_of_lt hlen)
    | misread hres h255 hb =>
      have hall : b.rpcTempLen = 255 := UInt8.toNat_inj.mp h255
      exact .inr ⟨h255, by rw [hb]; rfl, s, .stop _ _, by rwa [hall] at hres⟩
    | data d s₁ hres hpos hd hrest =>
      let b₀ : BodyState := { b with rpcBuff := b.rpcBuff.blit b.rpcBuffIdx.toNat d }
      have htemp₀ : (b₀.advance (UInt8.ofNat d.length)).rpcTempLen.toNat =
          b.rpcTempLen.toNat - d.length := toNat_advance b₀ hd
      have hidx₀ := advance_inside b₀ (x := UInt8.ofNat d.length) (toNat_ofNat_le hd) hidx
      rcases ih _ (b₀.advance (UInt8.ofNat d.length)) _ _ hrest hidx₀ hretry with
        ⟨bs, e, hpoll, hall, he, hbuff⟩ | ⟨h255, hbuff, s₂, hpoll, herr⟩
      · rw [htemp₀] at hpoll hall
        refine .inl ⟨d ++ bs, e, .data hpos (by rwa [hof]) hd hpoll, ?_, he, ?_⟩
        · rw [List.length_append]
          omega
        · rw [hbuff]
          exact blit_advance b d bs (by omega)
      · -- all 255 bytes still missing: the read delivered none
        have hlt := b.rpcTempLen.toNat_lt
        rw [htemp₀] at h255
        obtain rfl : d = [] := List.length_eq_zero_iff.mp (by omega)
        rw [List.length_nil, Nat.sub_zero] at h255
        rw [← hof, h255] at hres
        refine .inr ⟨h255, by rw [hbuff]; exact Mem.blit_nil _ _, s₂, ?_, herr⟩
        exact .data (d := []) (by decide) hres (Nat.zero_le _) hpoll

/-! ## The frame around the body -/

theorem toNat_add_three {len : UInt8} (hlen : len.toNat ≤ 252) :
    (len + 3).toNat = len.toNat + 3 := by
  simp only [UInt8.toNat_add, UInt8.reduceToNat]
  omega

/-- The local variables of the body loop behind the length byte. -/
def BodyState.start (rpcBuff : Mem) (len : UInt8) : BodyState where
  rpcBuff := rpcBuff.set 0 len
  rpcBuffIdx := 1
  rpcTempLen := len + 3
  retryAttempts := 0

/-- A body stored behind the length byte. -/
theorem blit_start (rpcBuff : Mem) (len : UInt8) (body : List UInt8) :
    (BodyState.start rpcBuff len).rpcBuff.blit (BodyState.start rpcBuff len).rpcBuffIdx.toNat body =
      rpcBuff.blit 0 (len :: body) :=
  (Mem.blit_cons rpcBuff 0 len body).symm

section Frame

variable {len : UInt8} {body : List UInt8} {rpcBuff : Mem}

/-- The checksum test, once a length byte and as many bytes as it announces are in the
buffer. -/
theorem fcs_blit_iff (m : Mem) (hlen : len.toNat ≤ 252) (hbody : body.length = len.toNat + 3) :
    (m.blit 0 (len :: body)) (len.toNat + 3) = calcFcs (m.blit 0 (len :: body)) (len + 3) ↔
      xorAll (len :: body) = 0 := by
  obtain ⟨bs, z, rfl⟩ : ∃ bs z, body = bs ++ [z] := by
    have hne : body ≠ [] := by
      rintro rfl
      cases hbody
    exact ⟨_, _, (List.dropLast_concat_getLast hne).symm⟩
  rw [List.length_append, List.length_singleton] at hbody
  have hcover : (len :: bs).length = len.toNat + 3 := by
    rw [List.length_cons]
    omega
  have hsize : (len + 3).toNat = (len :: bs).length := by rw [toNat_add_three hlen, hcover]
  have hlast : (m.blit 0 (len :: (bs ++ [z]))) (len.toNat + 3) = z := by
    have hmid := Mem.blit_mid m 0 (len :: bs ++ [z]) (k := (len :: bs).length) (by simp)
    rw [Nat.zero_add, List.getElem_append_right (Nat.le_refl _)] at hmid
    simpa [hcover] using hmid
  rw [calcFcs_eq, hsize, hlast]
  have htake := Mem.take_blit_append m (len :: bs) [z]
  rw [List.cons_append] at htake
  rw [htake, ← List.cons_append, xorAll_append, UInt8.xor_eq_zero_iff, eq_comm]
  simp

/-- What becomes of a frame whose body is complete. -/
theorem rpcReadFrame_complete {b : BodyState} (hlen : len.toNat ≤ 252)
    (hsize : body.length = len.toNat + 3)
    (hrun : readBody read fuel s (.start rpcBuff len) = some (.complete b, s'))
    (hbuff : b.rpcBuff = rpcBuff.blit 0 (len :: body)) (hf : 256 ≤ fuel) :
    rpcReadFrame read fuel s rpcBuff len =
      some (if xorAll (len :: body) = 0 then .valid (rpcBuff.blit 0 (len :: body)) (len + 3)
        else .fcsError, s') := by
  have hprint : printRpcMsg len fuel = some (len + 2) := printRpcMsg_ends (by omega) (by omega)
  have hfcs := fcs_blit_iff rpcBuff hlen hsize
  rw [BodyState.start] at hrun
  simp only [rpcReadFrame, hrun, Option.bind_eq_bind, Option.bind_some, hprint, hbuff]
  by_cases hxor : xorAll (len :: body) = 0
  · rw [if_pos (hfcs.mpr hxor), if_pos hxor]
  · rw [if_neg (mt hfcs.mp hxor), if_neg hxor]

/-- **A body that is delivered is verified and accepted or dropped as a whole**, with one
round for each read. -/
theorem rpcReadFrame_polled (hpoll : Polled read s (len.toNat + 3) body e s')
    (hsize : body.length = len.toNat + 3) (hlen : len.toNat ≤ 252) (he : e ≤ 5)
    (hfull : len.toNat < 252 ∨ e = 0) (rpcBuff : Mem) :
    ∃ n, (∀ fuel, n < fuel → 256 ≤ fuel → rpcReadFrame read fuel s rpcBuff len =
      some (if xorAll (len :: body) = 0 then .valid (rpcBuff.blit 0 (len :: body)) (len + 3)
        else .fcsError, s')) ∧ ∀ μ, UsesUp read μ → n + μ s' ≤ μ s := by
  have hone : (BodyState.start rpcBuff len).rpcBuffIdx.toNat = 1 := rfl
  have hzero : (BodyState.start rpcBuff len).retryAttempts.toNat = 0 := rfl
  obtain ⟨n, b, hrun, hbuff, hdone⟩ := readBody_of_polled hpoll hsize (.start rpcBuff len)
    (toNat_add_three hlen) (by omega) (by omega) (by omega)
  rw [blit_start] at hbuff
  refine ⟨n, ?_, hrun.uses⟩
  intro fuel hn hf
  exact rpcReadFrame_complete hlen hsize (hrun.complete hdone hn) hbuff hf

end Frame

end ZnpHost.Rpc
