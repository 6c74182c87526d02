import ZnpHost.Rpc.Receive

/-!
# Termination of the receive path

With a transport that always delivers something, the body loop of `rpcProcess` is never
given up.  The loop of `printRpcMsg` compares an 8-bit counter with an `int` bound: it ends
exactly when the bound `len + 2` is a byte.

## Main definitions

* `Progressing` — a transport whose reads deliver at least one byte.
* `Announces` — the transport delivers the header of a frame.
* `readBody_ne_aborted`, `printRpcMsgLoop_ends`, `printRpcMsgLoop_hangs` — the two loops.
* `rpcReadFrame_hangs` — behind a length byte of 254 or 255 a call never comes back.
-/

namespace ZnpHost.Rpc

open Lib

variable {σ : Type}

/-- Every read returns at least one byte and at most the number requested. -/
def Progressing (read : Transport σ) : Prop :=
  ∀ s len, 0 < len → ∃ bs s', read s len = some (.data bs, s') ∧
    0 < bs.length ∧ bs.length ≤ len.toNat

/-- The transport delivers SOF and then the length byte `len`. -/
def Announces (read : Transport σ) (s : σ) (len : UInt8) (s₂ : σ) : Prop :=
  ∃ s₁, read s 1 = some (.data [mtRpcSof], s₁) ∧ read s₁ 1 = some (.data [len], s₂)

/-! ## The body loop -/

/-- The tests of the loop, on the values of its counters. -/
theorem missing_iff {b : BodyState} : b.rpcTempLen > 0 ↔ 0 < b.rpcTempLen.toNat :=
  UInt8.lt_iff_toNat_lt

theorem gt_iff_toNat_lt {x y : UInt8} : x > y ↔ y.toNat < x.toNat := UInt8.lt_iff_toNat_lt

theorem retries_left_iff {b : BodyState} : b.retryAttempts < 5 ↔ b.retryAttempts.toNat < 5 :=
  UInt8.lt_iff_toNat_lt

/-- A read of at most the missing bytes leaves that many fewer. -/
theorem toNat_advance (b : BodyState) {k : ℕ} (hle : k ≤ b.rpcTempLen.toNat) :
    (b.advance (UInt8.ofNat k)).rpcTempLen.toNat = b.rpcTempLen.toNat - k := by
  have hb := b.rpcTempLen.toNat_lt
  have hk : (UInt8.ofNat k).toNat = k := by
    rw [UInt8.toNat_ofNat']
    exact Nat.mod_eq_of_lt (by omega)
  simp only [BodyState.advance]
  split
  · next h =>
    rw [UInt8.toNat_sub_of_le _ _ (UInt8.le_of_lt h), hk]
  · next h =>
    rw [gt_iff_toNat_lt, hk] at h
    simp
    omega

/-- The loop stops as soon as no byte is missing. -/
theorem readBody_done {read : Transport σ} {b : BodyState} (hb : ¬ b.rpcTempLen > 0) (s : σ)
    (fuel : ℕ) : readBody read (fuel + 1) s b = some (.complete b, s) := by
  simp [readBody, hb]

/-- While bytes are missing, one round with progress goes on to the next one. -/
theorem readBody_round {read : Transport σ} (h : Progressing read) {b : BodyState}
    (hb : b.rpcTempLen > 0) (s : σ) :
    ∃ b₁ s₁, ∀ fuel, readBody read (fuel + 1) s b = readBody read fuel s₁ b₁ := by
  obtain ⟨bs, s₁, hread, -, hle⟩ := h s b.rpcTempLen hb
  have hlt := b.rpcTempLen.toNat_lt
  have hret : (ReadResult.data bs).ret.toNat = bs.length := by
    simp only [ReadResult.ret, UInt8.toNat_ofNat']
    exact Nat.mod_eq_of_lt (by omega)
  have hok : ¬ (ReadResult.data bs).ret > b.rpcTempLen := by
    rw [gt_iff_toNat_lt, hret]
    omega
  let b₀ : BodyState := { b with rpcBuff := b.rpcBuff.blit b.rpcBuffIdx.toNat bs }
  refine ⟨b₀.advance (ReadResult.data bs).ret, s₁, ?_⟩
  intro fuel
  simp only [readBody, hb, if_true, hread, Option.bind_eq_bind, Option.bind_some, hok, if_false]
  rfl

/-- Without failed reads the loop is never aborted. -/
theorem readBody_ne_aborted {read : Transport σ} (h : Progressing read) (fuel : ℕ) :
    ∀ (s : σ) (b : BodyState) (s' : σ), readBody read fuel s b ≠ some (.aborted, s') := by
  induction fuel with
  | zero =>
    intro s b s'
    simp [readBody]
  | succ fuel ih =>
    intro s b s'
    by_cases hpos : b.rpcTempLen > 0
    · obtain ⟨b₁, s₁, hround⟩ := readBody_round h hpos s
      rw [hround]
      exact ih s₁ b₁ s'
    · simp [readBody_done hpos]

/-! ## The printing loop -/

/-- The printing loop reaches a bound that fits in eight bits. -/
theorem printRpcMsgLoop_ends {len : UInt8} (hlen : len.toNat ≤ 253) (n : ℕ) :
    ∀ i : UInt8, i.toNat ≤ len.toNat + 2 → len.toNat + 2 - i.toNat ≤ n →
      ∀ fuel, n < fuel → printRpcMsgLoop len fuel i = some (len + 2) := by
  induction n with
  | zero =>
    intro i hi hn fuel hf
    obtain ⟨fuel, rfl⟩ : ∃ k, fuel = k + 1 := ⟨fuel - 1, by omega⟩
    have hend : i = len + 2 := by
      apply UInt8.toNat_inj.mp
      simp only [UInt8.toNat_add, UInt8.reduceToNat]
      omega
    have hstop : ¬ i.toNat < len.toNat + 2 := by omega
    rw [printRpcMsgLoop, if_neg hstop, hend]
  | succ n ih =>
    intro i hi hn fuel hf
    obtain ⟨fuel, rfl⟩ : ∃ k, fuel = k + 1 := ⟨fuel - 1, by omega⟩
    rw [printRpcMsgLoop]
    split
    · next hlt =>
      have hsucc : (i + 1).toNat = i.toNat + 1 := toNat_succ (by omega)
      exact ih (i + 1) (by omega) (by omega) fuel (by omega)
    · next hge =>
      congr 1
      apply UInt8.toNat_inj.mp
      simp only [UInt8.toNat_add, UInt8.reduceToNat]
      omega

/-- Printing a frame whose length byte is at most 253 ends. -/
theorem printRpcMsg_ends {len : UInt8} (hlen : len.toNat ≤ 253) {fuel : ℕ}
    (hf : len.toNat < fuel) : printRpcMsg len fuel = some (len + 2) := by
  have h2 : (2 : UInt8).toNat = 2 := rfl
  exact printRpcMsgLoop_ends hlen len.toNat 2 (by omega) (by omega) fuel hf

/-- A bound of 256 or 257 is never reached by an 8-bit counter. -/
theorem printRpcMsgLoop_hangs {len : UInt8} (hlen : 254 ≤ len.toNat) (fuel : ℕ) (i : UInt8) :
    printRpcMsgLoop len fuel i = none := by
  induction fuel generalizing i with
  | zero => rfl
  | succ fuel ih =>
    have hi := i.toNat_lt
    rw [printRpcMsgLoop, if_pos (by omega)]
    exact ih (i + 1)

/-! ## The whole call -/

/-- A frame with a length byte above 253 keeps the receiver printing for ever. -/
theorem rpcReadFrame_hangs {read : Transport σ} (h : Progressing read) (s : σ)
    (rpcBuff : Mem) {len : UInt8} (hlen : 254 ≤ len.toNat) (fuel : ℕ) :
    rpcReadFrame read fuel s rpcBuff len = none := by
  have hprint : printRpcMsg len fuel = none := printRpcMsgLoop_hangs hlen fuel 2
  cases hrun : readBody read fuel s
      { rpcBuff := rpcBuff.set 0 len, rpcBuffIdx := 1, rpcTempLen := len + 3,
        retryAttempts := 0 } with
  | none => simp [rpcReadFrame, hrun]
  | some p =>
    obtain ⟨e, s'⟩ := p
    cases e with
    | complete b => simp [rpcReadFrame, hrun, hprint]
    | aborted => exact absurd hrun (readBody_ne_aborted h fuel s _ s')

/-- A transport with progress answers the one-byte header reads with one byte. -/
theorem Progressing.read_one {read : Transport σ} (h : Progressing read) (s : σ) :
    ∃ b s', read s 1 = some (.data [b], s') := by
  obtain ⟨bs, s', hread, hpos, hle⟩ := h s 1 (by decide)
  have hone : (1 : UInt8).toNat = 1 := rfl
  obtain ⟨b, rfl⟩ := List.length_eq_one_iff.mp (by omega : bs.length = 1)
  exact ⟨b, s', hread⟩

/-- The first byte is another one than SOF, or the transport announces a frame. -/
theorem Progressing.announces {read : Transport σ} (h : Progressing read) (s : σ) :
    (∃ b s₁, b ≠ mtRpcSof ∧ read s 1 = some (.data [b], s₁)) ∨
      ∃ len s₂, Announces read s len s₂ := by
  obtain ⟨sof, s₁, h₁⟩ := h.read_one s
  by_cases hsof : sof = mtRpcSof
  · subst hsof
    obtain ⟨len, s₂, h₂⟩ := h.read_one s₁
    exact .inr ⟨len, s₂, s₁, h₁, h₂⟩
  · exact .inl ⟨sof, s₁, hsof, h₁⟩

/-! ## A line that hangs the receiver -/

/-- A line that delivers its bytes one by one: SOF, the length byte 254, then zeros. -/
def longLine : Transport ℕ := fun pos _ =>
  some (.data [if pos = 0 then mtRpcSof else if pos = 1 then 254 else 0], pos + 1)

theorem progressing_longLine : Progressing longLine := by
  intro s len hlen
  rw [UInt8.lt_iff_toNat_lt] at hlen
  exact ⟨_, _, rfl, Nat.one_pos, hlen⟩

/-- The length byte 254 makes the call run for ever although every read delivers a byte. -/
theorem rpcProcess_hangs_longLine :
    Progressing longLine ∧
      ∀ fuel, rpcProcess longLine fuel 0 (fun _ => 0) rpcOpen = none := by
  refine ⟨progressing_longLine, ?_⟩
  intro fuel
  have hnone : rpcReceive longLine fuel 0 (fun _ => 0) = none := by
    have hsof : longLine 0 1 = some (.data [mtRpcSof], 1) := rfl
    have hlen : longLine 1 1 = some (.data [254], 2) := rfl
    rw [rpcReceive_frame hsof hlen]
    exact rpcReadFrame_hangs progressing_longLine _ _ (by decide) fuel
  simp [rpcProcess, hnone]

end ZnpHost.Rpc
