import ZnpHost.Lib.Loop
import ZnpHost.Rpc.WholeFrames

/-!
# Reads that deliver nothing

The body loop of `rpcProcess` gives up at the sixth read that returns the error value.  A read
that returns 0 delivers no byte either, but it is no error to the loop and is not counted.  So
the loop gives up at the sixth read without a byte exactly when the first six are errors, and
while a transport keeps returning 0 it does not end at all.

## Main definitions

* `counting` — a transport that counts the reads without a byte.
* `Idles` — such reads while bytes are missing, with errors among them that the loop tolerates.
* `GivesUp` — every read without a byte counts against the retry limit.
* `givesUp_iff` — when this is so, and when the loop ends at all.
-/

namespace ZnpHost.Rpc

open Lib

variable {σ : Type} {read : Transport σ} {s s₁ s₂ s' : σ} {len : UInt8} {fuel : ℕ}
  {rpcBuff : Mem} {st : RpcState}

/-- Every read returns. -/
def Returning (read : Transport σ) : Prop :=
  ∀ s len, ∃ r s', read s len = some (r, s')

/-! ## Counting the reads without a byte -/

/-- The same transport, with the number of reads so far that delivered no byte. -/
def counting (read : Transport σ) : Transport (σ × ℕ) := fun p len =>
  (read p.1 len).map fun q => (q.1, q.2, if q.1.bytes = [] then p.2 + 1 else p.2)

theorem counting_eq_some {p p' : σ × ℕ} {r : ReadResult} :
    counting read p len = some (r, p') ↔
      read p.1 len = some (r, p'.1) ∧ p'.2 = if r.bytes = [] then p.2 + 1 else p.2 :=
  observing_eq_some (g := fun k r => if r.bytes = [] then k + 1 else k)

theorem Bounded.counting (h : Bounded read) : Bounded (counting read) :=
  h.observing fun k r => if r.bytes = [] then k + 1 else k

theorem Returning.counting (h : Returning read) : Returning (counting read) := by
  intro p len
  obtain ⟨r, s', hread⟩ := h p.1 len
  exact ⟨r, (s', _), counting_eq_some.mpr ⟨hread, rfl⟩⟩

/-- The count does not go down. -/
theorem counting_le {p p' : σ × ℕ} {r : ReadResult} (h : counting read p len = some (r, p')) :
    p.2 ≤ p'.2 := by
  have hcount := (counting_eq_some.mp h).2
  split at hcount <;> omega

/-- It goes up with every error. -/
theorem counting_error {p p' : σ × ℕ} (h : counting read p len = some (.error, p')) :
    p'.2 = p.2 + 1 :=
  (counting_eq_some.mp h).2

/-- The errors of a transfer are among the reads counted. -/
theorem Polled.count_le {p p' : σ × ℕ} {m e : ℕ} {bs : List UInt8}
    (h : Polled (counting read) p m bs e p') : p.2 + e ≤ p'.2 := by
  induction h with
  | stop => exact Nat.le_refl _
  | failed _ hres _ ih =>
    have hcount := counting_error hres
    omega
  | data _ hres _ _ ih =>
    have hcount := counting_le hres
    omega

/-! ## The body loop round by round -/

/-- A round of the body loop: the transport and the local variables after it, or how the loop
ends. -/
def bodyRound (read : Transport σ) (x : σ × BodyState) :
    Option ((σ × BodyState) ⊕ (BodyEnd × σ)) :=
  if x.2.rpcTempLen > 0 then
    (read x.1 x.2.rpcTempLen).map fun q =>
      let b : BodyState := { x.2 with rpcBuff := x.2.rpcBuff.blit x.2.rpcBuffIdx.toNat q.1.bytes }
      if q.1.ret > b.rpcTempLen then
        if b.retryAttempts < 5 then
          .inl (q.2, BodyState.advance { b with retryAttempts := b.retryAttempts + 1 } 0)
        else
          .inr (.aborted, q.2)
      else
        .inl (q.2, b.advance q.1.ret)
  else
    some (.inr (.complete x.2, x.1))

theorem readBody_eq_runLoop (fuel : ℕ) (s : σ) (b : BodyState) :
    readBody read fuel s b = runLoop (bodyRound read) fuel (s, b) := by
  induction fuel generalizing s b with
  | zero => rfl
  | succ fuel ih =>
    by_cases hpos : b.rpcTempLen > 0
    · cases hres : read s b.rpcTempLen with
      | none => simp [readBody, runLoop, bodyRound, hpos, hres]
      | some q =>
        by_cases herr : q.1.ret > b.rpcTempLen
        · by_cases hfive : b.retryAttempts < 5
          · simp [readBody, runLoop, bodyRound, hpos, hres, herr, hfive, ih]
          · simp [readBody, runLoop, bodyRound, hpos, hres, herr, hfive]
        · simp [readBody, runLoop, bodyRound, hpos, hres, herr, ih]
    · simp [readBody, runLoop, bodyRound, hpos]

/-- A round that does not end the loop has read. -/
theorem read_of_bodyRound {x y : σ × BodyState} (h : bodyRound read x = some (.inl y)) :
    ∃ r, read x.1 x.2.rpcTempLen = some (r, y.1) := by
  rw [bodyRound] at h
  split at h
  case isFalse => cases h
  case isTrue =>
    obtain ⟨⟨r, s₁⟩, hread, h⟩ := Option.map_eq_some_iff.mp h
    refine ⟨r, ?_⟩
    simp only at h
    split at h
    · split at h
      · cases h
        exact hread
      · cases h
    · cases h
      exact hread

/-- A round ends the loop when no byte is missing or a read returns more than requested. -/
theorem end_of_bodyRound {x : σ × BodyState} {e : BodyEnd}
    (h : bodyRound read x = some (.inr (e, s'))) :
    e = .complete x.2 ∧ s' = x.1 ∨
      ∃ r, read x.1 x.2.rpcTempLen = some (r, s') ∧ r.ret > x.2.rpcTempLen := by
  rw [bodyRound] at h
  split at h
  case isFalse =>
    cases h
    exact .inl ⟨rfl, rfl⟩
  case isTrue =>
    obtain ⟨⟨r, s₁⟩, hread, h⟩ := Option.map_eq_some_iff.mp h
    simp only at h
    split at h
    · next herr =>
      split at h
      · cases h
      · cases h
        exact .inr ⟨r, hread, herr⟩
    · cases h

/-- More than requested is what a failed read returns. -/
theorem eq_error_of_ret_gt (hread : Bounded read) {r : ReadResult}
    (hres : read s len = some (r, s')) (hgt : r.ret > len) : r = .error := by
  cases r with
  | error => rfl
  | data d =>
    have hd : d.length ≤ len.toNat := hread _ _ _ _ hres
    exact absurd (toNat_ofNat_le hd) (Nat.not_le.mpr (gt_iff_toNat_lt.mp hgt))

/-- A result does not change with more fuel. -/
theorem readBody_mono {r : BodyEnd × σ} {b : BodyState} (n : ℕ)
    (h : readBody read fuel s b = some r) : readBody read (fuel + n) s b = some r := by
  rw [readBody_eq_runLoop] at h ⊢
  exact runLoop_mono h n

/-- The body loop does the same on a transport that is observed. -/
theorem readBody_observing {ρ : Type} (g : ρ → ReadResult → ρ) (fuel : ℕ) (p : σ × ρ)
    (b : BodyState) :
    (readBody (observing g read) fuel p b).map (fun r => (r.1, r.2.1)) =
      readBody read fuel p.1 b := by
  rw [readBody_eq_runLoop, readBody_eq_runLoop]
  refine runLoop_map (f := fun x : (σ × ρ) × BodyState => (x.1.1, x.2)) ?_ fuel (p, b)
  intro x
  by_cases hpos : x.2.rpcTempLen > 0
  · cases hres : read x.1.1 x.2.rpcTempLen with
    | none => simp [bodyRound, observing, hpos, hres]
    | some q =>
      simp only [bodyRound, observing, hpos, if_true, hres, Option.map_some]
      congr 1
      split
      · split <;> rfl
      · rfl
  · simp [bodyRound, hpos]

theorem readBody_counting (fuel : ℕ) (p : σ × ℕ) (b : BodyState) :
    (readBody (counting read) fuel p b).map (fun r => (r.1, r.2.1)) =
      readBody read fuel p.1 b :=
  readBody_observing (fun k r => if r.bytes = [] then k + 1 else k) fuel p b

/-! ## How the body loop stands -/

/-- The loop has read `bs` and met `e` errors.  It goes on, each round having brought a byte
or added to the count; or nothing is missing any more; or one more error was too many. -/
structure Stands (read : Transport σ) (fuel : ℕ) (p : σ × ℕ) (b : BodyState) (bs : List UInt8)
    (e : ℕ) (p' : σ × ℕ) : Prop where
  polled : Polled (counting read) p b.rpcTempLen.toNat bs e p'
  retry : b.retryAttempts.toNat + e ≤ 5
  stands : (readBody (counting read) fuel p b = none ∧ fuel + p.2 ≤ p'.2 + bs.length) ∨
    (∃ b', readBody (counting read) fuel p b = some (.complete b', p')) ∨
    (b.retryAttempts.toNat + e = 5 ∧
      ∃ s₁, readBody (counting read) fuel p b = some (.aborted, (s₁, p'.2 + 1)))

/-- The body loop while the requests are for less than 255 bytes. -/
theorem exists_stands (hread : Bounded read) (hret : Returning read) (fuel : ℕ) :
    ∀ (p : σ × ℕ) (b : BodyState), b.rpcTempLen.toNat < 255 → b.retryAttempts.toNat ≤ 5 →
      ∃ bs e p', Stands read fuel p b bs e p' := by
  induction fuel with
  | zero =>
    intro p b _ hretry
    exact ⟨[], 0, p, .stop _ _, hretry, .inl ⟨rfl, by omega⟩⟩
  | succ fuel ih =>
    intro p b hlen hretry
    have hof : UInt8.ofNat b.rpcTempLen.toNat = b.rpcTempLen := UInt8.ofNat_toNat
    by_cases hpos : 0 < b.rpcTempLen.toNat
    case neg =>
      have hdone : ¬ b.rpcTempLen > 0 := mt missing_iff.mp hpos
      exact ⟨[], 0, p, .stop _ _, hretry, .inr (.inl ⟨b, readBody_done hdone p fuel⟩)⟩
    obtain ⟨r, p₁, hres⟩ := hret.counting p b.rpcTempLen
    cases r with
    | error =>
      have hcount := counting_error hres
      by_cases hfive : b.retryAttempts.toNat < 5
      · have hsucc : (b.retryAttempts + 1).toNat = b.retryAttempts.toNat + 1 :=
          toNat_succ (by omega)
        obtain ⟨bs, e, p', hpoll, he, hstands⟩ :=
          ih p₁ { b with retryAttempts := b.retryAttempts + 1 } hlen (by rw [hsucc]; omega)
        simp only [hsucc] at he hstands
        refine ⟨bs, e + 1, p', .failed hpos (by rwa [hof]) hpoll, by omega, ?_⟩
        rw [readBody_failed hres hpos hlen hfive]
        rcases hstands with ⟨hnone, hcost⟩ | hdone | ⟨hsix, hend⟩
        · exact .inl ⟨hnone, by omega⟩
        · exact .inr (.inl hdone)
        · exact .inr (.inr ⟨by omega, hend⟩)
      · have hend := readBody_gaveUp hres hpos hlen (by omega) fuel
        refine ⟨[], 0, p, .stop _ _, hretry, .inr (.inr ⟨by omega, p₁.1, ?_⟩)⟩
        rw [hend, ← hcount]
    | data d =>
      have hcount := (counting_eq_some.mp hres).2
      rw [ReadResult.bytes] at hcount
      have hd : d.length ≤ b.rpcTempLen.toNat := hread.counting _ _ _ _ hres
      let b₀ : BodyState := { b with rpcBuff := b.rpcBuff.blit b.rpcBuffIdx.toNat d }
      have htemp₀ : (b₀.advance (UInt8.ofNat d.length)).rpcTempLen.toNat =
          b.rpcTempLen.toNat - d.length := toNat_advance b₀ hd
      obtain ⟨bs, e, p', hpoll, he, hstands⟩ :=
        ih p₁ (b₀.advance (UInt8.ofNat d.length)) (by omega) hretry
      rw [htemp₀] at hpoll
      refine ⟨d ++ bs, e, p', .data hpos (by rwa [hof]) hd hpoll, he, ?_⟩
      rw [readBody_data hres hpos hd]
      refine hstands.imp_left ?_
      rintro ⟨hnone, hcost⟩
      refine ⟨hnone, ?_⟩
      rw [List.length_append]
      cases d with
      | nil =>
        rw [if_pos rfl] at hcount
        omega
      | cons c d =>
        rw [if_neg (List.cons_ne_nil c d)] at hcount
        rw [List.length_cons]
        omega

/-- A loop that ends does not lower the count, and one that gives up has raised it. -/
theorem count_of_readBody (hread : Bounded read) {p p' : σ × ℕ} {b : BodyState} {x : BodyEnd}
    (h : readBody (counting read) fuel p b = some (x, p')) :
    p.2 ≤ p'.2 ∧ (x = .aborted → p.2 < p'.2) := by
  rw [readBody_eq_runLoop] at h
  refine runLoop_rule (P := fun y => p.2 ≤ y.1.2)
    (Q := fun r => p.2 ≤ r.2.2 ∧ (r.1 = .aborted → p.2 < r.2.2)) (Nat.le_refl _) ?_ ?_ h
  · intro y y' hle hround
    obtain ⟨r, hres⟩ := read_of_bodyRound hround
    exact Nat.le_trans hle (counting_le hres)
  · rintro y ⟨e, p₁⟩ hle hround
    rcases end_of_bodyRound hround with ⟨rfl, rfl⟩ | ⟨r, hres, hgt⟩
    · exact ⟨hle, fun hx => by cases hx⟩
    · have herr := eq_error_of_ret_gt hread.counting hres hgt
      subst herr
      have hcount := counting_error hres
      have hless : p.2 < p₁.2 := by omega
      exact ⟨Nat.le_of_lt hless, fun _ => hless⟩

/-- Along what the transport answers, the loop that ends has passed. -/
theorem count_le_of_polled (hread : Bounded read) {p p₁ p' : σ × ℕ} {b : BodyState}
    {bs : List UInt8} {e : ℕ} {x : BodyEnd}
    (hpoll : Polled (counting read) p b.rpcTempLen.toNat bs e p₁)
    (hlen : b.rpcTempLen.toNat < 255) (hidx : b.rpcBuffIdx.toNat + b.rpcTempLen.toNat ≤ 256)
    (hretry : b.retryAttempts.toNat + e ≤ 5)
    (hrun : readBody (counting read) fuel p b = some (x, p')) :
    p₁.2 ≤ p'.2 ∧ (x = .aborted → p₁.2 < p'.2) := by
  obtain ⟨n, b₁, hrounds, -, -⟩ := readBody_polled hpoll b rfl hidx hretry (.inl hlen)
  have hmore := readBody_mono n hrun
  rw [hrounds.run] at hmore
  exact count_of_readBody hread hmore

/-! ## The call -/

/-- While bytes of the body are missing, at least `n` reads deliver no byte, and at most five
of these return the error value. -/
def Idles (read : Transport σ) (s : σ) (len : UInt8) (n : ℕ) : Prop :=
  ∃ bs e s' k, Polled (counting read) (s, 0) (len.toNat + 3) bs e (s', k) ∧ e ≤ 5 ∧ n ≤ k

/-- The body of a frame of at most 250 bytes. -/
theorem start_fits (rpcBuff : Mem) {len : UInt8} (hlen : len.toNat ≤ 250) :
    (BodyState.start rpcBuff len).rpcTempLen.toNat = len.toNat + 3 ∧
      (BodyState.start rpcBuff len).rpcTempLen.toNat < 255 := by
  have htemp : (BodyState.start rpcBuff len).rpcTempLen.toNat = len.toNat + 3 :=
    toNat_add_three (by omega)
  exact ⟨htemp, by omega⟩

/-- An idle line leads every run of the loop past as many reads without a byte. -/
theorem count_of_idles (hread : Bounded read) (hlen : len.toNat ≤ 250) {n : ℕ}
    (hidle : Idles read s len n) {x : BodyEnd} {p' : σ × ℕ}
    (hrun : readBody (counting read) fuel (s, 0) (.start rpcBuff len) = some (x, p')) :
    n ≤ p'.2 ∧ (x = .aborted → n < p'.2) := by
  obtain ⟨bs, e, s₁, k, hpoll, he, hn⟩ := hidle
  obtain ⟨htemp, hsmall⟩ := start_fits rpcBuff hlen
  have hzero : (BodyState.start rpcBuff len).retryAttempts.toNat = 0 := rfl
  rw [← htemp] at hpoll
  have hpassed := count_le_of_polled hread hpoll hsmall (body_fits len) (by omega) hrun
  exact ⟨by omega, fun hx => Nat.lt_of_le_of_lt hn (hpassed.2 hx)⟩

/-- The loop ends if the line does not idle for ever.  Complete or not, it then has met as many
reads without a byte as the line idles, and one error more if it gave up. -/
theorem readBody_of_not_idles (hread : Bounded read) (hret : Returning read)
    (hlen : len.toNat ≤ 250) {n : ℕ} (hidle : ¬ Idles read s len n) :
    ∃ fuel x p', readBody (counting read) fuel (s, 0) (.start rpcBuff len) = some (x, p') ∧
      (x = .aborted → 6 ≤ p'.2 ∧ p'.2 ≤ n) ∧ (x ≠ .aborted → p'.2 < n) := by
  obtain ⟨htemp, hsmall⟩ := start_fits rpcBuff hlen
  have hzero : (BodyState.start rpcBuff len).retryAttempts.toNat = 0 := rfl
  obtain ⟨bs, e, ⟨s', k⟩, hpoll, he, hstands⟩ := exists_stands hread hret (n + len.toNat + 3)
    (s, 0) (.start rpcBuff len) hsmall (by omega)
  rw [htemp] at hpoll
  have hbytes := hpoll.length_le
  have hcount := hpoll.count_le
  have hless : k < n := by
    by_contra hk
    exact hidle ⟨bs, e, s', k, hpoll, by omega, by omega⟩
  rcases hstands with ⟨-, hcost⟩ | ⟨b', hdone⟩ | ⟨hfive, s₁, hend⟩
  · exact absurd hcost (by simp only; omega)
  · refine ⟨_, _, _, hdone, ?_, fun _ => hless⟩
    intro hx
    cases hx
  · refine ⟨_, _, _, hend, ?_, fun hx => absurd rfl hx⟩
    intro _
    simp only at hcount ⊢
    omega

/-- The frame is given up with its body, and only then. -/
theorem rpcReadFrame_of_body (hlen : len.toNat ≤ 253) (hf : 256 ≤ fuel) {x : BodyEnd}
    (hbody : readBody read fuel s (.start rpcBuff len) = some (x, s')) :
    ∃ v, rpcReadFrame read fuel s rpcBuff len = some (v, s') ∧
      (v = .readFailed ↔ x = .aborted) := by
  rw [BodyState.start] at hbody
  cases x with
  | aborted =>
    refine ⟨.readFailed, ?_, by simp⟩
    simp [rpcReadFrame, hbody]
  | complete b =>
    have hprint : printRpcMsg len fuel = some (len + 2) := printRpcMsg_ends hlen (by omega)
    simp only [rpcReadFrame, hbody, hprint, Option.bind_eq_bind, Option.bind_some]
    by_cases hfcs : b.rpcBuff (len.toNat + 3) = calcFcs b.rpcBuff (len + 3)
    · exact ⟨_, if_pos hfcs, by simp⟩
    · exact ⟨_, if_neg hfcs, by simp⟩

/-- A call that returns has left the body loop. -/
theorem body_of_rpcReadFrame {v : Verdict}
    (h : rpcReadFrame read fuel s rpcBuff len = some (v, s')) :
    ∃ x, readBody read fuel s (.start rpcBuff len) = some (x, s') ∧
      (v = .readFailed ↔ x = .aborted) := by
  simp only [rpcReadFrame, Option.bind_eq_bind, Option.bind_eq_some_iff] at h
  obtain ⟨⟨x, s₁⟩, hbody, h⟩ := h
  cases x with
  | aborted =>
    obtain ⟨rfl, rfl⟩ : .readFailed = v ∧ s₁ = s' := by simpa using h
    exact ⟨_, hbody, by simp⟩
  | complete b =>
    obtain ⟨_, -, h⟩ := Option.bind_eq_some_iff.mp h
    split at h
    all_goals
      obtain ⟨rfl, rfl⟩ := Prod.mk.inj (Option.some.inj h)
      exact ⟨_, hbody, by simp⟩

/-- The dispatch returns the verdict. -/
theorem exists_rpcProcess_iff (st : RpcState) {v : Verdict} :
    (∃ st', rpcProcess read fuel s rpcBuff st = some (v, s', st')) ↔
      rpcReceive read fuel s rpcBuff = some (v, s') := by
  cases h : rpcReceive read fuel s rpcBuff with
  | none => simp [rpcProcess, h]
  | some q =>
    obtain ⟨v₁, s₁⟩ := q
    cases v₁ <;> simp [rpcProcess, h]

/-- Whether the call returns, and how, is decided in the body loop. -/
theorem rpcProcess_iff_body (hheader : rpcHeader read s = some (len, s₂))
    (hlen : len.toNat ≤ 253) (rpcBuff : Mem) (st : RpcState) (P : Prop → σ → Prop) :
    (∃ fuel v s' st', rpcProcess read fuel s rpcBuff st = some (v, s', st') ∧
      P (v = .readFailed) s') ↔
    ∃ fuel x s', readBody read fuel s₂ (.start rpcBuff len) = some (x, s') ∧
      P (x = .aborted) s' := by
  constructor
  · rintro ⟨fuel, v, s', st', hrun, hP⟩
    have hrec := (exists_rpcProcess_iff st).mp ⟨st', hrun⟩
    rw [rpcReceive_of_header hheader] at hrec
    obtain ⟨x, hbody, hx⟩ := body_of_rpcReadFrame hrec
    exact ⟨fuel, x, s', hbody, propext hx ▸ hP⟩
  · rintro ⟨fuel, x, s', hbody, hP⟩
    obtain ⟨v, hframe, hx⟩ := rpcReadFrame_of_body hlen (Nat.le_add_left 256 fuel)
      (readBody_mono 256 hbody)
    rw [← rpcReceive_of_header hheader] at hframe
    obtain ⟨st', hrun⟩ := (exists_rpcProcess_iff st).mpr hframe
    exact ⟨fuel + 256, v, s', st', hrun, propext hx ▸ hP⟩

/-- The header delivers two bytes, so nothing is counted. -/
theorem rpcHeader_counting (hread : Bounded read) (hheader : rpcHeader read s = some (len, s₂)) :
    rpcHeader (counting read) (s, 0) = some (len, (s₂, 0)) := by
  obtain ⟨s₁, h₁, h₂⟩ := (rpcHeader_eq_some hread).mp hheader
  exact (rpcHeader_eq_some hread.counting).mpr
    ⟨(s₁, 0), counting_eq_some.mpr ⟨h₁, rfl⟩, counting_eq_some.mpr ⟨h₂, rfl⟩⟩

/-- A call of `rpcProcess` ends with its frame complete after at most five reads that deliver
no byte, or it gives up at the sixth. -/
def GivesUp (read : Transport σ) (s : σ) (rpcBuff : Mem) (st : RpcState) : Prop :=
  ∃ fuel v p' st', rpcProcess (counting read) fuel (s, 0) rpcBuff st = some (v, p', st') ∧
    p'.2 ≤ 6 ∧ (v = .readFailed ↔ p'.2 = 6)

/-- The call returns exactly when the line does not idle for ever. -/
theorem rpcProcess_returns_iff_idles (hread : Bounded read) (hret : Returning read)
    (hheader : rpcHeader read s = some (len, s₂)) (hlen : len.toNat ≤ 250) (rpcBuff : Mem)
    (st : RpcState) :
    (∃ fuel v s' st', rpcProcess read fuel s rpcBuff st = some (v, s', st')) ↔
      ∃ n, ¬ Idles read s₂ len n := by
  have hbody := rpcProcess_iff_body hheader (by omega) rpcBuff st fun _ _ => True
  simp only [and_true] at hbody
  rw [hbody]
  constructor
  · rintro ⟨fuel, x, s', hrun⟩
    rw [← readBody_counting fuel (s₂, 0), Option.map_eq_some_iff] at hrun
    obtain ⟨⟨x, p'⟩, hrun, -⟩ := hrun
    refine ⟨p'.2 + 1, ?_⟩
    intro hidle
    exact absurd (count_of_idles hread hlen hidle hrun).1 (by omega)
  · rintro ⟨n, hidle⟩
    obtain ⟨fuel, x, p', hrun, -⟩ := readBody_of_not_idles hread hret hlen hidle
    refine ⟨fuel, x, p'.1, ?_⟩
    rw [← readBody_counting fuel (s₂, 0), hrun]
    rfl

/-- Every read without a byte counts against the limit exactly when the first six of them are
errors, as far as there are six. -/
theorem givesUp_iff_not_idles (hread : Bounded read) (hret : Returning read)
    (hheader : rpcHeader read s = some (len, s₂)) (hlen : len.toNat ≤ 250) (rpcBuff : Mem)
    (st : RpcState) : GivesUp read s rpcBuff st ↔ ¬ Idles read s₂ len 6 := by
  rw [GivesUp, rpcProcess_iff_body (rpcHeader_counting hread hheader) (by omega) rpcBuff st
    fun failed p' => p'.2 ≤ 6 ∧ (failed ↔ p'.2 = 6)]
  constructor
  · rintro ⟨fuel, x, p', hrun, hle, hx⟩ hidle
    obtain ⟨hsix, hmore⟩ := count_of_idles hread hlen hidle hrun
    have hcount : p'.2 = 6 := by omega
    exact absurd (hmore (hx.mpr hcount)) (by omega)
  · intro hidle
    obtain ⟨fuel, x, p', hrun, hfailed, hdone⟩ := readBody_of_not_idles hread hret hlen hidle
    refine ⟨fuel, x, p', hrun, ?_⟩
    by_cases hx : x = .aborted
    · obtain ⟨hsix, hle⟩ := hfailed hx
      exact ⟨hle, fun _ => by omega, fun _ => hx⟩
    · have hless := hdone hx
      exact ⟨by omega, fun h => absurd h hx, fun h => by omega⟩

/-- **A failing transport traps the receiver only by returning 0.**  A call whose frame has at
most 250 bytes returns unless its line idles for ever, and reads without a byte all count
against the retry limit unless the line idles at six of them. -/
theorem givesUp_iff (hread : Bounded read) (hret : Returning read)
    (hheader : rpcHeader read s = some (len, s₂)) (hlen : len.toNat ≤ 250) (rpcBuff : Mem)
    (st : RpcState) :
    ((∃ fuel v s' st', rpcProcess read fuel s rpcBuff st = some (v, s', st')) ↔
      ∃ n, ¬ Idles read s₂ len n) ∧
    (GivesUp read s rpcBuff st ↔ ¬ Idles read s₂ len 6) :=
  ⟨rpcProcess_returns_iff_idles hread hret hheader hlen rpcBuff st,
    givesUp_iff_not_idles hread hret hheader hlen rpcBuff st⟩

/-! ## A line that goes silent -/

/-- A line that delivers SOF and the length byte 0, and answers every further read alike. -/
def stuckLine (r : ReadResult) : Transport ℕ := fun pos len =>
  some (if pos = 0 then .data ([mtRpcSof].take len.toNat)
    else if pos = 1 then .data ([0].take len.toNat) else r, pos + 1)

section StuckLine

variable {r : ReadResult}

theorem bounded_stuckLine (hr : r.bytes = []) : Bounded (stuckLine r) := by
  intro pos len bs pos' hres
  simp only [stuckLine, Option.some.injEq, Prod.mk.injEq] at hres
  obtain ⟨hres, -⟩ := hres
  split at hres
  · cases hres
    exact List.length_take_le _ _
  · split at hres
    · cases hres
      exact List.length_take_le _ _
    · subst hres
      rw [ReadResult.bytes] at hr
      simp [hr]

theorem returning_stuckLine : Returning (stuckLine r) := fun _ _ => ⟨_, _, rfl⟩

theorem rpcHeader_stuckLine : rpcHeader (stuckLine r) 0 = some (0, 2) := rfl

/-- Behind the header each read returns the same and counts alike. -/
theorem counting_stuckLine (hr : r.bytes = []) (pos k : ℕ) (len : UInt8) :
    counting (stuckLine r) (pos + 2, k) len = some (r, (pos + 3, k + 1)) := by
  simp [counting, stuckLine, hr]

/-- A line that returns 0 idles for ever. -/
theorem idles_stuckLine (n : ℕ) : Idles (stuckLine (.data [])) 2 0 n := by
  have hpoll : ∀ n pos k, Polled (counting (stuckLine (.data []))) (pos + 2, k) 3 [] 0
      (pos + n + 2, k + n) := by
    intro n
    induction n with
    | zero =>
      intro pos k
      exact .stop _ _
    | succ n ih =>
      intro pos k
      have hrest := ih (pos + 1) (k + 1)
      rw [show pos + 1 + n = pos + (n + 1) by omega, show k + 1 + n = k + (n + 1) by omega] at hrest
      exact .data (d := []) (by decide) (counting_stuckLine rfl pos k _) (by decide) hrest
  exact ⟨[], 0, _, _, hpoll n 0 0, by decide, by omega⟩

/-- One that returns the error value does not idle at six reads. -/
theorem not_idles_stuckLine : ¬ Idles (stuckLine .error) 2 0 6 := by
  have herrors : ∀ {p p' : ℕ × ℕ} {m e : ℕ} {bs : List UInt8},
      Polled (counting (stuckLine .error)) p m bs e p' → 2 ≤ p.1 → p'.2 = p.2 + e := by
    intro p p' m e bs hpoll
    induction hpoll with
    | stop => exact fun _ => rfl
    | @failed p p₁ p' m e bs _ hres _ ih =>
      intro hpos
      obtain ⟨pos, hpos⟩ := Nat.exists_eq_add_of_le' hpos
      obtain ⟨q, k⟩ := p
      simp only at hpos
      subst hpos
      rw [counting_stuckLine rfl] at hres
      cases hres
      have := ih (by omega)
      simp only at this ⊢
      omega
    | @data p p₁ p' m e d bs _ hres _ _ ih =>
      intro hpos
      obtain ⟨pos, hpos⟩ := Nat.exists_eq_add_of_le' hpos
      obtain ⟨q, k⟩ := p
      simp only at hpos
      subst hpos
      rw [counting_stuckLine rfl] at hres
      cases hres
  rintro ⟨bs, e, s', k, hpoll, he, hk⟩
  have hcount : k = 0 + e := herrors hpoll (Nat.le_refl 2)
  omega

/-- A line that fails is given up. -/
theorem givesUp_stuckLine : GivesUp (stuckLine .error) 0 (fun _ => 0) rpcOpen :=
  (givesUp_iff (bounded_stuckLine rfl) returning_stuckLine rpcHeader_stuckLine (by decide)
    (fun _ => 0) rpcOpen).2.mpr not_idles_stuckLine

/-- On a line that returns 0 behind the header, as at end of file, the call never returns. -/
theorem not_givesUp_stuckLine :
    Bounded (stuckLine (.data [])) ∧ Returning (stuckLine (.data [])) ∧
      rpcHeader (stuckLine (.data [])) 0 = some (0, 2) ∧
      (∀ fuel, rpcProcess (stuckLine (.data [])) fuel 0 (fun _ => 0) rpcOpen = none) ∧
      ¬ GivesUp (stuckLine (.data [])) 0 (fun _ => 0) rpcOpen := by
  have hread : Bounded (stuckLine (.data [])) := bounded_stuckLine rfl
  refine ⟨hread, returning_stuckLine, rpcHeader_stuckLine, ?_, ?_⟩
  · intro fuel
    cases hrun : rpcProcess (stuckLine (.data [])) fuel 0 (fun _ => 0) rpcOpen with
    | none => rfl
    | some q =>
      obtain ⟨n, hidle⟩ := (rpcProcess_returns_iff_idles hread returning_stuckLine
        rpcHeader_stuckLine (by decide) (fun _ => 0) rpcOpen).mp ⟨fuel, q.1, q.2.1, q.2.2, hrun⟩
      exact absurd (idles_stuckLine n) hidle
  · rw [givesUp_iff_not_idles hread returning_stuckLine rpcHeader_stuckLine (by decide)]
    exact not_not.mpr (idles_stuckLine 6)

end StuckLine

end ZnpHost.Rpc
