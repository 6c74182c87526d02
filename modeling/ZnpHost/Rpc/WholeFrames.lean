import ZnpHost.Rpc.Indices

/-!
# Only whole frames are queued

The receive buffer keeps its old content, and the counters of the body loop are eight bits
wide.  A call queues nothing but bytes it has received, and stays inside the buffer, except
in two cases: a failed read that asks for a body of 255 bytes, which counts as 255 bytes,
and a length byte from 253 on, for which the count wraps to two bytes at most.

## Main definitions

* `recording` — a transport that keeps the bytes it delivered.
* `OnlyWhole` — what is queued was received in full, inside the buffer.
* `Misled`, `Undercounts` — the two exceptions.
* `onlyWhole_iff` — there are no others.
-/

namespace ZnpHost.Rpc

open Lib

variable {σ : Type} {read : Transport σ} {s s₁ s₂ s' : σ} {len : UInt8} {fuel : ℕ}
  {rpcBuff : Mem} {st : RpcState}

/-! ## Recording the line -/

/-- The same transport, with what `g` makes of its answers so far. -/
def observing {ρ : Type} (g : ρ → ReadResult → ρ) (read : Transport σ) : Transport (σ × ρ) :=
  fun p len => (read p.1 len).map fun q => (q.1, q.2, g p.2 q.1)

theorem observing_eq_some {ρ : Type} {g : ρ → ReadResult → ρ} {p p' : σ × ρ} {r : ReadResult} :
    observing g read p len = some (r, p') ↔ read p.1 len = some (r, p'.1) ∧ p'.2 = g p.2 r := by
  obtain ⟨s', x'⟩ := p'
  simp only [observing, Option.map_eq_some_iff]
  constructor
  · rintro ⟨⟨r₀, s₀⟩, hread, heq⟩
    obtain ⟨rfl, rfl, rfl⟩ : r₀ = r ∧ s₀ = s' ∧ g p.2 r₀ = x' := by simpa using heq
    exact ⟨hread, rfl⟩
  · rintro ⟨hread, rfl⟩
    exact ⟨_, hread, rfl⟩

theorem Bounded.observing {ρ : Type} (h : Bounded read) (g : ρ → ReadResult → ρ) :
    Bounded (observing g read) := by
  intro p len bs p' hres
  exact h _ _ _ _ (observing_eq_some.mp hres).1

/-- The same transport, with a record of the bytes delivered so far. -/
def recording (read : Transport σ) : Transport (σ × List UInt8) := fun p len =>
  (read p.1 len).map fun q => (q.1, q.2, p.2 ++ q.1.bytes)

theorem recording_eq_some {p p' : σ × List UInt8} {r : ReadResult} :
    recording read p len = some (r, p') ↔
      read p.1 len = some (r, p'.1) ∧ p'.2 = p.2 ++ r.bytes :=
  observing_eq_some (g := fun log r => log ++ r.bytes)

theorem Bounded.recording (h : Bounded read) : Bounded (recording read) :=
  h.observing fun log r => log ++ r.bytes

/-- The record grows by what was delivered. -/
theorem polled_recording {p p' : σ × List UInt8} {m e : ℕ} {bs : List UInt8}
    (h : Polled (recording read) p m bs e p') :
    Polled read p.1 m bs e p'.1 ∧ p'.2 = p.2 ++ bs := by
  induction h with
  | stop p m => exact ⟨.stop _ _, (List.append_nil _).symm⟩
  | failed hpos hres _ ih =>
    obtain ⟨hres, hlog⟩ := recording_eq_some.mp hres
    obtain ⟨hpoll, hlog'⟩ := ih
    refine ⟨.failed hpos hres hpoll, ?_⟩
    rw [hlog', hlog, ReadResult.bytes, List.append_nil]
  | data hpos hres hd _ ih =>
    obtain ⟨hres, hlog⟩ := recording_eq_some.mp hres
    obtain ⟨hpoll, hlog'⟩ := ih
    refine ⟨.data hpos hres hd hpoll, ?_⟩
    rw [hlog', hlog, ReadResult.bytes, List.append_assoc]

theorem Polled.recording {m e : ℕ} {bs : List UInt8} (h : Polled read s m bs e s') :
    ∀ log, Polled (recording read) (s, log) m bs e (s', log ++ bs) := by
  induction h with
  | stop s m =>
    intro log
    rw [List.append_nil]
    exact .stop _ _
  | @failed s s₁ s' m e bs hpos hres _ ih =>
    intro log
    have hrec : Rpc.recording read (s, log) (UInt8.ofNat m) = some (.error, (s₁, log)) :=
      recording_eq_some.mpr ⟨hres, (List.append_nil log).symm⟩
    exact .failed hpos hrec (ih log)
  | @data s s₁ s' m e d bs hpos hres hd _ ih =>
    intro log
    rw [← List.append_assoc]
    exact .data hpos (recording_eq_some.mpr ⟨hres, rfl⟩) hd (ih (log ++ d))

/-! ## The header -/

/-- A read that returns one has delivered a byte. -/
theorem eq_data_of_ret_one (hread : Bounded read) {r : ReadResult}
    (hres : read s 1 = some (r, s₁)) (hret : r.ret = 1) : ∃ b, r = .data [b] := by
  cases r with
  | error => exact absurd hret (by decide)
  | data d =>
    have hle : d.length ≤ 1 := hread _ _ _ _ hres
    cases d with
    | nil => exact absurd hret (by decide)
    | cons b d =>
      obtain rfl : d = [] := List.length_eq_zero_iff.mp (by simpa using hle)
      exact ⟨b, rfl⟩

/-- The header is two bytes, SOF and the length. -/
theorem rpcHeader_eq_some (hread : Bounded read) :
    rpcHeader read s = some (len, s₂) ↔
      ∃ s₁, read s 1 = some (.data [mtRpcSof], s₁) ∧ read s₁ 1 = some (.data [len], s₂) := by
  constructor
  · intro h
    simp only [rpcHeader, Option.bind_eq_bind, Option.bind_eq_some_iff] at h
    obtain ⟨⟨r, s₁⟩, h₁, h⟩ := h
    split at h
    case isFalse => cases h
    case isTrue hsof =>
      obtain ⟨⟨r', s₂'⟩, h₂, hlast⟩ := Option.bind_eq_some_iff.mp h
      split at hlast
      case isFalse => cases hlast
      case isTrue hone =>
        obtain ⟨b, rfl⟩ := eq_data_of_ret_one hread h₁ hsof.2
        obtain ⟨b', rfl⟩ := eq_data_of_ret_one hread h₂ hone
        obtain rfl : b = mtRpcSof := by simpa [ReadResult.bytes] using hsof.1
        obtain ⟨rfl, rfl⟩ : b' = len ∧ s₂' = s₂ := by
          simpa [ReadResult.bytes] using hlast
        exact ⟨s₁, h₁, h₂⟩
  · rintro ⟨s₁, h₁, h₂⟩
    simp [rpcHeader, h₁, h₂, ReadResult.bytes, ReadResult.ret]

/-- What is on record behind the header. -/
theorem rpcHeader_recording (hread : Bounded read) {p : σ × List UInt8} :
    rpcHeader (recording read) (s, []) = some (len, p) ↔
      rpcHeader read s = some (len, p.1) ∧ p.2 = [mtRpcSof, len] := by
  rw [rpcHeader_eq_some hread.recording, rpcHeader_eq_some hread]
  constructor
  · rintro ⟨p₁, h₁, h₂⟩
    obtain ⟨h₁, hlog₁⟩ := recording_eq_some.mp h₁
    obtain ⟨h₂, hlog₂⟩ := recording_eq_some.mp h₂
    refine ⟨⟨p₁.1, h₁, h₂⟩, ?_⟩
    rw [hlog₂, hlog₁]
    rfl
  · rintro ⟨⟨s₁, h₁, h₂⟩, hlog⟩
    exact ⟨(s₁, [mtRpcSof]), recording_eq_some.mpr ⟨h₁, rfl⟩, recording_eq_some.mpr ⟨h₂, hlog⟩⟩

/-! ## What a completed body is -/

/-- The missing bytes fit behind the length byte. -/
theorem body_fits (len : UInt8) : (1 : UInt8).toNat + (len + 3).toNat ≤ 256 := by
  have hone : (1 : UInt8).toNat = 1 := rfl
  have hlt := (len + 3).toNat_lt
  omega

/-- What the buffer held before, copied behind the length byte. -/
theorem blit_stale (rpcBuff : Mem) (len : UInt8) (n : ℕ) :
    rpcBuff.blit 0 (len :: (rpcBuff.shift 1).take n) = rpcBuff.set 0 len := by
  rw [Mem.blit_cons, ← Mem.shift_set_lt rpcBuff len Nat.zero_lt_one]
  exact Mem.blit_take _ 1 n

/-- The body loop has filled the buffer with `len + 3` bytes: they were delivered, or they
are what the buffer held before, passed over by a failure. -/
theorem complete_body (hread : Bounded read) {b' : BodyState}
    (hrun : readBody read fuel s (.start rpcBuff len) = some (.complete b', s')) :
    ∃ body, body.length = (len + 3).toNat ∧ b'.rpcBuff = rpcBuff.blit 0 (len :: body) ∧
      ((∃ e, Polled read s (len + 3).toNat body e s' ∧ e ≤ 5) ∨
        len = 252 ∧ body = (rpcBuff.shift 1).take 255 ∧
          ∃ s₁, Polled read s 255 [] 0 s₁ ∧ read s₁ 255 = some (.error, s')) := by
  have hzero : (BodyState.start rpcBuff len).retryAttempts.toNat = 0 := rfl
  have htemp : (BodyState.start rpcBuff len).rpcTempLen = len + 3 := rfl
  rcases polled_of_readBody hread fuel _ _ _ _ hrun (body_fits len) (Nat.zero_le 5) with
    ⟨body, e, hpoll, hall, he, hbuff⟩ | ⟨h255, hbuff, hfail⟩
  · rw [blit_start] at hbuff
    exact ⟨body, hall, hbuff, .inl ⟨e, hpoll, by omega⟩⟩
  · rw [htemp] at h255
    have hlen : len = 252 := by
      apply UInt8.toNat_inj.mp
      simp only [UInt8.toNat_add, UInt8.reduceToNat] at h255 ⊢
      have hlen := len.toNat_lt
      omega
    refine ⟨(rpcBuff.shift 1).take 255, ?_, ?_, .inr ⟨hlen, rfl, hfail⟩⟩
    · rw [Mem.length_take, h255]
    · rw [hbuff, blit_stale]
      rfl

/-! ## The two exceptions -/

/-- A failure meets the request for the whole body of 255 bytes, and what the buffer held
before passes for it. -/
def Misled (read : Transport σ) (s : σ) (rpcBuff : Mem) (st : RpcState) : Prop :=
  (∃ s₁ s', Polled read s 255 [] 0 s₁ ∧ read s₁ 255 = some (.error, s')) ∧
    xorAll (252 :: (rpcBuff.shift 1).take 255) = 0 ∧
    ¬ Unexpected st ((rpcBuff.shift 1).take 255)

/-- The bytes arrive that the wrapped count asks for. -/
def Undercounts (read : Transport σ) (s : σ) (len : UInt8) : Prop :=
  ∃ bs e s', Polled read s (len.toNat - 253) bs e s' ∧ bs.length = len.toNat - 253 ∧ e ≤ 5

theorem toNat_add_three_wraps (hlen : 253 ≤ len.toNat) : (len + 3).toNat = len.toNat - 253 := by
  have hlt := len.toNat_lt
  simp only [UInt8.toNat_add, UInt8.reduceToNat]
  omega

/-- From 253 on the body is complete only if it undercounts. -/
theorem undercounts_of_complete (hread : Bounded read) (hlen : 253 ≤ len.toNat) {b' : BodyState}
    (hrun : readBody read fuel s (.start rpcBuff len) = some (.complete b', s')) :
    Undercounts read s len := by
  obtain ⟨body, hall, -, ⟨e, hpoll, he⟩ | ⟨rfl, -⟩⟩ := complete_body hread hrun
  · rw [toNat_add_three_wraps hlen] at hpoll hall
    exact ⟨body, e, s', hpoll, hall, he⟩
  · exact absurd hlen (by decide)

/-- A frame that is accepted has a complete body and the right checksum. -/
theorem complete_of_valid {b : Mem} {rpcLen : UInt8}
    (hrun : rpcReadFrame read fuel s rpcBuff len = some (.valid b rpcLen, s')) :
    ∃ b', readBody read fuel s (.start rpcBuff len) = some (.complete b', s') ∧
      b = b'.rpcBuff ∧ rpcLen = len + 3 ∧ b (len.toNat + 3) = calcFcs b (len + 3) := by
  simp only [rpcReadFrame, Option.bind_eq_bind, Option.bind_eq_some_iff] at hrun
  obtain ⟨⟨e, s₁⟩, hbody, hrun⟩ := hrun
  cases e with
  | aborted => cases hrun
  | complete b' =>
    obtain ⟨i, hprint, hrun⟩ := Option.bind_eq_some_iff.mp hrun
    split at hrun
    case isFalse => cases hrun
    case isTrue hfcs =>
      obtain ⟨⟨rfl, rfl⟩, rfl⟩ : (b'.rpcBuff = b ∧ len + 3 = rpcLen) ∧ s₁ = s' := by
        simpa using hrun
      exact ⟨b', hbody, rfl, rfl, hfcs⟩

/-- A frame that is accepted is a whole one, unless the receiver is misled or undercounts. -/
theorem rpcReadFrame_valid (hread : Bounded read) {b : Mem} {rpcLen : UInt8}
    (hlen : len.toNat ≤ 252)
    (hrun : rpcReadFrame read fuel s rpcBuff len = some (.valid b rpcLen, s')) :
    ∃ body, body.length = len.toNat + 3 ∧ xorAll (len :: body) = 0 ∧
      rpcDispatch st b rpcLen = deliver st body ∧
      ((∃ e, Polled read s (len.toNat + 3) body e s') ∨
        len = 252 ∧ body = (rpcBuff.shift 1).take 255 ∧
          ∃ s₁, Polled read s 255 [] 0 s₁ ∧ read s₁ 255 = some (.error, s')) := by
  obtain ⟨b', hbody, rfl, rfl, hfcs⟩ := complete_of_valid hrun
  obtain ⟨body, hall, hbuff, hfrom⟩ := complete_body hread hbody
  have hsize := hall.trans (toNat_add_three hlen)
  have hne : body ≠ [] := by
    rintro rfl
    cases hsize
  rw [hbuff, fcs_blit_iff rpcBuff hlen hsize] at hfcs
  refine ⟨body, hsize, hfcs, ?_, ?_⟩
  · rw [hbuff]
    exact rpcDispatch_blit st rpcBuff hall hne
  · rw [toNat_add_three hlen] at hfrom
    rcases hfrom with ⟨e, hpoll, -⟩ | hstale
    · exact .inl ⟨e, hpoll⟩
    · exact .inr hstale

/-- A misled receiver accepts what the buffer held before. -/
theorem rpcReadFrame_misled (hpoll : Polled read s 255 [] 0 s₁)
    (hfail : read s₁ 255 = some (.error, s'))
    (hxor : xorAll (252 :: (rpcBuff.shift 1).take 255) = 0) :
    ∃ fuel, rpcReadFrame read fuel s rpcBuff 252 =
      some (.valid (rpcBuff.blit 0 (252 :: (rpcBuff.shift 1).take 255)) 255, s') := by
  obtain ⟨n, b₁, hrun, hbuff, htemp⟩ := readBody_polled hpoll (.start rpcBuff 252) rfl
    (Nat.le_refl 256) (Nat.zero_le 5) (.inr rfl)
  have h255 : b₁.rpcTempLen.toNat = 255 := htemp
  have hfail₁ : read s₁ b₁.rpcTempLen = some (.error, s') := by
    rwa [show b₁.rpcTempLen = 255 from UInt8.toNat_inj.mp h255]
  have hbody : readBody read (n + 256) s (.start rpcBuff 252) =
      some (.complete (b₁.advance 255), s') := by
    rw [show n + 256 = 254 + 1 + 1 + n by omega, hrun.run, readBody_misread hfail₁ h255,
      readBody_done (not_missing_of_misread h255)]
  have hall : (b₁.advance 255).rpcBuff = rpcBuff.blit 0 (252 :: (rpcBuff.shift 1).take 255) :=
    calc (b₁.advance 255).rpcBuff
        = (rpcBuff.set 0 252).blit 1 [] := hbuff
      _ = rpcBuff.set 0 252 := Mem.blit_nil _ _
      _ = rpcBuff.blit 0 (252 :: (rpcBuff.shift 1).take 255) := (blit_stale rpcBuff 252 255).symm
  have h252 : (252 : UInt8).toNat ≤ 252 := Nat.le_refl 252
  have hsize : ((rpcBuff.shift 1).take 255).length = (252 : UInt8).toNat + 3 :=
    Mem.length_take _ 255
  have hframe := rpcReadFrame_complete h252 hsize hbody hall (Nat.le_add_left 256 n)
  rw [if_pos hxor] at hframe
  exact ⟨n + 256, hframe⟩

/-! ## Staying inside the buffer -/

/-- Up to the length byte 252 a frame is read inside the buffer. -/
theorem rpcReadFrameIndices_lt (hread : Bounded read) (hlen : len.toNat ≤ 252) :
    ∀ i ∈ rpcReadFrameIndices read fuel s rpcBuff len, i < rpcMaxLen := by
  have hadd := toNat_add_three hlen
  intro i hi
  simp only [rpcReadFrameIndices, List.mem_append, List.mem_cons] at hi
  rcases hi with (rfl | hi) | hi
  · exact Nat.zero_lt_succ _
  · exact readBodyIndices_lt hread _ _ _ (body_fits len) i hi
  · split at hi
    case h_2 => cases hi
    case h_1 =>
      rcases List.mem_append.mp hi with hi | hi
      · obtain ⟨j, hj, rfl⟩ := List.mem_map.mp hi
        have hle := printRpcMsgIndices_le len fuel j hj
        simp only [rpcMaxLen]
        omega
      · split at hi
        case h_2 => cases hi
        case h_1 =>
          simp only [List.mem_append, List.mem_range, List.mem_singleton] at hi
          simp only [rpcMaxLen]
          omega

/-- From 253 on a frame is read inside the buffer as long as its body is not complete. -/
theorem rpcReadFrameIndices_lt_of_incomplete (hread : Bounded read) (hlen : 253 ≤ len.toNat)
    (hmiss : ¬ Undercounts read s len) :
    ∀ i ∈ rpcReadFrameIndices read fuel s rpcBuff len, i < rpcMaxLen := by
  intro i hi
  simp only [rpcReadFrameIndices, List.mem_append, List.mem_cons] at hi
  rcases hi with (rfl | hi) | hi
  · exact Nat.zero_lt_succ _
  · exact readBodyIndices_lt hread _ _ _ (body_fits len) i hi
  · split at hi
    case h_2 => cases hi
    case h_1 hrun => exact absurd (undercounts_of_complete hread hlen hrun) hmiss

/-- The dispatch stays inside the buffer. -/
theorem rpcDispatchIndices_lt (st : RpcState) (rpcBuff : Mem) (rpcLen : UInt8) :
    ∀ i ∈ rpcDispatchIndices st rpcBuff rpcLen, i < rpcMaxLen := by
  have hlt := rpcLen.toNat_lt
  intro i hi
  simp only [rpcMaxLen]
  rw [rpcDispatchIndices] at hi
  split at hi
  · rw [List.mem_singleton.mp hi]
    decide
  · rcases List.mem_cons.mp hi with rfl | hi
    · decide
    · have hmem := (List.mem_range'_1.mp hi).2
      omega

/-- A completed body of such a frame is printed up to index 256. -/
theorem mem_rpcReadFrameIndices (hlen : 253 ≤ len.toNat) (hunder : Undercounts read s len) :
    ∃ fuel, rpcMaxLen ∈ rpcReadFrameIndices read fuel s rpcBuff len := by
  obtain ⟨bs, e, s', hpoll, hall, he⟩ := hunder
  have hzero : (BodyState.start rpcBuff len).retryAttempts.toNat = 0 := rfl
  have hlt := len.toNat_lt
  have hwrap := toNat_add_three_wraps hlen
  obtain ⟨n, b₁, hrun, -, hdone⟩ := readBody_of_polled hpoll hall (.start rpcBuff len) hwrap
    (hwrap ▸ body_fits len) (by omega) (by omega)
  have hbody := hrun.complete hdone (Nat.lt_add_of_pos_right (show 0 < 256 by decide))
  rw [BodyState.start] at hbody
  refine ⟨n + 256, List.mem_append_right _ ?_⟩
  rw [hbody]
  refine List.mem_append_left _ (List.mem_map.mpr ⟨255, ?_, rfl⟩)
  exact mem_printRpcMsgIndices hlen (Nat.le_add_left 256 n)

/-! ## The whole call -/

/-- A call on the transport `read`, with a receive buffer of content `rpcBuff`: what it
queues was received in full by this call, and it stays inside the buffer. -/
structure OnlyWhole (read : Transport σ) (s : σ) (rpcBuff : Mem) (st : RpcState) : Prop where
  queued : ∀ fuel v s' line st',
    rpcProcess (recording read) fuel (s, []) rpcBuff st = some (v, (s', line), some st') →
    st'.rpcLlq ≠ st.rpcLlq →
    ∃ len body, line = mtRpcSof :: len :: body ∧ body.length = len.toNat + 3 ∧
      (st'.rpcLlq = body :: st.rpcLlq ∨ st'.rpcLlq = st.rpcLlq ++ [body])
  inside : ∀ fuel, ∀ i ∈ rpcProcessIndices read fuel s rpcBuff st, i < rpcMaxLen

/-- A dispatch that comes back has put the message at one end of the queue. -/
theorem queued_of_deliver {st' : RpcState} {msg : List UInt8} (h : deliver st msg = some st') :
    st'.rpcLlq = msg :: st.rpcLlq ∨ st'.rpcLlq = st.rpcLlq ++ [msg] := by
  simp only [deliver] at h
  split at h
  · split at h <;> cases h
    exact .inl rfl
  · cases h
    exact .inr rfl

theorem rpcLlq_ne_of_deliver {st' : RpcState} {msg : List UInt8} (h : deliver st msg = some st') :
    st'.rpcLlq ≠ st.rpcLlq := by
  intro heq
  have hlen := congrArg List.length heq
  rcases queued_of_deliver h with hq | hq <;> simp [hq] at hlen

/-- A call that changes the queue has accepted a frame behind a header. -/
theorem accepted_of_queue_ne {v : Verdict} {st' : RpcState}
    (hrun : rpcProcess read fuel s rpcBuff st = some (v, s', some st'))
    (hne : st'.rpcLlq ≠ st.rpcLlq) :
    ∃ len s₂ b rpcLen, rpcHeader read s = some (len, s₂) ∧
      rpcReadFrame read fuel s₂ rpcBuff len = some (.valid b rpcLen, s') ∧
      rpcDispatch st b rpcLen = some st' := by
  simp only [rpcProcess, Option.bind_eq_bind, Option.bind_eq_some_iff] at hrun
  obtain ⟨⟨v₁, s₁⟩, hrec, hrun⟩ := hrun
  cases v₁ with
  | valid b rpcLen =>
    obtain ⟨-, rfl, hdispatch⟩ : _ ∧ s₁ = s' ∧ rpcDispatch st b rpcLen = some st' := by
      simpa using hrun
    cases hheader : rpcHeader read s with
    | none => exact absurd hrec (rpcReceive_of_no_header hheader)
    | some p =>
      rw [rpcReceive_of_header hheader] at hrec
      exact ⟨p.1, p.2, b, rpcLen, rfl, hrec, hdispatch⟩
  | _ =>
    obtain ⟨-, -, rfl⟩ : _ ∧ s₁ = s' ∧ st = st' := by simpa using hrun
    exact absurd rfl hne

/-- A misled receiver queues bytes it has not received. -/
theorem OnlyWhole.not_misled (h : OnlyWhole read s rpcBuff st) (hread : Bounded read)
    (hheader : rpcHeader read s = some (252, s₂)) : ¬ Misled read s₂ rpcBuff st := by
  rintro ⟨⟨s₁, s', hpoll, hfail⟩, hxor, hexp⟩
  let line : List UInt8 := [mtRpcSof, 252]
  have hheader' : rpcHeader (recording read) (s, []) = some (252, (s₂, line)) :=
    (rpcHeader_recording hread).mpr ⟨hheader, rfl⟩
  have hfail' : recording read (s₁, line) 255 = some (.error, (s', line)) :=
    recording_eq_some.mpr ⟨hfail, rfl⟩
  obtain ⟨fuel, hrun⟩ := rpcReadFrame_misled (hpoll.recording line) hfail' hxor
  obtain ⟨st', hdeliver⟩ : ∃ st', deliver st ((rpcBuff.shift 1).take 255) = some st' :=
    ⟨_, deliver_of_expected hexp⟩
  have hdispatch : rpcDispatch st (rpcBuff.blit 0 (252 :: (rpcBuff.shift 1).take 255)) 255 =
      deliver st ((rpcBuff.shift 1).take 255) :=
    rpcDispatch_blit st rpcBuff (Mem.length_take _ 255)
      (List.ne_nil_of_length_eq_add_one (Mem.length_take _ 255))
  have hcall : rpcProcess (recording read) fuel (s, []) rpcBuff st = some
      (.valid (rpcBuff.blit 0 (252 :: (rpcBuff.shift 1).take 255)) 255, (s', line),
        some st') := by
    rw [rpcProcess, rpcReceive_of_header hheader', hrun, ← hdeliver, ← hdispatch]
    rfl
  obtain ⟨len, body, hline, hlen, -⟩ := h.queued fuel _ _ _ _ hcall
    (rpcLlq_ne_of_deliver hdeliver)
  obtain ⟨-, rfl⟩ : 252 = len ∧ [] = body := by simpa [line] using hline
  cases hlen

/-- Without the two exceptions, what is queued was received. -/
theorem whole_of_queued (hread : Bounded read)
    (hmis : ∀ s₂, rpcHeader read s = some (252, s₂) → ¬ Misled read s₂ rpcBuff st)
    (hunder : ∀ len s₂, rpcHeader read s = some (len, s₂) → 253 ≤ len.toNat →
      ¬ Undercounts read s₂ len)
    {v : Verdict} {line : List UInt8} {st' : RpcState}
    (hrun : rpcProcess (recording read) fuel (s, []) rpcBuff st = some (v, (s', line), some st'))
    (hne : st'.rpcLlq ≠ st.rpcLlq) :
    ∃ len body, line = mtRpcSof :: len :: body ∧ body.length = len.toNat + 3 ∧
      (st'.rpcLlq = body :: st.rpcLlq ∨ st'.rpcLlq = st.rpcLlq ++ [body]) := by
  obtain ⟨len, p, b, rpcLen, hheader, hframe, hst'⟩ := accepted_of_queue_ne hrun hne
  obtain ⟨hheader, hlog⟩ := (rpcHeader_recording hread).mp hheader
  have hlen : len.toNat ≤ 252 := by
    by_contra hbig
    have hwrap : 253 ≤ len.toNat := by omega
    obtain ⟨b', hbody, -⟩ := complete_of_valid hframe
    obtain ⟨bs, e, q, hpoll, hrest⟩ := undercounts_of_complete hread.recording hwrap hbody
    exact hunder len p.1 hheader hwrap ⟨bs, e, q.1, (polled_recording hpoll).1, hrest⟩
  obtain ⟨body, hsize, hxor, hdispatch, hfrom⟩ := rpcReadFrame_valid hread.recording hlen hframe
  rw [hdispatch] at hst'
  refine ⟨len, body, ?_, hsize, queued_of_deliver hst'⟩
  rcases hfrom with ⟨e, hpoll⟩ | ⟨rfl, rfl, p₁, hpoll, hfail⟩
  · have hline : line = p.2 ++ body := (polled_recording hpoll).2
    rw [hline, hlog]
    rfl
  · refine absurd ⟨⟨p₁.1, s', (polled_recording hpoll).1, ?_⟩, hxor, ?_⟩ (hmis p.1 hheader)
    · exact (recording_eq_some.mp hfail).1
    · rw [← deliver_eq_none_iff, hst']
      simp

/-- **Only whole frames are queued**, exactly when the receiver is neither misled nor
undercounts. -/
theorem onlyWhole_iff (hread : Bounded read) (s : σ) (rpcBuff : Mem) (st : RpcState) :
    OnlyWhole read s rpcBuff st ↔ ∀ len s₂, rpcHeader read s = some (len, s₂) →
      (len = 252 → ¬ Misled read s₂ rpcBuff st) ∧
      (253 ≤ len.toNat → ¬ Undercounts read s₂ len) := by
  constructor
  · intro h len s₂ hheader
    constructor
    · rintro rfl
      exact h.not_misled hread hheader
    · intro hlen hunder
      obtain ⟨fuel, hmem⟩ : ∃ fuel, rpcMaxLen ∈ rpcReadFrameIndices read fuel s₂ rpcBuff len :=
        mem_rpcReadFrameIndices hlen hunder
      refine absurd (h.inside fuel rpcMaxLen ?_) (Nat.lt_irrefl _)
      rw [rpcProcessIndices, hheader]
      exact List.mem_append_left _ hmem
  · intro h
    constructor
    · intro fuel v s' line st' hrun hne
      exact whole_of_queued hread (fun s₂ hheader => (h 252 s₂ hheader).1 rfl)
        (fun len s₂ hheader => (h len s₂ hheader).2) hrun hne
    · intro fuel i hi
      rw [rpcProcessIndices] at hi
      cases hheader : rpcHeader read s with
      | none =>
        rw [hheader] at hi
        cases hi
      | some p =>
        obtain ⟨len, s₂⟩ := p
        rw [hheader] at hi
        rcases List.mem_append.mp hi with hi | hi
        · by_cases hlen : len.toNat ≤ 252
          · exact rpcReadFrameIndices_lt hread hlen i hi
          · have hbig : 253 ≤ len.toNat := by omega
            exact rpcReadFrameIndices_lt_of_incomplete hread hbig ((h len s₂ hheader).2 hbig) i hi
        · split at hi
          · exact rpcDispatchIndices_lt _ _ _ i hi
          · cases hi

/-- A line never delivers more than it is asked for. -/
theorem bounded_lineRead : Bounded Line.read := by
  intro l len bs l' hres
  rw [Line.read] at hres
  split at hres
  · cases hres
  · cases hres
  · next k cs _ =>
    obtain ⟨rfl, -⟩ : l.bytes.take (min k len.toNat) = bs ∧ _ = l' := by simpa using hres
    rw [List.length_take]
    omega

/-- A reset indication is queued as it was received. -/
theorem onlyWhole_resetIndLine : OnlyWhole Line.read resetIndLine (fun _ => 0) rpcOpen :=
  (onlyWhole_iff bounded_lineRead resetIndLine (fun _ => 0) rpcOpen).mpr (by
    intro len s₂ hheader
    have hzero : rpcHeader Line.read resetIndLine =
        some (0, ⟨[0x41, 0x80, 0xC1], [2, 0, 1].map .bytes⟩) := rfl
    obtain ⟨rfl, -⟩ : 0 = len ∧ _ = s₂ := by simpa [hzero] using hheader
    exact ⟨fun h => absurd h (by decide), fun h => absurd h (by decide)⟩)

/-- SOF and the length byte 252, then a failed read. -/
def failingLine : Line := ⟨[0xFE, 252], [.bytes 1, .bytes 1, .error]⟩

/-- Old content of the receive buffer whose last byte is the checksum of 252. -/
def staleBuff : Mem := Mem.set (fun _ => 0) 255 252

theorem xorAll_staleBuff : xorAll (252 :: (staleBuff.shift 1).take 255) = 0 := by
  decide +kernel

/-- After SOF and a length byte of 252 the old content of the buffer is queued. -/
theorem not_onlyWhole_failingLine :
    Bounded Line.read ∧ ¬ OnlyWhole Line.read failingLine staleBuff rpcOpen := by
  refine ⟨bounded_lineRead, ?_⟩
  intro h
  have hheader : rpcHeader Line.read failingLine = some (252, ⟨[], [.error]⟩) := rfl
  refine h.not_misled bounded_lineRead hheader ⟨⟨_, _, .stop _ _, rfl⟩, ?_, ?_⟩
  · exact xorAll_staleBuff
  · intro hun
    exact absurd hun.1 (by decide)

end ZnpHost.Rpc
