import Mathlib.Algebra.Order.BigOperators.Group.List
import Mathlib.Algebra.Order.Group.Nat
import Mathlib.Algebra.Ring.Nat
import ZnpHost.Rpc.Polling

/-!
# Round trip of the frame codec

What `rpcSendFrame` writes, `rpcProcess` accepts, over a serial line that cuts the
stream into pieces of any size, delivers nothing at some reads and fails at up to
five reads of a frame, and with noise between the frames.

The line is driven by a schedule that fixes the outcome of each read in turn.  A
read consumes what it asked for at most, so nothing in the schedule decides where
a frame ends: that is what the receiver must get right.

## Main definitions

* `Line` — a byte stream and a schedule of read outcomes.
* `Covers` — the body reads of one frame deliver all its bytes.
* `Segment` — noise, a frame, and the reads of its body.
* `rpcCalls` — repeated calls of `rpcProcess`.
* `rpcCalls_accept_frames` — the round trip.
-/

namespace ZnpHost.Rpc

open Lib

/-! ## The line -/

/-- The outcome of one read: deliver `k` bytes (fewer if fewer were requested), or fail. -/
inductive Chunk
  | bytes (k : ℕ)
  | error

/-- A serial line: the bytes still to come and the outcomes of the coming reads. -/
structure Line where
  bytes : List UInt8
  sched : List Chunk

/-- Reading from a line.  Once the schedule is used up the line stays silent. -/
def Line.read : Transport Line := fun l len =>
  match l.sched with
  | [] => none
  | .error :: cs => some (.error, { l with sched := cs })
  | .bytes k :: cs =>
    let n := min k len.toNat
    some (.data (l.bytes.take n), { bytes := l.bytes.drop n, sched := cs })

/-- Body reads that deliver `m` bytes in all and end with the last of them. -/
def Covers : List Chunk → ℕ → Prop
  | [], m => m = 0
  | .error :: cs, m => 0 < m ∧ Covers cs m
  | .bytes k :: cs, m => 0 < m ∧ k ≤ m ∧ Covers cs (m - k)

/-- The number of failed reads of a schedule. -/
def errors : List Chunk → ℕ
  | [] => 0
  | .error :: cs => errors cs + 1
  | .bytes _ :: cs => errors cs

/-- Each read uses up one outcome of the schedule. -/
theorem usesUp_lineRead : UsesUp Line.read fun l => l.sched.length := by
  intro l len r l' hread
  rw [Line.read] at hread
  split at hread
  · cases hread
  · next cs hsched =>
    obtain ⟨-, rfl⟩ : _ ∧ _ = l' := by simpa using hread
    simp [hsched]
  · next k cs hsched =>
    obtain ⟨-, rfl⟩ : _ ∧ _ = l' := by simpa using hread
    simp [hsched]

/-- **A covering schedule delivers the missing bytes** and leaves the rest of the stream
alone. -/
theorem polled_of_covers (cs : List Chunk) :
    ∀ todo : List UInt8, Covers cs todo.length → todo.length < 256 → ∀ rest tail,
      Polled Line.read ⟨todo ++ rest, cs ++ tail⟩ todo.length todo (errors cs) ⟨rest, tail⟩ := by
  induction cs with
  | nil =>
    intro todo hcov _ rest tail
    obtain rfl : todo = [] := List.length_eq_zero_iff.mp hcov
    exact .stop _ _
  | cons c cs ih =>
    intro todo hcov hlt rest tail
    cases c with
    | error => exact .failed hcov.1 rfl (ih todo hcov.2 hlt rest tail)
    | bytes k =>
      obtain ⟨hpos, hk, hcov⟩ := hcov
      have hm : (UInt8.ofNat todo.length).toNat = todo.length := by
        rw [UInt8.toNat_ofNat']
        exact Nat.mod_eq_of_lt hlt
      have htake : (todo.take k).length = k := List.length_take_of_le hk
      have hdrop : (todo.drop k).length = todo.length - k := List.length_drop
      have hread : Line.read ⟨todo ++ rest, .bytes k :: cs ++ tail⟩ (UInt8.ofNat todo.length) =
          some (.data (todo.take k), ⟨todo.drop k ++ rest, cs ++ tail⟩) := by
        simp only [Line.read, List.cons_append, hm, Nat.min_eq_left hk]
        rw [List.take_append_of_le_length hk, List.drop_append_of_le_length hk]
      have hrest : Polled Line.read ⟨todo.drop k ++ rest, cs ++ tail⟩
          (todo.length - (todo.take k).length) (todo.drop k) (errors cs) ⟨rest, tail⟩ := by
        rw [htake, ← hdrop]
        exact ih (todo.drop k) (by rwa [hdrop]) (by omega) rest tail
      have hall := Polled.data hpos hread (by omega) hrest
      rwa [List.take_append_drop] at hall

/-! ## One frame -/

/-- The bytes of a frame from its length byte on fold to zero. -/
theorem xorAll_msg (f : MtFrame) : xorAll (f.len :: f.msg) = 0 := by
  have hfcs := xorAll_append f.covered [f.fcs]
  rw [xorAll_cons, xorAll_nil, UInt8.xor_zero, MtFrame.fcs, UInt8.xor_self] at hfcs
  exact hfcs

/-- **A frame is accepted**: after its header, its message is read, found correct, and
nothing behind it is touched. -/
theorem rpcReadFrame_accepts (f : MtFrame) {cs : List Chunk}
    (hcov : Covers cs (f.payload.length + 3)) (herr : errors cs ≤ 5) (rest : List UInt8)
    (tail : List Chunk) (rpcBuff : Mem) {fuel : ℕ} (hf : cs.length < fuel) (hf' : 256 ≤ fuel) :
    ∃ v, rpcReadFrame Line.read fuel ⟨f.msg ++ rest, cs ++ tail⟩ rpcBuff f.len =
        some (v, ⟨rest, tail⟩) ∧ v.accepted = some f.msg := by
  have hle := f.payload_le
  have hlen := f.toNat_len
  have hsize : f.msg.length = f.len.toNat + 3 := by rw [f.length_msg, hlen]
  have hpoll : Polled Line.read _ _ f.msg (errors cs) _ :=
    polled_of_covers cs f.msg (by rwa [f.length_msg]) (by omega) rest tail
  rw [hsize] at hpoll
  obtain ⟨n, hrun, huses⟩ :=
    rpcReadFrame_polled hpoll hsize (by omega) herr (.inl (by omega)) rpcBuff
  have hn : n + tail.length ≤ (cs ++ tail).length := huses _ usesUp_lineRead
  rw [List.length_append] at hn
  refine ⟨.valid (rpcBuff.blit 0 (f.len :: f.msg)) (f.len + 3), ?_, ?_⟩
  · rw [hrun fuel (by omega) hf', if_pos (xorAll_msg f)]
  · rw [Verdict.accepted, Mem.blit_cons]
    have htake : (f.len + 3).toNat = f.msg.length := by rw [toNat_add_three (by omega), hsize]
    exact congrArg some (Mem.take_shift_blit _ 1 f.msg htake)

/-! ## A stream of frames -/

/-- Noise without a start of frame, a frame sent from a given stack content, and the
outcomes of the reads of its body. -/
structure Segment where
  garbage : List UInt8
  frame : MtFrame
  body : List Chunk
  /-- What lies behind the payload at the caller, and on the stack of `rpcSendFrame`. -/
  beyond : Mem
  stack : Mem
  noSof : ∀ b ∈ garbage, b ≠ mtRpcSof
  covers : Covers body (frame.payload.length + 3)
  errors_le : errors body ≤ 5

namespace Segment

variable (g : Segment)

/-- The bytes `rpcSendFrame` writes for the frame. -/
def tx : List UInt8 :=
  rpcSendFrameTx g.frame.cmd0 g.frame.cmd1 (Mem.ofList g.frame.payload g.beyond) g.frame.len
    g.stack

/-- The bytes of the segment on the line. -/
def bytes : List UInt8 := g.garbage ++ g.tx

/-- The outcomes of the reads: one byte for each byte of noise, for SOF and for the length,
then the body. -/
def sched : List Chunk := g.garbage.map (fun _ => .bytes 1) ++ .bytes 1 :: .bytes 1 :: g.body

/-- One call for each byte of noise and one for the frame. -/
def calls : ℕ := g.garbage.length + 1

/-- Fuel that suffices for the frame. -/
def fuel : ℕ := g.body.length + 256

end Segment

/-- Repeated calls of `rpcProcess`, the receive buffer of call `k` having content `stack k`. -/
def rpcCalls {σ : Type} (read : Transport σ) (fuel : ℕ) (stack : ℕ → Mem) :
    ℕ → ℕ → σ → RpcState → Option (List Verdict × σ × Option RpcState)
  | 0, _, s, st => some ([], s, some st)
  | n + 1, k, s, st => do
    let (v, s, after) ← rpcProcess read fuel s (stack k) st
    match after with
    -- the process has ended
    | none => some ([v], s, none)
    | some st =>
      let (vs, s, after) ← rpcCalls read fuel stack n (k + 1) s st
      some (v :: vs, s, after)

section Calls

variable {σ : Type} {read : Transport σ} {fuel : ℕ} {stack : ℕ → Mem} {n k : ℕ} {s s₁ s₂ : σ}
  {st st₁ : RpcState} {vs vs' : List Verdict}

/-- The first of several calls comes back, -/
theorem rpcCalls_succ {v : Verdict}
    (h : rpcProcess read fuel s (stack k) st = some (v, s₁, some st₁))
    (n : ℕ) : rpcCalls read fuel stack (n + 1) k s st =
      (rpcCalls read fuel stack n (k + 1) s₁ st₁).map fun p => (v :: p.1, p.2) := by
  cases hrest : rpcCalls read fuel stack n (k + 1) s₁ st₁ <;> simp [rpcCalls, h, hrest]

/-- or it ends the process. -/
theorem rpcCalls_succ_ended {v : Verdict}
    (h : rpcProcess read fuel s (stack k) st = some (v, s₁, none))
    (n : ℕ) : rpcCalls read fuel stack (n + 1) k s st = some ([v], s₁, none) := by
  simp [rpcCalls, h]

/-- A single call. -/
theorem rpcCalls_one {v : Verdict} {after : Option RpcState}
    (h : rpcProcess read fuel s (stack k) st = some (v, s₁, after)) :
    rpcCalls read fuel stack 1 k s st = some ([v], s₁, after) := by
  cases after <;> simp [rpcCalls, h]

/-- A run of calls is the beginning of a longer one: it goes on with the state that the first
calls leave, and they are all of it if they leave none. -/
theorem rpcCalls_join (n' : ℕ) {after after' : Option RpcState}
    (h : rpcCalls read fuel stack n k s st = some (vs, s₁, after))
    (hmore : ∀ st₁ ∈ after,
      rpcCalls read fuel stack n' (k + n) s₁ st₁ = some (vs', s₂, after'))
    (hended : after = none → vs' = [] ∧ s₂ = s₁ ∧ after' = none) :
    rpcCalls read fuel stack (n + n') k s st = some (vs ++ vs', s₂, after') := by
  induction n generalizing k s st vs with
  | zero =>
    simp only [rpcCalls, Option.some.injEq, Prod.mk.injEq] at h
    obtain ⟨rfl, rfl, rfl⟩ := h
    simpa using hmore
  | succ n ih =>
    rw [show n + 1 + n' = (n + n') + 1 by omega]
    cases hcall : rpcProcess read fuel s (stack k) st with
    | none => simp [rpcCalls, hcall] at h
    | some p =>
      obtain ⟨v, t, left⟩ := p
      cases left with
      | none =>
        rw [rpcCalls_succ_ended hcall] at h ⊢
        cases h
        obtain ⟨rfl, rfl, rfl⟩ := hended rfl
        rfl
      | some st' =>
        rw [rpcCalls_succ hcall] at h ⊢
        obtain ⟨⟨ws, t', after⟩, hrest, heq⟩ := Option.map_eq_some_iff.mp h
        simp only [Prod.mk.injEq] at heq
        obtain ⟨rfl, rfl, rfl⟩ := heq
        rw [show k + (n + 1) = k + 1 + n by omega] at hmore
        rw [ih hrest hmore]
        rfl

/-- Calls made one after the other are a longer run of calls. -/
theorem rpcCalls_add (n' : ℕ) {after : Option RpcState}
    (h : rpcCalls read fuel stack n k s st = some (vs, s₁, some st₁))
    (h' : rpcCalls read fuel stack n' (k + n) s₁ st₁ = some (vs', s₂, after)) :
    rpcCalls read fuel stack (n + n') k s st = some (vs ++ vs', s₂, after) :=
  rpcCalls_join n' h (by simpa using h') nofun

/-- After the end of the process no call follows. -/
theorem rpcCalls_add_ended (n' : ℕ)
    (h : rpcCalls read fuel stack n k s st = some (vs, s₁, none)) :
    rpcCalls read fuel stack (n + n') k s st = some (vs, s₁, none) := by
  rw [← List.append_nil vs]
  exact rpcCalls_join n' h nofun fun _ => ⟨rfl, rfl, rfl⟩

end Calls

section Accepting

variable {fuel : ℕ} {stack : ℕ → Mem}

/-- `n` calls on the line `l` accept the messages `ms` and leave the line `l'`, unless one of
the messages is unexpected: with the first of these the process ends. -/
def AcceptsTo (fuel : ℕ) (stack : ℕ → Mem) (n : ℕ) (l : Line) (ms : List (List UInt8))
    (l' : Line) : Prop :=
  ∀ k st, ∃ vs l₁, rpcCalls Line.read fuel stack n k l st = some (vs, l₁, ms.foldlM deliver st) ∧
    vs.filterMap Verdict.accepted = heard st ms ∧ ((∀ m ∈ ms, ¬ Unexpected st m) → l₁ = l')

/-- A single call. -/
theorem acceptsTo_one {l l' : Line} {a : Option (List UInt8)} (ha : a ≠ some [])
    (h : ∀ rpcBuff, ∃ v, rpcReceive Line.read fuel l rpcBuff = some (v, l') ∧ v.accepted = a) :
    AcceptsTo fuel stack 1 l a.toList l' := by
  intro k st
  obtain ⟨v, hrecv, rfl⟩ := h (stack k)
  have hcall := rpcProcess_deliver hrecv ha st
  refine ⟨[v], l', rpcCalls_one hcall, ?_, fun _ => rfl⟩
  cases hv : v.accepted <;> simp [heard, hv]

/-- Calls on a first part of the stream followed by calls on the rest. -/
theorem AcceptsTo.append {n n' : ℕ} {l l₁ l' : Line} {ms ms' : List (List UInt8)}
    (h : AcceptsTo fuel stack n l ms l₁) (h' : AcceptsTo fuel stack n' l₁ ms' l') :
    AcceptsTo fuel stack (n + n') l (ms ++ ms') l' := by
  intro k st
  obtain ⟨vs, l₂, hrun, hvs, hline⟩ := h k st
  rw [List.foldlM_append]
  cases hafter : ms.foldlM deliver st with
  | none =>
    have hend := foldlM_deliver_eq_none_iff.mp hafter
    rw [hafter] at hrun
    refine ⟨vs, l₂, rpcCalls_add_ended n' hrun, ?_, ?_⟩
    · rw [hvs, heard_append_of_unexpected hend]
    · obtain ⟨m, hm, hun⟩ := hend
      exact fun hall => absurd hun (hall m (List.mem_append_left _ hm))
  | some st₁ =>
    have hall : ∀ m ∈ ms, ¬ Unexpected st m := by
      intro m hm hun
      rw [foldlM_deliver_eq_none_iff.mpr ⟨m, hm, hun⟩] at hafter
      cases hafter
    obtain rfl := hline hall
    rw [hafter] at hrun
    obtain ⟨vs', l₃, hrun', hvs', hline'⟩ := h' (k + n) st₁
    refine ⟨vs ++ vs', l₃, rpcCalls_add n' hrun hrun', ?_, ?_⟩
    · rw [List.filterMap_append, hvs, hvs', heard_append_of_expected hall,
        heard_congr (unexpected_foldlM_deliver hafter)]
      have hself := heard_append_of_expected hall []
      rw [List.append_nil] at hself
      rw [hself, heard, List.append_nil]
    · intro hboth
      refine hline' fun m hm hun => hboth m (List.mem_append_right _ hm) ?_
      exact (unexpected_foldlM_deliver hafter m).mp hun

/-- Every byte of noise costs one call, which accepts nothing. -/
theorem acceptsTo_garbage (garbage : List UInt8) (h : ∀ b ∈ garbage, b ≠ mtRpcSof)
    (bytes : List UInt8) (sched : List Chunk) :
    AcceptsTo fuel stack garbage.length
      ⟨garbage ++ bytes, garbage.map (fun _ => .bytes 1) ++ sched⟩ [] ⟨bytes, sched⟩ := by
  induction garbage with
  | nil => exact fun _ st => ⟨[], _, rfl, rfl, fun _ => rfl⟩
  | cons b garbage ih =>
    have hread : Line.read
        ⟨b :: garbage ++ bytes, (b :: garbage).map (fun _ => .bytes 1) ++ sched⟩ 1 =
        some (.data [b], ⟨garbage ++ bytes, garbage.map (fun _ => .bytes 1) ++ sched⟩) := rfl
    have hcall : AcceptsTo fuel stack 1 _ (Option.toList none) _ :=
      acceptsTo_one (by simp) fun rpcBuff =>
        ⟨_, rpcReceive_noSof hread (h b (by simp)) fuel rpcBuff, rfl⟩
    have hrest := ih fun c hc => h c (by simp [hc])
    have hall := hcall.append hrest
    rwa [show 1 + garbage.length = (b :: garbage).length by simp [Nat.add_comm]] at hall

/-- The call that reads a frame finds its message. -/
theorem rpcReceive_segment (g : Segment) (hf : g.fuel ≤ fuel) (rest : List UInt8)
    (tail : List Chunk) (rpcBuff : Mem) :
    ∃ v, rpcReceive Line.read fuel ⟨g.tx ++ rest, .bytes 1 :: .bytes 1 :: g.body ++ tail⟩
        rpcBuff = some (v, ⟨rest, tail⟩) ∧ v.accepted = some g.frame.msg := by
  have htx : g.tx = mtRpcSof :: g.frame.len :: g.frame.msg :=
    rpcSendFrameTx_eq_wire g.frame g.beyond g.stack
  have hsof : Line.read ⟨g.tx ++ rest, .bytes 1 :: .bytes 1 :: g.body ++ tail⟩ 1 =
      some (.data [mtRpcSof],
        ⟨g.frame.len :: g.frame.msg ++ rest, .bytes 1 :: g.body ++ tail⟩) := by
    rw [htx]
    rfl
  have hlen : Line.read ⟨g.frame.len :: g.frame.msg ++ rest, .bytes 1 :: g.body ++ tail⟩ 1 =
      some (.data [g.frame.len], ⟨g.frame.msg ++ rest, g.body ++ tail⟩) := rfl
  simp only [Segment.fuel] at hf
  rw [rpcReceive_frame hsof hlen]
  exact rpcReadFrame_accepts g.frame g.covers g.errors_le rest tail rpcBuff (by omega) (by omega)

/-- A segment is consumed to its last byte, whatever becomes of the message of its frame. -/
theorem rpcCalls_segment (stack : ℕ → Mem) (g : Segment) (hf : g.fuel ≤ fuel)
    (rest : List UInt8) (tail : List Chunk) (k : ℕ) (st : RpcState) :
    ∃ vs, rpcCalls Line.read fuel stack g.calls k ⟨g.bytes ++ rest, g.sched ++ tail⟩ st =
        some (vs, ⟨rest, tail⟩, [g.frame.msg].foldlM deliver st) ∧
      vs.filterMap Verdict.accepted = [g.frame.msg] := by
  have hbytes : g.bytes ++ rest = g.garbage ++ (g.tx ++ rest) := List.append_assoc ..
  have hsched : g.sched ++ tail = g.garbage.map (fun _ => .bytes 1) ++
      (.bytes 1 :: .bytes 1 :: g.body ++ tail) := List.append_assoc ..
  have hnoise : AcceptsTo fuel stack _ _ _ _ := acceptsTo_garbage g.garbage g.noSof
    (g.tx ++ rest) (.bytes 1 :: .bytes 1 :: g.body ++ tail)
  obtain ⟨vs, l₁, hrun, hvs, hline⟩ := hnoise k st
  obtain rfl := hline (by simp)
  obtain ⟨v, hrecv, hv⟩ := rpcReceive_segment g hf rest tail (stack (k + g.garbage.length))
  have hcall := rpcProcess_deliver hrecv (by simp [hv, MtFrame.msg]) st
  have hone : rpcCalls Line.read fuel stack 1 (k + g.garbage.length)
      ⟨g.tx ++ rest, .bytes 1 :: .bytes 1 :: g.body ++ tail⟩ st =
        some ([v], ⟨rest, tail⟩, [g.frame.msg].foldlM deliver st) := by
    rw [hv, Option.toList_some] at hcall
    exact rpcCalls_one hcall
  refine ⟨vs ++ [v], ?_, ?_⟩
  · rw [hbytes, hsched]
    exact rpcCalls_add 1 hrun hone
  · simp [hvs, heard, hv]

theorem acceptsTo_segment (g : Segment) (hf : g.fuel ≤ fuel) (rest : List UInt8)
    (tail : List Chunk) :
    AcceptsTo fuel stack g.calls ⟨g.bytes ++ rest, g.sched ++ tail⟩ [g.frame.msg]
      ⟨rest, tail⟩ := by
  intro k st
  obtain ⟨vs, hrun, hvs⟩ := rpcCalls_segment stack g hf rest tail k st
  exact ⟨vs, _, hrun, by simp [hvs, heard], fun _ => rfl⟩

/-- So are several. -/
theorem acceptsTo_segments (gs : List Segment) (hf : ∀ g ∈ gs, g.fuel ≤ fuel)
    (rest : List UInt8) (tail : List Chunk) :
    AcceptsTo fuel stack (gs.map Segment.calls).sum
      ⟨gs.flatMap Segment.bytes ++ rest, gs.flatMap Segment.sched ++ tail⟩
      (gs.map fun g => g.frame.msg) ⟨rest, tail⟩ := by
  induction gs with
  | nil => exact fun _ st => ⟨[], _, rfl, rfl, fun _ => rfl⟩
  | cons g gs ih =>
    have hseg : AcceptsTo fuel stack _ _ _ _ := acceptsTo_segment g (hf g (by simp))
      (gs.flatMap Segment.bytes ++ rest) (gs.flatMap Segment.sched ++ tail)
    have happ := hseg.append (ih fun g' hg' => hf g' (by simp [hg']))
    simpa only [List.map_cons, List.sum_cons, List.flatMap_cons, List.append_assoc,
      List.cons_append, List.nil_append] using happ

end Accepting

/-! ## Round trip -/

/-- One call for each byte of noise and one for each frame accept exactly the messages of the
frames, in order, and leave the further stream untouched. -/
def RoundTrips (gs : List Segment) (rest : List UInt8) (tail : List Chunk) (stack : ℕ → Mem)
    (st : RpcState) : Prop :=
  ∃ fuel, ∀ fuel' ≥ fuel, ∃ vs after,
    rpcCalls Line.read fuel' stack (gs.map Segment.calls).sum 0
        ⟨gs.flatMap Segment.bytes ++ rest, gs.flatMap Segment.sched ++ tail⟩ st =
      some (vs, ⟨rest, tail⟩, after) ∧
    vs.filterMap Verdict.accepted = gs.map fun g => g.frame.msg

/-- Beyond the round trip: the calls stop at the first unexpected message. -/
theorem RoundTrips.heard_eq {gs : List Segment} {rest : List UInt8} {tail : List Chunk}
    {stack : ℕ → Mem} {st : RpcState} (h : RoundTrips gs rest tail stack st) :
    heard st (gs.map fun g => g.frame.msg) = gs.map fun g => g.frame.msg := by
  obtain ⟨fuel, hall⟩ := h
  let fuel' := fuel + (gs.map Segment.fuel).sum
  obtain ⟨vs, after, hrun, hvs⟩ := hall fuel' (Nat.le_add_right _ _)
  have hfuel : ∀ g ∈ gs, g.fuel ≤ fuel' := fun g hg =>
    (List.le_sum_of_mem (List.mem_map_of_mem hg)).trans (Nat.le_add_left _ _)
  have haccepts : AcceptsTo fuel' stack _ _ _ _ := acceptsTo_segments gs hfuel rest tail
  obtain ⟨vs', l₁, hrun', hvs', -⟩ := haccepts 0 st
  rw [hrun] at hrun'
  obtain ⟨rfl, -⟩ := Prod.mk.inj (Option.some.inj hrun')
  rw [← hvs', hvs]

theorem roundTrips_of_expected {gs : List Segment} {st : RpcState} (rest : List UInt8)
    (tail : List Chunk) (stack : ℕ → Mem)
    (h : ∀ g ∈ gs.dropLast, ¬ Unexpected st g.frame.msg) : RoundTrips gs rest tail stack st := by
  refine ⟨(gs.map Segment.fuel).sum, ?_⟩
  intro fuel hf
  have hfuel : ∀ g ∈ gs, g.fuel ≤ fuel := fun g hg =>
    (List.le_sum_of_mem (List.mem_map_of_mem hg)).trans hf
  rcases gs.eq_nil_or_concat' with rfl | ⟨gs, g, rfl⟩
  · exact ⟨[], _, rfl, rfl⟩
  · rw [List.dropLast_concat] at h
    have hfirst : AcceptsTo fuel stack _ _ _ _ := acceptsTo_segments gs
      (fun g' hg' => hfuel g' (List.mem_append_left _ hg')) (g.bytes ++ rest) (g.sched ++ tail)
    obtain ⟨vs, l₁, hrun, hvs, hline⟩ := hfirst 0 st
    have hexp : ∀ m ∈ gs.map fun g => g.frame.msg, ¬ Unexpected st m := by simpa using h
    obtain rfl := hline hexp
    obtain ⟨st₁, hst₁⟩ : ∃ st₁, (gs.map fun g => g.frame.msg).foldlM deliver st = some st₁ := by
      rw [← Option.ne_none_iff_exists', ne_eq, foldlM_deliver_eq_none_iff]
      simpa using hexp
    rw [hst₁] at hrun
    obtain ⟨vs', hrun', hvs'⟩ := rpcCalls_segment stack g
      (hfuel g (by simp)) rest tail (0 + (gs.map Segment.calls).sum) st₁
    have hself := heard_append_of_expected hexp []
    rw [List.append_nil, heard, List.append_nil] at hself
    refine ⟨vs ++ vs', [g.frame.msg].foldlM deliver st₁, ?_, ?_⟩
    · simpa using rpcCalls_add g.calls hrun hrun'
    · rw [List.filterMap_append, hvs, hvs', hself, List.map_append, List.map_singleton]

/-- **Round trip.**  On any sequence of segments followed by any further stream, one call
for each byte of noise and one for each frame accept exactly the messages of the frames,
in order, and leave the further stream untouched, as long as no frame but the last is an SRSP
for another subsystem than the expected one. -/
theorem rpcCalls_accept_frames (gs : List Segment) (rest : List UInt8) (tail : List Chunk)
    (stack : ℕ → Mem) (st : RpcState) :
    RoundTrips gs rest tail stack st ↔ ∀ g ∈ gs.dropLast, ¬ Unexpected st g.frame.msg := by
  constructor
  · intro h
    have hexp := heard_eq_self_iff.mp h.heard_eq
    intro g hg
    apply hexp
    rw [← List.map_dropLast]
    exact List.mem_map_of_mem hg
  · exact roundTrips_of_expected rest tail stack

/-- A frame without noise, whose body comes in one piece. -/
def Segment.plain (f : MtFrame) : Segment where
  garbage := []
  frame := f
  body := [.bytes (f.payload.length + 3)]
  beyond := fun _ => 0
  stack := fun _ => 0
  noSof := by simp
  covers := ⟨Nat.succ_pos _, Nat.le_refl _, Nat.sub_self _⟩
  errors_le := Nat.zero_le _

/-- The response to `SYS_PING`. -/
def sysPingSrspFrame : MtFrame := ⟨0x61, 0x01, [0x79, 0x07], by decide⟩

/-- `ZDO_STATE_CHANGE_IND`. -/
def zdoStateChangeIndFrame : MtFrame := ⟨0x45, 0xC0, [0x09], by decide⟩

/-- Behind an SRSP that nobody waits for, a frame is not accepted any more. -/
theorem not_roundTrips_srspFirst :
    ¬ RoundTrips [.plain sysPingSrspFrame, .plain zdoStateChangeIndFrame] [] [] (fun _ _ => 0)
      rpcOpen := by
  intro h
  have hexp := heard_eq_self_iff.mp h.heard_eq
  exact hexp sysPingSrspFrame.msg (by decide) (by decide)

end ZnpHost.Rpc
