import ZnpHost.Rpc.Acceptance
import ZnpHost.Rpc.RoundTrip

/-!
# Damage on the line

Some frames arrive as a whole, of some the bytes behind the length are changed, and some are
given up because the transport fails too often.  The damage stays where it is: `rpcProcess`
drops these frames, and the frames behind them are received.

## Main definitions

* `Fate`, `Passage` — what becomes of a frame on its way, with the noise before it.
* `damage_contained` — only the frames that arrive as a whole make a difference.
-/

namespace ZnpHost.Rpc

open Lib

/-! ## Frames on their way -/

/-- The number of bytes still missing after these reads, of `m` at first. -/
def missing : List Chunk → ℕ → ℕ
  | [], m => m
  | .error :: cs, m => missing cs m
  | .bytes k :: cs, m => missing cs (m - k)

/-- What arrives of a frame behind its length byte, and the reads that take it. -/
inductive Fate (f : MtFrame)
  | whole (reads : List Chunk) (covers : Covers reads (f.payload.length + 3))
    (errors_le : errors reads ≤ 5)
  /-- Changed so that the exclusive or changes, as it does with one byte (`xorAll_set_ne`). -/
  | changed (body : List UInt8) (reads : List Chunk) (length_eq : body.length = f.msg.length)
    (ne : xorAll body ≠ xorAll f.msg) (covers : Covers reads (f.payload.length + 3))
    (errors_le : errors reads ≤ 5)
  /-- After five failed reads another one fails; there is no SOF in what is left. -/
  | abandoned (reads : List Chunk) (five : errors reads = 5) (left : 0 < missing reads f.msg.length)
    (noSof : ∀ b ∈ f.msg.drop (f.msg.length - missing reads f.msg.length), b ≠ mtRpcSof)

namespace Fate

variable {f : MtFrame}

/-- The bytes behind the length byte. -/
def body : Fate f → List UInt8
  | changed body _ _ _ _ _ => body
  | whole _ _ _ | abandoned _ _ _ _ => f.msg

/-- The bytes that the call leaves on the line. -/
def leftover : Fate f → List UInt8
  | abandoned reads _ _ _ => f.msg.drop (f.msg.length - missing reads f.msg.length)
  | whole _ _ _ | changed _ _ _ _ _ _ => []

/-- The outcomes of the reads; what is left over is read byte by byte. -/
def sched : Fate f → List Chunk
  | whole reads _ _ | changed _ reads _ _ _ _ => reads
  | abandoned reads _ _ _ =>
    reads ++ .error ::
      (f.msg.drop (f.msg.length - missing reads f.msg.length)).map fun _ => .bytes 1

/-- The message, if it arrives as a whole. -/
def arrived : Fate f → List (List UInt8)
  | whole _ _ _ => [f.msg]
  | changed _ _ _ _ _ _ | abandoned _ _ _ _ => []

end Fate

/-- Noise without a start of frame, and a frame on its way. -/
structure Passage where
  garbage : List UInt8
  frame : MtFrame
  fate : Fate frame
  noSof : ∀ b ∈ garbage, b ≠ mtRpcSof

namespace Passage

variable (p : Passage)

/-- The bytes on the line. -/
def bytes : List UInt8 := p.garbage ++ mtRpcSof :: p.frame.len :: p.fate.body

def sched : List Chunk :=
  p.garbage.map (fun _ => .bytes 1) ++ .bytes 1 :: .bytes 1 :: p.fate.sched

/-- One call for each byte of noise, one for the frame, and one for each byte left over. -/
def calls : ℕ := p.garbage.length + 1 + p.fate.leftover.length

def fuel : ℕ := p.fate.sched.length + 256

end Passage

/-! ## Giving up -/

theorem missing_le (cs : List Chunk) (m : ℕ) : missing cs m ≤ m := by
  induction cs generalizing m with
  | nil => exact Nat.le_refl m
  | cons c cs ih =>
    cases c with
    | error => exact ih m
    | bytes k => exact Nat.le_trans (ih (m - k)) (Nat.sub_le m k)

/-- A read of fewer bytes than there are. -/
theorem lineRead_bytes {k : ℕ} {todo : List UInt8} {len : UInt8} (hlen : len.toNat = todo.length)
    (hk : k < todo.length) (rest : List UInt8) (cs : List Chunk) :
    Line.read ⟨todo ++ rest, .bytes k :: cs⟩ len =
      some (.data (todo.take k), ⟨todo.drop k ++ rest, cs⟩) := by
  have hle := Nat.le_of_lt hk
  simp only [Line.read, hlen, Nat.min_eq_left hle]
  rw [List.take_append_of_le_length hle, List.drop_append_of_le_length hle]

/-- While a byte is missing the loop reads on, and the sixth failure ends it. -/
theorem readBody_abandons (cs : List Chunk) :
    ∀ (todo rest : List UInt8) (tail : List Chunk) (b : BodyState) (fuel : ℕ),
      b.rpcTempLen.toNat = todo.length → todo.length < 255 → 0 < missing cs todo.length →
      b.retryAttempts.toNat + errors cs = 5 → cs.length < fuel →
      readBody Line.read fuel ⟨todo ++ rest, cs ++ .error :: tail⟩ b =
        some (.aborted, ⟨todo.drop (todo.length - missing cs todo.length) ++ rest, tail⟩) := by
  induction cs with
  | nil =>
    intro todo rest tail b fuel hlen hlt hleft hretry hfuel
    obtain ⟨fuel, rfl⟩ : ∃ k, fuel = k + 1 := ⟨fuel - 1, by simp at hfuel; omega⟩
    simp only [missing] at hleft
    have hretry' : 5 ≤ b.retryAttempts.toNat := by
      rw [errors] at hretry
      omega
    have hgave : readBody Line.read (fuel + 1) ⟨todo ++ rest, .error :: tail⟩ b =
        some (.aborted, ⟨todo ++ rest, tail⟩) :=
      readBody_gaveUp rfl (by omega) (by omega) hretry' fuel
    simpa [missing] using hgave
  | cons c cs ih =>
    intro todo rest tail b fuel hlen hlt hleft hretry hfuel
    obtain ⟨fuel, rfl⟩ : ∃ k, fuel = k + 1 := ⟨fuel - 1, by simp at hfuel; omega⟩
    cases c with
    | error =>
      simp only [missing] at hleft ⊢
      have hless := missing_le cs todo.length
      rw [errors] at hretry
      have hfailed :
          readBody Line.read (fuel + 1) ⟨todo ++ rest, .error :: cs ++ .error :: tail⟩ b =
          readBody Line.read fuel ⟨todo ++ rest, cs ++ .error :: tail⟩
            { b with retryAttempts := b.retryAttempts + 1 } :=
        readBody_failed rfl (by omega) (by omega) (by omega) fuel
      rw [hfailed]
      have hsucc : (b.retryAttempts + 1).toNat = b.retryAttempts.toNat + 1 :=
        toNat_succ (by omega)
      refine ih todo rest tail { b with retryAttempts := b.retryAttempts + 1 } fuel hlen hlt hleft
        ?_ (by simpa using hfuel)
      change (b.retryAttempts + 1).toNat + errors cs = 5
      omega
    | bytes k =>
      simp only [missing] at hleft ⊢
      have hless := missing_le cs (todo.length - k)
      have hk : k < todo.length := by omega
      have htake : (todo.take k).length = k := List.length_take_of_le (Nat.le_of_lt hk)
      have hdrop : (todo.drop k).length = todo.length - k := List.length_drop
      have hread := lineRead_bytes hlen hk rest (cs ++ .error :: tail)
      let b₀ : BodyState := { b with rpcBuff := b.rpcBuff.blit b.rpcBuffIdx.toNat (todo.take k) }
      have htemp : (b₀.advance (UInt8.ofNat (todo.take k).length)).rpcTempLen.toNat =
          (todo.drop k).length := by
        rw [toNat_advance b₀ (by rw [htake, hlen]; omega), htake, hdrop]
        exact congrArg (· - k) hlen
      have hidx : k + (todo.length - k - missing cs (todo.length - k)) =
          todo.length - missing cs (todo.length - k) := by omega
      rw [List.cons_append, readBody_data hread (by omega) (by rw [htake, hlen]; omega)]
      have hrest := ih (todo.drop k) rest tail _ fuel htemp (by omega) (by rwa [hdrop]) hretry
        (by simpa using hfuel)
      rw [hrest, List.drop_drop, hdrop, hidx]

section Calls

variable {fuel : ℕ} {stack : ℕ → Mem}

/-- The header of a frame is read, then its body. -/
theorem rpcReceive_header (fuel : ℕ) (len : UInt8) (body : List UInt8) (cs : List Chunk)
    (rpcBuff : Mem) :
    rpcReceive Line.read fuel ⟨mtRpcSof :: len :: body, .bytes 1 :: .bytes 1 :: cs⟩ rpcBuff =
      rpcReadFrame Line.read fuel ⟨body, cs⟩ rpcBuff len := by
  have hsof : Line.read ⟨mtRpcSof :: len :: body, .bytes 1 :: .bytes 1 :: cs⟩ 1 =
      some (.data [mtRpcSof], ⟨len :: body, .bytes 1 :: cs⟩) := rfl
  exact rpcReceive_frame hsof rfl fuel rpcBuff

/-- A changed frame is dropped. -/
theorem acceptsTo_changed {f : MtFrame} {body : List UInt8} {reads : List Chunk}
    (hlength : body.length = f.msg.length) (hne : xorAll body ≠ xorAll f.msg)
    (hcovers : Covers reads (f.payload.length + 3)) (herrors : errors reads ≤ 5)
    (hf : reads.length + 256 ≤ fuel) (rest : List UInt8) (tail : List Chunk) :
    AcceptsTo fuel stack 1
      ⟨mtRpcSof :: f.len :: body ++ rest, .bytes 1 :: .bytes 1 :: reads ++ tail⟩ []
      ⟨rest, tail⟩ := by
  have hle := f.payload_le
  have hmsg := f.length_msg
  have hlen := f.toNat_len
  have hxor : xorAll (f.len :: body) ≠ 0 := by
    have hwhole := xorAll_msg f
    rw [xorAll_cons, UInt8.xor_eq_zero_iff] at hwhole
    rw [xorAll_cons, ne_eq, UInt8.xor_eq_zero_iff, hwhole]
    exact fun h => hne h.symm
  have hpoll := polled_of_covers reads body (by rwa [hlength, hmsg]) (by omega) rest tail
  rw [show body.length = f.len.toNat + 3 by omega] at hpoll
  refine acceptsTo_one (a := none) (by simp) ?_
  intro rpcBuff
  obtain ⟨n, hrun, huses⟩ :=
    rpcReadFrame_polled hpoll (by omega) (by omega) herrors (.inl (by omega)) rpcBuff
  have hn : n + tail.length ≤ (reads ++ tail).length := huses _ usesUp_lineRead
  rw [List.length_append] at hn
  refine ⟨.fcsError, ?_, rfl⟩
  have hheader := rpcReceive_header fuel f.len (body ++ rest) (reads ++ tail) rpcBuff
  exact hheader.trans (by rw [hrun fuel (by omega) (by omega), if_neg hxor])

/-- A frame that is given up leaves the bytes that were not read. -/
theorem acceptsTo_abandoned {f : MtFrame} {reads : List Chunk} (hfive : errors reads = 5)
    (hleft : 0 < missing reads f.msg.length) (hf : reads.length + 256 ≤ fuel)
    (rest : List UInt8) (tail : List Chunk) :
    AcceptsTo fuel stack 1
      ⟨mtRpcSof :: f.len :: f.msg ++ rest, .bytes 1 :: .bytes 1 :: reads ++ .error :: tail⟩ []
      ⟨f.msg.drop (f.msg.length - missing reads f.msg.length) ++ rest, tail⟩ := by
  have hle := f.payload_le
  have hmsg := f.length_msg
  have hlen := f.toNat_len
  refine acceptsTo_one (a := none) (by simp) ?_
  intro rpcBuff
  refine ⟨.readFailed, ?_, rfl⟩
  have hbody := readBody_abandons reads f.msg rest tail (.start rpcBuff f.len) fuel
    (by rw [hmsg, ← hlen]; exact toNat_add_three (by omega)) (by omega) hleft
    (by rw [hfive]; rfl) (by omega)
  rw [BodyState.start] at hbody
  have hheader := rpcReceive_header fuel f.len (f.msg ++ rest)
    (reads ++ .error :: tail) rpcBuff
  refine hheader.trans ?_
  simp [rpcReadFrame, hbody]

/-- **A passage is consumed**, and its message is accepted if it arrives as a whole. -/
theorem acceptsTo_passage (p : Passage) (hf : p.fuel ≤ fuel) (rest : List UInt8)
    (tail : List Chunk) :
    AcceptsTo fuel stack p.calls ⟨p.bytes ++ rest, p.sched ++ tail⟩ p.fate.arrived
      ⟨rest, tail⟩ := by
  obtain ⟨garbage, f, fate, hnoSof⟩ := p
  have hnoise : AcceptsTo fuel stack _ _ _ _ := acceptsTo_garbage garbage hnoSof
    (mtRpcSof :: f.len :: fate.body ++ rest) (.bytes 1 :: .bytes 1 :: fate.sched ++ tail)
  have hframe : AcceptsTo fuel stack (1 + fate.leftover.length)
      ⟨mtRpcSof :: f.len :: fate.body ++ rest, .bytes 1 :: .bytes 1 :: fate.sched ++ tail⟩
      fate.arrived ⟨rest, tail⟩ := by
    simp only [Passage.fuel] at hf
    cases fate with
    | whole reads covers errors_le =>
      let g : Segment := ⟨[], f, reads, fun _ => 0, fun _ => 0, by simp, covers, errors_le⟩
      have hbytes : g.bytes = f.wire := rpcSendFrameTx_eq_wire f _ _
      have hwhole : AcceptsTo fuel stack _ _ _ _ := acceptsTo_segment g hf rest tail
      rwa [hbytes] at hwhole
    | changed body reads length_eq ne covers errors_le =>
      exact acceptsTo_changed length_eq ne covers errors_le hf rest tail
    | abandoned reads five left noSof =>
      let leftover := f.msg.drop (f.msg.length - missing reads f.msg.length)
      have hreads : reads.length + 256 ≤ fuel := by
        simp only [Fate.sched, List.length_append] at hf
        omega
      have hgave : AcceptsTo fuel stack _ _ _ _ := acceptsTo_abandoned five left hreads rest
        (leftover.map (fun _ => .bytes 1) ++ tail)
      have hskip : AcceptsTo fuel stack _ _ _ _ := acceptsTo_garbage leftover noSof rest tail
      have hall := hgave.append hskip
      simpa only [Fate.sched, Fate.body, Fate.leftover, Fate.arrived, leftover, List.append_assoc,
        List.cons_append, List.append_nil] using hall
  have hall := hnoise.append hframe
  simpa only [Passage.bytes, Passage.sched, Passage.calls, List.append_assoc, List.cons_append,
    List.nil_append, Nat.add_assoc] using hall

end Calls

/-- The messages that arrive as a whole. -/
def arrivedOf (ps : List Passage) : List (List UInt8) := ps.flatMap fun p => p.fate.arrived

/-- **Damage is contained.**  Over any sequence of frames with noise before them, some changed so
that their exclusive or differs, some given up after six failed reads: the calls accept the frames
that arrive as a whole, in order, and leave the state as if the others had never been sent.  They
consume the stream, unless a frame that arrives is an unexpected SRSP: the first of these is the
last one accepted, and there is no state after it. -/
theorem damage_contained (ps : List Passage) (rest : List UInt8) (tail : List Chunk)
    (stack : ℕ → Mem) (st : RpcState) :
    ∃ fuel, ∀ fuel' ≥ fuel, ∃ vs line,
      rpcCalls Line.read fuel' stack (ps.map Passage.calls).sum 0
          ⟨ps.flatMap Passage.bytes ++ rest, ps.flatMap Passage.sched ++ tail⟩ st =
        some (vs, line, (arrivedOf ps).foldlM deliver st) ∧
      vs.filterMap Verdict.accepted = heard st (arrivedOf ps) ∧
      ((∀ m ∈ arrivedOf ps, ¬ Unexpected st m) → line = ⟨rest, tail⟩) := by
  have hall : ∀ fuel, (∀ p ∈ ps, p.fuel ≤ fuel) →
      AcceptsTo fuel stack (ps.map Passage.calls).sum
        ⟨ps.flatMap Passage.bytes ++ rest, ps.flatMap Passage.sched ++ tail⟩ (arrivedOf ps)
        ⟨rest, tail⟩ := by
    intro fuel hfuel
    induction ps with
    | nil => exact fun _ st => ⟨[], _, rfl, rfl, fun _ => rfl⟩
    | cons p ps ih =>
      have hone : AcceptsTo fuel stack _ _ _ _ := acceptsTo_passage p (hfuel p (by simp))
        (ps.flatMap Passage.bytes ++ rest) (ps.flatMap Passage.sched ++ tail)
      have happ := hone.append (ih fun p' hp' => hfuel p' (by simp [hp']))
      simpa only [arrivedOf, List.map_cons, List.sum_cons, List.flatMap_cons, List.append_assoc,
        List.cons_append, List.nil_append] using happ
  refine ⟨(ps.map Passage.fuel).sum, ?_⟩
  intro fuel hf
  exact hall fuel (fun p hp => (List.le_sum_of_mem (List.mem_map_of_mem hp)).trans hf) 0 st

end ZnpHost.Rpc
