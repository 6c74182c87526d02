import ZnpHost.Lib.Lock
import ZnpHost.Rpc.System

/-!
# Mutual exclusion of senders

What `rpcSem` guards: one sender at a time, whole frames on the line, and an expected
identifier that belongs to the request in progress.

## Main definitions

* `Pc.inside` — between `sem_wait(&rpcSem)` and `sem_post(&rpcSem)`.
* `Pc.pending` — the request whose identifier is the expected one.
* `sentFrames` — the frames completely written in a run.
* `Locked`, `Accessed` — `rpcSem` and `llqAccessSem` agree with their holders.
* `Exclusive` — the guarantees of the lock.
* `Restoring` — no call prints for ever, and no unexpected SRSP comes while a thread is inside.
* `exclusive_of_restoring` — then the guarantees hold in every state after `rpcOpen`.
-/

namespace ZnpHost.Rpc

open Lib

variable {τ : Type} {w w' : World τ} {a : Action τ} {t u : τ} {c d : Call}

/-! ## Phases of a call -/

/-- Between `sem_wait(&rpcSem)` and `sem_post(&rpcSem)`. -/
def Pc.inside : Pc → Bool
  | .setExpected _ | .write _ _ | .print _ _ | .timedWait _ | .setInvalid _ _
  | .semPost _ _ => true
  | _ => false

/-- The SREQ that has set `expectedSrspCmdId` and not reset it yet. -/
def Pc.pending : Pc → Option Call
  | .write c _ | .print c _ => if c.isSreq then some c else none
  | .timedWait c | .setInvalid c _ => some c
  | _ => none

/-- The bytes a thread has still to write. -/
def Pc.writing : Pc → Option (Call × List UInt8)
  | .write c (b :: left) => some (c, b :: left)
  | _ => none

theorem Pc.inside_of_pending {p : Pc} (h : p.pending = some c) : p.inside = true := by
  cases p <;> simp_all [pending, inside]

theorem Pc.inside_of_writing {p : Pc} {x : Call × List UInt8} (h : p.writing = some x) :
    p.inside = true := by
  cases p <;> simp_all [writing, inside]

theorem Pc.phases_of_returned {p : Pc} (h : p.returned = true) :
    p.inside = false ∧ p.pending = none ∧ p.writing = none := by
  cases p <;> simp_all [returned, inside, pending, writing]

/-- The events by which `expectedSrspCmdId` is written. -/
def Event.setsId : Event τ → Bool
  | .expect _ _ | .invalidate _ _ => true
  | _ => false

/-- The frames of the calls that have written all their bytes, in order. -/
def sentFrames : List (Event τ) → List UInt8
  | [] => []
  | .wrote _ c :: log => sentFrames log ++ c.tx
  | _ :: log => sentFrames log

variable [DecidableEq τ]

/-- Moving a thread does not change what another sees of it, if both positions agree on it. -/
theorem goto_congr {β : Type} (f : Pc → β) {p : Pc} (h : f p = f (w.pc t)) (u : τ) :
    f ((w.goto t p).pc u) = f (w.pc u) := by
  by_cases hu : u = t
  · subst hu
    simpa using h
  · simp [hu]

/-! ## The lock -/

/-- The value of `rpcSem` and the threads inside agree. -/
def Locked (w : World τ) : Prop := Guards w.rpcSem fun t => (w.pc t).inside = true

omit [DecidableEq τ] in
theorem Locked.unique (h : Locked w) (ht : (w.pc t).inside = true)
    (hu : (w.pc u).inside = true) : t = u :=
  Guards.unique h ht hu

theorem Locked.goto (h : Locked w) {p : Pc} (hp : p.inside = (w.pc t).inside) :
    Locked (w.goto t p) :=
  h.congr fun u => by rw [goto_congr Pc.inside hp u]

omit [DecidableEq τ] in
theorem locked_init (q : List (List UInt8)) :
    Locked (World.init τ { rpcOpen with rpcLlq := q }) :=
  .free fun _ => by simp [World.init, Pc.inside]

theorem Locked.step (h : Locked w) (hs : Step w a w') : Locked w' := by
  cases hs with
  | @enter t c hpc hpos =>
    refine Guards.enter (t := t) h hpos ?_ fun u hu => ?_
    · simp [Pc.inside]
    · simp [hu]
  | @leave t c status hpc =>
    refine Guards.leave (t := t) h ?_ ?_ fun u hu => ?_
    · simp [hpc, Pc.inside]
    · simp [Pc.inside]
    · simp [hu]
  | call hret => exact h.goto (by rw [(Pc.phases_of_returned hret).1]; rfl)
  | receive hret => exact h.goto (by rw [(Pc.phases_of_returned hret).1]; rfl)
  | rxSrsp | rxAreq | accept | discard | post | rpcAccess | linkHead | linkTail | rpcRelease
  | countPost => exact h
  | _ => exact Locked.goto (by exact h) (by simp_all [Pc.inside])

/-! ## The lock of the queue -/

/-- A thread between the wait on `llqAccessSem` and the post. -/
def Pc.accesses : Pc → Bool
  | .unlink | .accessPost _ => true
  | _ => false

def RpcPc.accesses : RpcPc → Bool
  | .link _ _ | .accessPost => true
  | _ => false

/-- The threads of the application, and the RPC thread, at `llqAccessSem`. -/
def World.accesses (w : World τ) : Option τ → Prop
  | some t => (w.pc t).accesses = true
  | none => w.rpc.accesses = true

/-- The value of `llqAccessSem` and its holder agree. -/
def Accessed (w : World τ) : Prop := Guards w.llqAccessSem w.accesses

omit [DecidableEq τ] in
theorem accessed_init (st : RpcState) : Accessed (World.init τ st) := by
  refine .free ?_
  rintro (_ | t) <;> simp [World.accesses, World.init, Pc.accesses, RpcPc.accesses]

theorem accesses_goto_ne {x : World τ} {p : Pc} {u : Option τ} (hu : u ≠ some t) :
    (x.goto t p).accesses u ↔ x.accesses u := by
  cases u with
  | none => exact Iff.rfl
  | some u =>
    have hne : u ≠ t := fun heq => hu (congrArg some heq)
    simp [World.accesses, hne]

theorem Accessed.goto {x : World τ} {p : Pc} (h : Accessed x)
    (hp : p.accesses = (x.pc t).accesses) : Accessed (x.goto t p) := by
  refine Guards.congr h ?_
  intro u
  by_cases hu : u = some t
  · subst hu
    simp [World.accesses, hp]
  · exact accesses_goto_ne hu

theorem Pc.accesses_of_returned {p : Pc} (h : p.returned = true) : p.accesses = false := by
  cases p <;> simp_all [returned, accesses]

omit [DecidableEq τ] in
theorem Accessed.rpc {x : World τ} (h : Accessed w) (hpc : x.pc = w.pc)
    (hsem : x.llqAccessSem = w.llqAccessSem) (hrpc : x.rpc.accesses = w.rpc.accesses) :
    Accessed x := by
  rw [Accessed, hsem]
  refine Guards.congr h ?_
  rintro (_ | u) <;> simp [World.accesses, hpc, hrpc]

theorem Accessed.step (h : Accessed w) (hs : Step w a w') : Accessed w' := by
  cases hs with
  | @access t hpc hpos =>
    refine Guards.enter (t := some t) h hpos ?_ fun u hu => accesses_goto_ne hu
    simp [World.accesses, Pc.accesses]
  | @release t msg hpc =>
    refine Guards.leave (t := some t) h ?_ ?_ fun u hu => accesses_goto_ne hu
    · simp [World.accesses, hpc, Pc.accesses]
    · simp [World.accesses, Pc.accesses]
  | rpcAccess hrpc hpos =>
    refine Guards.enter (t := none) h hpos ?_ ?_
    · simp [World.accesses, RpcPc.accesses]
    · rintro (_ | u) hu
      · exact absurd rfl hu
      · rfl
  | rpcRelease hrpc =>
    refine Guards.leave (t := none) h ?_ ?_ ?_
    · simp [World.accesses, hrpc, RpcPc.accesses]
    · simp [World.accesses, RpcPc.accesses]
    · rintro (_ | u) hu
      · exact absurd rfl hu
      · rfl
  | call hret => exact h.goto (Pc.accesses_of_returned hret).symm
  | receive hret => exact h.goto (Pc.accesses_of_returned hret).symm
  | rxSrsp hrpc | rxAreq hrpc | accept hrpc | discard hrpc | post hrpc | linkHead hrpc
  | linkTail hrpc | countPost hrpc => exact h.rpc rfl rfl (by simp [hrpc, RpcPc.accesses])
  | _ => exact Accessed.goto (by exact h) (by simp_all [Pc.accesses])

/-! ## The expected identifier -/

/-- What one step does to the identifier: a request sets it, resets it, or it stays with
the request it belongs to. -/
inductive IdStep (w w' : World τ) : Prop
  | set (t : τ) (c : Call) : (w.pc t).inside = true → (w'.pc t).pending = some c →
      (∀ u, u ≠ t → (w'.pc u).pending = (w.pc u).pending) →
      w'.expectedSrspCmdId = subsystem c.cmd0 → IdStep w w'
  | reset (t : τ) : (w.pc t).inside = true → (w'.pc t).pending = none →
      (∀ u, u ≠ t → (w'.pc u).pending = (w.pc u).pending) →
      w'.expectedSrspCmdId = 0xFF → IdStep w w'
  | keep : (∀ u, (w'.pc u).pending = (w.pc u).pending) →
      w'.expectedSrspCmdId = w.expectedSrspCmdId →
      (w'.log = w.log ∨ ∃ e, w'.log = e :: w.log ∧ e.setsId = false) → IdStep w w'

theorem IdStep.goto {x : World τ} {p : Pc} (hpc : x.pc = w.pc)
    (hp : p.pending = (w.pc t).pending) (hid : x.expectedSrspCmdId = w.expectedSrspCmdId)
    (hlog : x.log = w.log ∨ ∃ e, x.log = e :: w.log ∧ e.setsId = false) : IdStep w (x.goto t p) :=
  .keep (fun u => by rw [goto_congr Pc.pending (by rw [hpc, hp]) u, hpc]) hid hlog

theorem Step.id (hs : Step w a w') : IdStep w w' := by
  cases hs with
  | expect hpc hsreq =>
    exact .set _ _ ((congrArg Pc.inside hpc).trans rfl) (by simp [Pc.pending, hsreq])
      (fun u hu => by rw [World.write_pc_ne _ _ _ hu]) rfl
  | invalidate hpc =>
    exact .reset _ ((congrArg Pc.inside hpc).trans rfl) (by simp [Pc.pending])
      (fun u hu => by rw [World.goto_pc_ne _ _ hu]) rfl
  | call hret => exact .goto rfl (by rw [(Pc.phases_of_returned hret).2.1]; rfl) rfl (.inl rfl)
  | receive hret => exact .goto rfl (by rw [(Pc.phases_of_returned hret).2.1]; rfl) rfl (.inl rfl)
  | accept => exact .keep (fun _ => rfl) rfl (.inr ⟨_, rfl, rfl⟩)
  | rxSrsp | rxAreq | discard | post | rpcAccess | linkHead | linkTail | rpcRelease
  | countPost => exact .keep (fun _ => rfl) rfl (.inl rfl)
  | noExpect hpc hareq =>
    exact .goto rfl (by simp [hpc, hareq, Pc.pending]) rfl
      ((w.write_log_cases _ _ _).imp id fun hlog => ⟨_, hlog, rfl⟩)
  | writeByte hpc =>
    exact .goto rfl (by simp [hpc, Pc.pending]) rfl
      ((World.write_log_cases _ _ _ _).imp id fun hlog => ⟨_, hlog, rfl⟩)
  | take | timeout => exact .goto rfl (by simp_all [Pc.pending]) rfl (.inr ⟨_, rfl, rfl⟩)
  | _ => exact .goto rfl (by simp_all [Pc.pending]) rfl (.inl rfl)

/-- The identifier belongs to the pending request, or is invalid. -/
structure Identified (w : World τ) : Prop where
  pending : ∀ t c, (w.pc t).pending = some c → w.expectedSrspCmdId = subsystem c.cmd0
  idle : (∀ t, (w.pc t).pending = none) →
    w.expectedSrspCmdId = 0xFF ∨ w.expectedSrspCmdId = 0 ∧ ∀ e ∈ w.log, e.setsId = false

omit [DecidableEq τ] in
theorem identified_init (q : List (List UInt8)) :
    Identified (World.init τ { rpcOpen with rpcLlq := q }) where
  pending t c h := by simp [World.init, Pc.pending] at h
  idle _ := .inr ⟨rfl, by simp [World.init]⟩

omit [DecidableEq τ] in
theorem Identified.step (h : Identified w) (hlock : Locked w) (hs : IdStep w w') :
    Identified w' := by
  cases hs with
  | set t c hin hset hother hid =>
    refine ⟨fun u d hu => ?_, fun hnone => ?_⟩
    · by_cases hut : u = t
      · subst hut
        rw [hset] at hu
        cases hu
        exact hid
      · rw [hother u hut] at hu
        exact absurd (hlock.unique (Pc.inside_of_pending hu) hin) hut
    · rw [hnone t] at hset
      cases hset
  | reset t hin hnone hother hid =>
    refine ⟨fun u d hu => ?_, fun _ => .inl hid⟩
    by_cases hut : u = t
    · subst hut
      rw [hnone] at hu
      cases hu
    · rw [hother u hut] at hu
      exact absurd (hlock.unique (Pc.inside_of_pending hu) hin) hut
  | keep hkeep hid hlog =>
    refine ⟨fun u d hu => ?_, fun hnone => ?_⟩
    · rw [hid]
      exact h.pending u d ((hkeep u).symm.trans hu)
    · rw [hid]
      refine (h.idle fun u => (hkeep u).symm.trans (hnone u)).imp_right ?_
      intro hzero
      refine ⟨hzero.1, ?_⟩
      intro e he
      cases hlog with
      | inl hold => exact hzero.2 e (hold ▸ he)
      | inr hnew =>
        obtain ⟨e', hlog, hset⟩ := hnew
        rw [hlog] at he
        cases List.mem_cons.mp he with
        | inl heq => exact heq ▸ hset
        | inr hmem => exact hzero.2 e hmem

/-! ## The line -/

/-- The line carries whole frames and, at its end, the part of one that is being written. -/
structure Framed (w : World τ) (cut : List UInt8) : Prop where
  line : w.line = sentFrames w.log ++ cut
  writing : ∀ t c left, (w.pc t).writing = some (c, left) → cut ++ left = c.tx
  between : (∀ t, (w.pc t).writing = none) → cut = []

/-- What one step does to the line. -/
inductive LineStep (w w' : World τ) : Prop
  | start (t : τ) (c : Call) : (w.pc t).inside = true → (w.pc t).writing = none →
      (w'.pc t).writing = some (c, c.tx) → (∀ u, u ≠ t → (w'.pc u).writing = (w.pc u).writing) →
      w'.line = w.line → sentFrames w'.log = sentFrames w.log → LineStep w w'
  | byte (t : τ) (c : Call) (b : UInt8) (left : List UInt8) :
      (w.pc t).writing = some (c, b :: left) → (w'.pc t).writing = some (c, left) →
      (∀ u, u ≠ t → (w'.pc u).writing = (w.pc u).writing) →
      w'.line = w.line ++ [b] → sentFrames w'.log = sentFrames w.log → LineStep w w'
  | finish (t : τ) (c : Call) (b : UInt8) : (w.pc t).writing = some (c, [b]) →
      (w'.pc t).writing = none → (∀ u, u ≠ t → (w'.pc u).writing = (w.pc u).writing) →
      w'.line = w.line ++ [b] → sentFrames w'.log = sentFrames w.log ++ c.tx → LineStep w w'
  | keep : (∀ u, (w'.pc u).writing = (w.pc u).writing) →
      w'.line = w.line → sentFrames w'.log = sentFrames w.log → LineStep w w'

theorem LineStep.goto {x : World τ} {p : Pc} (hpc : x.pc = w.pc)
    (hp : p.writing = (w.pc t).writing) (hline : x.line = w.line)
    (hlog : sentFrames x.log = sentFrames w.log) : LineStep w (x.goto t p) :=
  .keep (fun u => by rw [goto_congr Pc.writing (by rw [hpc, hp]) u, hpc]) hline hlog

/-- A thread about to write its first byte, unless there is none. -/
theorem LineStep.write {x : World τ} (hpc : x.pc = w.pc) (hin : (w.pc t).inside = true)
    (hnone : (w.pc t).writing = none) (hline : x.line = w.line)
    (hlog : sentFrames x.log = sentFrames w.log) : LineStep w (x.write t c c.tx) := by
  have hother : ∀ u, u ≠ t → ((x.write t c c.tx).pc u).writing = (w.pc u).writing := by
    intro u hu
    rw [World.write_pc_ne _ _ _ hu, hpc]
  cases htx : c.tx with
  | nil =>
    rw [htx] at hother
    refine .keep (fun u => ?_) hline ?_
    · by_cases hu : u = t
      · subst hu
        rw [World.write_pc_same, hnone]
        rfl
      · exact hother u hu
    · simp [sentFrames, htx, hlog]
  | cons b left =>
    rw [htx] at hother
    exact .start t c hin hnone (by simp [Pc.writing, htx]) hother hline (by simpa using hlog)

theorem Step.line (hs : Step w a w') : LineStep w w' := by
  cases hs with
  | expect hpc | noExpect hpc =>
    exact .write rfl ((congrArg Pc.inside hpc).trans rfl) ((congrArg Pc.writing hpc).trans rfl)
      rfl rfl
  | @writeByte t c b left hpc =>
    have hother : ∀ u, u ≠ t →
        ((World.write { w with line := w.line ++ [b] } t c left).pc u).writing =
          (w.pc u).writing := by
      intro u hu
      rw [World.write_pc_ne _ _ _ hu]
    cases left with
    | nil =>
      exact .finish t c b ((congrArg Pc.writing hpc).trans rfl) (by simp [Pc.writing]) hother rfl
        rfl
    | cons b' left =>
      exact .byte t c b (b' :: left) ((congrArg Pc.writing hpc).trans rfl) (by simp [Pc.writing])
        hother rfl rfl
  | call hret => exact .goto rfl (by rw [(Pc.phases_of_returned hret).2.2]; rfl) rfl rfl
  | receive hret => exact .goto rfl (by rw [(Pc.phases_of_returned hret).2.2]; rfl) rfl rfl
  | rxSrsp | rxAreq | accept | discard | post | rpcAccess | linkHead | linkTail | rpcRelease
  | countPost => exact .keep (fun _ => rfl) rfl rfl
  | _ => exact .goto rfl (by simp_all [Pc.writing]) rfl rfl

omit [DecidableEq τ] in
theorem framed_init (q : List (List UInt8)) :
    Framed (World.init τ { rpcOpen with rpcLlq := q }) [] where
  line := rfl
  writing t c left h := by simp [World.init, Pc.writing] at h
  between _ := rfl

omit [DecidableEq τ] in
/-- While a thread is inside, no other thread is writing. -/
theorem Locked.writing_eq_none (hlock : Locked w) (ht : (w.pc t).inside = true) (hu : u ≠ t) :
    (w.pc u).writing = none := by
  cases h : (w.pc u).writing with
  | none => rfl
  | some x => exact absurd (hlock.unique (Pc.inside_of_writing h) ht) hu

omit [DecidableEq τ] in
/-- Only the thread inside can be writing after a step that leaves the others alone. -/
theorem Locked.eq_of_writing {x : Call × List UInt8} (hlock : Locked w)
    (ht : (w.pc t).inside = true) (hother : ∀ u, u ≠ t → (w'.pc u).writing = (w.pc u).writing)
    (hu : (w'.pc u).writing = some x) : u = t := by
  by_contra hne
  rw [hother u hne, hlock.writing_eq_none ht hne] at hu
  cases hu

omit [DecidableEq τ] in
theorem Framed.step {cut : List UInt8} (h : Framed w cut) (hlock : Locked w)
    (hs : LineStep w w') : ∃ cut', Framed w' cut' := by
  cases hs with
  | start t c hin hnone hwriting hother hline hlog =>
    have hcut : cut = [] := by
      apply h.between
      intro u
      by_cases hu : u = t
      · exact hu ▸ hnone
      · exact hlock.writing_eq_none hin hu
    refine ⟨[], ?_, ?_, fun _ => rfl⟩
    · rw [hline, hlog, h.line, hcut]
    · intro u d left hu
      obtain rfl := hlock.eq_of_writing hin hother hu
      rw [hwriting] at hu
      cases hu
      rfl
  | byte t c b left hwriting hwriting' hother hline hlog =>
    have hin := Pc.inside_of_writing hwriting
    refine ⟨cut ++ [b], ?_, ?_, ?_⟩
    · rw [hline, hlog, h.line, List.append_assoc]
    · intro u d rest hu
      obtain rfl := hlock.eq_of_writing hin hother hu
      rw [hwriting'] at hu
      cases hu
      rw [List.append_assoc]
      exact h.writing u _ _ hwriting
    · intro hnone
      rw [hnone t] at hwriting'
      cases hwriting'
  | finish t c b hwriting hnone hother hline hlog =>
    have hin := Pc.inside_of_writing hwriting
    have hcut : cut ++ [b] = c.tx := h.writing t c [b] hwriting
    refine ⟨[], ?_, ?_, fun _ => rfl⟩
    · rw [hline, hlog, h.line, ← hcut]
      simp
    · intro u d left hu
      obtain rfl := hlock.eq_of_writing hin hother hu
      rw [hnone] at hu
      cases hu
  | keep hkeep hline hlog =>
    refine ⟨cut, ?_, ?_, ?_⟩
    · rw [hline, hlog, h.line]
    · intro u d left hu
      rw [hkeep u] at hu
      exact h.writing u d left hu
    · intro hnone
      exact h.between fun u => (hkeep u).symm.trans (hnone u)

/-! ## Leaving -/

/-- Thread `t` can leave the section by its own steps, giving the semaphore back. -/
def Leaves (w : World τ) (t : τ) : Prop :=
  ∃ as w', (∀ a ∈ as, a = .run t ∨ a = .timeout t) ∧ exec step w as = some w' ∧
    (∃ c status, w'.pc t = .sent c status) ∧ w'.rpcSem = w.rpcSem + 1

theorem Leaves.cons {w₁ : World τ} (ha : a = .run t ∨ a = .timeout t) (hs : Step w a w₁)
    (halive : w.rpc ≠ .killed) (hsem : w₁.rpcSem = w.rpcSem) (h : Leaves w₁ t) : Leaves w t := by
  obtain ⟨as, w', hown, hexec, hpc, hsem'⟩ := h
  refine ⟨a :: as, w', ?_, by rw [exec, hs.to_step halive]; exact hexec, hpc,
    hsem' ▸ hsem ▸ rfl⟩
  intro b hb
  cases List.mem_cons.mp hb with
  | inl hba => exact hba ▸ ha
  | inr hmem => exact hown b hmem

theorem leaves_semPost {status : UInt8} (halive : w.rpc ≠ .killed)
    (h : w.pc t = .semPost c status) : Leaves w t :=
  ⟨[.run t], _, by simp, by rw [exec, (Step.leave h).to_step halive]; rfl,
    ⟨c, status, World.goto_pc_same _ _ _⟩, rfl⟩

theorem leaves_setInvalid {status : UInt8} (halive : w.rpc ≠ .killed)
    (h : w.pc t = .setInvalid c status) : Leaves w t :=
  .cons (.inl rfl) (.invalidate h) halive rfl (leaves_semPost halive (World.goto_pc_same _ _ _))

theorem leaves_timedWait (halive : w.rpc ≠ .killed) (h : w.pc t = .timedWait c) :
    Leaves w t := by
  by_cases hpos : 0 < w.srspSem
  · exact .cons (.inl rfl) (.take h hpos) halive rfl
      (leaves_setInvalid halive (World.goto_pc_same _ _ _))
  · exact .cons (.inr rfl) (.timeout h (Nat.eq_zero_of_not_pos hpos)) halive rfl
      (leaves_setInvalid halive (World.goto_pc_same _ _ _))

/-- The printing loop ends if its bound is a byte. -/
theorem leaves_print {i : UInt8} (hlen : c.payloadLen.toNat ≤ 253) (halive : w.rpc ≠ .killed)
    (h : w.pc t = .print c i) : Leaves w t := by
  induction hn : c.payloadLen.toNat + 2 - i.toNat generalizing w i with
  | zero =>
    have hend : c.payloadLen.toNat + 2 ≤ i.toNat := by omega
    by_cases hsreq : c.isSreq
    · exact .cons (.inl rfl) (.printedSreq h hend hsreq) halive rfl
        (leaves_timedWait halive (World.goto_pc_same _ _ _))
    · exact .cons (.inl rfl) (.printedAreq h hend hsreq) halive rfl
        (leaves_semPost halive (World.goto_pc_same _ _ _))
  | succ n ih =>
    have hlt : i.toNat < c.payloadLen.toNat + 2 := by omega
    have hsucc : (i + 1).toNat = i.toNat + 1 := toNat_succ (by omega)
    exact .cons (.inl rfl) (.print h hlt) halive rfl
      (ih halive (World.goto_pc_same _ _ _) (by omega))

theorem leaves_write {left : List UInt8} (hlen : c.payloadLen.toNat ≤ 253)
    (halive : w.rpc ≠ .killed) (h : w.pc t = .write c left) : Leaves w t := by
  induction left generalizing w with
  | nil =>
    exact .cons (.inl rfl) (.wrote h) halive rfl
      (leaves_print hlen halive (World.goto_pc_same _ _ _))
  | cons b left ih =>
    exact .cons (.inl rfl) (.writeByte h) halive rfl (ih halive (World.goto_pc_same _ _ _))

theorem leaves_setExpected (hlen : c.payloadLen.toNat ≤ 253) (halive : w.rpc ≠ .killed)
    (h : w.pc t = .setExpected c) : Leaves w t := by
  by_cases hsreq : c.isSreq
  · exact .cons (.inl rfl) (.expect h hsreq) halive rfl
      (leaves_write hlen halive (World.goto_pc_same _ _ _))
  · exact .cons (.inl rfl) (.noExpect h hsreq) halive rfl
      (leaves_write hlen halive (World.goto_pc_same _ _ _))

/-- The call that a thread has still to print. -/
def Pc.unprinted : Pc → Option Call
  | .semWait c | .setExpected c | .write c _ | .print c _ => some c
  | _ => none

/-- A thread inside never waits for another thread to be able to leave, unless it prints a
frame whose length byte is 254 or 255. -/
theorem leaves_of_inside (halive : w.rpc ≠ .killed)
    (hlen : ∀ c, (w.pc t).unprinted = some c → c.payloadLen.toNat ≤ 253)
    (h : (w.pc t).inside = true) : Leaves w t := by
  cases hpc : w.pc t with
  | setExpected c => exact leaves_setExpected (hlen c (by rw [hpc]; rfl)) halive hpc
  | write c left => exact leaves_write (hlen c (by rw [hpc]; rfl)) halive hpc
  | print c i => exact leaves_print (hlen c (by rw [hpc]; rfl)) halive hpc
  | timedWait c => exact leaves_timedWait halive hpc
  | setInvalid c status => exact leaves_setInvalid halive hpc
  | semPost c status => exact leaves_semPost halive hpc
  | _ => simp [hpc, Pc.inside] at h

/-- The invariant behind `Exclusive`. -/
structure Exclusion (w : World τ) : Prop where
  locked : Locked w
  identified : Identified w
  framed : ∃ cut, Framed w cut

omit [DecidableEq τ] in
theorem exclusion_init (q : List (List UInt8)) :
    Exclusion (World.init τ { rpcOpen with rpcLlq := q }) :=
  ⟨locked_init q, identified_init q, [], framed_init q⟩

theorem Exclusion.step (h : Exclusion w) (hs : Step w a w') : Exclusion w' where
  locked := h.locked.step hs
  identified := h.identified.step h.locked hs.id
  framed := by
    obtain ⟨cut, hcut⟩ := h.framed
    exact hcut.step h.locked hs.line

/-! ## Calls that come back -/

/-- No thread has a frame to print whose length byte is 254 or 255. -/
def Short (w : World τ) : Prop :=
  ∀ t c, (w.pc t).unprinted = some c → c.payloadLen.toNat ≤ 253

/-- A thread moves on with the call it has in hand. -/
theorem Short.goto {x : World τ} {p : Pc} (h : Short w) (hpc : x.pc = w.pc)
    (hp : ∀ c, p.unprinted = some c → c.payloadLen.toNat ≤ 253) : Short (x.goto t p) := by
  intro u c hu
  by_cases hut : u = t
  · subst hut
    exact hp c (by simpa using hu)
  · rw [World.goto_pc_ne _ _ hut, hpc] at hu
    exact h u c hu

/-- It stays so while the calls are short. -/
theorem Short.step (h : Short w) (hc : ∀ t c, a = .call t c → c.payloadLen.toNat ≤ 253)
    (hs : Step w a w') : Short w' := by
  cases hs with
  | rxSrsp | rxAreq | accept | discard | post | rpcAccess | linkHead | linkTail | rpcRelease
  | countPost => exact h
  | @call t c hret =>
    refine h.goto rfl ?_
    intro d hd
    obtain rfl := Option.some.inj hd
    exact hc t c rfl
  | @enter t c hpc | @expect t c hpc | @noExpect t c hpc | @writeByte t c b left hpc
  | @wrote t c hpc | @print t c i hpc =>
    refine h.goto rfl ?_
    intro d hd
    exact h t d (by rw [hpc]; exact hd)
  | receive | printedSreq | printedAreq | take | timeout | invalidate | leave | count
  | countTimeout | headNull | headLinked | access | unlink | release =>
    exact h.goto rfl fun d hd => by cases hd

/-- The steps after which every call in progress still comes back: the frames fit into the buffer
of `rpcSendFrame`, and no SRSP is compared with another identifier than its own while a thread is
inside. -/
def Restoring (w : World τ) : Action τ → Prop
  | .call _ c => c.payloadLen.toNat ≤ 251
  | .rpc => ∀ m, w.rpc = .compare m → (∃ t, (w.pc t).inside = true) →
      w.expectedSrspCmdId = subsystem m.cmd0
  | _ => True

/-- Threads inside can leave: their frames are printed in finite time, and the process goes
on. -/
structure Leaving (w : World τ) : Prop where
  short : Short w
  alive : w.rpc = .killed → ∀ t, ¬ (w.pc t).inside = true

theorem Leaving.step (h : Leaving w) (hc : Restoring w a) (halive : w.rpc ≠ .killed)
    (hs : Step w a w') : Leaving w' where
  short := by
    refine h.short.step ?_ hs
    rintro t c rfl
    exact Nat.le_trans hc (by decide)
  alive hkilled := by
    cases hs with
    | discard hrpc hne =>
      intro t ht
      exact hne (hc _ hrpc ⟨t, ht⟩)
    | rxSrsp | rxAreq | accept | post | rpcAccess | linkHead | linkTail | rpcRelease
    | countPost => cases hkilled
    | _ => exact absurd hkilled halive

/-- A synchronous request without payload, `SYS_PING`. -/
def sysPingCall : Call := ⟨0x21, 0x01, [], by decide⟩

end ZnpHost.Rpc
