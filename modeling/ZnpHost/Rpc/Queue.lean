import ZnpHost.Rpc.Tokens

/-!
# One thread and the queue

What holds of the queue while one application thread sends and receives: its counting
semaphore agrees with its length, and an accepted SRSP stays the next message until
another is accepted or one is taken.

## Main definitions

* `Counted` — `llqCountSem` counts the messages that no thread has claimed.
* `Placed` — a message the thread finds at the head of the queue.
-/

namespace ZnpHost.Rpc

open Lib

variable {w w' : World Unit} {a : Action Unit} {m : MtMsg}

/-! ## The history -/

theorem suffix_write {x : World Unit} (h : w.log <:+ x.log) (c : Call) (left : List UInt8) :
    w.log <:+ (x.write () c left).log := by
  cases left with
  | nil => exact h.trans (List.suffix_cons _ _)
  | cons b left => exact h

/-- The history only grows. -/
theorem log_suffix (hs : Step w a w') : w.log <:+ w'.log := by
  cases hs with
  | expect => exact suffix_write (List.suffix_cons _ _) _ _
  | noExpect | writeByte => exact suffix_write (List.suffix_refl _) _ _
  | take | timeout | invalidate | accept => exact List.suffix_cons _ _
  | _ => exact List.suffix_refl _

/-- Outside the wait for an SRSP none is accepted in a run of clean steps. -/
theorem not_accepted_of_clean (hc : Clean w a) (hnone : (w.pc ()).awaits = none)
    (hs : Step w a w') (m' : MtMsg) (hpost : w'.rpc = .post m') : w.rpc = .post m' := by
  cases hs with
  | accept hrpc hexp =>
    obtain ⟨-, t, hwait⟩ := hc.accept hrpc hexp
    exact absurd hnone hwait
  | rxSrsp | rxAreq | discard | post | rpcAccess | linkHead | linkTail | rpcRelease
  | countPost => cases hpost
  | _ => exact hpost

/-! ## Counting the messages -/

/-- The thread has been promised a message. -/
def Pc.claimed : Pc → ℕ
  | .headTest | .accessWait | .unlink => 1
  | _ => 0

/-- The RPC thread has linked a message that is not counted yet. -/
def RpcPc.uncounted : RpcPc → ℕ
  | .accessPost | .countPost => 1
  | _ => 0

/-- Every message in the queue is counted, promised, or about to be counted. -/
def Counted (w : World Unit) : Prop :=
  w.llqCountSem + (w.pc ()).claimed + w.rpc.uncounted = w.rpcLlq.length

theorem counted_init (llq : List (List UInt8)) :
    Counted (World.init Unit { rpcOpen with rpcLlq := llq }) := by
  simp [Counted, World.init, Pc.claimed, RpcPc.uncounted]

theorem Counted.ne_nil (h : Counted w) (hpc : w.pc () = .headTest) : w.rpcLlq ≠ [] := by
  intro hnil
  simp [Counted, hpc, hnil, Pc.claimed] at h

theorem Pc.claimed_of_returned {p : Pc} (h : p.returned = true) : p.claimed = 0 := by
  cases p <;> simp_all [returned, claimed]

theorem Counted.step (h : Counted w) (hs : Step w a w') : Counted w' := by
  have hne := h.ne_nil
  unfold Counted at h ⊢
  cases hs with
  | call hret | receive hret =>
    rw [Pc.claimed_of_returned hret] at h
    simpa [Pc.claimed] using h
  | count hpc hpos =>
    simp only [hpc, Pc.claimed] at h
    simp only [World.goto_pc_same, Pc.claimed, World.goto_rpc, World.goto_rpcLlq,
      World.goto_llqCountSem]
    omega
  | headNull hpc hnil => exact absurd hnil (hne hpc)
  | unlink hpc hllq =>
    simp only [hpc, Pc.claimed, hllq, List.length_cons] at h
    simp only [World.goto_pc_same, Pc.claimed, World.goto_rpc, World.goto_rpcLlq,
      World.goto_llqCountSem]
    omega
  | linkHead hrpc | linkTail hrpc =>
    simp only [hrpc, RpcPc.uncounted] at h
    simp [RpcPc.uncounted]
    omega
  | countPost hrpc =>
    simp only [hrpc, RpcPc.uncounted] at h
    simp only [RpcPc.uncounted]
    omega
  | _ => simp_all [Pc.claimed, RpcPc.uncounted]

/-! ## The next message -/

/-- The accepted SRSP the RPC thread has not linked yet. -/
def RpcPc.carried : RpcPc → Option MtMsg
  | .post m | .accessWait m true | .link m true => some m
  | _ => none

/-- The RPC thread is about to put the message at the head of the queue, or it is there. -/
def Placed (w : World Unit) (m : MtMsg) : Prop :=
  w.rpc.carried = some m ∨ w.rpc.carried = none ∧ w.rpcLlq.head? = some m.bytes

/-- A placed message stays so until another SRSP is accepted or a message is taken. -/
theorem Placed.step (h : Placed w m) (haccept : ∀ m', w'.rpc = .post m' → w.rpc = .post m')
    (hunlink : w.pc () = .unlink → w'.pc () = .unlink) (hs : Step w a w') : Placed w' m := by
  unfold Placed at h ⊢
  cases hs with
  | accept hrpc =>
    rw [haccept _ rfl] at hrpc
    cases hrpc
  | unlink hpc =>
    have hpc' := hunlink hpc
    simp at hpc'
  | rxSrsp hrpc | rxAreq hrpc | discard hrpc | post hrpc | rpcRelease hrpc | countPost hrpc =>
    simpa [hrpc, RpcPc.carried] using h
  | @rpcAccess m' prio hrpc => cases prio <;> simpa [hrpc, RpcPc.carried] using h
  | linkHead hrpc =>
    simp only [hrpc, RpcPc.carried, Option.some.injEq, reduceCtorEq, false_and, or_false] at h
    simp [RpcPc.carried, h]
  | linkTail hrpc =>
    simp only [hrpc, RpcPc.carried, reduceCtorEq, true_and, false_or] at h
    simp [RpcPc.carried, h, List.head?_append]
  | _ => exact h

end ZnpHost.Rpc
