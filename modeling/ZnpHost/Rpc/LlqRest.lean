import ZnpHost.Lib.Quiescence
import ZnpHost.Rpc.Conservation

/-!
# No wake-up is lost

The threads on a queue come to rest: every call of `llq_add` and every timed wait returns.
Only `llq_receive` can wait for ever, and only for a message that nobody has added.

## Main definitions

* `LlqAction.own` — the steps the threads take by themselves.
* `LlqWorld.work` — the steps that are left.
* `LlqAtRest` — where the threads are when none of them can go on.
* `llq_comes_to_rest` — every schedule leads there.
-/

namespace ZnpHost.Rpc

open Lib

variable {τ : Type} {w w' : LlqWorld τ} {a : LlqAction τ} {t : τ}

/-- A step that a thread takes by itself, the calls aside. -/
def LlqAction.own : LlqAction τ → Prop
  | .link _ _ | .run _ | .timeout _ => True
  | .add _ _ _ | .receive _ _ => False

/-- The steps until the function returns. -/
def LlqPc.work : LlqPc → ℕ
  | countWait _ => 5
  | addWait _ _ | headTest => 4
  | addLink _ _ | accessWait => 3
  | addRelease | unlink => 2
  | addCount | release _ => 1
  | idle | added | received _ => 0

/-- Some address is not in use. -/
theorem Llq.Represents.exists_free {hndl : Llq} {l : List (ℕ × Entry)} (h : hndl.Represents l) :
    ∃ x, hndl.heap x = none := by
  have hbound : ∃ n, ∀ x ∈ l.map Prod.fst, x < n := by
    induction l.map Prod.fst with
    | nil => exact ⟨0, by simp⟩
    | cons y xs ih =>
      obtain ⟨n, hn⟩ := ih
      refine ⟨max n (y + 1), ?_⟩
      intro x hx
      cases List.mem_cons.mp hx with
      | inl heq => omega
      | inr hmem =>
        have hlt := hn x hmem
        omega
  obtain ⟨n, hn⟩ := hbound
  refine ⟨n, ?_⟩
  cases hheap : hndl.heap n with
  | none => rfl
  | some node => exact absurd (hn n (h.linked n (by simp [hheap]))) (Nat.lt_irrefl n)

variable [Fintype τ]

/-- The steps left to all threads. -/
def LlqWorld.work (w : LlqWorld τ) : ℕ := total LlqPc.work w.pc

variable [DecidableEq τ]

/-- A thread goes to a place with less work. -/
theorem llqWork_goto {x : LlqWorld τ} {p : LlqPc} (hpc : x.pc = w.pc)
    (hp : p.work < (w.pc t).work) : (x.goto t p).work < w.work := by
  have hmove := total_update LlqPc.work w.pc t p
  simp only [LlqWorld.work, LlqWorld.goto, hpc]
  omega

theorem LlqStep.work_lt (hs : LlqStep w a w') (ha : a.own) : w'.work < w.work := by
  cases hs with
  | add | receive => exact ha.elim
  | addEnter hpc | link hpc | addLeave hpc | post hpc | pass hpc | timeout hpc | headNull hpc
  | headLinked hpc | enter hpc | unlink hpc | leave hpc =>
    exact llqWork_goto rfl (by simp [hpc, LlqPc.work])

/-- Every own step takes work away. -/
theorem drains_llqStep :
    Drains (@llqStep τ _) LlqAction.own Conserved LlqWorld.work where
  keeps _ _ _ hi _ hs := hi.step (.of_step hs)
  less _ _ _ _ ha hs := (LlqStep.of_step hs).work_lt ha

/-! ## Rest -/

/-- No thread can go on. -/
abbrev LlqStuck (w : LlqWorld τ) : Prop := Quiet llqStep LlqAction.own w

/-- All calls have returned, those of `llq_receive` aside that wait for a message. -/
structure LlqAtRest (w : LlqWorld τ) : Prop where
  settled : ∀ t, (w.pc t).returned = true ∨ w.pc t = .countWait false
  llqAccessSem : w.llqAccessSem = 1
  /-- The tokens are as many as the messages in the list. -/
  counted : ∃ l : List (ℕ × Entry), w.llq.Represents l ∧ l.length = w.llqCountSem
  /-- Where a thread waits, every message ever added has been received. -/
  waiting : ∀ t, w.pc t = .countWait false →
    w.llq.head = none ∧ w.added.Perm (w.returned.map Prod.snd)

namespace Conserved

/-- The holder of the lock can go on. -/
theorem not_inside (h : Conserved w) (hstuck : LlqStuck w) (t : τ) :
    ¬ (w.pc t).inside = true := by
  intro ht
  obtain ⟨l, hl⟩ := h.ledger
  obtain ⟨x, hx⟩ := hl.represents.exists_free
  cases h.progress ht hx with
  | inl hrun => simp [hstuck (.run t) trivial] at hrun
  | inr hlink => simp [hstuck (.link t x) trivial] at hlink

theorem settled_of_stuck (h : Conserved w) (hstuck : LlqStuck w) (t : τ) :
    (w.pc t).returned = true ∨ w.pc t = .countWait false ∧ w.llqCountSem = 0 := by
  have hrun := hstuck (.run t) trivial
  have htimeout := hstuck (.timeout t) trivial
  have hsem : w.llqAccessSem = 1 := h.lock.eq_one_iff.mpr (h.not_inside hstuck)
  have hout := h.not_inside hstuck t
  cases hpc : w.pc t with
  | idle | added | received r => exact .inl rfl
  | addWait data prio => simp [llqStep, runLlqThread, hpc, hsem] at hrun
  | addCount => simp [llqStep, runLlqThread, hpc] at hrun
  | headTest => simp [llqStep, runLlqThread, hpc] at hrun
  | accessWait => simp [llqStep, runLlqThread, hpc, hsem] at hrun
  | countWait timed =>
    cases timed with
    | true => simp [llqStep, hpc] at htimeout
    | false => exact .inr ⟨rfl, by simpa [llqStep, runLlqThread, hpc] using hrun⟩
  | _ => simp [hpc, LlqPc.inside] at hout

/-- Threads at rest have no part in the credit. -/
theorem credit_eq (h : Conserved w) (hstuck : LlqStuck w) : w.credit = w.llqCountSem := by
  have hpassed : tally (fun p : LlqPc => p.passed = true) w.pc = 0 := by
    apply tally_eq_zero
    intro t
    cases h.settled_of_stuck hstuck t with
    | inl hret => cases hpc : w.pc t <;> simp_all [LlqPc.returned, LlqPc.passed]
    | inr hwait => simp [hwait.1, LlqPc.passed]
  have hunposted : tally (fun p : LlqPc => p.unposted = true) w.pc = 0 := by
    apply tally_eq_zero
    intro t
    cases h.settled_of_stuck hstuck t with
    | inl hret => cases hpc : w.pc t <;> simp_all [LlqPc.returned, LlqPc.unposted]
    | inr hwait => simp [hwait.1, LlqPc.unposted]
  rw [LlqWorld.credit, hpassed, hunposted]
  rfl

/-- **Where no thread can go on, nobody waits for a message that is there.** -/
theorem llqAtRest (h : Conserved w) (hstuck : LlqStuck w) : LlqAtRest w := by
  obtain ⟨l, hl⟩ := h.ledger
  have hlen : l.length = w.llqCountSem := by rw [hl.credit, h.credit_eq hstuck]
  refine ⟨fun t => (h.settled_of_stuck hstuck t).imp_right And.left,
    h.lock.eq_one_iff.mpr (h.not_inside hstuck), ⟨l, hl.represents, hlen⟩, ?_⟩
  intro t hpc
  have hzero : w.llqCountSem = 0 := by
    cases h.settled_of_stuck hstuck t with
    | inl hret => simp [hpc, LlqPc.returned] at hret
    | inr hwait => exact hwait.2
  have hnil : l = [] := List.length_eq_zero_iff.mp (hlen.trans hzero)
  have hperm := hl.noLoss
  rw [hnil] at hperm
  exact ⟨hl.represents.head_eq_none_iff.mpr hnil, by simpa using hperm⟩

end Conserved

/-- **No wake-up is lost.**  From any state reached after `llq_open`, the threads take no more
steps by themselves than there is work, and where they cannot go on the lock is free and only
calls of `llq_receive` are left, waiting with the list empty and every message received. -/
theorem llq_comes_to_rest {temp : Option ℕ}
    (h : Reachable llqStep (LlqWorld.opened τ temp) w) :
    (∀ as w', (∀ a ∈ as, a.own) → exec llqStep w as = some w' →
      as.length ≤ w.work ∧ (LlqStuck w' → LlqAtRest w')) ∧
    ∃ as w', (∀ a ∈ as, a.own) ∧ exec llqStep w as = some w' ∧ LlqAtRest w' := by
  have hw := conserved_of_reachable h
  constructor
  · intro as w' hown hexec
    exact ⟨drains_llqStep.length_le hw hown hexec,
      (drains_llqStep.exec hw hown hexec).1.llqAtRest⟩
  · obtain ⟨as, w', hown, hexec, hquiet⟩ := drains_llqStep.exists_quiet hw
    exact ⟨as, w', hown, hexec, (drains_llqStep.exec hw hown hexec).1.llqAtRest hquiet⟩

/-- Two messages are added and one is received, with a sender at the post of its token. -/
theorem llq_comes_to_rest_addTwoReceiveOne :
    ∃ as w', exec llqStep afterAddTwoReceiveOne as = some w' ∧ LlqAtRest w' := by
  have hrun : Reachable llqStep (LlqWorld.opened Bool none) afterAddTwoReceiveOne :=
    reachable_of_exec (Option.some_get (x := exec llqStep _ addTwoReceiveOne) rfl).symm
  obtain ⟨-, as, w', -, hexec, hrest⟩ := llq_comes_to_rest hrun
  exact ⟨as, w', hexec, hrest⟩

end ZnpHost.Rpc
