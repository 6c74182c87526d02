import ZnpHost.Lib.Lock
import ZnpHost.Lib.Tally
import ZnpHost.Rpc.LlqThreads

/-!
# The queue loses and duplicates nothing

`llqCountSem` is posted after the lock is released and waited for before it is taken.
What ties it to the list is a count of tokens and threads: every linked message has a
token, a sender that will post one, or a receiver that took one.

## Main definitions

* `LlqWorld.credit` — the tokens and the threads that stand for linked messages.
* `LedgerStep` — what a step does to the list, the record of the run and the credit.
* `Ledger` — the list, the record and the credit agree.
* `Conserved` — the invariant; `llq_conserves` draws the conclusions for every state
  reached after `llq_open`.
-/

namespace ZnpHost.Rpc

open Lib

variable {τ : Type} {w w' : LlqWorld τ} {a : LlqAction τ} {l : List (ℕ × Entry)} {t : τ}

/-! ## Credit -/

section Credit

variable [Fintype τ]

/-- The tokens of `llqCountSem`, the receivers that took one and no message yet, and the
senders that linked a message and posted no token yet. -/
def LlqWorld.credit (w : LlqWorld τ) : ℕ :=
  w.llqCountSem + tally (fun p => p.passed = true) w.pc +
    tally (fun p => p.unposted = true) w.pc

/-- What a thread contributes. -/
def LlqPc.weight (p : LlqPc) : ℕ :=
  (if p.passed = true then 1 else 0) + if p.unposted = true then 1 else 0

omit [Fintype τ] in
theorem LlqPc.weight_of_returned {p : LlqPc} (h : p.returned = true) : p.weight = 0 := by
  cases p <;> simp_all [returned, weight, passed, unposted]

variable [DecidableEq τ]

/-- The move of one thread. -/
theorem credit_goto (w : LlqWorld τ) (t : τ) (p : LlqPc) :
    (w.goto t p).credit + (w.pc t).weight = w.credit + p.weight := by
  have hpassed := tally_update (fun p : LlqPc => p.passed = true) w.pc t p
  have hunposted := tally_update (fun p : LlqPc => p.unposted = true) w.pc t p
  simp only [LlqWorld.credit, LlqPc.weight, LlqWorld.goto_pc, LlqWorld.goto_llqCountSem]
  omega

/-- What a step does to the list, to the record of the run and to the credit. -/
inductive LedgerStep (w w' : LlqWorld τ) : Prop
  | keep : w'.llq = w.llq → w'.added = w.added → w'.returned = w.returned →
      w'.credit = w.credit → LedgerStep w w'
  | link (a : ℕ) (data : List UInt8) (prio : ℤ) : w.llq.heap a = none →
      Rpc.link w.llq a (w.entry data) prio = some w'.llq →
      w'.added = w.added ++ [w.entry data] → w'.returned = w.returned →
      w'.credit = w.credit + 1 → LedgerStep w w'
  | unlink (t : τ) (e : Entry) : unlinkHead w.llq = some (e, w'.llq) → w'.added = w.added →
      w'.returned = w.returned ++ [(t, e)] → w'.credit + 1 = w.credit → LedgerStep w w'

/-- A move between places of the same weight, over tokens that stay the same. -/
theorem LedgerStep.goto {x : LlqWorld τ} {p : LlqPc} (hllq : x.llq = w.llq)
    (hadded : x.added = w.added) (hreturned : x.returned = w.returned) (hpc : x.pc = w.pc)
    (hcredit : x.llqCountSem + p.weight = w.llqCountSem + (w.pc t).weight) :
    LedgerStep w (x.goto t p) := by
  refine .keep hllq hadded hreturned ?_
  have hmove := credit_goto x t p
  simp only [LlqWorld.credit, hpc] at hmove ⊢
  omega

/-- Every step is one of the three kinds, as long as the head test finds a message. -/
theorem LlqStep.ledger (hs : LlqStep w a w')
    (hhead : ∀ t, w.pc t = .headTest → w.llq.head ≠ none) : LedgerStep w w' := by
  cases hs with
  | add hret => exact .goto rfl rfl rfl rfl (by rw [LlqPc.weight_of_returned hret]; rfl)
  | receive hret => exact .goto rfl rfl rfl rfl (by rw [LlqPc.weight_of_returned hret]; rfl)
  | addEnter hpc => exact .goto rfl rfl rfl rfl (by rw [hpc]; rfl)
  | @link t a data prio llq hpc hfree hlink =>
    refine .link a data prio hfree hlink rfl rfl ?_
    have hmove := credit_goto { w with llq, added := w.added ++ [w.entry data] } t .addRelease
    simp only [hpc] at hmove
    exact hmove
  | addLeave hpc => exact .goto rfl rfl rfl rfl (by rw [hpc]; rfl)
  | post hpc => exact .goto rfl rfl rfl rfl (by rw [hpc]; rfl)
  | pass hpc hpos =>
    refine .goto rfl rfl rfl rfl ?_
    rw [hpc]
    exact Nat.sub_add_cancel hpos
  | timeout hpc => exact .goto rfl rfl rfl rfl (by rw [hpc]; rfl)
  | headNull hpc hnull => exact absurd hnull (hhead _ hpc)
  | headLinked hpc => exact .goto rfl rfl rfl rfl (by rw [hpc]; rfl)
  | enter hpc => exact .goto rfl rfl rfl rfl (by rw [hpc]; rfl)
  | @unlink t e llq hpc hunlink =>
    refine .unlink t e hunlink rfl rfl ?_
    have hmove := credit_goto { w with llq, returned := w.returned ++ [(t, e)] } t (.release e)
    simp only [hpc] at hmove
    exact hmove
  | leave hpc => exact .goto rfl rfl rfl rfl (by rw [hpc]; rfl)

/-! ## The ledger -/

/-- The list, the record of the run and the credit agree. -/
structure Ledger (w : LlqWorld τ) (l : List (ℕ × Entry)) : Prop where
  represents : w.llq.Represents l
  credit : l.length = w.credit
  noLoss : w.added.Perm (w.returned.map Prod.snd ++ l.map Prod.snd)
  serials : w.added.map Entry.serial = List.range w.added.length

omit [DecidableEq τ] in
theorem Ledger.step (h : Ledger w l) (hs : LedgerStep w w') : ∃ l', Ledger w' l' := by
  cases hs with
  | keep hllq hadded hreturned hcredit =>
    refine ⟨l, ?_, ?_, ?_, ?_⟩
    · exact hllq ▸ h.represents
    · rw [hcredit, h.credit]
    · rw [hadded, hreturned]
      exact h.noLoss
    · rw [hadded]
      exact h.serials
  | link a data prio hfree hlink hadded hreturned hcredit =>
    obtain ⟨hndl, l', hlink', hrep, hperm⟩ := h.represents.link hfree (w.entry data) prio
    obtain rfl : w'.llq = hndl := Option.some.inj (hlink.symm.trans hlink')
    refine ⟨l', hrep, ?_, ?_, ?_⟩
    · rw [hperm.length_eq, hcredit, List.length_cons, h.credit]
    · rw [hadded, hreturned]
      have hlast : (w.added ++ [w.entry data]).Perm (w.entry data :: w.added) :=
        List.perm_append_singleton _ _
      have hmid : (w.returned.map Prod.snd ++ w.entry data :: l.map Prod.snd).Perm
          (w.entry data :: (w.returned.map Prod.snd ++ l.map Prod.snd)) := List.perm_middle
      have hnew : (l'.map Prod.snd).Perm (w.entry data :: l.map Prod.snd) := hperm.map Prod.snd
      exact hlast.trans ((h.noLoss.cons _).trans (hmid.symm.trans (hnew.symm.append_left _)))
    · rw [hadded, List.map_append, h.serials, List.length_append, List.length_singleton,
        List.range_succ]
      rfl
  | unlink t e hunlink hadded hreturned hcredit =>
    cases l with
    | nil =>
      have hzero := h.credit
      rw [List.length_nil] at hzero
      omega
    | cons x l =>
      obtain ⟨a, e'⟩ := x
      obtain ⟨hndl, hunlink', hrep⟩ := h.represents.unlinkHead
      obtain ⟨rfl, rfl⟩ : e = e' ∧ w'.llq = hndl := by
        simpa using hunlink.symm.trans hunlink'
      refine ⟨l, hrep, ?_, ?_, ?_⟩
      · have hlen := h.credit
        rw [List.length_cons] at hlen
        omega
      · rw [hadded, hreturned, List.map_append, List.append_assoc]
        exact h.noLoss
      · rw [hadded]
        exact h.serials

omit [DecidableEq τ] in
/-- A receiver that passed the wait finds a message. -/
theorem Ledger.head_ne_none (h : Ledger w l) (ht : (w.pc t).passed = true) :
    w.llq.head ≠ none := by
  intro hnone
  have hnil := h.represents.head_eq_none_iff.mp hnone
  have hpos := tally_pos (fun p : LlqPc => p.passed = true) w.pc ht
  have hzero := h.credit
  rw [hnil, List.length_nil, LlqWorld.credit] at hzero
  omega

end Credit

/-! ## The lock and the results -/

variable [DecidableEq τ]

/-- The value of `llqAccessSem` and the threads inside agree. -/
def QueueLocked (w : LlqWorld τ) : Prop :=
  Guards w.llqAccessSem fun t => (w.pc t).inside = true

theorem QueueLocked.goto {x : LlqWorld τ} {p : LlqPc} (h : QueueLocked x)
    (hp : p.inside = (x.pc t).inside) : QueueLocked (x.goto t p) :=
  Guards.congr h fun u => by
    by_cases hu : u = t
    · subst hu
      simp [hp]
    · simp [hu]

theorem LlqPc.inside_of_returned {p : LlqPc} (h : p.returned = true) : p.inside = false := by
  cases p <;> simp_all [returned, inside]

theorem QueueLocked.enter {p : LlqPc} (h : QueueLocked w) (hpos : 0 < w.llqAccessSem)
    (hp : p.inside = true) :
    QueueLocked ({ w with llqAccessSem := w.llqAccessSem - 1 }.goto t p) := by
  refine Guards.enter (t := t) h hpos ?_ fun u hu => ?_
  · simpa using hp
  · simp [hu]

theorem QueueLocked.leave {p : LlqPc} (h : QueueLocked w) (ht : (w.pc t).inside = true)
    (hp : p.inside = false) :
    QueueLocked ({ w with llqAccessSem := w.llqAccessSem + 1 }.goto t p) := by
  refine Guards.leave (t := t) h ht ?_ fun u hu => ?_
  · simp [hp]
  · simp [hu]

theorem QueueLocked.step (h : QueueLocked w) (hs : LlqStep w a w') : QueueLocked w' := by
  cases hs with
  | addEnter hpc hpos => exact h.enter hpos rfl
  | addLeave hpc => exact h.leave (by rw [hpc]; rfl) rfl
  | enter hpc hpos => exact h.enter hpos rfl
  | leave hpc => exact h.leave (by rw [hpc]; rfl) rfl
  | add hret => exact h.goto (LlqPc.inside_of_returned hret).symm
  | receive hret => exact h.goto (LlqPc.inside_of_returned hret).symm
  | _ => exact QueueLocked.goto (by exact h) (by simp_all [LlqPc.inside])

/-- A thread that took a message, or has returned one, is on record for it, and none has
returned without one. -/
def LlqPc.Settled (returned : List (τ × Entry)) (t : τ) : LlqPc → Prop
  | .release e | .received (.message e) => (t, e) ∈ returned
  | .received .nothing => False
  | _ => True

omit [DecidableEq τ] in
theorem LlqPc.Settled.mono {returned : List (τ × Entry)} {p : LlqPc} (h : p.Settled returned t)
    (more : List (τ × Entry)) : p.Settled (returned ++ more) t := by
  cases p with
  | release e => exact List.mem_append_left more h
  | received r =>
    cases r with
    | message e => exact List.mem_append_left more h
    | nothing => exact h
    | timedOut => trivial
  | _ => trivial

theorem settled_goto {x : LlqWorld τ} {p : LlqPc} (h : ∀ u, (x.pc u).Settled x.returned u)
    (hp : p.Settled x.returned t) :
    ∀ u, ((x.goto t p).pc u).Settled (x.goto t p).returned u := by
  intro u
  by_cases hu : u = t
  · subst hu
    simpa using hp
  · simpa [hu] using h u

theorem settled_step (h : ∀ t, (w.pc t).Settled w.returned t) (hs : LlqStep w a w')
    (hhead : ∀ t, w.pc t = .headTest → w.llq.head ≠ none) :
    ∀ t, (w'.pc t).Settled w'.returned t := by
  cases hs with
  | headNull hpc hnull => exact absurd hnull (hhead _ hpc)
  | @unlink t e llq hpc hunlink =>
    refine settled_goto (fun u => (h u).mono _) ?_
    exact List.mem_append_right _ List.mem_cons_self
  | @leave t e hpc =>
    have ht := h t
    rw [hpc] at ht
    exact settled_goto h ht
  | _ => exact settled_goto h trivial

/-! ## Every run -/

/-- The invariant of the queue. -/
structure Conserved [Fintype τ] (w : LlqWorld τ) : Prop where
  ledger : ∃ l, Ledger w l
  lock : QueueLocked w
  settled : ∀ t, (w.pc t).Settled w.returned t

variable [Fintype τ]

omit [DecidableEq τ] in
theorem conserved_opened (temp : Option ℕ) : Conserved (LlqWorld.opened τ temp) where
  ledger := by
    refine ⟨[], .opened temp, ?_, .refl _, rfl⟩
    rw [LlqWorld.credit, tally_eq_zero, tally_eq_zero]
    · rfl
    · simp [LlqWorld.opened, LlqPc.unposted]
    · simp [LlqWorld.opened, LlqPc.passed]
  lock := .free fun _ => by simp [LlqWorld.opened, LlqPc.inside]
  settled _ := trivial

theorem Conserved.step (h : Conserved w) (hs : LlqStep w a w') : Conserved w' := by
  obtain ⟨l, hl⟩ := h.ledger
  have hhead : ∀ t, w.pc t = .headTest → w.llq.head ≠ none := by
    intro t hpc
    exact hl.head_ne_none (t := t) (by rw [hpc]; rfl)
  constructor
  · exact hl.step (hs.ledger hhead)
  · exact h.lock.step hs
  · exact settled_step h.settled hs hhead

theorem conserved_of_reachable {temp : Option ℕ}
    (h : Reachable llqStep (LlqWorld.opened τ temp) w) : Conserved w :=
  h.invariant (conserved_opened temp) fun _ _ _ hw _ hs => hw.step (.of_step hs)

/-- The holder of the lock is never stuck: it does not dereference the null pointer or a
node that is not allocated, whatever free address `malloc` finds. -/
theorem Conserved.progress (h : Conserved w) (ht : (w.pc t).inside = true) {x : ℕ}
    (hx : w.llq.heap x = none) :
    (llqStep w (.run t)).isSome ∨ (llqStep w (.link t x)).isSome := by
  obtain ⟨l, hl⟩ := h.ledger
  cases hpc : w.pc t with
  | addLink data prio =>
    obtain ⟨hndl, l', hlink, -⟩ := hl.represents.link hx (w.entry data) prio
    exact .inr (by simp [llqStep, linkThread, hpc, hx, hlink])
  | unlink =>
    cases l with
    | nil =>
      have hne := hl.head_ne_none (t := t) (by rw [hpc]; rfl)
      exact absurd (hl.represents.head_eq_none_iff.mpr rfl) hne
    | cons e l =>
      obtain ⟨hndl, hunlink, -⟩ := hl.represents.unlinkHead
      exact .inl (by simp [llqStep, runLlqThread, hpc, hunlink])
  | addRelease => exact .inl (by simp [llqStep, runLlqThread, hpc])
  | release e => exact .inl (by simp [llqStep, runLlqThread, hpc])
  | _ =>
    rw [hpc] at ht
    cases ht

/-- **The queue loses and duplicates nothing.**  In every state reached after `llq_open`,
by any number of threads in any order: the nodes from `head` on are as many as the tokens
of `llqCountSem`, the receivers past the wait, and the senders before the post together;
the head test never finds the null pointer, and no receive returns without a message
except on a timeout; a message received is on record, once; and the messages linked so
far are those received and those still in the list. -/
theorem llq_conserves {temp : Option ℕ}
    (h : Reachable llqStep (LlqWorld.opened τ temp) w) :
    ∃ l : List (ℕ × Entry), w.llq.Represents l ∧
      l.length = w.llqCountSem + tally (fun p => p.passed = true) w.pc +
        tally (fun p => p.unposted = true) w.pc ∧
      (∀ t, (w.pc t).passed = true → w.llq.head ≠ none) ∧
      (∀ t, w.pc t ≠ .received .nothing) ∧
      (∀ t e, w.pc t = .received (.message e) → (t, e) ∈ w.returned) ∧
      (w.returned.map fun r => r.2.serial).Nodup ∧
      w.added.Perm (w.returned.map Prod.snd ++ l.map Prod.snd) := by
  have hw := conserved_of_reachable h
  obtain ⟨l, hl⟩ := hw.ledger
  refine ⟨l, hl.represents, hl.credit, fun t ht => hl.head_ne_none ht, ?_, ?_, ?_, hl.noLoss⟩
  · intro t hpc
    have ht := hw.settled t
    rw [hpc] at ht
    exact ht
  · intro t e hpc
    have ht := hw.settled t
    rw [hpc] at ht
    exact ht
  · have hserials : (w.added.map Entry.serial).Nodup := hl.serials ▸ List.nodup_range
    have hperm := hl.noLoss.map Entry.serial
    rw [List.map_append, List.map_map] at hperm
    exact (List.nodup_append.mp (hperm.nodup_iff.mp hserials)).1

/-- One thread adds two messages, the second one with priority; another one receives. -/
def addTwoReceiveOne : List (LlqAction Bool) :=
  [.receive true false, .add false [1] 0, .run false, .link false 7, .run false, .run false,
    .run true, .run true, .add false [2] 1, .run false, .link false 3, .run false,
    .run true, .run true]

/-- The state after these steps. -/
def afterAddTwoReceiveOne : LlqWorld Bool :=
  (exec llqStep (LlqWorld.opened Bool none) addTwoReceiveOne).get rfl

/-- The receiver has the later message, and its sender has not posted the token yet. -/
theorem llq_conserves_addTwoReceiveOne :
    afterAddTwoReceiveOne.returned = [(true, ⟨1, [2]⟩)] ∧
      ∃ l : List (ℕ × Entry), afterAddTwoReceiveOne.llq.Represents l ∧ l.length = 1 := by
  have hrun : Reachable llqStep (LlqWorld.opened Bool none) afterAddTwoReceiveOne :=
    reachable_of_exec (Option.some_get (x := exec llqStep _ addTwoReceiveOne) rfl).symm
  obtain ⟨l, hrep, hcount, -⟩ := llq_conserves hrun
  exact ⟨rfl, l, hrep, hcount.trans (by decide)⟩

end ZnpHost.Rpc
