import ZnpHost.Lib.Bytes
import ZnpHost.Lib.Deque
import ZnpHost.Rpc.LlqThreads

/-!
# The queue as a double-ended list

The functions of `queue.c` called one after the other.  A message added with priority 1 goes
to the front of a list and any other to its end, and `llq_receive` copies out the first one.

## Main definitions

* `LlqHandle`, `llqOpen`, `llqAdd`, `llqReceive` — the handle with its semaphores and the
  functions, as far as they return.
* `LlqUse`, `llqCall` — the state after some calls, and the next call.
* `Deque`, `dequeCall` — the list, and what a call does to it.
* `LlqUse.Refines` — the handle holds the list.
* `llq_refines_deque` — this is so after every sequence of calls.
-/

namespace ZnpHost.Rpc

open Lib

/-! ## The functions -/

/-- The handle `llq_t` with its semaphores. -/
structure LlqHandle where
  llq : Llq
  llqAccessSem : ℕ
  llqCountSem : ℕ

/-- `llq_open`. -/
def llqOpen (temp : Option ℕ) : LlqHandle := ⟨.opened temp, 1, 0⟩

/-- `sem_wait`, which does not return while the count is 0. -/
def semWait (count : ℕ) : Option ℕ := if 0 < count then some (count - 1) else none

/-- `llq_add` of a message to be stored in a node at address `a`. -/
def llqAdd (hndl : LlqHandle) (a : ℕ) (e : Entry) (prio : ℤ) : Option LlqHandle := do
  let llqAccessSem ← semWait hndl.llqAccessSem
  let llq ← link hndl.llq a e prio
  return { llq, llqAccessSem := llqAccessSem + 1, llqCountSem := hndl.llqCountSem + 1 }

/-- `llq_receive`: the handle and the buffer afterwards, and the length returned. -/
def llqReceive (hndl : LlqHandle) (buffer : Mem) : Option (LlqHandle × Mem × ℕ) := do
  let llqCountSem ← semWait hndl.llqCountSem
  if hndl.llq.head.isSome then
    let llqAccessSem ← semWait hndl.llqAccessSem
    let (e, llq) ← unlinkHead hndl.llq
    return (⟨llq, llqAccessSem + 1, llqCountSem⟩, buffer.blit 0 e.data, e.data.length)
  else
    return ({ hndl with llqCountSem }, buffer, 0)

/-! ## One thread alone -/

section Thread

variable {τ : Type} [DecidableEq τ]

/-- The handle of the queue that threads work on. -/
def LlqWorld.hndl (w : LlqWorld τ) : LlqHandle := ⟨w.llq, w.llqAccessSem, w.llqCountSem⟩

/-- What `llq_add` does when it returns. -/
theorem llqAdd_eq_some {hndl hndl' : LlqHandle} {a : ℕ} {e : Entry} {prio : ℤ}
    (h : llqAdd hndl a e prio = some hndl') :
    0 < hndl.llqAccessSem ∧ ∃ llq, link hndl.llq a e prio = some llq ∧
      hndl' = ⟨llq, hndl.llqAccessSem, hndl.llqCountSem + 1⟩ := by
  simp only [llqAdd, semWait] at h
  by_cases haccess : 0 < hndl.llqAccessSem
  · obtain ⟨llq, hlink, hret⟩ := Option.bind_eq_some_iff.mp (by simpa [haccess] using h)
    refine ⟨haccess, llq, hlink, ?_⟩
    rw [Nat.sub_add_cancel haccess] at hret
    simpa using hret.symm
  · simp [haccess] at h

/-- What `llq_receive` does when it returns with a message. -/
theorem llqReceive_eq_some {hndl hndl' : LlqHandle} {buffer buffer' : Mem} {rLength : ℕ}
    (hhead : hndl.llq.head.isSome) (h : llqReceive hndl buffer = some (hndl', buffer', rLength)) :
    0 < hndl.llqCountSem ∧ 0 < hndl.llqAccessSem ∧
      ∃ e llq, unlinkHead hndl.llq = some (e, llq) ∧
        hndl' = ⟨llq, hndl.llqAccessSem, hndl.llqCountSem - 1⟩ ∧
        buffer' = buffer.blit 0 e.data ∧ rLength = e.data.length := by
  simp only [llqReceive, semWait, hhead, if_true] at h
  by_cases hcount : 0 < hndl.llqCountSem
  · by_cases haccess : 0 < hndl.llqAccessSem
    · obtain ⟨⟨e, llq⟩, hunlink, hret⟩ :=
        Option.bind_eq_some_iff.mp (by simpa [hcount, haccess] using h)
      rw [Nat.sub_add_cancel haccess] at hret
      simp only [Option.some.injEq, Prod.mk.injEq] at hret
      obtain ⟨rfl, rfl, rfl⟩ := hret
      exact ⟨hcount, haccess, e, llq, hunlink, rfl, rfl, rfl⟩
    · simp [hcount, haccess] at h
  · simp [hcount] at h

/-- **A thread that takes the steps of `llq_add` alone** does what the function does. -/
theorem exec_llqAdd {w : LlqWorld τ} {t : τ} {data : List UInt8} {prio : ℤ} {a : ℕ}
    {hndl : LlqHandle} (hpc : (w.pc t).returned = true) (ha : w.llq.heap a = none)
    (h : llqAdd w.hndl a (w.entry data) prio = some hndl) :
    ∃ w', exec llqStep w [.add t data prio, .run t, .link t a, .run t, .run t] = some w' ∧
      w'.hndl = hndl := by
  obtain ⟨haccess, llq, hlink, rfl⟩ := llqAdd_eq_some h
  have hpos : 0 < w.llqAccessSem := haccess
  have hlink' : link w.llq a ⟨w.added.length, data⟩ prio = some llq := hlink
  refine ⟨_, by
    simp [exec, llqStep, runLlqThread, linkThread, hpc, hpos, ha, hlink', LlqWorld.entry,
      LlqWorld.goto, Option.bind]
    rfl, ?_⟩
  simp [LlqWorld.hndl]
  omega

/-- **A thread that takes the steps of `llq_receive` alone** does what the function does. -/
theorem exec_llqReceive {w : LlqWorld τ} {t : τ} {buffer buffer' : Mem} {rLength : ℕ}
    {hndl : LlqHandle} (hpc : (w.pc t).returned = true) (hhead : w.llq.head.isSome)
    (h : llqReceive w.hndl buffer = some (hndl, buffer', rLength)) :
    ∃ w' e, exec llqStep w (.receive t false :: List.replicate 5 (.run t)) = some w' ∧
      w'.hndl = hndl ∧ w'.pc t = .received (.message e) ∧ buffer' = buffer.blit 0 e.data ∧
      rLength = e.data.length := by
  obtain ⟨hcount, haccess, e, llq, hunlink, rfl, rfl, rfl⟩ := llqReceive_eq_some hhead h
  have hcpos : 0 < w.llqCountSem := hcount
  have hapos : 0 < w.llqAccessSem := haccess
  have hunlink' : unlinkHead w.llq = some (e, llq) := hunlink
  have hnone : w.llq.head ≠ none := Option.isSome_iff_ne_none.mp hhead
  refine ⟨_, e, by
    simp [exec, llqStep, runLlqThread, hpc, hcpos, hapos, hunlink', hnone, LlqWorld.goto,
      Option.bind, List.replicate]
    rfl, ?_⟩
  simp [LlqWorld.hndl]
  omega

end Thread

/-! ## Sequences of calls -/

/-- A call of one of the functions. -/
inductive LlqCall
  /-- `llq_add` of the first `len` bytes of a buffer; `malloc` returns the address `a`. -/
  | add (buffer : Mem) (len : ℕ) (prio : ℤ) (a : ℕ)
  /-- `llq_receive` into a buffer. -/
  | receive (buffer : Mem)

/-- The handle, the number of messages added to it, and what the calls of `llq_receive` left
in their buffers and returned. -/
structure LlqUse where
  hndl : LlqHandle
  added : ℕ
  outs : List (Mem × ℕ)

/-- The state after `llq_open`. -/
def LlqUse.opened (temp : Option ℕ) : LlqUse := ⟨llqOpen temp, 0, []⟩

/-- A call that returns.  `malloc` does not return an address that is in use. -/
def llqCall (u : LlqUse) : LlqCall → Option LlqUse
  | .add buffer len prio a =>
    if (u.hndl.llq.heap a).isNone then
      (llqAdd u.hndl a ⟨u.added, buffer.take len⟩ prio).map fun hndl =>
        { u with hndl, added := u.added + 1 }
    else none
  | .receive buffer =>
    (llqReceive u.hndl buffer).map fun r => { u with hndl := r.1, outs := u.outs ++ [r.2] }

/-! ## The list -/

/-- A message with its priority. -/
structure Message where
  prio : ℤ
  data : List UInt8
  deriving DecidableEq

/-- The message goes to the front. -/
def Message.urgent (m : Message) : Bool := m.prio = 1

/-- The messages queued, those added and received so far, and the results. -/
structure Deque where
  queue : List Message
  added : List Message
  received : List Message
  outs : List (Mem × ℕ)

/-- No messages. -/
def Deque.empty : Deque := ⟨[], [], [], []⟩

/-- What a call is for. -/
def dequeCall (d : Deque) : LlqCall → Option Deque
  | .add buffer len prio _ =>
    let m : Message := ⟨prio, buffer.take len⟩
    some { d with queue := enqueue Message.urgent d.queue m, added := d.added ++ [m] }
  | .receive buffer =>
    match d.queue with
    | [] => none
    | m :: queue => some { d with
        queue
        received := d.received ++ [m]
        outs := d.outs ++ [(buffer.blit 0 m.data, m.data.length)] }

/-- The order in which messages are received: of those that are not urgent the received ones
are the ones added first, and urgent ones stand in front. -/
structure Deque.Ordered (d : Deque) : Prop where
  fifo : d.received.filter (!·.urgent) ++ d.queue.filter (!·.urgent) =
    d.added.filter (!·.urgent)
  urgentFirst : UrgentFirst Message.urgent d.queue

theorem Deque.ordered_empty : Deque.empty.Ordered := ⟨rfl, .nil⟩

theorem Deque.Ordered.call {d d' : Deque} {c : LlqCall} (h : d.Ordered)
    (hc : dequeCall d c = some d') : d'.Ordered := by
  cases c with
  | add buffer len prio a =>
    cases hc
    constructor
    · rw [filter_enqueue, ← List.append_assoc, h.fifo, List.filter_append]
    · exact h.urgentFirst.enqueue
  | receive buffer =>
    have hfifo := h.fifo
    have hurgent := h.urgentFirst
    cases hqueue : d.queue with
    | nil =>
      simp only [dequeCall, hqueue] at hc
      cases hc
    | cons m queue =>
      simp only [dequeCall, hqueue, Option.some.injEq] at hc
      subst hc
      rw [hqueue] at hfifo hurgent
      constructor
      · rw [← hfifo, List.filter_append, List.append_assoc, ← List.filter_append]
        rfl
      · exact hurgent.tail

/-! ## The refinement -/

/-- The handle holds the list: following the pointers from the head one meets nodes with its
messages and ends at the tail, and `llqCountSem` counts them. -/
structure LlqUse.Refines (u : LlqUse) (d : Deque) : Prop where
  chain : ∃ l, u.hndl.llq.Represents l ∧
    l.map (fun x => (x.2.data, x.2.data.length)) = d.queue.map fun m => (m.data, m.data.length)
  llqAccessSem : u.hndl.llqAccessSem = 1
  llqCountSem : u.hndl.llqCountSem = d.queue.length
  outs : u.outs = d.outs

namespace LlqUse.Refines

variable {u u' : LlqUse} {d : Deque}

theorem opened (temp : Option ℕ) : (LlqUse.opened temp).Refines .empty where
  chain := ⟨[], .opened temp, rfl⟩
  llqAccessSem := rfl
  llqCountSem := rfl
  outs := rfl

/-- `llq_add` returns, and puts the message where the list has it. -/
theorem add (h : u.Refines d) (buffer : Mem) (len : ℕ) (prio : ℤ) {a : ℕ}
    (ha : u.hndl.llq.heap a = none) :
    ∃ u' d', llqCall u (.add buffer len prio a) = some u' ∧
      dequeCall d (.add buffer len prio a) = some d' ∧ u'.Refines d' := by
  obtain ⟨l, hrep, hdata⟩ := h.chain
  let e : Entry := ⟨u.added, buffer.take len⟩
  have hlink : ∃ llq l', link u.hndl.llq a e prio = some llq ∧ llq.Represents l' ∧
      l'.map (fun x => (x.2.data, x.2.data.length)) =
        (enqueue Message.urgent d.queue ⟨prio, buffer.take len⟩).map
          fun m => (m.data, m.data.length) := by
    by_cases hprio : prio = 1
    · refine ⟨_, (a, e) :: l, by rw [link, if_pos hprio], hrep.addToHead ha e, ?_⟩
      simp [enqueue, Message.urgent, hprio, hdata, e]
    · obtain ⟨llq, hadd, hrep'⟩ := hrep.addToTail ha e
      refine ⟨llq, l ++ [(a, e)], by rw [link, if_neg hprio, hadd], hrep', ?_⟩
      simp [enqueue, Message.urgent, hprio, hdata, e]
  obtain ⟨llq, l', hadd, hrep', hdata'⟩ := hlink
  have hcall : llqCall u (.add buffer len prio a) = some
      ⟨⟨llq, 1, u.hndl.llqCountSem + 1⟩, u.added + 1, u.outs⟩ := by
    simp [llqCall, llqAdd, semWait, ha, h.llqAccessSem, hadd, e]
  refine ⟨_, _, hcall, rfl, ⟨l', hrep', hdata'⟩, rfl, ?_, h.outs⟩
  rw [h.llqCountSem, length_enqueue]

/-- `llq_receive` returns when there is a message, with the first one. -/
theorem receive (h : u.Refines d) (buffer : Mem) (hne : d.queue ≠ []) :
    ∃ u' d', llqCall u (.receive buffer) = some u' ∧
      dequeCall d (.receive buffer) = some d' ∧ u'.Refines d' := by
  obtain ⟨l, hrep, hdata⟩ := h.chain
  obtain ⟨m, queue, hqueue⟩ := List.exists_cons_of_ne_nil hne
  have hcount := h.llqCountSem
  rw [hqueue] at hdata hcount
  cases l with
  | nil => cases hdata
  | cons x l =>
    obtain ⟨hx, hrest⟩ := List.cons.inj hdata
    obtain ⟨llq, hunlink, hrep'⟩ := hrep.unlinkHead
    have hbytes : x.2.data = m.data := (Prod.mk.inj hx).1
    have hhead : u.hndl.llq.head.isSome := by
      rw [Option.isSome_iff_ne_none]
      intro hnone
      cases hrep.head_eq_none_iff.mp hnone
    have hcall : llqCall u (.receive buffer) = some ⟨⟨llq, 1, queue.length⟩, u.added,
        u.outs ++ [(buffer.blit 0 m.data, m.data.length)]⟩ := by
      simp [llqCall, llqReceive, semWait, hcount, h.llqAccessSem, hhead, hunlink, hbytes]
    have hdeque : dequeCall d (.receive buffer) = some ⟨queue, d.added, d.received ++ [m],
        d.outs ++ [(buffer.blit 0 m.data, m.data.length)]⟩ := by
      simp only [dequeCall, hqueue]
    exact ⟨_, _, hcall, hdeque, ⟨l, hrep', hrest⟩, rfl, rfl, by rw [h.outs]⟩

/-- It waits while there is none. -/
theorem receive_eq_none (h : u.Refines d) (buffer : Mem) (hnil : d.queue = []) :
    llqCall u (.receive buffer) = none := by
  simp [llqCall, llqReceive, semWait, h.llqCountSem, hnil]

/-- One call: what the functions do, the list follows. -/
theorem call {c : LlqCall} (h : u.Refines d) (hc : llqCall u c = some u') :
    ∃ d', dequeCall d c = some d' ∧ u'.Refines d' := by
  cases c with
  | add buffer len prio a =>
    cases ha : u.hndl.llq.heap a with
    | none =>
      obtain ⟨u₁, d', hu₁, hd', hrefines⟩ := h.add buffer len prio ha
      rw [hc, Option.some.injEq] at hu₁
      exact ⟨d', hd', hu₁ ▸ hrefines⟩
    | some n =>
      simp [llqCall, ha] at hc
  | receive buffer =>
    by_cases hnil : d.queue = []
    · rw [h.receive_eq_none buffer hnil] at hc
      cases hc
    · obtain ⟨u₁, d', hu₁, hd', hrefines⟩ := h.receive buffer hnil
      rw [hc, Option.some.injEq] at hu₁
      exact ⟨d', hd', hu₁ ▸ hrefines⟩

theorem head_iff_tail (h : u.Refines d) :
    u.hndl.llq.head = none ↔ u.hndl.llq.tail = none := by
  obtain ⟨l, hrep, -⟩ := h.chain
  rw [hrep.head_eq_none_iff, hrep.tail_eq_none_iff]

/-- The last node has no successor. -/
theorem tail_ptr (h : u.Refines d) {t : ℕ} (ht : u.hndl.llq.tail = some t) :
    ∃ e, u.hndl.llq.heap t = some ⟨e, none⟩ := by
  obtain ⟨l, hrep, -⟩ := h.chain
  rw [hrep.tail, Option.map_eq_some_iff] at ht
  obtain ⟨⟨t', e⟩, hlast, rfl⟩ := ht
  obtain ⟨l₀, rfl⟩ := List.getLast?_eq_some_iff.mp hlast
  exact ⟨e, hrep.seg.of_snoc.2⟩

end LlqUse.Refines

/-- **The linked queue refines a double-ended list.**  After any sequence of calls that
returned, from `llq_open` on, the handle holds the list that the same calls make of an empty
one and the results are those of the list.  No message of another priority is received
before one of priority 1 that is queued, and these others are received in the order in which
they were added.  A call of `llq_add` returns, and one of `llq_receive` if there is a
message. -/
theorem llq_refines_deque (temp : Option ℕ) (calls : List LlqCall) (u : LlqUse)
    (h : exec llqCall (.opened temp) calls = some u) :
    ∃ d, exec dequeCall .empty calls = some d ∧ u.Refines d ∧
      (u.hndl.llq.head = none ↔ u.hndl.llq.tail = none) ∧
      (∀ t, u.hndl.llq.tail = some t → ∃ e, u.hndl.llq.heap t = some ⟨e, none⟩) ∧
      d.received.filter (!·.urgent) ++ d.queue.filter (!·.urgent) =
        d.added.filter (!·.urgent) ∧
      (∀ m queue, d.queue = m :: queue → m.prio ≠ 1 → ∀ m' ∈ queue, m'.prio ≠ 1) ∧
      (∀ buffer len prio a, u.hndl.llq.heap a = none →
        (llqCall u (.add buffer len prio a)).isSome) ∧
      (∀ buffer, (llqCall u (.receive buffer)).isSome ↔ d.queue ≠ []) := by
  have hstep : ∀ u d c u', u.Refines d ∧ d.Ordered → llqCall u c = some u' →
      ∃ d', dequeCall d c = some d' ∧ u'.Refines d' ∧ d'.Ordered := by
    rintro u d c u' ⟨hrefines, hordered⟩ hc
    obtain ⟨d', hd', hrefines'⟩ := hrefines.call hc
    exact ⟨d', hd', hrefines', hordered.call hd'⟩
  obtain ⟨d, hd, hrefines, hordered⟩ :=
    exec_simulates hstep ⟨.opened temp, Deque.ordered_empty⟩ h
  refine ⟨d, hd, hrefines, hrefines.head_iff_tail, fun t => hrefines.tail_ptr, hordered.fifo,
    ?_, ?_, ?_⟩
  · intro m queue hqueue hm m' hm'
    have hurgent := hordered.urgentFirst
    rw [hqueue] at hurgent
    have hnot := hurgent.not_urgent (by simp [Message.urgent, hm]) m' hm'
    simpa [Message.urgent] using hnot
  · intro buffer len prio a ha
    obtain ⟨u', -, hu', -, -⟩ := hrefines.add buffer len prio ha
    rw [hu']
    rfl
  · intro buffer
    by_cases hnil : d.queue = []
    · rw [hrefines.receive_eq_none buffer hnil]
      simp [hnil]
    · obtain ⟨u', -, hu', -, -⟩ := hrefines.receive buffer hnil
      rw [hu']
      simp [hnil]

/-- Two messages, the second one urgent, and one call of `llq_receive`. -/
def urgentSecond : List LlqCall :=
  [.add (fun _ => 0x11) 3 0 100, .add (fun _ => 0x22) 1 1 200, .receive fun _ => 0]

/-- The urgent message is received and the other one stays. -/
theorem llq_refines_deque_urgentSecond :
    ∃ u d, exec llqCall (.opened none) urgentSecond = some u ∧ u.Refines d ∧
      d.queue = [⟨0, [0x11, 0x11, 0x11]⟩] ∧ u.outs.map Prod.snd = [1] := by
  have hrun : (exec llqCall (.opened none) urgentSecond).isSome := by decide
  obtain ⟨u, hu⟩ := Option.isSome_iff_exists.mp hrun
  obtain ⟨d, hd, hrefines, -⟩ := llq_refines_deque none urgentSecond u hu
  have hdeque : exec dequeCall .empty urgentSecond = some ⟨[⟨0, [0x11, 0x11, 0x11]⟩],
      [⟨0, [0x11, 0x11, 0x11]⟩, ⟨1, [0x22]⟩], [⟨1, [0x22]⟩],
      [(Mem.blit (fun _ => 0) 0 [0x22], 1)]⟩ := rfl
  rw [hdeque, Option.some.injEq] at hd
  subst hd
  exact ⟨u, _, hu, hrefines, rfl, by rw [hrefines.outs]; rfl⟩

end ZnpHost.Rpc
