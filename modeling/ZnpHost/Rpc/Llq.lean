import Mathlib.Data.Int.Notation
import ZnpHost.Lib.LinkedList

/-!
# The message queue

The handle `llq_t` and the list operations of `queue.c` on a heap of nodes.  An operation
has no result when it would dereference the null pointer or a node that is not allocated.
The address `malloc` returns is an argument.

## Main definitions

* `Entry`, `Llq` — a message in a node, and the queue handle.
* `addToHead`, `addToTail`, `unlinkHead` — the locked parts of `llq_add` and
  `llq_timedreceive`.
* `Llq.Represents` — the handle and its heap hold a list of messages.
* `Represents.addToHead`, `Represents.addToTail`, `Represents.unlinkHead` — the operations
  on the list.
-/

namespace ZnpHost.Rpc

open Lib

/-- A message in a node.  The serial number tells apart messages with the same bytes; no
operation reads it. -/
structure Entry where
  serial : ℕ
  data : List UInt8
  deriving DecidableEq

/-- The handle `llq_t` without its semaphores, and the nodes it allocated. -/
structure Llq where
  head : Option ℕ
  tail : Option ℕ
  temp : Option ℕ
  heap : Heap Entry

/-- `addToHead`; `a` is the address of the new node. -/
def addToHead (hndl : Llq) (a : ℕ) (e : Entry) : Llq :=
  match hndl.head with
  | none => { hndl with head := some a, tail := some a, heap := hndl.heap.put a ⟨e, none⟩ }
  | some h => { hndl with head := some a, temp := some a, heap := hndl.heap.put a ⟨e, some h⟩ }

/-- `addToTail`; `a` is the address of the new node. -/
def addToTail (hndl : Llq) (a : ℕ) (e : Entry) : Option Llq :=
  match hndl.tail with
  | none =>
    some { hndl with head := some a, tail := some a, heap := hndl.heap.put a ⟨e, none⟩ }
  | some t => do
    -- `hndl->tail->ptr = hndl->temp`
    let n ← hndl.heap t
    some { hndl with
      tail := some a
      temp := some a
      heap := (hndl.heap.put t { n with ptr := some a }).put a ⟨e, none⟩ }

/-- The locked part of `llq_add`. -/
def link (hndl : Llq) (a : ℕ) (e : Entry) (prio : ℤ) : Option Llq :=
  if prio = 1 then some (addToHead hndl a e) else addToTail hndl a e

/-- The locked part of `llq_timedreceive`: copy the head and unlink it. -/
def unlinkHead (hndl : Llq) : Option (Entry × Llq) := do
  let h ← hndl.head
  let n ← hndl.heap h
  let hndl := { hndl with temp := n.ptr, heap := hndl.heap.free h }
  match n.ptr with
  -- free current head element and point head to next
  | some t => some (n.data, { hndl with head := some t })
  -- no elements left in queue
  | none => some (n.data, { hndl with head := none, tail := none })

namespace Llq

/-- The handle after `llq_open`. -/
def opened (temp : Option ℕ) : Llq := ⟨none, none, temp, fun _ => none⟩

/-- The nodes from `head` to the null pointer are the list, `tail` is the last of them, and
no other node is allocated. -/
structure Represents (hndl : Llq) (l : List (ℕ × Entry)) : Prop where
  seg : Seg hndl.heap hndl.head l none
  tail : hndl.tail = (l.getLast?).map Prod.fst
  nodup : (l.map Prod.fst).Nodup
  linked : ∀ a, (hndl.heap a).isSome → a ∈ l.map Prod.fst

namespace Represents

variable {hndl : Llq} {l : List (ℕ × Entry)} {a : ℕ} {e : Entry}

theorem opened (temp : Option ℕ) : Represents (opened temp) [] where
  seg := .nil none
  tail := rfl
  nodup := List.nodup_nil
  linked a ha := by simp [Llq.opened] at ha

theorem head_eq_none_iff (h : hndl.Represents l) : hndl.head = none ↔ l = [] := by
  constructor
  · intro hnone
    have hseg := h.seg
    rw [hnone] at hseg
    exact hseg.eq_nil
  · rintro rfl
    have hseg := h.seg
    generalize hndl.head = p at hseg
    cases hseg
    rfl

theorem tail_eq_none_iff (h : hndl.Represents l) : hndl.tail = none ↔ l = [] := by
  rw [h.tail]
  simp

/-- A free address is not one of the list. -/
theorem fresh (h : hndl.Represents l) (ha : hndl.heap a = none) : a ∉ l.map Prod.fst := by
  intro hmem
  have hsome := h.seg.isSome hmem
  rw [ha] at hsome
  cases hsome

/-- What is allocated after a new node was stored. -/
theorem linked_put (h : hndl.Represents l) {n : Node Entry} {l' : List (ℕ × Entry)}
    (hsub : ∀ b, b = a ∨ b ∈ l.map Prod.fst → b ∈ l'.map Prod.fst) :
    ∀ b, (hndl.heap.put a n b).isSome → b ∈ l'.map Prod.fst := by
  intro b hb
  by_cases hba : b = a
  · exact hsub b (.inl hba)
  · rw [Heap.put_ne _ _ hba] at hb
    exact hsub b (.inr (h.linked b hb))

/-- **`addToHead`** puts the message in front. -/
theorem addToHead (h : hndl.Represents l) (ha : hndl.heap a = none) (e : Entry) :
    (addToHead hndl a e).Represents ((a, e) :: l) := by
  have hfresh := h.fresh ha
  have hrest : ∀ n : Node Entry, Seg (hndl.heap.put a n) hndl.head l none := fun n =>
    h.seg.congr fun b hb => Heap.put_ne _ _ fun hba => hfresh (hba ▸ hb)
  have hnodup : (((a, e) :: l).map Prod.fst).Nodup := List.nodup_cons.mpr ⟨hfresh, h.nodup⟩
  have hsub : ∀ b, b = a ∨ b ∈ l.map Prod.fst → b ∈ ((a, e) :: l).map Prod.fst :=
    fun b hb => List.mem_cons.mpr hb
  cases hhead : hndl.head with
  | none =>
    have hnil := h.head_eq_none_iff.mp hhead
    subst hnil
    simp only [Rpc.addToHead, hhead]
    exact ⟨.cons (Heap.put_same _ _ _) (.nil none), rfl, hnodup, h.linked_put hsub⟩
  | some p =>
    have hne : l ≠ [] := fun hnil => by
      rw [h.head_eq_none_iff.mpr hnil] at hhead
      cases hhead
    simp only [Rpc.addToHead, hhead]
    constructor
    · exact .cons (Heap.put_same _ _ _) (hhead ▸ hrest _)
    · rw [List.getLast?_cons_of_ne_nil hne]
      exact h.tail
    · exact hnodup
    · exact h.linked_put hsub

/-- **`addToTail`** puts the message behind the last one. -/
theorem addToTail (h : hndl.Represents l) (ha : hndl.heap a = none) (e : Entry) :
    ∃ hndl', addToTail hndl a e = some hndl' ∧ hndl'.Represents (l ++ [(a, e)]) := by
  have hfresh := h.fresh ha
  cases htail : hndl.tail with
  | none =>
    have hnil := h.tail_eq_none_iff.mp htail
    subst hnil
    have hlink : Rpc.addToTail hndl a e =
        some ⟨some a, some a, hndl.temp, hndl.heap.put a ⟨e, none⟩⟩ := by
      simp only [Rpc.addToTail, htail]
    refine ⟨_, hlink, ?_⟩
    constructor
    · exact .cons (Heap.put_same _ _ _) (.nil none)
    · rfl
    · exact List.nodup_singleton a
    · exact h.linked_put fun b hb => by simpa using hb
  | some t =>
    obtain ⟨⟨t', d⟩, hlast, rfl⟩ : ∃ x, l.getLast? = some x ∧ x.1 = t := by
      rw [h.tail, Option.map_eq_some_iff] at htail
      exact htail
    obtain ⟨l₀, rfl⟩ := List.getLast?_eq_some_iff.mp hlast
    obtain ⟨hseg, hnode⟩ := h.seg.of_snoc
    have hnodup := h.nodup
    rw [List.map_append, List.nodup_append] at hnodup
    have hne : t' ≠ a := fun heq => hfresh (by simp [heq])
    have hlink : Rpc.addToTail hndl a e = some
        ⟨hndl.head, some a, some a, (hndl.heap.put t' ⟨d, some a⟩).put a ⟨e, none⟩⟩ := by
      simp [Rpc.addToTail, htail, hnode]
    have hold : ∀ b, b ≠ a → b ≠ t' →
        (hndl.heap.put t' ⟨d, some a⟩).put a ⟨e, none⟩ b = hndl.heap b := by
      intro b hba hbt
      rw [Heap.put_ne _ _ hba, Heap.put_ne _ _ hbt]
    have hjoin : (hndl.heap.put t' ⟨d, some a⟩).put a ⟨e, none⟩ t' = some ⟨d, some a⟩ := by
      rw [Heap.put_ne _ _ hne, Heap.put_same]
    refine ⟨_, hlink, ?_⟩
    constructor
    · refine Seg.snoc (Seg.snoc (hseg.congr fun b hb => hold b ?_ ?_) hjoin) (Heap.put_same _ _ _)
      · rintro rfl
        exact hfresh (by rw [List.map_append]; exact List.mem_append_left _ hb)
      · exact hnodup.2.2 b hb t' (by simp)
    · simp
    · rw [List.map_append, List.nodup_append]
      refine ⟨h.nodup, List.nodup_singleton a, ?_⟩
      intro b hb c hc hbc
      rw [List.map_singleton, List.mem_singleton] at hc
      rw [hbc, hc] at hb
      exact hfresh hb
    · intro b hb
      rw [List.map_append, List.mem_append]
      by_cases hba : b = a
      · exact .inr (by simp [hba])
      · by_cases hbt : b = t'
        · exact .inl (by simp [hbt])
        · exact .inl (h.linked b (by rwa [← hold b hba hbt]))

/-- **`unlinkHead`** takes the first message, which must exist. -/
theorem unlinkHead (h : hndl.Represents ((a, e) :: l)) :
    ∃ hndl', unlinkHead hndl = some (e, hndl') ∧ hndl'.Represents l := by
  obtain ⟨hnotin, hnodup⟩ := List.nodup_cons.mp h.nodup
  obtain ⟨p, hhead, hnode, hrest⟩ :
      ∃ p, hndl.head = some a ∧ hndl.heap a = some ⟨e, p⟩ ∧ Seg hndl.heap p l none := by
    have hseg := h.seg
    generalize hndl.head = q at hseg
    cases hseg with
    | cons hnode hrest => exact ⟨_, rfl, hnode, hrest⟩
  have hfree : Seg (hndl.heap.free a) p l none :=
    hrest.congr fun b hb => Heap.free_ne _ fun hba => hnotin (hba ▸ hb)
  have hlinked : ∀ b, (hndl.heap.free a b).isSome → b ∈ l.map Prod.fst := by
    intro b hb
    by_cases hba : b = a
    · rw [hba, Heap.free_same] at hb
      cases hb
    · rw [Heap.free_ne _ hba] at hb
      rcases List.mem_cons.mp (h.linked b hb) with heq | hmem
      · exact absurd heq hba
      · exact hmem
  cases p with
  | none =>
    have hnil := hrest.eq_nil
    subst hnil
    refine ⟨⟨none, none, none, hndl.heap.free a⟩, by simp [Rpc.unlinkHead, hhead, hnode], ?_⟩
    exact ⟨hfree, rfl, hnodup, hlinked⟩
  | some t =>
    refine ⟨⟨some t, hndl.tail, some t, hndl.heap.free a⟩,
      by simp [Rpc.unlinkHead, hhead, hnode], ?_⟩
    refine ⟨hfree, ?_, hnodup, hlinked⟩
    rw [h.tail, List.getLast?_cons_of_ne_nil hrest.ne_nil]

/-- The locked part of `llq_add` never fails and adds one message. -/
theorem link (h : hndl.Represents l) (ha : hndl.heap a = none) (e : Entry) (prio : ℤ) :
    ∃ hndl' l', link hndl a e prio = some hndl' ∧ hndl'.Represents l' ∧
      l'.Perm ((a, e) :: l) := by
  by_cases hprio : prio = 1
  · exact ⟨_, _, by rw [Rpc.link, if_pos hprio], h.addToHead ha e, .refl _⟩
  · obtain ⟨hndl', hadd, hrep⟩ := h.addToTail ha e
    refine ⟨hndl', _, by rw [Rpc.link, if_neg hprio, hadd], hrep, ?_⟩
    exact List.perm_append_singleton _ _

end Represents

end Llq

end ZnpHost.Rpc
