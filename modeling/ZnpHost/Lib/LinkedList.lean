import Mathlib.Data.List.Nodup
import Mathlib.Data.Nat.Notation
import Mathlib.Logic.Function.Basic

/-!
# Singly linked lists in a heap

A heap maps an address to the node allocated there.  A segment is a path that follows the
pointers of the nodes; a list that ends with the null pointer is a segment to `none`.

## Main definitions

* `Node`, `Heap` — what is allocated, by address.
* `Seg h p l q` — the nodes `l`, with their addresses, lead from the pointer `p` to `q`.
* `Seg.congr`, `Seg.append`, `Seg.snoc` — what changes to the heap and to the ends do to it.
-/

namespace ZnpHost.Lib

variable {α : Type}

/-- A node; `none` is the null pointer. -/
structure Node (α : Type) where
  data : α
  ptr : Option ℕ

/-- The allocated nodes. -/
abbrev Heap (α : Type) := ℕ → Option (Node α)

namespace Heap

/-- Store a node. -/
def put (h : Heap α) (a : ℕ) (n : Node α) : Heap α := Function.update h a (some n)

/-- Release a node. -/
def free (h : Heap α) (a : ℕ) : Heap α := Function.update h a none

@[simp] theorem put_same (h : Heap α) (a : ℕ) (n : Node α) : h.put a n a = some n := by
  simp [put]

@[simp] theorem free_same (h : Heap α) (a : ℕ) : h.free a a = none := by simp [free]

theorem put_ne (h : Heap α) {a b : ℕ} (n : Node α) (hne : b ≠ a) : h.put a n b = h b := by
  simp [put, hne]

theorem free_ne (h : Heap α) {a b : ℕ} (hne : b ≠ a) : h.free a b = h b := by
  simp [free, hne]

end Heap

/-- Following the pointers from `p` one meets the nodes of the list, address and data, and
then the pointer `q`. -/
inductive Seg (h : Heap α) : Option ℕ → List (ℕ × α) → Option ℕ → Prop
  | nil (p : Option ℕ) : Seg h p [] p
  | cons {a : ℕ} {d : α} {p q : Option ℕ} {l : List (ℕ × α)} :
      h a = some ⟨d, p⟩ → Seg h p l q → Seg h (some a) ((a, d) :: l) q

namespace Seg

variable {h h' : Heap α} {p q r : Option ℕ} {l l' : List (ℕ × α)} {a : ℕ} {d : α}

/-- A segment depends on the nodes at its addresses only. -/
theorem congr (hs : Seg h p l q) (heq : ∀ b ∈ l.map Prod.fst, h' b = h b) : Seg h' p l q := by
  induction hs with
  | nil p => exact nil p
  | cons hnode hrest ih =>
    rw [List.map_cons] at heq
    refine cons ?_ (ih fun b hb => heq b (List.mem_cons_of_mem _ hb))
    rw [heq _ List.mem_cons_self]
    exact hnode

theorem append (hs : Seg h p l q) (hs' : Seg h q l' r) : Seg h p (l ++ l') r := by
  induction hs with
  | nil p => exact hs'
  | cons hnode _ ih => exact cons hnode (ih hs')

/-- A longer segment ends with one more node. -/
theorem snoc (hs : Seg h p l (some a)) (hnode : h a = some ⟨d, q⟩) :
    Seg h p (l ++ [(a, d)]) q :=
  hs.append (cons hnode (nil q))

/-- The last node of a segment. -/
theorem of_snoc (hs : Seg h p (l ++ [(a, d)]) q) : Seg h p l (some a) ∧ h a = some ⟨d, q⟩ := by
  induction l generalizing p with
  | nil =>
    cases hs with
    | cons hnode hrest =>
      cases hrest
      exact ⟨nil _, hnode⟩
  | cons e l ih =>
    cases hs with
    | cons hnode hrest =>
      obtain ⟨hs, hlast⟩ := ih hrest
      exact ⟨cons hnode hs, hlast⟩

/-- A segment of no nodes. -/
theorem eq_nil (hs : Seg h none l none) : l = [] := by
  cases hs
  rfl

theorem ne_nil (hs : Seg h (some a) l none) : l ≠ [] := by
  rintro rfl
  cases hs

/-- The nodes of a segment are allocated. -/
theorem isSome (hs : Seg h p l q) {b : ℕ} (hb : b ∈ l.map Prod.fst) : (h b).isSome := by
  induction hs with
  | nil => cases hb
  | cons hnode _ ih =>
    rw [List.map_cons, List.mem_cons] at hb
    rcases hb with rfl | hb
    · simp [hnode]
    · exact ih hb

end Seg

end ZnpHost.Lib
