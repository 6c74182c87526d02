import Mathlib.Data.List.Nodup
import Mathlib.Data.List.Pairwise
import Mathlib.Logic.Relation

/-!
# Traversals that keep no record of what they visited

A traversal asks the root, and when a node answers it asks every child of the node.  Nothing
stops it from asking a node again.  It asks each node once if and only if the part of the
graph that it reaches is a tree.

## Main definitions

* `Reached` — the nodes that can be asked.
* `askedBy` — the nodes asked by the time the given nodes have answered.
* `UniqueParent` — every node reached is listed in one place, the root nowhere.
* `UniqueParent.nodup_askedBy`, `uniqueParent_of_nodup` — how the two are related.
-/

namespace ZnpHost.Lib

variable {α : Type*} (children : α → List α) (root : α)

/-- A path of children leads from the root to the node. -/
def Reached : α → Prop := Relation.ReflTransGen (fun a b => b ∈ children a) root

/-- The root, and the children of the nodes that have answered. -/
def askedBy (answered : List α) : List α := root :: answered.flatMap children

/-- The part of the graph that is reached is a tree. -/
structure UniqueParent : Prop where
  root_notMem : ∀ a, Reached children root a → root ∉ children a
  nodup : ∀ a, Reached children root a → (children a).Nodup
  disjoint : ∀ a b, Reached children root a → Reached children root b → a ≠ b →
    (children a).Disjoint (children b)

variable {children root} {answered : List α} {a : α}

/-- One answer more. -/
theorem askedBy_concat :
    askedBy children root (answered ++ [a]) = askedBy children root answered ++ children a := by
  simp [askedBy]

/-- The traversal of a part of the nodes that the root belongs to. -/
theorem filter_askedBy {p : α → Bool} (h : p root = true) :
    (askedBy children root answered).filter p =
      askedBy (fun b => (children b).filter p) root answered := by
  rw [askedBy, List.filter_cons_of_pos h, List.filter_flatMap, askedBy]

/-- A bound on the children bounds what is asked. -/
theorem length_askedBy_le {n : ℕ} (h : ∀ b ∈ answered, (children b).length ≤ n) :
    (askedBy children root answered).length ≤ 1 + n * answered.length := by
  induction answered with
  | nil => simp [askedBy]
  | cons b answered ih =>
    have hb := h b List.mem_cons_self
    have hrest := ih fun c hc => h c (List.mem_cons_of_mem b hc)
    simp only [askedBy, List.length_cons, List.flatMap_cons, List.length_append] at hrest ⊢
    rw [Nat.mul_succ]
    omega

/-- What is asked is reached, if what has answered is. -/
theorem reached_of_mem_askedBy (h : ∀ b ∈ answered, Reached children root b)
    (ha : a ∈ askedBy children root answered) : Reached children root a := by
  rcases List.mem_cons.mp ha with rfl | ha
  · exact .refl
  · obtain ⟨b, hb, hchild⟩ := List.mem_flatMap.mp ha
    exact (h b hb).tail hchild

/-- **In a tree no node is asked twice.** -/
theorem UniqueParent.nodup_askedBy (h : UniqueParent children root) (hnodup : answered.Nodup)
    (hreached : ∀ b ∈ answered, Reached children root b) :
    (askedBy children root answered).Nodup := by
  rw [askedBy, List.nodup_cons, List.nodup_flatMap]
  refine ⟨?_, ?_, ?_⟩
  · intro hmem
    obtain ⟨b, hb, hchild⟩ := List.mem_flatMap.mp hmem
    exact h.root_notMem b (hreached b hb) hchild
  · exact fun b hb => h.nodup b (hreached b hb)
  · exact hnodup.imp_of_mem fun hb hc hne => h.disjoint _ _ (hreached _ hb) (hreached _ hc) hne

/-- **A graph is a tree** if no node is asked twice in traversals in which any two of the
nodes reached answer. -/
theorem uniqueParent_of_nodup
    (h : ∀ a b, Reached children root a → Reached children root b →
      ∃ answered : List α, a ∈ answered ∧ b ∈ answered ∧
        (askedBy children root answered).Nodup) :
    UniqueParent children root where
  root_notMem := by
    intro a ha hroot
    obtain ⟨answered, hmem, -, hnodup⟩ := h a a ha ha
    exact (List.nodup_cons.mp hnodup).1 (List.mem_flatMap.mpr ⟨a, hmem, hroot⟩)
  nodup := by
    intro a ha
    obtain ⟨answered, hmem, -, hnodup⟩ := h a a ha ha
    exact (List.nodup_flatMap.mp (List.nodup_cons.mp hnodup).2).1 a hmem
  disjoint := by
    intro a b ha hb hne
    obtain ⟨answered, hmema, hmemb, hnodup⟩ := h a b ha hb
    have hpair := (List.nodup_flatMap.mp (List.nodup_cons.mp hnodup).2).2
    have : Std.Symm (Function.onFun List.Disjoint children) := ⟨fun _ _ hd _ hx hy => hd hy hx⟩
    exact hpair.forall hmema hmemb hne

end ZnpHost.Lib
