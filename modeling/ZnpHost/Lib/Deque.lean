import Mathlib.Data.List.Basic
import Mathlib.Data.Nat.Notation

/-!
# Lists with urgent elements

An urgent element is put in front of a list and any other behind it; elements are taken from
the front.  The elements that are not urgent then come out in the order in which they went
in, and none of them before an urgent one.

## Main definitions

* `enqueue` — insertion at one of the two ends.
* `UrgentFirst` — no element stands before an urgent one unless it is urgent itself.
* `filter_enqueue` — what insertion does to the elements that are not urgent.
-/

namespace ZnpHost.Lib

variable {α : Type} (urgent : α → Bool)

/-- Put an element in front if it is urgent, and behind the others if it is not. -/
def enqueue (l : List α) (a : α) : List α := if urgent a then a :: l else l ++ [a]

/-- Whatever stands before an urgent element is urgent. -/
def UrgentFirst (l : List α) : Prop := l.Pairwise fun a b => urgent b → urgent a

variable {urgent} {l : List α} {a : α}

theorem length_enqueue : (enqueue urgent l a).length = l.length + 1 := by
  rw [enqueue]
  split
  · exact List.length_cons
  · rw [List.length_append, List.length_singleton]

/-- The elements that are not urgent keep their order, a new one being the last. -/
theorem filter_enqueue : (enqueue urgent l a).filter (!urgent ·) =
    l.filter (!urgent ·) ++ [a].filter (!urgent ·) := by
  by_cases ha : urgent a
  · simp [enqueue, ha]
  · simp [enqueue, ha]

namespace UrgentFirst

theorem nil : UrgentFirst urgent [] := List.Pairwise.nil

theorem enqueue (h : UrgentFirst urgent l) : UrgentFirst urgent (enqueue urgent l a) := by
  by_cases ha : urgent a
  · rw [Lib.enqueue, if_pos ha]
    exact List.pairwise_cons.mpr ⟨fun _ _ _ => ha, h⟩
  · rw [Lib.enqueue, if_neg ha]
    refine List.pairwise_append.mpr ⟨h, List.pairwise_singleton _ _, ?_⟩
    intro b _ c hc hurgent
    rw [List.mem_singleton.mp hc] at hurgent
    exact absurd hurgent ha

theorem tail (h : UrgentFirst urgent (a :: l)) : UrgentFirst urgent l := List.Pairwise.of_cons h

/-- An element that is not urgent is at the front only when none is. -/
theorem not_urgent (h : UrgentFirst urgent (a :: l)) (ha : ¬ urgent a) : ∀ b ∈ l, ¬ urgent b := by
  intro b hb hurgent
  exact ha ((List.pairwise_cons.mp h).1 b hb hurgent)

end UrgentFirst

end ZnpHost.Lib
