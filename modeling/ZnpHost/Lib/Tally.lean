import Mathlib.Algebra.BigOperators.Group.Finset.Piecewise
import Mathlib.Data.Nat.Notation

/-!
# Counting threads

How many of finitely many threads are at a program point, what is added up over all of them,
and what the move of one thread does to the numbers.

## Main definitions

* `total f pc` — the sum of `f` over the control states.
* `tally P pc` — the number of threads whose control state satisfies `P`.
* `total_update`, `tally_update` — one thread moves.
-/

namespace ZnpHost.Lib

variable {τ κ : Type} [Fintype τ]

/-- What the threads have to do, or own, in all. -/
def total (f : κ → ℕ) (pc : τ → κ) : ℕ := ∑ t, f (pc t)

/-- What one of them has is part of it. -/
theorem le_total [DecidableEq τ] (f : κ → ℕ) (pc : τ → κ) (t : τ) : f (pc t) ≤ total f pc := by
  rw [total, ← Finset.add_sum_erase Finset.univ (fun u => f (pc u)) (Finset.mem_univ t)]
  exact Nat.le_add_right _ _

/-- One thread moves, and the others keep what they have. -/
theorem total_update [DecidableEq τ] (f : κ → ℕ) (pc : τ → κ) (t : τ) (x : κ) :
    total f (Function.update pc t x) + f (pc t) = total f pc + f x := by
  have hcomp : (fun u => f (Function.update pc t x u)) =
      Function.update (fun u => f (pc u)) t (f x) := by
    funext u
    by_cases hu : u = t
    · subst hu
      simp
    · simp [hu]
  have hnew := Finset.sum_update_of_mem (Finset.mem_univ t) (fun u => f (pc u)) (f x)
  have hold := Finset.add_sum_erase Finset.univ (fun u => f (pc u)) (Finset.mem_univ t)
  rw [total, total, hcomp, hnew, ← hold, Finset.sdiff_singleton_eq_erase]
  omega

/-- The number of threads whose control state satisfies `P`. -/
def tally (P : κ → Prop) [DecidablePred P] (pc : τ → κ) : ℕ :=
  (Finset.univ.filter fun t => P (pc t)).card

variable (P : κ → Prop) [DecidablePred P] (pc : τ → κ)

theorem tally_eq_total : tally P pc = total (fun p => if P p then 1 else 0) pc :=
  Finset.card_filter _ _

/-- Nobody is there. -/
theorem tally_eq_zero (h : ∀ t, ¬ P (pc t)) : tally P pc = 0 := by
  rw [tally, Finset.card_eq_zero, Finset.filter_eq_empty_iff]
  exact fun t _ => h t

/-- A thread that is there is counted. -/
theorem tally_pos {t : τ} (h : P (pc t)) : 0 < tally P pc :=
  Finset.card_pos.mpr ⟨t, Finset.mem_filter.mpr ⟨Finset.mem_univ t, h⟩⟩

/-- **The move of one thread** takes it out of one place and puts it into another. -/
theorem tally_update [DecidableEq τ] (t : τ) (x : κ) :
    tally P (Function.update pc t x) + (if P (pc t) then 1 else 0) =
      tally P pc + if P x then 1 else 0 := by
  rw [tally_eq_total, tally_eq_total]
  exact total_update (fun p => if P p then 1 else 0) pc t x

end ZnpHost.Lib
