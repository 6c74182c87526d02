import Mathlib.Data.Nat.Notation
import Mathlib.Logic.Function.Basic

/-!
# Binary semaphores as locks

The invariant of a semaphore that starts at one and is taken and given back by the
thread that holds it, over any type of threads.  `inside` says which threads are
between the two operations.

## Main definitions

* `Guards sem inside` — the semaphore value `sem` tells whether the section is free,
  and at most one thread is inside.
* `Guards.enter`, `Guards.leave`, `Guards.congr` — what each kind of step does to it.
-/

namespace ZnpHost.Lib

variable {τ : Type*}

/-- The value of the semaphore and the threads inside the section it guards agree. -/
inductive Guards : ℕ → (τ → Prop) → Prop
  | free {inside : τ → Prop} : (∀ t, ¬ inside t) → Guards 1 inside
  | held {inside : τ → Prop} (t : τ) : (∀ u, inside u ↔ u = t) → Guards 0 inside

namespace Guards

variable {sem : ℕ} {inside inside' : τ → Prop} {t u : τ}

theorem le_one (h : Guards sem inside) : sem ≤ 1 := by
  cases h with
  | free => exact Nat.le_refl 1
  | held => exact Nat.zero_le 1

/-- **Mutual exclusion.** -/
theorem unique (h : Guards sem inside) (ht : inside t) (hu : inside u) : t = u := by
  cases h with
  | free hfree => exact absurd ht (hfree t)
  | held v hv => rw [(hv t).mp ht, (hv u).mp hu]

theorem eq_one_iff (h : Guards sem inside) : sem = 1 ↔ ∀ t, ¬ inside t := by
  cases h with
  | free hfree => simpa using hfree
  | held v hv => simpa using ⟨v, (hv v).mpr rfl⟩

theorem eq_zero (h : Guards sem inside) (ht : inside t) : sem = 0 := by
  have hle := h.le_one
  have hne : sem ≠ 1 := fun h1 => h.eq_one_iff.mp h1 t ht
  omega

/-- A step that neither enters nor leaves. -/
theorem congr (h : Guards sem inside) (heq : ∀ u, inside' u ↔ inside u) : Guards sem inside' := by
  cases h with
  | free hfree => exact free fun v hv => hfree v ((heq v).mp hv)
  | held v hv => exact held v fun w => (heq w).trans (hv w)

/-- Taking the semaphore. -/
theorem enter (h : Guards sem inside) (hpos : 0 < sem) (hin : inside' t)
    (heq : ∀ u, u ≠ t → (inside' u ↔ inside u)) : Guards (sem - 1) inside' := by
  cases h with
  | free hfree =>
    refine held t fun u => ⟨fun hu => ?_, fun hu => hu ▸ hin⟩
    by_contra hne
    exact hfree u ((heq u hne).mp hu)
  | held => exact absurd hpos (Nat.lt_irrefl 0)

/-- Giving it back. -/
theorem leave (h : Guards sem inside) (ht : inside t) (hout : ¬ inside' t)
    (heq : ∀ u, u ≠ t → (inside' u ↔ inside u)) : Guards (sem + 1) inside' := by
  rw [h.eq_zero ht]
  refine free ?_
  intro u hu
  by_cases hne : u = t
  · exact hout (hne ▸ hu)
  · exact hne (h.unique ((heq u hne).mp hu) ht)

end Guards

end ZnpHost.Lib
