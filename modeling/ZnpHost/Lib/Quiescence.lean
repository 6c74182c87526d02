import Mathlib.Data.Nat.Notation
import ZnpHost.Lib.Transition

/-!
# Systems that come to rest

Some of the actions of a system are its own, the others come from outside.  If each of its own
actions takes a unit of the work that is left, the system comes to rest when nothing more comes
from outside, whichever of its actions it takes next.

## Main definitions

* `Quiet` — no action of its own is enabled.
* `Drains` — every action of its own takes work away and keeps the invariant.
* `Drains.length_le` — how many actions it can take.
* `Drains.exists_quiet` — it comes to rest.
-/

namespace ZnpHost.Lib

variable {σ α : Type*} {step : σ → α → Option σ} {own : α → Prop} {I : σ → Prop} {work : σ → ℕ}
  {s s' : σ} {as : List α}

/-- No action of its own is enabled. -/
def Quiet (step : σ → α → Option σ) (own : α → Prop) (s : σ) : Prop :=
  ∀ a, own a → step s a = none

/-- Every action of its own takes work away and keeps the invariant. -/
structure Drains (step : σ → α → Option σ) (own : α → Prop) (I : σ → Prop) (work : σ → ℕ) :
    Prop where
  keeps : ∀ s a s', I s → own a → step s a = some s' → I s'
  less : ∀ s a s', I s → own a → step s a = some s' → work s' < work s

namespace Drains

/-- A schedule of its own actions keeps the invariant, and takes the work of its length. -/
theorem exec (h : Drains step own I work) (hI : I s) (hown : ∀ a ∈ as, own a)
    (he : exec step s as = some s') : I s' ∧ work s' + as.length ≤ work s := by
  induction as generalizing s with
  | nil =>
    simp only [Lib.exec, Option.some.injEq] at he
    subst he
    exact ⟨hI, Nat.le_refl _⟩
  | cons a as ih =>
    obtain ⟨s₁, h₁, hrest⟩ := Option.bind_eq_some_iff.mp he
    have ha := hown a List.mem_cons_self
    have hless := h.less s a s₁ hI ha h₁
    have hkept := ih (h.keeps s a s₁ hI ha h₁)
      (fun b hb => hown b (List.mem_cons_of_mem a hb)) hrest
    rw [List.length_cons]
    exact ⟨hkept.1, by omega⟩

/-- **Its own actions come to an end.** -/
theorem length_le (h : Drains step own I work) (hI : I s) (hown : ∀ a ∈ as, own a)
    (he : Lib.exec step s as = some s') : as.length ≤ work s :=
  Nat.le_trans (Nat.le_add_left _ _) (h.exec hI hown he).2

/-- **It comes to rest.** -/
theorem exists_quiet (h : Drains step own I work) (hI : I s) :
    ∃ as s', (∀ a ∈ as, own a) ∧ Lib.exec step s as = some s' ∧ Quiet step own s' := by
  induction hn : work s using Nat.strongRecOn generalizing s with
  | ind n ih =>
    by_cases hquiet : Quiet step own s
    · exact ⟨[], s, by simp, rfl, hquiet⟩
    · simp only [Quiet, not_forall] at hquiet
      obtain ⟨a, ha, henabled⟩ := hquiet
      obtain ⟨s₁, h₁⟩ := Option.ne_none_iff_exists'.mp henabled
      have hless := h.less s a s₁ hI ha h₁
      obtain ⟨as, s', hown, he, hquiet⟩ := ih (work s₁) (hn ▸ hless) (h.keeps s a s₁ hI ha h₁) rfl
      refine ⟨a :: as, s', ?_, by rw [Lib.exec, h₁, Option.bind_some, he], hquiet⟩
      intro b hb
      cases List.mem_cons.mp hb with
      | inl heq => exact heq ▸ ha
      | inr hmem => exact hown b hmem

end Drains

end ZnpHost.Lib
