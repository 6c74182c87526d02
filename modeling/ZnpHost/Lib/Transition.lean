import Mathlib.Data.Option.Basic

/-!
# Runs of partial step functions

A system is a partial step function on states and actions: `step s a = none` when
the action is not enabled.  `exec` runs a given schedule, `Steps` collects the
states a run can reach while every step meets a condition, and the invariant rule
packages the induction over runs.

## Main definitions

* `exec` — the state after a list of actions.
* `Steps step C s₀` — the states reached from `s₀` by steps that satisfy `C`.
* `Reachable` — the states reached by any run.
* `Meets` — a schedule whose actions meet a condition, decidable if the condition is.
* `Steps.invariant` — what holds at the start and is preserved by a step holds in
  every state reached.
* `exec_simulates` — a schedule of one system is followed by another one step by step.
-/

namespace ZnpHost.Lib

variable {σ α : Type*}

/-- The state after the actions of a schedule, if all of them are enabled. -/
def exec (step : σ → α → Option σ) : σ → List α → Option σ
  | s, [] => some s
  | s, a :: as => (step s a).bind fun s' => exec step s' as

/-- States reached from `s₀` by runs whose every step, from `s` by `a`, satisfies `C s a`. -/
inductive Steps (step : σ → α → Option σ) (C : σ → α → Prop) (s₀ : σ) : σ → Prop
  | refl : Steps step C s₀ s₀
  | tail {s s' : σ} {a : α} : Steps step C s₀ s → C s a → step s a = some s' →
      Steps step C s₀ s'

/-- States reached by any run. -/
abbrev Reachable (step : σ → α → Option σ) : σ → σ → Prop := Steps step fun _ _ => True

variable {step : σ → α → Option σ} {C D : σ → α → Prop} {s₀ s s' : σ}

/-- Every action of the schedule meets the condition where it is taken. -/
def Meets (step : σ → α → Option σ) (C : σ → α → Prop) : σ → List α → Prop
  | _, [] => True
  | s, a :: as => C s a ∧ ∀ s' ∈ step s a, Meets step C s' as

instance decidableMeets [∀ s a, Decidable (C s a)] : ∀ s as, Decidable (Meets step C s as)
  | _, [] => inferInstanceAs (Decidable True)
  | s, a :: as =>
    have : DecidablePred fun s' => Meets step C s' as := fun s' => decidableMeets s' as
    inferInstanceAs (Decidable (C s a ∧ ∀ s' ∈ step s a, Meets step C s' as))

theorem Meets.of_forall {as : List α} (h : ∀ a ∈ as, ∀ x, C x a) : Meets step C s as := by
  induction as generalizing s with
  | nil => trivial
  | cons a as ih =>
    exact ⟨h a List.mem_cons_self s, fun _ _ => ih fun b hb => h b (List.mem_cons_of_mem a hb)⟩

/-- A condition on the actions alone can be added. -/
theorem Meets.and_of_forall {as : List α} {P : α → Prop} (h : Meets step C s as)
    (hall : ∀ a ∈ as, P a) : Meets step (fun s a => P a ∧ C s a) s as := by
  induction as generalizing s with
  | nil => trivial
  | cons a as ih =>
    constructor
    · exact ⟨hall a List.mem_cons_self, h.1⟩
    · intro s' hs'
      exact ih (h.2 s' hs') fun b hb => hall b (List.mem_cons_of_mem a hb)

/-- A schedule that goes on meets the condition up to there, -/
theorem Meets.left {as bs : List α} (h : Meets step C s (as ++ bs)) : Meets step C s as := by
  induction as generalizing s with
  | nil => trivial
  | cons a as ih => exact ⟨h.1, fun s' hs' => ih (h.2 s' hs')⟩

/-- and from there on. -/
theorem Meets.right {as bs : List α} (h : Meets step C s (as ++ bs))
    (he : exec step s as = some s') : Meets step C s' bs := by
  induction as generalizing s with
  | nil =>
    simp only [exec, Option.some.injEq] at he
    exact he ▸ h
  | cons a as ih =>
    obtain ⟨s₁, h₁, h₂⟩ := Option.bind_eq_some_iff.mp he
    exact ih (h.2 s₁ h₁) h₂

namespace Steps

/-- **Invariant rule.** -/
theorem invariant {I : σ → Prop} (hinit : I s₀)
    (hstep : ∀ s a s', I s → C s a → step s a = some s' → I s')
    (h : Steps step C s₀ s) : I s := by
  induction h with
  | refl => exact hinit
  | tail _ hc hs ih => exact hstep _ _ _ ih hc hs

/-- A step in front of a run. -/
theorem head {s₁ : σ} {a : α} (hc : C s a) (hs : step s a = some s₁) (h : Steps step C s₁ s') :
    Steps step C s s' := by
  induction h with
  | refl => exact refl.tail hc hs
  | tail _ hc' hs' ih => exact ih.tail hc' hs'

/-- A schedule whose every action meets the condition where it is taken extends a run. -/
theorem exec_of_meets {as : List α} (h : Steps step C s₀ s) (hm : Meets step C s as)
    (he : exec step s as = some s') : Steps step C s₀ s' := by
  induction as generalizing s with
  | nil =>
    simp only [Lib.exec, Option.some.injEq] at he
    exact he ▸ h
  | cons a as ih =>
    obtain ⟨s₁, h₁, h₂⟩ := Option.bind_eq_some_iff.mp he
    exact ih (h.tail hm.1 h₁) (hm.2 s₁ h₁) h₂

/-- A schedule of actions that meet the condition in every state extends a run. -/
theorem exec {as : List α} (h : Steps step C s₀ s) (hall : ∀ a ∈ as, ∀ x, C x a)
    (he : exec step s as = some s') : Steps step C s₀ s' :=
  h.exec_of_meets (Meets.of_forall hall) he

end Steps

/-- A schedule that executes is a run. -/
theorem reachable_of_exec {as : List α} (h : exec step s as = some s') : Reachable step s s' :=
  Steps.refl.exec (fun _ _ _ => trivial) h

/-- **Simulation rule.**  If every step from related states can be followed by the other
system, so can every schedule. -/
theorem exec_simulates {τ : Type*} {step' : τ → α → Option τ} {R : σ → τ → Prop}
    (hstep : ∀ s t a s', R s t → step s a = some s' → ∃ t', step' t a = some t' ∧ R s' t')
    {as : List α} {t : τ} (hR : R s t) (h : exec step s as = some s') :
    ∃ t', exec step' t as = some t' ∧ R s' t' := by
  induction as generalizing s t with
  | nil =>
    simp only [exec, Option.some.injEq] at h
    exact ⟨t, rfl, h ▸ hR⟩
  | cons a as ih =>
    obtain ⟨s₁, h₁, hrest⟩ := Option.bind_eq_some_iff.mp h
    obtain ⟨t₁, ht₁, hR₁⟩ := hstep s t a s₁ hR h₁
    obtain ⟨t', ht', hR'⟩ := ih hR₁ hrest
    exact ⟨t', by rw [exec, ht₁, Option.bind_some, ht'], hR'⟩

end ZnpHost.Lib
