import ZnpHost.Lib.Transition

/-!
# What is observed of a run

The steps of a system put out events, none, one or several at a step.  A system follows another
one if the events that a step puts out are a schedule of the other one.

## Main definitions

* `outputs step out s as` — the events of a schedule.
* `exec_append` — a schedule in two parts.
* `exec_outputs_simulates` — the events of a schedule are a schedule of the other system.
* `exec_outputs_invariant` — what holds of a state and the events up to there.
* `exec_schedule_invariant` — what holds of a state and the actions up to there.
-/

namespace ZnpHost.Lib

variable {σ α β : Type*} {step : σ → α → Option σ} {out : σ → α → List β} {s s' : σ}

/-- The events that the steps of a schedule put out. -/
def outputs (step : σ → α → Option σ) (out : σ → α → List β) : σ → List α → List β
  | _, [] => []
  | s, a :: as => out s a ++ ((step s a).map fun s' => outputs step out s' as).getD []

theorem outputs_cons {a : α} (as : List α) (h : step s a = some s') :
    outputs step out s (a :: as) = out s a ++ outputs step out s' as := by
  rw [outputs, h, Option.map_some, Option.getD_some]

/-- A schedule in two parts. -/
theorem exec_append (as bs : List α) :
    exec step s (as ++ bs) = (exec step s as).bind fun s' => exec step s' bs := by
  induction as generalizing s with
  | nil => rfl
  | cons a as ih =>
    rw [List.cons_append, exec, exec, Option.bind_assoc]
    congr 1
    funext s'
    exact ih

/-- **Simulation rule with observations.**  If the events of every step can be followed by the
other system, so can those of every schedule. -/
theorem exec_outputs_simulates {τ : Type*} {step' : τ → β → Option τ} {R : σ → τ → Prop}
    (hstep : ∀ s t a s', R s t → step s a = some s' →
      ∃ t', exec step' t (out s a) = some t' ∧ R s' t')
    {as : List α} {t : τ} (hR : R s t) (h : exec step s as = some s') :
    ∃ t', exec step' t (outputs step out s as) = some t' ∧ R s' t' := by
  induction as generalizing s t with
  | nil =>
    simp only [exec, Option.some.injEq] at h
    exact ⟨t, rfl, h ▸ hR⟩
  | cons a as ih =>
    obtain ⟨s₁, h₁, hrest⟩ := Option.bind_eq_some_iff.mp h
    obtain ⟨t₁, ht₁, hR₁⟩ := hstep s t a s₁ hR h₁
    obtain ⟨t', ht', hR'⟩ := ih hR₁ hrest
    refine ⟨t', ?_, hR'⟩
    rw [outputs_cons as h₁, exec_append, ht₁, Option.bind_some, ht']

/-- **Invariant rule with observations.** -/
theorem exec_outputs_invariant {I : σ → List β → Prop}
    (hstep : ∀ s es a s', I s es → step s a = some s' → I s' (es ++ out s a))
    {as : List α} {es : List β} (hI : I s es) (h : exec step s as = some s') :
    I s' (es ++ outputs step out s as) := by
  induction as generalizing s es with
  | nil =>
    simp only [exec, Option.some.injEq] at h
    subst h
    rw [outputs, List.append_nil]
    exact hI
  | cons a as ih =>
    obtain ⟨s₁, h₁, hrest⟩ := Option.bind_eq_some_iff.mp h
    rw [outputs_cons as h₁, ← List.append_assoc]
    exact ih (hstep s es a s₁ hI h₁) hrest

/-- **Invariant rule with the schedule.** -/
theorem exec_schedule_invariant {I : σ → List α → Prop}
    (hstep : ∀ s as a s', I s as → step s a = some s' → I s' (as ++ [a]))
    {as before : List α} (hI : I s before) (h : exec step s as = some s') :
    I s' (before ++ as) := by
  induction as generalizing s before with
  | nil =>
    simp only [exec, Option.some.injEq] at h
    rw [List.append_nil]
    exact h ▸ hI
  | cons a as ih =>
    obtain ⟨s₁, h₁, hrest⟩ := Option.bind_eq_some_iff.mp h
    have hall := ih (hstep s before a s₁ hI h₁) hrest
    rwa [List.append_assoc] at hall

end ZnpHost.Lib
