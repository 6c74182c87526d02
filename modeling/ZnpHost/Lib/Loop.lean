import Mathlib.Data.Nat.Notation
import Mathlib.Data.Option.Basic

/-!
# Loops on fuel

A loop does one round after the other until one of them ends it with a result.  A round need
not return, and the number of rounds is limited by the fuel.

## Main definitions

* `runLoop` — the loop of a round.
* `runLoop_mono` — a result does not depend on the fuel that is left.
* `runLoop_rule` — what every round keeps holds when the loop ends.
* `runLoop_map` — a loop whose rounds map to those of another one maps to it.
* `Reaches`, `Reaches.runLoop` — some rounds lead from one state to another; the loop ends if
  they lead to its end.
-/

namespace ZnpHost.Lib

variable {α β γ δ : Type*}

/-- Rounds from `a` on: each returns the next state or the result. -/
def runLoop (round : α → Option (α ⊕ β)) : ℕ → α → Option β
  | 0, _ => none
  | fuel + 1, a =>
    match round a with
    | none => none
    | some (.inl a') => runLoop round fuel a'
    | some (.inr b) => some b

variable {round : α → Option (α ⊕ β)} {fuel : ℕ} {a : α} {b : β}

/-- A result does not change with more fuel. -/
theorem runLoop_mono (h : runLoop round fuel a = some b) (n : ℕ) :
    runLoop round (fuel + n) a = some b := by
  induction fuel generalizing a with
  | zero => cases h
  | succ fuel ih =>
    rw [show fuel + 1 + n = fuel + n + 1 by omega]
    cases hround : round a with
    | none => simp [runLoop, hround] at h
    | some r =>
      cases r with
      | inl a' =>
        simp only [runLoop, hround] at h ⊢
        exact ih h
      | inr b' => simpa [runLoop, hround] using h

/-- **Loop rule.** -/
theorem runLoop_rule {P : α → Prop} {Q : β → Prop} (hinit : P a)
    (hround : ∀ a a', P a → round a = some (.inl a') → P a')
    (hend : ∀ a b, P a → round a = some (.inr b) → Q b) (h : runLoop round fuel a = some b) :
    Q b := by
  induction fuel generalizing a with
  | zero => cases h
  | succ fuel ih =>
    cases hres : round a with
    | none => simp [runLoop, hres] at h
    | some r =>
      cases r with
      | inl a' =>
        simp only [runLoop, hres] at h
        exact ih (hround a a' hinit hres) h
      | inr b' =>
        obtain rfl : b' = b := by simpa [runLoop, hres] using h
        exact hend a b' hinit hres

/-- Rounds that correspond make loops that do. -/
theorem runLoop_map {round' : γ → Option (γ ⊕ δ)} {f : γ → α} {g : δ → β}
    (h : ∀ c, (round' c).map (Sum.map f g) = round (f c)) (fuel : ℕ) (c : γ) :
    (runLoop round' fuel c).map g = runLoop round fuel (f c) := by
  induction fuel generalizing c with
  | zero => rfl
  | succ fuel ih =>
    rw [runLoop, runLoop, ← h c]
    cases round' c with
    | none => rfl
    | some r =>
      cases r with
      | inl c' => exact ih c'
      | inr d => rfl

/-- Rounds lead from the first state to the second. -/
inductive Reaches (round : α → Option (α ⊕ β)) : α → α → Prop
  | refl (a : α) : Reaches round a a
  | step {a a' a'' : α} (h : round a = some (.inl a')) : Reaches round a' a'' → Reaches round a a''

theorem Reaches.trans {a' a'' : α} (h : Reaches round a a') (h' : Reaches round a' a'') :
    Reaches round a a'' := by
  induction h with
  | refl a => exact h'
  | step hround _ ih => exact .step hround (ih h')

/-- Enough fuel takes the loop to its end. -/
theorem Reaches.runLoop {a' : α} (h : Reaches round a a') (hend : round a' = some (.inr b)) :
    ∃ n, ∀ fuel, n ≤ fuel → runLoop round fuel a = some b := by
  induction h with
  | refl a =>
    refine ⟨1, fun fuel hfuel => ?_⟩
    obtain ⟨k, rfl⟩ := Nat.exists_eq_add_of_le' hfuel
    simp [Lib.runLoop, hend]
  | step hround _ ih =>
    obtain ⟨n, hn⟩ := ih hend
    refine ⟨n + 1, fun fuel hfuel => ?_⟩
    obtain ⟨k, rfl⟩ := Nat.exists_eq_add_of_le' hfuel
    rw [← Nat.add_assoc, Lib.runLoop, hround]
    exact hn (k + n) (Nat.le_add_left n k)

end ZnpHost.Lib
