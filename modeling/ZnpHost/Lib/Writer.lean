import Mathlib.Data.List.Basic
import Mathlib.Data.Nat.Notation

/-!
# Partial writes

A device that is offered a block takes the first few elements of it and says how many.  A
writer that offers a sequence of pieces, each of them once, delivers all of them exactly when
every piece is taken whole.

## Main definitions

* `Device` — how much of each block is taken.
* `accepted` — what is taken of a sequence of pieces.
* `TakesWhole` — every piece is taken whole.
* `accepted_eq_flatten_iff` — the pieces arrive exactly when they are taken whole.
* `pieces` — a list cut into pieces of one length.
-/

namespace ZnpHost.Lib

variable {σ β : Type*}

/-- A device with states in `σ`: the number of elements it takes of a block. -/
abbrev Device (σ β : Type*) := σ → List β → ℕ × σ

/-- Of a block that is not empty at least one element is taken, and at most all. -/
def Device.Progresses (write : Device σ β) : Prop :=
  ∀ s bs, bs ≠ [] → 0 < (write s bs).1 ∧ (write s bs).1 ≤ bs.length

/-- What the device takes when the pieces are offered one after the other. -/
def accepted (write : Device σ β) : σ → List (List β) → List β × σ
  | s, [] => ([], s)
  | s, p :: ps =>
    let rest := accepted write (write s p).2 ps
    (p.take (write s p).1 ++ rest.1, rest.2)

/-- Every piece is taken whole. -/
def TakesWhole (write : Device σ β) : σ → List (List β) → Prop
  | _, [] => True
  | s, p :: ps => p.length ≤ (write s p).1 ∧ TakesWhole write (write s p).2 ps

instance decidableTakesWhole (write : Device σ β) :
    ∀ s ps, Decidable (TakesWhole write s ps)
  | _, [] => inferInstanceAs (Decidable True)
  | s, p :: ps =>
    have := decidableTakesWhole write (write s p).2 ps
    inferInstanceAs (Decidable (_ ∧ _))

variable {write : Device σ β}

/-- No more is taken than is offered. -/
theorem length_accepted_le (write : Device σ β) (s : σ) (ps : List (List β)) :
    (accepted write s ps).1.length ≤ ps.flatten.length := by
  induction ps generalizing s with
  | nil => simp [accepted]
  | cons p ps ih =>
    have hrest := ih (write s p).2
    simp only [accepted, List.flatten_cons, List.length_append, List.length_take]
    omega

/-- **The pieces arrive exactly when each of them is taken whole.** -/
theorem accepted_eq_flatten_iff (s : σ) (ps : List (List β)) :
    (accepted write s ps).1 = ps.flatten ↔ TakesWhole write s ps := by
  induction ps generalizing s with
  | nil => simp [accepted, TakesWhole]
  | cons p ps ih =>
    have hrest := length_accepted_le write (write s p).2 ps
    rw [TakesWhole, ← ih]
    constructor
    · intro heq
      have hlen := congrArg List.length heq
      simp only [accepted, List.flatten_cons, List.length_append, List.length_take] at hlen
      have hwhole : p.length ≤ (write s p).1 := by omega
      refine ⟨hwhole, ?_⟩
      rw [accepted, List.flatten_cons, List.take_of_length_le hwhole] at heq
      exact List.append_cancel_left heq
    · rintro ⟨hwhole, heq⟩
      rw [accepted, List.flatten_cons, List.take_of_length_le hwhole, heq]

/-! ## Pieces -/

/-- The first `k` pieces of length `n`; the last ones are shorter where the list ends. -/
def pieces (n : ℕ) : ℕ → List β → List (List β)
  | 0, _ => []
  | k + 1, bs => bs.take n :: pieces n k (bs.drop n)

@[simp] theorem pieces_succ (n k : ℕ) (bs : List β) :
    pieces n (k + 1) bs = bs.take n :: pieces n k (bs.drop n) := rfl

/-- Enough pieces make up the list. -/
theorem flatten_pieces {n k : ℕ} {bs : List β} (h : bs.length ≤ n * k) :
    (pieces n k bs).flatten = bs := by
  induction k generalizing bs with
  | zero =>
    have hnil : bs = [] := List.length_eq_zero_iff.mp (by omega)
    simp [pieces, hnil]
  | succ k ih =>
    have hrest : (bs.drop n).length ≤ n * k := by
      rw [List.length_drop, Nat.sub_le_iff_le_add]
      exact h
    rw [pieces_succ, List.flatten_cons, ih hrest, List.take_append_drop]

end ZnpHost.Lib
