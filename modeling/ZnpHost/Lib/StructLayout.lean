import Mathlib.Data.Nat.Notation

/-!
# The layout of a structure

Members follow each other, each at the next multiple of its alignment, which is the size of its
cells.

## Main definitions

* `Member` — some cells of one size.
* `alignUp` — the next multiple.
* `structEnd`, `offset` — where the first members end, and where a member is.
-/

namespace ZnpHost.Lib

/-- A member of a structure: `count` cells of `size` bytes. -/
structure Member where
  size : ℕ
  count : ℕ
  deriving DecidableEq

/-- The first multiple of `a` from `n` on. -/
def alignUp (a n : ℕ) : ℕ := (n + (a - 1)) / a * a

/-- The end of the first `j` members. -/
def structEnd (ms : List Member) : ℕ → ℕ
  | 0 => 0
  | j + 1 =>
    match ms[j]? with
    | none => structEnd ms j
    | some m => alignUp m.size (structEnd ms j) + m.size * m.count

/-- The offset of member `j`. -/
def offset (ms : List Member) (j : ℕ) : ℕ :=
  match ms[j]? with
  | none => structEnd ms j
  | some m => alignUp m.size (structEnd ms j)

variable {ms : List Member} {m : Member} {j : ℕ}

@[simp] theorem alignUp_one (n : ℕ) : alignUp 1 n = n := by simp [alignUp]

theorem alignUp_two (n : ℕ) : alignUp 2 n = if n % 2 ≠ 0 then n + 1 else n := by
  by_cases hodd : n % 2 ≠ 0
  · rw [if_pos hodd, alignUp]
    omega
  · rw [if_neg hodd, alignUp]
    omega

theorem structEnd_succ (h : ms[j]? = some m) :
    structEnd ms (j + 1) = offset ms j + m.size * m.count := by
  simp [structEnd, offset, h]

end ZnpHost.Lib
