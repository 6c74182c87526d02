import Mathlib.Data.Nat.Notation
import Mathlib.Logic.Function.Basic

/-!
# Arrays of fixed size, as the code fills them

An array member of a structure has a size that no store checks.  A `CArray` keeps the
size in its type, the last value stored in each cell, and the indices of all stores, so
that a store beyond the end is seen.

## Main definitions

* `CArray size α` — cells and stores; `CArray.empty`, `CArray.modify`, `CArray.ofList`.
* `CArray.InBounds` — every store went to a cell of the array.
-/

namespace ZnpHost.Lib

/-- An array of `size` cells and what was stored in it. -/
structure CArray (size : ℕ) (α : Type) where
  /-- The value of a cell; `none` if nothing was stored there. -/
  cell : ℕ → Option α
  /-- The indices stored to. -/
  stores : List ℕ

namespace CArray

variable {size : ℕ} {α : Type}

/-- An array without initialiser. -/
def empty : CArray size α := ⟨fun _ => none, []⟩

/-- A store that may depend on what the cell holds. -/
def modify (a : CArray size α) (i : ℕ) (f : Option α → α) : CArray size α :=
  ⟨Function.update a.cell i (some (f (a.cell i))), i :: a.stores⟩

/-- The stores of a loop that fills the cells from index 0 on. -/
def ofList (xs : List α) : CArray size α := ⟨fun i => xs[i]?, List.range xs.length⟩

/-- No store went beyond the end. -/
def InBounds (a : CArray size α) : Prop := ∀ i ∈ a.stores, i < size

instance (a : CArray size α) : Decidable a.InBounds :=
  inferInstanceAs (Decidable (∀ i ∈ a.stores, i < size))

@[simp] theorem inBounds_empty : (empty : CArray size α).InBounds := by
  intro i hi
  cases hi

@[simp] theorem inBounds_ofList (xs : List α) :
    (ofList xs : CArray size α).InBounds ↔ xs.length ≤ size := by
  constructor
  · intro h
    by_contra hlt
    exact Nat.lt_irrefl size (h size (List.mem_range.mpr (Nat.lt_of_not_le hlt)))
  · intro h i hi
    exact Nat.lt_of_lt_of_le (List.mem_range.mp hi) h

theorem inBounds_modify (a : CArray size α) (i : ℕ) (f : Option α → α) :
    (a.modify i f).InBounds ↔ i < size ∧ a.InBounds := by
  simp [InBounds, modify]

end CArray

end ZnpHost.Lib
