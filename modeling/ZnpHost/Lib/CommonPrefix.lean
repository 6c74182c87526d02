import Mathlib.Data.List.Infix

/-!
# Common prefixes

What all lists of a family begin with, and the longest such beginning.

## Main definitions

* `CommonPrefix p l` — every member of `l` begins with `p`.
* `LongestCommonPrefix p l` — and no longer list has this property.
* `LongestCommonPrefix.of_split`, `LongestCommonPrefix.of_mem` — two ways to see that none is
  longer.
* `longestCommon` — the longest common prefix, computed.
-/

namespace ZnpHost.Lib

variable {α : Type*} {p q x y : List α} {l : List (List α)}

/-- Every list of the family begins with `p`. -/
def CommonPrefix (p : List α) (l : List (List α)) : Prop := ∀ x ∈ l, p <+: x

/-- A common prefix of which every other one is a prefix. -/
structure LongestCommonPrefix (p : List α) (l : List (List α)) : Prop where
  common : CommonPrefix p l
  longest : ∀ q, CommonPrefix q l → q <+: p

/-- A prefix that is longer than another one has its next element. -/
theorem concat_extends {c : α} (hc : p ++ [c] <+: x) (hq : q <+: x) (hlen : p.length < q.length) :
    p ++ [c] <+: q := by
  have hle : (p ++ [c]).length ≤ q.length := by simpa using Nat.succ_le_of_lt hlen
  exact List.prefix_of_prefix_length_le hc hq hle

/-- The next element of one member is not that of another one. -/
theorem LongestCommonPrefix.of_split {c : α} (h : CommonPrefix p l) (hx : x ∈ l) (hy : y ∈ l)
    (hc : p ++ [c] <+: x) (hne : ¬ p ++ [c] <+: y) : LongestCommonPrefix p l where
  common := h
  longest q hq := by
    by_cases hlen : p.length < q.length
    · exact absurd ((concat_extends hc (hq x hx) hlen).trans (hq y hy)) hne
    · exact List.prefix_of_prefix_length_le (hq x hx) (h x hx) (Nat.le_of_not_lt hlen)

/-- The prefix is a member itself. -/
theorem LongestCommonPrefix.of_mem (h : CommonPrefix p l) (hp : p ∈ l) :
    LongestCommonPrefix p l where
  common := h
  longest _ hq := hq p hp

/-- There is only one. -/
theorem LongestCommonPrefix.unique (hp : LongestCommonPrefix p l) (hq : LongestCommonPrefix q l) :
    p = q :=
  (hq.longest p hp.common).eq_of_length_le (hp.longest q hq.common).length_le

/-! ## Computed -/

variable [DecidableEq α]

/-- What two lists have in common at their beginning. -/
def common : List α → List α → List α
  | a :: as, b :: bs => if a = b then a :: common as bs else []
  | _, _ => []

theorem prefix_common_iff : q <+: common x y ↔ q <+: x ∧ q <+: y := by
  fun_induction common x y generalizing q with
  | case1 a as bs ih =>
    cases q with
    | nil => simp
    | cons c q =>
      simp only [List.cons_prefix_cons, ih]
      exact and_and_left
  | case2 a as b bs hne =>
    cases q with
    | nil => simp
    | cons c q =>
      have hsplit : c = a → c ≠ b := fun hca hcb => hne (hca.symm.trans hcb)
      simp only [List.cons_prefix_cons, List.prefix_nil, List.cons_ne_nil, false_iff]
      exact fun hboth => hsplit hboth.1.1 hboth.2.1
  | case3 as bs hnone =>
    cases as with
    | nil => simp +contextual
    | cons a as =>
      cases bs with
      | nil => simp +contextual
      | cons b bs => exact absurd rfl (hnone a as b bs rfl)

/-- What all lists of a family have in common. -/
def longestCommon : List (List α) → List α
  | [] => []
  | [x] => x
  | x :: y :: l => common x (longestCommon (y :: l))

theorem prefix_longestCommon_iff (h : l ≠ []) : q <+: longestCommon l ↔ CommonPrefix q l := by
  fun_induction longestCommon l with
  | case1 => exact absurd rfl h
  | case2 x => simp [CommonPrefix]
  | case3 x y l ih =>
    rw [prefix_common_iff, ih (List.cons_ne_nil y l)]
    simp [CommonPrefix]

theorem longestCommonPrefix_longestCommon (h : l ≠ []) :
    LongestCommonPrefix (longestCommon l) l where
  common := (prefix_longestCommon_iff h).mp List.prefix_rfl
  longest _ hq := (prefix_longestCommon_iff h).mpr hq

end ZnpHost.Lib
