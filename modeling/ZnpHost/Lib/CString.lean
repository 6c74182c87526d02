import Mathlib.Data.List.TakeWhile
import ZnpHost.Lib.Bytes

/-!
# Strings in memory

A C string is the bytes in front of the first zero.  `cString` reads it from an array of a
known size, `IsString` says that a list of characters stands in memory with its terminator,
and the only way strings are built here is to store a tail, with its terminator, behind a
prefix.

## Main definitions

* `cString` — the string in an array of `n` bytes.
* `strcpy` — the string is copied with its terminator.
* `IsString` — the string in memory.
* `IsString.splice` — a new tail behind a prefix.
-/

namespace ZnpHost.Lib

/-- The string in an array of `n` bytes; without a terminator, all of the array. -/
def cString (n : ℕ) (m : Mem) : List UInt8 := (m.take n).takeWhile (· ≠ 0)

/-- `strcpy(dst, src)`, where `src` is an array of `n` bytes. -/
def strcpy (n : ℕ) (dst src : Mem) : Mem := dst.blit 0 (cString n src ++ [0])

/-- The characters of a string, followed by the terminator. -/
structure IsString (m : Mem) (l : List UInt8) : Prop where
  chars : m.take l.length = l
  nul : m l.length = 0
  nonzero : 0 ∉ l

variable {m : Mem} {l a : List UInt8} {n k : ℕ}

theorem zero_notMem_cString (n : ℕ) (m : Mem) : 0 ∉ cString n m := by
  intro h
  simpa using List.mem_takeWhile_imp h

namespace IsString

theorem char_eq (h : IsString m l) (hk : k < l.length) : m k = l[k] := by
  have hget := Mem.getElem_take m l.length k (by rwa [Mem.length_take])
  simpa [h.chars] using hget.symm

/-- The string is what is read from any array that has room for its terminator. -/
theorem cString_eq (h : IsString m l) (hl : l.length < n) : cString n m = l := by
  obtain ⟨r, rfl⟩ : ∃ r, n = l.length + (r + 1) := ⟨n - l.length - 1, by omega⟩
  have htake : m.take (l.length + (r + 1)) = l ++ 0 :: ((m.shift (l.length + 1)).take r) := by
    have happ := List.take_append_drop l.length (m.take (l.length + (r + 1)))
    rw [Mem.take_take, Mem.drop_take, Nat.min_eq_left (by omega), h.chars,
      Nat.add_sub_cancel_left, Mem.take_succ, Mem.shift_shift] at happ
    have hnul : m.shift l.length 0 = 0 := h.nul
    rw [hnul] at happ
    exact happ.symm
  have hall : ∀ c ∈ l, decide (c ≠ 0) = true := by
    intro c hc
    have hne : c ≠ 0 := fun heq => h.nonzero (heq ▸ hc)
    simp [hne]
  rw [cString, htake, List.takeWhile_append_of_pos hall]
  simp

/-- The string behind the first characters. -/
theorem shift (h : IsString m (a ++ l)) : IsString (m.shift a.length) l := by
  constructor
  · have hchars := congrArg (List.drop a.length) h.chars
    rwa [Mem.drop_take, List.length_append, Nat.add_sub_cancel_left, List.drop_left] at hchars
  · have hnul := h.nul
    rwa [List.length_append] at hnul
  · intro hmem
    exact h.nonzero (List.mem_append_right a hmem)

/-- A new tail behind a prefix that stays. -/
theorem splice (h : IsString m l) (hk : k ≤ l.length) (ha : 0 ∉ a) :
    IsString (m.blit k (a ++ [0])) (l.take k ++ a) := by
  have hlen : (l.take k ++ a).length = k + a.length := by
    rw [List.length_append, List.length_take_of_le hk]
  constructor
  · apply List.ext_getElem (by simp)
    intro i h₁ h₂
    rw [Mem.getElem_take]
    rw [Mem.length_take, hlen] at h₁
    by_cases hi : i < k
    · rw [Mem.blit_lt m _ hi, h.char_eq (by omega),
        List.getElem_append_left (by rw [List.length_take]; omega)]
      simp
    · obtain ⟨j, rfl⟩ := Nat.exists_eq_add_of_le (Nat.le_of_not_lt hi)
      have hj : j < a.length := by omega
      rw [Mem.blit_mid m k (a ++ [0]) (by rw [List.length_append]; omega),
        List.getElem_append_left hj, List.getElem_append_right (by rw [List.length_take]; omega)]
      simp [Nat.min_eq_left hk]
  · rw [hlen, Mem.blit_mid m k (a ++ [0]) (by simp), List.getElem_append_right (Nat.le_refl _)]
    simp
  · intro hmem
    cases List.mem_append.mp hmem with
    | inl hin => exact h.nonzero (List.mem_of_mem_take hin)
    | inr hin => exact ha hin

end IsString

/-- The string of an array that holds a terminator. -/
theorem isString_cString (h : (cString n m).length < n) : IsString m (cString n m) := by
  have hprefix : m.take n = cString n m ++ (m.take n).dropWhile (· ≠ 0) :=
    (List.takeWhile_append_dropWhile).symm
  obtain ⟨c, rest, hrest⟩ : ∃ c rest, (m.take n).dropWhile (· ≠ 0) = c :: rest := by
    apply List.exists_cons_of_ne_nil
    intro hnil
    have hlen := congrArg List.length hprefix
    rw [hnil, List.append_nil, Mem.length_take] at hlen
    omega
  have hzero : c = 0 := by
    have hne : (m.take n).dropWhile (· ≠ 0) ≠ [] := by
      rw [hrest]
      exact List.cons_ne_nil c rest
    have hhead := List.head_dropWhile_not (fun b : UInt8 => decide (b ≠ 0)) hne
    simp only [hrest, List.head_cons, decide_eq_false_iff_not] at hhead
    exact not_not.mp hhead
  rw [hrest, hzero] at hprefix
  have htake : m.take (cString n m).length = (m.take n).take (cString n m).length := by
    rw [Mem.take_take, Nat.min_eq_left (Nat.le_of_lt h)]
  constructor
  · rw [htake, hprefix, List.take_left' rfl]
  · have hget := Mem.getElem_take m n (cString n m).length (by rwa [Mem.length_take])
    rw [← hget, List.getElem_of_eq hprefix, List.getElem_append_right (Nat.le_refl _)]
    simp
  · exact zero_notMem_cString n m

/-- The empty string. -/
theorem isString_nil (h : m 0 = 0) : IsString m [] := ⟨rfl, h, by simp⟩

/-- A stored string. -/
theorem isString_blit (m : Mem) (ha : 0 ∉ a) : IsString (m.blit 0 (a ++ [0])) a := by
  constructor
  · exact Mem.take_blit_append m a [0]
  · have hmid := Mem.blit_mid m 0 (a ++ [0]) (k := a.length) (by simp)
    rw [Nat.zero_add, List.getElem_append_right (Nat.le_refl _)] at hmid
    simpa using hmid
  · exact ha

/-- A copied string. -/
theorem isString_strcpy (n : ℕ) (dst src : Mem) : IsString (strcpy n dst src) (cString n src) :=
  isString_blit dst (zero_notMem_cString n src)

/-- Reading back a copied string. -/
theorem cString_strcpy (dst src : Mem) (h : (cString n src).length < n) :
    cString n (strcpy n dst src) = cString n src :=
  (isString_strcpy n dst src).cString_eq h

/-! ## Mirrored copies -/

/-- Storing the first `n` cells of `t`, the last one first, from index `i` on. -/
theorem foldl_set_mirror (t m : Mem) (i n : ℕ) :
    (List.range n).foldl (fun m x => m.set (i + x) (t (n - 1 - x))) m =
      m.blit i (t.take n).reverse := by
  have hpart : ∀ j ≤ n, (List.range j).foldl (fun m x => m.set (i + x) (t (n - 1 - x))) m =
      m.blit i ((t.take n).reverse.take j) := by
    intro j hj
    induction j with
    | zero => simp
    | succ j ih =>
      have hlen : ((t.take n).reverse.take j).length = j := by simp; omega
      have hin : j < (t.take n).reverse.length := by
        rw [List.length_reverse, Mem.length_take]
        omega
      have hlast : (t.take n).reverse[j] = t (n - 1 - j) := by simp
      rw [List.range_succ, List.foldl_append, ih (by omega), List.foldl_cons, List.foldl_nil,
        Mem.set_eq_blit]
      have happ := Mem.blit_append m i ((t.take n).reverse.take j) [t (n - 1 - j)]
      rw [hlen, ← hlast, List.take_append_getElem] at happ
      rw [← hlast, happ]
  have hall := hpart n (Nat.le_refl n)
  rwa [List.take_of_length_le (by simp)] at hall

end ZnpHost.Lib
