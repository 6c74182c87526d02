import Mathlib.Data.List.GetD
import Mathlib.Logic.Function.Basic

/-!
# Byte memory behind a pointer, and XOR checksums

A C byte buffer is seen through a pointer: `Mem` maps every offset to the byte
found there, whatever lies beyond the array included.  Copying a block in,
reading a block out and moving the pointer are the only operations the buffers
of this development need.

## Main definitions

* `Mem` — the bytes a pointer reaches.
* `Mem.blit`, `Mem.take`, `Mem.shift` — `memcpy` into, out of, and `&m[i]`.
* `xorAll` — the exclusive or of a list of bytes.
-/

namespace ZnpHost.Lib

/-- The bytes reachable from a pointer, by offset. -/
abbrev Mem := ℕ → UInt8

namespace Mem

/-- Store one byte. -/
def set (m : Mem) (i : ℕ) (b : UInt8) : Mem := Function.update m i b

/-- Copy a block of bytes to offset `i`. -/
def blit (m : Mem) (i : ℕ) (bs : List UInt8) : Mem :=
  fun j => if i ≤ j then bs.getD (j - i) (m j) else m j

/-- The pointer `&m[i]`. -/
def shift (m : Mem) (i : ℕ) : Mem := fun j => m (i + j)

/-- The first `n` bytes. -/
def take (m : Mem) (n : ℕ) : List UInt8 := (List.range n).map m

/-- A block of bytes followed by whatever `rest` holds. -/
def ofList (bs : List UInt8) (rest : Mem) : Mem := blit rest 0 bs

@[simp] theorem set_same (m : Mem) (i : ℕ) (b : UInt8) : m.set i b i = b := by simp [set]

theorem set_ne (m : Mem) {i j : ℕ} (b : UInt8) (h : j ≠ i) : m.set i b j = m j := by
  simp [set, h]

theorem blit_lt (m : Mem) {i j : ℕ} (bs : List UInt8) (h : j < i) : m.blit i bs j = m j := by
  simp [blit, Nat.not_le.mpr h]

theorem blit_mid (m : Mem) (i : ℕ) (bs : List UInt8) {k : ℕ} (h : k < bs.length) :
    m.blit i bs (i + k) = bs[k] := by
  simp only [blit, Nat.le_add_right, if_true, Nat.add_sub_cancel_left]
  exact List.getD_eq_getElem _ _ h

theorem blit_ge (m : Mem) {i j : ℕ} (bs : List UInt8) (h : i + bs.length ≤ j) :
    m.blit i bs j = m j := by
  have hij : i ≤ j := by omega
  simp only [blit, hij, if_true]
  exact List.getD_eq_default _ _ (by omega)

@[simp] theorem blit_nil (m : Mem) (i : ℕ) : m.blit i [] = m := by
  funext j
  simp [blit]

/-- A single store is the copy of a one-byte block. -/
theorem set_eq_blit (m : Mem) (i : ℕ) (b : UInt8) : m.set i b = m.blit i [b] := by
  funext j
  rcases Nat.lt_trichotomy j i with h | rfl | h
  · rw [set_ne _ _ (by omega), blit_lt _ _ h]
  · simp [blit]
  · rw [set_ne _ _ (by omega), blit_ge _ _ (by simp; omega)]

@[simp] theorem shift_zero (m : Mem) : m.shift 0 = m := by
  funext j
  simp [shift]

theorem shift_shift (m : Mem) (i j : ℕ) : (m.shift i).shift j = m.shift (i + j) := by
  funext k
  simp [shift, Nat.add_assoc]

/-- A store in front of the pointer is not seen through it. -/
theorem shift_set_lt (m : Mem) {i j : ℕ} (b : UInt8) (h : i < j) :
    (m.set i b).shift j = m.shift j := by
  funext k
  exact set_ne m b (by omega)

/-- Copying two blocks one after the other is copying their concatenation. -/
theorem blit_append (m : Mem) (i : ℕ) (as bs : List UInt8) :
    (m.blit i as).blit (i + as.length) bs = m.blit i (as ++ bs) := by
  funext j
  rcases Nat.lt_or_ge j i with hlt | hge
  · rw [blit_lt _ _ (by omega), blit_lt _ _ hlt, blit_lt _ _ hlt]
  obtain ⟨k, rfl⟩ := Nat.exists_eq_add_of_le hge
  rcases Nat.lt_or_ge k as.length with hk | hk
  · rw [blit_lt _ _ (by omega), blit_mid _ _ _ hk,
      blit_mid _ _ _ (by rw [List.length_append]; omega), List.getElem_append_left hk]
  obtain ⟨l, rfl⟩ := Nat.exists_eq_add_of_le hk
  rcases Nat.lt_or_ge l bs.length with hl | hl
  · rw [← Nat.add_assoc, blit_mid _ _ _ hl, Nat.add_assoc,
      blit_mid _ _ _ (by rw [List.length_append]; omega)]
    rw [List.getElem_append_right (by omega)]
    simp
  · rw [blit_ge _ _ (by omega), blit_ge _ _ (by omega),
      blit_ge _ _ (by rw [List.length_append]; omega)]

/-- A block can be stored from its last byte on. -/
theorem set_blit (m : Mem) (i : ℕ) (bs : List UInt8) (b : UInt8) :
    (m.set (i + bs.length) b).blit i bs = m.blit i (bs ++ [b]) := by
  rw [← blit_append, ← set_eq_blit]
  funext j
  by_cases hlast : j = i + bs.length
  · rw [hlast, blit_ge _ _ (Nat.le_refl _), set_same, set_same]
  rw [set_ne _ _ hlast]
  rcases Nat.lt_or_ge j i with hlt | hge
  · rw [blit_lt _ _ hlt, blit_lt _ _ hlt, set_ne _ _ hlast]
  obtain ⟨k, rfl⟩ := Nat.exists_eq_add_of_le hge
  rcases Nat.lt_or_ge k bs.length with hk | hk
  · rw [blit_mid _ _ _ hk, blit_mid _ _ _ hk]
  · rw [blit_ge _ _ (by omega), blit_ge _ _ (by omega), set_ne _ _ hlast]

/-- Copying a block is storing its first byte and copying the rest behind it. -/
theorem blit_cons (m : Mem) (i : ℕ) (b : UInt8) (bs : List UInt8) :
    m.blit i (b :: bs) = (m.set i b).blit (i + 1) bs := by
  rw [set_eq_blit]
  exact (blit_append m i [b] bs).symm

@[simp] theorem take_zero (m : Mem) : m.take 0 = [] := rfl

@[simp] theorem length_take (m : Mem) (n : ℕ) : (m.take n).length = n := by simp [take]

@[simp] theorem getElem_take (m : Mem) (n i : ℕ) (h : i < (m.take n).length) :
    (m.take n)[i] = m i := by simp [take]

theorem take_succ (m : Mem) (n : ℕ) : m.take (n + 1) = m 0 :: (m.shift 1).take n := by
  simp only [take, List.range_succ_eq_map, List.map_cons, List.map_map]
  congr 1
  apply List.map_congr_left
  intro i _
  simp [shift, Nat.add_comm]

/-- Storing the next byte adds it to what was there. -/
theorem take_set_succ (m : Mem) (n : ℕ) (b : UInt8) :
    (m.set n b).take (n + 1) = m.take n ++ [b] := by
  rw [take, List.range_succ, List.map_append, List.map_singleton, set_same]
  congr 1
  apply List.map_congr_left
  intro i hi
  exact set_ne m b (Nat.ne_of_lt (List.mem_range.mp hi))

theorem take_take (m : Mem) (n i : ℕ) : (m.take n).take i = m.take (min i n) := by
  apply List.ext_getElem
  · simp
  · intro k _ _
    simp

theorem drop_take (m : Mem) (n i : ℕ) : (m.take n).drop i = (m.shift i).take (n - i) := by
  apply List.ext_getElem
  · simp
  · intro k _ _
    simp [shift]

/-- A block just copied in is read back. -/
theorem take_shift_blit (m : Mem) (i : ℕ) (bs : List UInt8) {n : ℕ} (hn : n = bs.length) :
    ((m.blit i bs).shift i).take n = bs := by
  subst hn
  apply List.ext_getElem (by simp)
  intro k h₁ h₂
  rw [getElem_take]
  exact blit_mid m i bs h₂

/-- Copying back what is there changes nothing. -/
theorem blit_take (m : Mem) (i n : ℕ) : m.blit i ((m.shift i).take n) = m := by
  funext j
  rcases Nat.lt_or_ge j i with hlt | hge
  · exact blit_lt m _ hlt
  obtain ⟨k, rfl⟩ := Nat.exists_eq_add_of_le hge
  rcases Nat.lt_or_ge k n with hk | hk
  · rw [blit_mid m i _ (by rwa [length_take]), getElem_take]
    rfl
  · exact blit_ge m _ (by rw [length_take]; omega)

/-- A copied block that is followed by another one is read back. -/
theorem take_blit_append (m : Mem) (as bs : List UInt8) :
    (m.blit 0 (as ++ bs)).take as.length = as := by
  have hread := take_shift_blit m 0 as rfl
  rw [shift_zero] at hread
  have hcut : (m.blit 0 (as ++ bs)).take as.length = (m.blit 0 as).take as.length := by
    rw [← blit_append]
    apply List.map_congr_left
    intro i hi
    have hlt := List.mem_range.mp hi
    exact blit_lt _ _ (by omega)
  rw [hcut, hread]

end Mem

/-! ## Counters of eight bits -/

/-- A counter below 255 does not wrap. -/
theorem toNat_succ {i : UInt8} (h : i.toNat < 255) : (i + 1).toNat = i.toNat + 1 := by
  simp only [UInt8.toNat_add, UInt8.reduceToNat]
  omega

/-! ## Exclusive or -/

/-- The exclusive or of all bytes of a list. -/
def xorAll (bs : List UInt8) : UInt8 := bs.foldl (· ^^^ ·) 0

theorem foldl_xor (bs : List UInt8) (a : UInt8) : bs.foldl (· ^^^ ·) a = a ^^^ xorAll bs := by
  induction bs generalizing a with
  | nil => simp [xorAll]
  | cons b bs ih =>
    have hb : xorAll (b :: bs) = b ^^^ xorAll bs := by
      simp only [xorAll, List.foldl_cons, UInt8.zero_xor]
      exact ih b
    rw [List.foldl_cons, ih, hb, UInt8.xor_assoc]

@[simp] theorem xorAll_nil : xorAll [] = 0 := rfl

@[simp] theorem xorAll_cons (b : UInt8) (bs : List UInt8) :
    xorAll (b :: bs) = b ^^^ xorAll bs := by
  simp only [xorAll, List.foldl_cons, UInt8.zero_xor]
  exact foldl_xor bs b

theorem xorAll_append (as bs : List UInt8) : xorAll (as ++ bs) = xorAll as ^^^ xorAll bs := by
  induction as with
  | nil => simp
  | cons a as ih => rw [List.cons_append, xorAll_cons, xorAll_cons, ih, UInt8.xor_assoc]

/-- Another byte in one place gives another result. -/
theorem xorAll_set_ne {bs : List UInt8} {i : ℕ} {b : UInt8} (hi : i < bs.length)
    (hb : b ≠ bs[i]) : xorAll (bs.set i b) ≠ xorAll bs := by
  induction bs generalizing i with
  | nil => exact absurd hi (Nat.not_lt_zero i)
  | cons c bs ih =>
    cases i with
    | zero =>
      rw [List.set_cons_zero, xorAll_cons, xorAll_cons, ne_eq, UInt8.xor_left_inj]
      exact hb
    | succ i =>
      rw [List.set_cons_succ, xorAll_cons, xorAll_cons, ne_eq, UInt8.xor_right_inj]
      exact ih (Nat.lt_of_succ_lt_succ hi) hb

end ZnpHost.Lib
