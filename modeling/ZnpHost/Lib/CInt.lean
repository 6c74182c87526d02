import Mathlib.Data.Int.ModEq

/-!
# Integer types of C

An integer type has a width and is signed or not.  A value converted to it is reduced modulo
two to the width, to the one representative in the range of the type.

## Main definitions

* `CType` — an integer type.
* `CType.max` — its largest value.
* `CType.wrap` — the conversion to it.
-/

namespace ZnpHost.Lib

/-- An integer type: unsigned, or signed in two's complement. -/
structure CType where
  bits : ℕ
  signed : Bool
  bits_pos : 0 < bits

namespace CType

/-- `int32_t`. -/
def int32 : CType := ⟨32, true, by decide⟩

/-- `uint32_t`. -/
def uint32 : CType := ⟨32, false, by decide⟩

/-- The largest value of the type. -/
def max (t : CType) : ℤ := if t.signed then 2 ^ (t.bits - 1) - 1 else 2 ^ t.bits - 1

/-- A value converted to the type. -/
def wrap (t : CType) (x : ℤ) : ℤ := if t.signed then x.bmod (2 ^ t.bits) else x % 2 ^ t.bits

variable {t t' : CType} {x y : ℤ}

theorem two_pow_le {m n : ℕ} (h : m ≤ n) : (2 : ℤ) ^ m ≤ 2 ^ n := by
  exact_mod_cast Nat.pow_le_pow_right (by decide : 0 < 2) h

theorem two_pow_bits_pos (t : CType) : (0 : ℤ) < 2 ^ t.bits := Int.pow_pos (by decide)

theorem two_pow_bits (t : CType) : (2 : ℤ) ^ t.bits = 2 * 2 ^ (t.bits - 1) := by
  obtain ⟨n, hn⟩ := Nat.exists_eq_add_of_lt t.bits_pos
  rw [hn, Nat.zero_add, Nat.add_sub_cancel, pow_succ, mul_comm]

theorem wrap_uint32 (x : ℤ) : uint32.wrap x = x % 2 ^ 32 := rfl

theorem wrap_uint32_natCast (n : ℕ) : uint32.wrap n = (n % 2 ^ 32 : ℕ) := rfl

theorem wrap_uint32_of_lt {n : ℕ} (h : n < 2 ^ 32) : uint32.wrap n = n := by
  rw [wrap_uint32_natCast, Nat.mod_eq_of_lt h]

/-- A negative value becomes its complement. -/
theorem wrap_uint32_neg {n : ℕ} (h : n ≤ 2 ^ 32) :
    uint32.wrap (-n) = ((2 ^ 32 - n) % 2 ^ 32 : ℕ) := by
  rw [← wrap_uint32_natCast, wrap_uint32, wrap_uint32]
  omega

/-- A conversion changes a value by a multiple of two to the width. -/
theorem wrap_modEq (t : CType) (x : ℤ) : t.wrap x ≡ x [ZMOD 2 ^ t.bits] := by
  rw [wrap]
  split
  · have hdvd := Int.dvd_self_sub_bmod (x := x) (m := 2 ^ t.bits)
    rw [Nat.cast_pow, Nat.cast_ofNat] at hdvd
    exact Int.modEq_iff_dvd.mpr hdvd
  · exact Int.mod_modEq x _

/-- Values are equal after the conversion exactly when they are congruent. -/
theorem wrap_eq_wrap_iff : t.wrap x = t.wrap y ↔ x ≡ y [ZMOD 2 ^ t.bits] := by
  constructor
  · intro h
    exact (t.wrap_modEq x).symm.trans (h ▸ t.wrap_modEq y)
  · intro h
    rw [wrap, wrap]
    split
    · rw [← Int.emod_bmod x, ← Int.emod_bmod y, Nat.cast_pow, Nat.cast_ofNat, h]
    · exact h

/-- A conversion through a type that is at least as wide makes no difference. -/
theorem wrap_modEq_of_le (h : t.bits ≤ t'.bits) (x : ℤ) : t'.wrap x ≡ x [ZMOD 2 ^ t.bits] :=
  (t'.wrap_modEq x).of_dvd (pow_dvd_pow 2 h)

theorem wrap_le_max (t : CType) (x : ℤ) : t.wrap x ≤ t.max := by
  rw [wrap, max]
  split
  · have hlt := Int.bmod_lt (x := x) (m := 2 ^ t.bits) (Nat.two_pow_pos _)
    rw [Nat.cast_pow, Nat.cast_ofNat] at hlt
    have htwo := t.two_pow_bits
    omega
  · have hlt := Int.emod_lt_of_pos x t.two_pow_bits_pos
    omega

/-- A value in the range of the type is kept. -/
theorem wrap_of_le_max (h0 : 0 ≤ x) (hx : x ≤ t.max) : t.wrap x = x := by
  rw [max] at hx
  rw [wrap]
  split at hx
  · next hs =>
    have htwo := t.two_pow_bits
    rw [if_pos hs]
    apply Int.bmod_eq_of_le
    · push_cast
      omega
    · push_cast
      omega
  · next hs =>
    rw [if_neg hs]
    exact Int.emod_eq_of_lt h0 (by omega)

/-- A value above the range loses at least two to the width. -/
theorem wrap_of_max_lt (hx : t.max < x) : t.wrap x + 2 ^ t.bits ≤ x := by
  obtain ⟨k, hk⟩ := Int.modEq_iff_add_fac.mp (t.wrap_modEq x)
  have hle := t.wrap_le_max x
  have hpow := t.two_pow_bits_pos
  have hpos : 0 < k := by
    by_contra hneg
    have hmul : (2 : ℤ) ^ t.bits * k ≤ 2 ^ t.bits * 0 :=
      Int.mul_le_mul_of_nonneg_left (by omega) hpow.le
    omega
  have hmul : (2 : ℤ) ^ t.bits * 1 ≤ 2 ^ t.bits * k :=
    Int.mul_le_mul_of_nonneg_left (by omega) hpow.le
  omega

end CType

end ZnpHost.Lib
