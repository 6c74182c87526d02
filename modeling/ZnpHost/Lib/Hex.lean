import Mathlib.Data.Int.Notation
import Mathlib.Data.Nat.Log
import ZnpHost.Lib.Encoding

/-!
# Hexadecimal text

What `sscanf` reads and `sprintf` prints under `%x`.  A number is printed with at least the
digits asked for; two digits at a time are a byte.

## Main definitions

* `scanX`, `scan2hhx` — the conversions `%x` and `%2hhx` on a string.
* `digitsX`, `sprintfX` — the low digits of a number, and the conversion `%0nX`.
* `byteText` — the two digits of a byte.
* `digitsX_eq` — the digits of a number are the texts of its bytes, high byte first.
-/

namespace ZnpHost.Lib

/-! ## Reading -/

/-- `isspace`. -/
def isSpace (c : UInt8) : Bool := c = 32 ∨ (9 ≤ c ∧ c ≤ 13)

/-- The value of a digit, upper or lower case. -/
def digitOf (c : UInt8) : Option ℕ :=
  if 48 ≤ c ∧ c ≤ 57 then some (c.toNat - 48)
  else if 65 ≤ c ∧ c ≤ 70 then some (c.toNat - 55)
  else if 97 ≤ c ∧ c ≤ 102 then some (c.toNat - 87)
  else none

/-- The number in the digits that a text begins with, behind others that make `n`. -/
def readDigits : ℕ → List UInt8 → ℕ
  | n, [] => n
  | n, c :: cs =>
    match digitOf c with
    | none => n
    | some d => readDigits (16 * n + d) cs

/-- At least one digit. -/
def readUnsigned : List UInt8 → Option ℕ
  | [] => none
  | c :: cs => (digitOf c).map fun d => readDigits d cs

/-- The digits may follow a `0x`. -/
def readPrefixed : List UInt8 → Option ℕ
  | 48 :: c :: cs => if c = 120 ∨ c = 88 then readUnsigned cs else readUnsigned (48 :: c :: cs)
  | cs => readUnsigned cs

/-- There may be a sign in front. -/
def readSigned : List UInt8 → Option ℤ
  | 43 :: cs => (readPrefixed cs).map Int.ofNat
  | 45 :: cs => (readPrefixed cs).map fun n => -Int.ofNat n
  | cs => (readPrefixed cs).map Int.ofNat

/-- `sscanf(s, "%x", ..)`: the number, if there is one. -/
def scanX (s : List UInt8) : Option ℤ := readSigned (s.dropWhile isSpace)

/-- `sscanf(s, "%2hhx", ..)`: the byte stored, if there is a number in two characters. -/
def scan2hhx (s : List UInt8) : Option UInt8 :=
  (readSigned ((s.dropWhile isSpace).take 2)).map fun v => UInt8.ofNat (v % 256).toNat

/-! ## Printing -/

/-- The digit of a value below 16. -/
def hexChar (d : ℕ) : UInt8 := if d < 10 then UInt8.ofNat (48 + d) else UInt8.ofNat (55 + d)

/-- The last `k` digits of a number. -/
def digitsX : ℕ → ℕ → List UInt8
  | 0, _ => []
  | k + 1, n => digitsX k (n / 16) ++ [hexChar (n % 16)]

/-- `sprintf(.., "%0kX", n)`. -/
def sprintfX (k n : ℕ) : List UInt8 := digitsX (max k (Nat.log 16 n + 1)) n

/-- The digits of a byte. -/
def byteText (b : UInt8) : List UInt8 := [hexChar (b.toNat / 16), hexChar (b.toNat % 16)]

theorem digitOf_hexChar : ∀ d < 16, digitOf (hexChar d) = some d := by decide

@[simp] theorem length_digitsX (k n : ℕ) : (digitsX k n).length = k := by
  induction k generalizing n with
  | zero => rfl
  | succ k ih => simp [digitsX, ih]

/-- The last digits stand behind those of the number without them. -/
theorem digitsX_add (j k n : ℕ) :
    digitsX (j + k) n = digitsX j (n / 16 ^ k) ++ digitsX k n := by
  induction k generalizing n with
  | zero => simp [digitsX]
  | succ k ih =>
    rw [← Nat.add_assoc, digitsX, digitsX, ih, Nat.div_div_eq_div_mul, List.append_assoc,
      Nat.pow_succ, Nat.mul_comm]

/-- Two digits for every byte. -/
theorem digitsX_eq (w n : ℕ) :
    digitsX (2 * w) n = (leBytes w n).reverse.flatMap byteText := by
  induction w generalizing n with
  | zero => rfl
  | succ w ih =>
    have hpair : digitsX 2 n = byteText (UInt8.ofNat n) := by
      have hhigh : n % 256 / 16 = n / 16 % 16 := by omega
      have hlow : n % 256 % 16 = n % 16 := by omega
      simp [digitsX, byteText, hhigh, hlow]
    have hbyte : n / 16 ^ 2 = n / 256 := rfl
    rw [Nat.mul_succ, digitsX_add, ih, hpair, hbyte, leBytes, List.reverse_cons,
      List.flatMap_append, List.flatMap_singleton]

/-- The characters printed for a number begin with the texts of `w` bytes, which are its own if
it has no more. -/
theorem exists_sprintfX (w n : ℕ) (hw : 0 < w) :
    ∃ m k, sprintfX (2 * w) n = (leBytes w m).reverse.flatMap byteText ++ digitsX k n ∧
      (n < 256 ^ w → m = n) := by
  obtain ⟨k, hk⟩ : ∃ k, max (2 * w) (Nat.log 16 n + 1) = 2 * w + k :=
    Nat.exists_eq_add_of_le (Nat.le_max_left _ _)
  refine ⟨n / 16 ^ k, k, ?_, ?_⟩
  · rw [sprintfX, hk, digitsX_add, digitsX_eq]
  · intro hn
    have hlog : Nat.log 16 n < 2 * w := by
      apply Nat.log_lt_of_lt_pow'
      · omega
      · rwa [Nat.pow_mul]
    obtain rfl : k = 0 := by omega
    simp

theorem mem_digitsX {k n : ℕ} {c : UInt8} (h : c ∈ digitsX k n) : ∃ d < 16, hexChar d = c := by
  induction k generalizing n with
  | zero => simp [digitsX] at h
  | succ k ih =>
    rw [digitsX, List.mem_append, List.mem_singleton] at h
    cases h with
    | inl hin => exact ih hin
    | inr heq => exact ⟨n % 16, Nat.mod_lt _ (by decide), heq.symm⟩

theorem length_sprintfX_lt {k n w : ℕ} (hk : k ≤ w) (hn : n < 16 ^ w) (hw : w ≠ 0) :
    (sprintfX k n).length ≤ w := by
  have hlog := Nat.log_lt_of_lt_pow' hw hn
  rw [sprintfX, length_digitsX]
  omega

/-! ## Two digits -/

variable {c a b : UInt8} {x y : ℕ} {cs : List UInt8}

/-- A digit is none of the other characters of a number, and no separator. -/
structure IsDigit (c : UInt8) : Prop where
  nul : c ≠ 0
  colon : c ≠ 58
  plus : c ≠ 43
  minus : c ≠ 45
  lower : c ≠ 120
  upper : c ≠ 88
  space : isSpace c = false

theorem le_of_digitOf (h : digitOf c = some x) : 48 ≤ c.toNat := by
  by_contra hlt
  have hnone : digitOf c = none := by
    simp only [digitOf, UInt8.le_iff_toNat_le, UInt8.reduceToNat]
    rw [if_neg (by omega), if_neg (by omega), if_neg (by omega)]
  rw [hnone] at h
  cases h

theorem isDigit_of_digitOf (h : digitOf c = some x) : IsDigit c := by
  have hle := le_of_digitOf h
  constructor
  case space =>
    simp only [isSpace, UInt8.le_iff_toNat_le, UInt8.reduceToNat, ← UInt8.toNat_inj]
    simp only [decide_eq_false_iff_not]
    omega
  all_goals
    rintro rfl
    exact absurd h (by simp [digitOf])

/-- `%2hhx` reads two digits. -/
theorem scan2hhx_pair (ha : digitOf a = some x) (hb : digitOf b = some y) :
    scan2hhx (a :: b :: cs) = some (UInt8.ofNat (16 * x + y)) := by
  have hda := isDigit_of_digitOf ha
  have hdb := isDigit_of_digitOf hb
  have hnum : readUnsigned [a, b] = some (16 * x + y) := by
    simp [readUnsigned, readDigits, ha, hb]
  have hprefixed : readPrefixed [a, b] = readUnsigned [a, b] := by
    by_cases hzero : a = 48
    · subst hzero
      simp [readPrefixed, hdb.lower, hdb.upper]
    · rw [readPrefixed]
      intro c cs hcs
      exact absurd (List.cons.inj hcs).1 hzero
  have hsigned : readSigned [a, b] = some ((16 * x + y : ℕ) : ℤ) := by
    rw [readSigned, hprefixed, hnum, Option.map_some, Int.ofNat_eq_natCast]
    · intro cs hcs
      exact hda.plus (List.cons.inj hcs).1
    · intro cs hcs
      exact hda.minus (List.cons.inj hcs).1
  rw [scan2hhx, List.dropWhile_cons_of_neg (by simp [hda.space])]
  have hbyte : ((16 * x + y : ℕ) : ℤ) % 256 = ((16 * x + y) % 256 : ℕ) := by omega
  simp only [List.take_succ_cons, List.take_zero, hsigned, Option.map_some, hbyte,
    Int.toNat_natCast]
  exact congrArg some UInt8.ofNat_mod_size

end ZnpHost.Lib
