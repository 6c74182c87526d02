import Mathlib.Algebra.Group.Nat.Defs
import ZnpHost.Lib.Layout

/-!
# Encodings and the readers that undo them

An encoding of a record is the concatenation of the encodings of its parts, numbers low
byte first.  `Undoes` relates a reader to the encoding of one value; its rules follow the
reader part by part, so that a decoder is shown to be right in the order in which it reads.

## Main definitions

* `leBytes` — a number in some bytes, low byte first.
* `toNat_putEach` — a loop that puts a number together from its bytes.
* `Undoes` — the reader, run on these bytes and whatever follows, gives this value.
* `Undoes.bind`, `Undoes.times`, `Undoes.of_counts` — its rules.
* `Undoes.bind_iff` — the rule by which `simp` follows a reader from field to field.
* `many` — a reader run again and again on a stream.
* `many_flatMap` — on a stream of encodings that stops within one.
-/

namespace ZnpHost.Lib

open Reader

/-! ## Numbers -/

/-- The low `w` bytes of a number, the lowest one first. -/
def leBytes : ℕ → ℕ → List UInt8
  | 0, _ => []
  | w + 1, n => UInt8.ofNat n :: leBytes w (n / 256)

@[simp] theorem length_leBytes (w n : ℕ) : (leBytes w n).length = w := by
  induction w generalizing n with
  | zero => rfl
  | succ w ih => rw [leBytes, List.length_cons, ih]

/-- The number is found in its bytes. -/
theorem leNat_leBytes {w n : ℕ} (h : n < 256 ^ w) : leNat (leBytes w n) = n := by
  induction w generalizing n with
  | zero =>
    rw [Nat.pow_zero] at h
    rw [leBytes, leNat]
    omega
  | succ w ih =>
    have hdiv : n / 256 < 256 ^ w := by
      rw [Nat.pow_succ] at h
      omega
    rw [leBytes, leNat, ih hdiv, UInt8.toNat_ofNat']
    omega

/-- A byte put above the bytes put together so far. -/
theorem or_shiftLeft_eq {x i : ℕ} (hx : x < 256 ^ i) (b : ℕ) :
    x ||| b * 2 ^ (i * 8) = x + 256 ^ i * b := by
  have hpow : 256 ^ i = 2 ^ (i * 8) := by
    rw [Nat.mul_comm, Nat.pow_mul]
  rw [hpow, Nat.or_comm, Nat.mul_comm, ← Nat.two_pow_add_eq_or_of_lt (hpow ▸ hx), Nat.add_comm]

/-- It fits below the next multiple of eight bits. -/
theorem toNat_mul_two_pow_lt (b : UInt8) {i k : ℕ} (hi : i < k) :
    b.toNat * 2 ^ (i * 8) < 2 ^ (k * 8) := by
  have hb := b.toNat_lt
  calc b.toNat * 2 ^ (i * 8)
      < 2 ^ 8 * 2 ^ (i * 8) := Nat.mul_lt_mul_of_pos_right hb (Nat.two_pow_pos _)
    _ = 2 ^ (8 + i * 8) := (Nat.pow_add 2 8 (i * 8)).symm
    _ ≤ 2 ^ (k * 8) := Nat.pow_le_pow_right (by decide) (by omega)

/-- A loop that puts each byte above the ones before it puts a number together, low byte
first.  `w` is the number of bytes the type has room for. -/
theorem toNat_putEach {α : Type} {w : ℕ} (toNat : α → ℕ)
    {put : UInt8 → ℕ → α → α} (putEach : List UInt8 → ℕ → α → α)
    (hnil : ∀ i x, putEach [] i x = x)
    (hcons : ∀ b bs i x, putEach (b :: bs) i x = putEach bs (i + 1) (put b i x))
    (hput : ∀ b i x, i < w → toNat x < 256 ^ i → toNat (put b i x) = toNat x + 256 ^ i * b.toNat)
    (bs : List UInt8) (i : ℕ) (x : α) (hi : i + bs.length ≤ w) (hx : toNat x < 256 ^ i) :
    toNat (putEach bs i x) = toNat x + 256 ^ i * leNat bs := by
  induction bs generalizing i x with
  | nil => simp [hnil, leNat]
  | cons b bs ih =>
    rw [List.length_cons] at hi
    have hb := b.toNat_lt
    have hstep := hput b i x (by omega) hx
    have hlt : toNat (put b i x) < 256 ^ (i + 1) := by
      rw [hstep, Nat.pow_succ]
      have hmul : 256 ^ i * b.toNat ≤ 256 ^ i * 255 := Nat.mul_le_mul_left _ (by omega)
      omega
    rw [hcons, ih (i + 1) _ (by omega) hlt, hstep, leNat, Nat.pow_succ, Nat.mul_add,
      Nat.mul_assoc, Nat.add_assoc]

/-- Records of the same length, one after the other. -/
theorem length_flatMap_const {ρ : Type} {enc : ρ → List UInt8} {m : ℕ}
    (h : ∀ r, (enc r).length = m) (rs : List ρ) : (rs.flatMap enc).length = rs.length * m := by
  induction rs with
  | nil => rw [List.flatMap_nil, List.length_nil, List.length_nil, Nat.zero_mul]
  | cons r rs ih =>
    rw [List.flatMap_cons, List.length_append, h, ih, List.length_cons, Nat.succ_mul, Nat.add_comm]

/-! ## Readers of an encoding -/

variable {α β : Type} {d : Reader α} {f : α → Reader β} {bs cs : List UInt8} {a : α} {b : β}

/-- The reader takes exactly these bytes, whatever follows them, and its result is `a`. -/
def Undoes (d : Reader α) (bs : List UInt8) (a : α) : Prop :=
  ∀ rest, d.parse (bs ++ rest) = some (a, rest)

namespace Undoes

/-- A message that holds nothing else. -/
theorem parse_eq (h : Undoes d bs a) : d.parse bs = some (a, []) := by
  have hall := h []
  rwa [List.append_nil] at hall

theorem of_parse (h : d.parse bs = some (a, [])) : Undoes d bs a := fun rest =>
  parse_append d h rest

/-- A reader that takes as many bytes as there are. -/
theorem of_takes {n : ℕ} {P : α → Prop} (h : Takes n d P) (hn : bs.length = n) :
    ∃ a, P a ∧ Undoes d bs a := by
  obtain ⟨a, hparse, ha⟩ := h.some_of_le bs (Nat.le_of_eq hn.symm)
  rw [← hn, List.drop_length] at hparse
  exact ⟨a, ha, of_parse hparse⟩

theorem done (a : α) : Undoes (.done a) [] a := fun _ => rfl

theorem bind (hd : Undoes d bs a) (hf : Undoes (f a) cs b) : Undoes (d >>= f) (bs ++ cs) b := by
  intro rest
  rw [List.append_assoc, parse_bind, hd, Option.bind_some]
  exact hf rest

/-- Behind its bytes the reader goes on with its value. -/
theorem bind_iff (hd : Undoes d bs a) : Undoes (d >>= f) (bs ++ cs) b ↔ Undoes (f a) cs b := by
  apply forall_congr'
  intro rest
  rw [List.append_assoc, parse_bind, hd, Option.bind_some]

theorem last_iff (hd : Undoes d bs a) : Undoes (d >>= f) bs b ↔ Undoes (f a) [] b := by
  rw [← hd.bind_iff, List.append_nil]

@[simp] theorem done_iff {a' : α} : Undoes (.done a) [] a' ↔ a = a' := by
  constructor
  · intro h
    exact (Prod.mk.inj (Option.some.inj (h []))).1
  · rintro rfl
    exact done a

theorem map {g : α → β} (hd : Undoes d bs a) : Undoes (d >>= fun a => .done (g a)) bs (g a) := by
  have hbind := hd.bind (f := fun a => .done (g a)) (.done (g a))
  rwa [List.append_nil] at hbind

theorem fmap {g : α → β} (hd : Undoes d bs a) : Undoes (g <$> d) bs (g a) := hd.map

theorem byte (b : UInt8) : Undoes byte [b] b := fun rest => parse_byte_cons b rest

@[simp] theorem byte_bind_iff {f : UInt8 → Reader β} {c : UInt8} :
    Undoes (Reader.byte >>= f) (c :: cs) b ↔ Undoes (f c) cs b :=
  (byte c).bind_iff

/-- A list whose length is known to the reader. -/
theorem times {enc : α → List UInt8} {as : List α} (hd : ∀ a ∈ as, Undoes d (enc a) a) :
    Undoes (times as.length d) (as.flatMap enc) as := by
  induction as with
  | nil => exact done []
  | cons a as ih =>
    rw [List.flatMap_cons]
    exact bind (hd a List.mem_cons_self) (ih fun a' ha' => hd a' (List.mem_cons_of_mem a ha')).map

/-- A list of bytes. -/
theorem bytes (bs : List UInt8) : Undoes (Reader.times bs.length Reader.byte) bs bs := by
  have hbyte : ∀ b ∈ bs, Undoes Reader.byte [b] b := fun b _ => byte b
  have hall := times hbyte
  rwa [List.flatMap_singleton'] at hall

/-- The bytes of a number, read one by one. -/
theorem number (w n : ℕ) : Undoes (Reader.times w Reader.byte) (leBytes w n) (leBytes w n) := by
  have hall := bytes (leBytes w n)
  rwa [length_leBytes] at hall

/-- A reader that counts reads a number in little-endian order. -/
theorem of_counts {w : ℕ} {toNat : α → ℕ} (hd : Counts w d toNat)
    (hinj : Function.Injective toNat) (hlt : toNat a < 256 ^ w) :
    Undoes d (leBytes w (toNat a)) a := by
  intro rest
  obtain ⟨a', hparse, hval⟩ := hd.some_of_le (leBytes w (toNat a) ++ rest) (by simp)
  rw [List.take_left' (length_leBytes w _), leNat_leBytes hlt] at hval
  rw [hparse, List.drop_left' (length_leBytes w _), hinj hval]

/-- A reader does not get to the end of an encoding that was cut off. -/
theorem parse_cut {left : List UInt8} (h : Undoes d (bs ++ left) a) (hleft : left ≠ []) :
    d.parse bs = none := by
  cases hparse : d.parse bs with
  | none => rfl
  | some x =>
    have hwhole := parse_append d hparse left
    rw [h.parse_eq] at hwhole
    simp [hleft] at hwhole

end Undoes

/-! ## Streams -/

/-- Run a reader again and again, at most `n` times; the bytes left over are those on which it
fails. -/
def many (d : Reader α) : ℕ → List UInt8 → List α × List UInt8
  | 0, bs => ([], bs)
  | n + 1, bs =>
    match d.parse bs with
    | none => ([], bs)
    | some (a, rest) => (a :: (many d n rest).1, (many d n rest).2)

/-- **A stream of encodings that stops within one** gives the values encoded as a whole. -/
theorem many_flatMap {ρ : Type} {enc : ρ → List UInt8} {value : ρ → α} {rs : List ρ}
    {cut : List UInt8} {n : ℕ} (hd : ∀ r ∈ rs, Undoes d (enc r) (value r))
    (hcut : d.parse cut = none) (hn : rs.length ≤ n) :
    many d n (rs.flatMap enc ++ cut) = (rs.map value, cut) := by
  induction rs generalizing n with
  | nil =>
    cases n with
    | zero => rfl
    | succ n => simp [many, hcut]
  | cons r rs ih =>
    cases n with
    | zero => simp at hn
    | succ n =>
      have hr := hd r List.mem_cons_self (rs.flatMap enc ++ cut)
      have hrest := ih (fun r hr => hd r (List.mem_cons_of_mem _ hr)) (Nat.le_of_succ_le_succ hn)
      rw [List.flatMap_cons, List.append_assoc, many, hr]
      simp [hrest]

end ZnpHost.Lib
