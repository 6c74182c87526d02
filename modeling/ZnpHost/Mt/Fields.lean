import ZnpHost.Lib.Encoding
import ZnpHost.Mt.Cmd
import ZnpHost.Mt.Layouts

/-!
# Fields and their encodings

Words are stored byte by byte with `LO_UINT16` and `HI_UINT16` and read back with
`BUILD_UINT16` or a loop over the bytes.  Both are the little-endian encoding.

## Main definitions

* `loHi_eq_leBytes` — what a builder stores for a word.
* `undoes_word`, `undoes_dword`, `undoes_qword` — what a decoder reads for it.
* `Item`, `Part` — the fields of a request, and what is known of them beforehand.
* `undoes_readParts` — the fields are found in their encoding.
-/

namespace ZnpHost.Mt

open Lib Reader

/-! ## Words -/

theorem loUint16_eq (a : UInt16) : loUint16 a = UInt8.ofNat a.toNat := by
  apply UInt8.toNat_inj.mp
  have hand := Nat.and_two_pow_sub_one_eq_mod (a.toNat % 256) 8
  simpa [loUint16] using hand

theorem hiUint16_eq (a : UInt16) : hiUint16 a = UInt8.ofNat (a.toNat / 256) := by
  apply UInt8.toNat_inj.mp
  have hand := Nat.and_two_pow_sub_one_eq_mod (a.toNat / 256 % 256) 8
  simpa [hiUint16, Nat.shiftRight_eq_div_pow] using hand

/-- The two bytes of a word are stored low byte first. -/
theorem loHi_eq_leBytes (a : UInt16) : [loUint16 a, hiUint16 a] = leBytes 2 a.toNat := by
  rw [loUint16_eq, hiUint16_eq]
  rfl

theorem undoes_word (a : UInt16) : Undoes word (leBytes 2 a.toNat) a :=
  .of_counts counts_word (fun _ _ h => UInt16.toNat_inj.mp h) a.toNat_lt

/-- One more byte goes above the bytes put together so far. -/
theorem toNat_or_shiftLeft32 {x : UInt32} {i : ℕ} (hi : i < 4) (hx : x.toNat < 256 ^ i)
    (b : UInt8) :
    (x ||| b.toUInt32 <<< UInt32.ofNat (i * 8)).toNat = x.toNat + 256 ^ i * b.toNat := by
  have hshift : (UInt32.ofNat (i * 8)).toNat % 32 = i * 8 := by
    rw [UInt32.toNat_ofNat']
    omega
  rw [UInt32.toNat_or, UInt32.toNat_shiftLeft, UInt8.toNat_toUInt32, hshift, Nat.shiftLeft_eq,
    Nat.mod_eq_of_lt (toNat_mul_two_pow_lt b hi), or_shiftLeft_eq hx]

theorem toNat_or_shiftLeft {x : UInt64} {i : ℕ} (hi : i < 8) (hx : x.toNat < 256 ^ i) (b : UInt8) :
    (x ||| b.toUInt64 <<< UInt64.ofNat (i * 8)).toNat = x.toNat + 256 ^ i * b.toNat := by
  have hshift : (UInt64.ofNat (i * 8)).toNat % 64 = i * 8 := by
    rw [UInt64.toNat_ofNat']
    omega
  rw [UInt64.toNat_or, UInt64.toNat_shiftLeft, UInt8.toNat_toUInt64, hshift, Nat.shiftLeft_eq,
    Nat.mod_eq_of_lt (toNat_mul_two_pow_lt b hi), or_shiftLeft_eq hx]

theorem orBytes32_leBytes (a : UInt32) : orBytes32 (leBytes 4 a.toNat) 0 0 = a := by
  apply UInt32.toNat_inj.mp
  have hput := toNat_putEach UInt32.toNat orBytes32 (fun _ _ => rfl) (fun _ _ _ _ => rfl)
    (fun b i x hi hx => toNat_or_shiftLeft32 hi hx b)
    (leBytes 4 a.toNat) 0 0 (by simp) (by decide)
  rw [hput, leNat_leBytes a.toNat_lt]
  simp

theorem orBytes64_leBytes (a : UInt64) : orBytes64 (leBytes 8 a.toNat) 0 0 = a := by
  apply UInt64.toNat_inj.mp
  have hput := toNat_putEach UInt64.toNat orBytes64 (fun _ _ => rfl) (fun _ _ _ _ => rfl)
    (fun b i x hi hx => toNat_or_shiftLeft hi hx b)
    (leBytes 8 a.toNat) 0 0 (by simp) (by decide)
  rw [hput, leNat_leBytes a.toNat_lt]
  simp

theorem undoes_dword (a : UInt32) : Undoes dword (leBytes 4 a.toNat) a := by
  have hword := (Undoes.number 4 a.toNat).map (g := fun bs => orBytes32 bs 0 0)
  rwa [orBytes32_leBytes] at hword

theorem undoes_qword (a : UInt64) : Undoes qword (leBytes 8 a.toNat) a := by
  have hword := (Undoes.number 8 a.toNat).map (g := fun bs => orBytes64 bs 0 0)
  rwa [orBytes64_leBytes] at hword

section Bind

variable {β : Type} {cs : List UInt8} {b : β}

@[simp] theorem undoes_word_bind {f : UInt16 → Reader β} {a : UInt16} :
    Undoes (word >>= f) (leBytes 2 a.toNat ++ cs) b ↔ Undoes (f a) cs b :=
  (undoes_word a).bind_iff

@[simp] theorem undoes_word_last {f : UInt16 → Reader β} {a : UInt16} :
    Undoes (word >>= f) (leBytes 2 a.toNat) b ↔ Undoes (f a) [] b :=
  (undoes_word a).last_iff

@[simp] theorem undoes_dword_bind {f : UInt32 → Reader β} {a : UInt32} :
    Undoes (dword >>= f) (leBytes 4 a.toNat ++ cs) b ↔ Undoes (f a) cs b :=
  (undoes_dword a).bind_iff

@[simp] theorem undoes_qword_bind {f : UInt64 → Reader β} {a : UInt64} :
    Undoes (qword >>= f) (leBytes 8 a.toNat ++ cs) b ↔ Undoes (f a) cs b :=
  (undoes_qword a).bind_iff

@[simp] theorem undoes_qword_last {f : UInt64 → Reader β} {a : UInt64} :
    Undoes (qword >>= f) (leBytes 8 a.toNat) b ↔ Undoes (f a) [] b :=
  (undoes_qword a).last_iff

end Bind

/-! ## The fields of a request -/

/-- The value of one field of a request. -/
inductive Item
  | u8 (x : UInt8)
  | u16 (x : UInt16)
  | u8s (xs : List UInt8)
  | u16s (xs : List UInt16)
  deriving DecidableEq

/-- The encoding of a field. -/
def Item.encode : Item → List UInt8
  | u8 x => [x]
  | u16 x => leBytes 2 x.toNat
  | u8s xs => xs
  | u16s xs => xs.flatMap fun x => leBytes 2 x.toNat

/-- The encodings of the fields, one after the other. -/
def encode (items : List Item) : List UInt8 := items.flatMap Item.encode

/-- The kinds of fields: a byte, a word, `n` bytes, and a list behind its length. -/
inductive Part
  | u8
  | u16
  | u8s (n : ℕ)
  | listU8
  | listU16

/-- A decoder for one kind. -/
def Part.read : Part → Reader (List Item)
  | u8 => do
    let x ← byte
    return [.u8 x]
  | u16 => do
    let x ← word
    return [.u16 x]
  | u8s n => do
    let xs ← times n byte
    return [.u8s xs]
  | listU8 => do
    let n ← byte
    let xs ← times n.toNat byte
    return [.u8 n, .u8s xs]
  | listU16 => do
    let n ← byte
    let xs ← times n.toNat word
    return [.u8 n, .u16s xs]

/-- A decoder for a request. -/
def readParts : List Part → Reader (List Item)
  | [] => .done []
  | p :: ps => do
    let xs ← p.read
    let ys ← readParts ps
    return xs ++ ys

/-- The fields are of these kinds, and each list has the length before it. -/
inductive Shapes : List Part → List Item → Prop
  | nil : Shapes [] []
  | u8 {ps : List Part} {items : List Item} (x : UInt8) :
      Shapes ps items → Shapes (.u8 :: ps) (.u8 x :: items)
  | u16 {ps : List Part} {items : List Item} (x : UInt16) :
      Shapes ps items → Shapes (.u16 :: ps) (.u16 x :: items)
  | u8s {ps : List Part} {items : List Item} {n : ℕ} {xs : List UInt8} :
      xs.length = n → Shapes ps items → Shapes (.u8s n :: ps) (.u8s xs :: items)
  | listU8 {ps : List Part} {items : List Item} {n : UInt8} {xs : List UInt8} :
      xs.length = n.toNat → Shapes ps items →
      Shapes (.listU8 :: ps) (.u8 n :: .u8s xs :: items)
  | listU16 {ps : List Part} {items : List Item} {n : UInt8} {xs : List UInt16} :
      xs.length = n.toNat → Shapes ps items →
      Shapes (.listU16 :: ps) (.u8 n :: .u16s xs :: items)

/-- A field that was read, in front of the rest. -/
theorem undoes_readParts_cons {p : Part} {ps : List Part} {xs ys : List Item}
    (hp : Undoes p.read (encode xs) xs) (hps : Undoes (readParts ps) (encode ys) ys) :
    Undoes (readParts (p :: ps)) (encode (xs ++ ys)) (xs ++ ys) := by
  rw [encode, List.flatMap_append]
  exact hp.bind hps.map

/-- The decoder for a list of words. -/
theorem undoes_words (xs : List UInt16) :
    Undoes (times xs.length word) (xs.flatMap fun x => leBytes 2 x.toNat) xs :=
  .times fun x _ => undoes_word x

/-- **The fields are found in their encoding.** -/
theorem undoes_readParts {ps : List Part} {items : List Item} (h : Shapes ps items) :
    Undoes (readParts ps) (encode items) items := by
  induction h with
  | nil => exact .done []
  | u8 x _ ih =>
    have hx : Undoes Part.u8.read (encode [.u8 x]) [.u8 x] := (Undoes.byte x).map
    exact undoes_readParts_cons hx ih
  | u16 x _ ih =>
    have hx : Undoes Part.u16.read (encode [.u16 x]) [.u16 x] := (undoes_word x).map
    exact undoes_readParts_cons hx ih
  | @u8s _ _ _ xs hlen _ ih =>
    subst hlen
    have hxs : Undoes (Part.u8s xs.length).read (encode [.u8s xs]) [.u8s xs] := by
      simpa [encode, Item.encode, Part.read] using
        (Undoes.bytes xs).map (g := fun xs => [Item.u8s xs])
    exact undoes_readParts_cons hxs ih
  | @listU8 _ _ n xs hlen _ ih =>
    have hbytes : Undoes (times n.toNat byte) xs xs := hlen ▸ Undoes.bytes xs
    have hxs : Undoes Part.listU8.read (encode [.u8 n, .u8s xs]) [.u8 n, .u8s xs] := by
      simpa [encode, Item.encode, Part.read] using
        hbytes.map (g := fun xs => [Item.u8 n, .u8s xs])
    exact undoes_readParts_cons hxs ih
  | @listU16 _ _ n xs hlen _ ih =>
    have hwords : Undoes (times n.toNat word) (xs.flatMap fun x => leBytes 2 x.toNat) xs :=
      hlen ▸ undoes_words xs
    have hxs : Undoes Part.listU16.read (encode [.u8 n, .u16s xs]) [.u8 n, .u16s xs] := by
      simpa [encode, Item.encode, Part.read] using
        hwords.map (g := fun xs => [Item.u8 n, .u16s xs])
    exact undoes_readParts_cons hxs ih

end ZnpHost.Mt
