import ZnpHost.Lib.CArray
import ZnpHost.Lib.Reader

/-!
# Message layouts

A layout lists the parts of a message: fields of a fixed width, and lists whose number
of elements the message declares just before them.  `Decodes` relates a reader to a
layout; its rules follow the reader field by field.

## Main definitions

* `Field`, `Layout` — the parts of a message.
* `Layout.Fits`, `Layout.Exact` — the message holds every part, and nothing else.
* `Layout.Within` — no list is longer than the array it is meant for; `Layout.Roomy` is a
  bound on the message under which this is always so.
* `Takes`, `Counts` — a reader of a fixed number of bytes, and of a number.
* `Decodes` — a reader of a layout.
-/

namespace ZnpHost.Lib

/-- One part of a message. -/
inductive Field
  | bytes (n : ℕ)
  /-- A number in `w` bytes, then as many elements of `size` bytes, for `cap` cells. -/
  | list (w size cap : ℕ)
  deriving DecidableEq

/-- The number in some bytes, low byte first. -/
def leNat : List UInt8 → ℕ
  | [] => 0
  | b :: bs => b.toNat + 256 * leNat bs

namespace Field

/-- The number of bytes of the part at the start of a message. -/
def span : Field → List UInt8 → ℕ
  | bytes n, _ => n
  | list w size _, bs => w + leNat (bs.take w) * size

/-- The declared number of elements is not larger than the array. -/
def Within : Field → List UInt8 → Prop
  | bytes _, _ => True
  | list w _ cap, bs => leNat (bs.take w) ≤ cap

instance (p : Field) (bs : List UInt8) : Decidable (p.Within bs) := by
  cases p
  · exact inferInstanceAs (Decidable True)
  · exact inferInstanceAs (Decidable (_ ≤ _))

end Field

/-- The parts of a message in order. -/
abbrev Layout := List Field

namespace Layout

/-- The message holds every part. -/
def Fits : Layout → List UInt8 → Prop
  | [], _ => True
  | p :: L, bs => p.span bs ≤ bs.length ∧ Fits L (bs.drop (p.span bs))

/-- The message holds every part and nothing after the last one. -/
def Exact : Layout → List UInt8 → Prop
  | [], bs => bs = []
  | p :: L, bs => p.span bs ≤ bs.length ∧ Exact L (bs.drop (p.span bs))

/-- Every list has at most as many elements as its array has cells. -/
def Within : Layout → List UInt8 → Prop
  | [], _ => True
  | p :: L, bs => p.Within bs ∧ Within L (bs.drop (p.span bs))

instance decidableFits : ∀ (L : Layout) (bs : List UInt8), Decidable (L.Fits bs)
  | [], _ => inferInstanceAs (Decidable True)
  | p :: L, bs =>
    have := decidableFits L (bs.drop (p.span bs))
    inferInstanceAs (Decidable (_ ∧ _))

instance decidableExact : ∀ (L : Layout) (bs : List UInt8), Decidable (L.Exact bs)
  | [], bs => inferInstanceAs (Decidable (bs = []))
  | p :: L, bs =>
    have := decidableExact L (bs.drop (p.span bs))
    inferInstanceAs (Decidable (_ ∧ _))

instance decidableWithin : ∀ (L : Layout) (bs : List UInt8), Decidable (L.Within bs)
  | [], _ => inferInstanceAs (Decidable True)
  | p :: L, bs =>
    have := decidableWithin L (bs.drop (p.span bs))
    inferInstanceAs (Decidable (_ ∧ _))

/-- Every array has as many cells as there can be elements in `n` bytes. -/
def Roomy : Layout → ℕ → Prop
  | [], _ => True
  | .bytes k :: L, n => Roomy L (n - k)
  | .list w size cap :: L, n => 0 < size ∧ (n - w) / size ≤ cap ∧ Roomy L (n - w)

instance decidableRoomy : ∀ (L : Layout) (n : ℕ), Decidable (L.Roomy n)
  | [], _ => inferInstanceAs (Decidable True)
  | .bytes k :: L, n => decidableRoomy L (n - k)
  | .list w _ _ :: L, n =>
    have := decidableRoomy L (n - w)
    inferInstanceAs (Decidable (_ ∧ _ ∧ _))

theorem Exact.fits {L : Layout} {bs : List UInt8} (h : L.Exact bs) : L.Fits bs := by
  induction L generalizing bs with
  | nil => trivial
  | cons p L ih => exact ⟨h.1, ih h.2⟩

/-- In a message that is short enough no list can be longer than its array. -/
theorem Roomy.within {L : Layout} {n : ℕ} {bs : List UInt8} (h : L.Roomy n) (hf : L.Fits bs)
    (hn : bs.length ≤ n) : L.Within bs := by
  induction L generalizing n bs with
  | nil => trivial
  | cons p L ih =>
    cases p with
    | bytes k => exact ⟨trivial, ih h hf.2 (by rw [List.length_drop, Field.span]; omega)⟩
    | list w size cap =>
      obtain ⟨hsize, hcap, hrest⟩ := h
      have hspan : w + leNat (bs.take w) * size ≤ bs.length := hf.1
      constructor
      · have hcount : leNat (bs.take w) ≤ (n - w) / size :=
          (Nat.le_div_iff_mul_le hsize).mpr (by omega)
        exact Nat.le_trans hcount hcap
      · exact ih hrest hf.2 (by rw [List.length_drop, Field.span]; omega)

end Layout

open Reader

variable {α β : Type}

/-! ## Readers of a fixed number of bytes -/

/-- The reader takes `n` bytes whatever they are, and its result has the property. -/
structure Takes (n : ℕ) (d : Reader α) (P : α → Prop) : Prop where
  some_of_le : ∀ bs : List UInt8, n ≤ bs.length → ∃ a, d.parse bs = some (a, bs.drop n) ∧ P a
  none_of_lt : ∀ bs : List UInt8, bs.length < n → d.parse bs = none

namespace Takes

theorem done {P : α → Prop} {a : α} (h : P a) : Takes 0 (.done a) P where
  some_of_le _ _ := ⟨a, rfl, h⟩
  none_of_lt _ hlt := absurd hlt (Nat.not_lt_zero _)

theorem mono {n : ℕ} {d : Reader α} {P Q : α → Prop} (h : Takes n d P) (hPQ : ∀ a, P a → Q a) :
    Takes n d Q where
  some_of_le bs hle := by
    obtain ⟨a, hparse, hP⟩ := h.some_of_le bs hle
    exact ⟨a, hparse, hPQ a hP⟩
  none_of_lt := h.none_of_lt

theorem bind {n m : ℕ} {d : Reader α} {f : α → Reader β} {P : β → Prop} {Q : α → Prop}
    (hd : Takes n d Q) (hf : ∀ a, Q a → Takes m (f a) P) : Takes (n + m) (d >>= f) P where
  some_of_le bs hle := by
    obtain ⟨a, hparse, hQ⟩ := hd.some_of_le bs (by omega)
    obtain ⟨b, hrest, hP⟩ := (hf a hQ).some_of_le (bs.drop n) (by rw [List.length_drop]; omega)
    refine ⟨b, ?_, hP⟩
    rw [parse_bind, hparse, Option.bind_some, hrest, List.drop_drop]
  none_of_lt bs hlt := by
    rw [parse_bind]
    by_cases hn : n ≤ bs.length
    · obtain ⟨a, hparse, hQ⟩ := hd.some_of_le bs hn
      have hshort : (bs.drop n).length < m := by rw [List.length_drop]; omega
      rw [hparse, Option.bind_some, (hf a hQ).none_of_lt _ hshort]
    · rw [hd.none_of_lt bs (by omega), Option.bind_none]

theorem next (n : ℕ) (k : (Fin (n + 0) → UInt8) → α) :
    Takes n (.next n 0 fun b => .done (k b)) fun _ => True where
  some_of_le _ hle := ⟨_, dif_pos hle, trivial⟩
  none_of_lt _ hlt := dif_neg (Nat.not_le_of_lt hlt)

theorem byte : Takes 1 byte fun _ => True := next 1 fun b => b 0

theorem block (n : ℕ) : Takes n (block n) fun _ => True := next n List.ofFn

theorem times {m : ℕ} {d : Reader α} (hd : Takes m d fun _ => True) (n : ℕ) :
    Takes (n * m) (times n d) fun as => as.length = n := by
  induction n with
  | zero => rw [Nat.zero_mul]; exact done rfl
  | succ n ih =>
    rw [Nat.succ_mul, Nat.add_comm]
    refine bind hd fun a _ => bind (m := 0) ih ?_
    intro as has
    exact done (congrArg (· + 1) has)

theorem loop {σ : Type} {m : ℕ} {f : ℕ → σ → Reader σ} (I : ℕ → σ → Prop)
    (hf : ∀ i s, I i s → Takes m (f i s) (I (i + 1))) (n i : ℕ) (s : σ) (hs : I i s) :
    Takes (n * m) (loop f n i s) (I (i + n)) := by
  induction n generalizing i s with
  | zero => rw [Nat.zero_mul]; exact done hs
  | succ n ih =>
    rw [Nat.succ_mul, Nat.add_comm (n * m), ← Nat.add_assoc, Nat.add_right_comm]
    exact bind (hf i s hs) fun s' hs' => ih (i + 1) s' hs'

end Takes

/-- The reader takes `w` bytes and its result is the number in them. -/
structure Counts (w : ℕ) (d : Reader α) (toNat : α → ℕ) : Prop where
  some_of_le : ∀ bs : List UInt8, w ≤ bs.length →
    ∃ a, d.parse bs = some (a, bs.drop w) ∧ toNat a = leNat (bs.take w)
  none_of_lt : ∀ bs : List UInt8, bs.length < w → d.parse bs = none

theorem Counts.byte : Counts 1 byte UInt8.toNat where
  some_of_le bs hle := by
    cases bs with
    | nil => exact absurd hle (by simp)
    | cons b bs => exact ⟨b, parse_byte_cons b bs, by simp [leNat]⟩
  none_of_lt := Takes.byte.none_of_lt

/-! ## Readers of a layout -/

/-- A reader that starts `k` bytes into a message of `l` bytes.  It succeeds exactly when
the rest of the message holds every part of the layout, and then its result has the property
exactly when `Q` holds and every list is within its array. -/
structure Decodes (P : α → Prop) (d : Reader α) (L : Layout) (Q : Prop) (k l : ℕ) : Prop where
  covers : ∀ bs : List UInt8, k + bs.length = l → (d.Covers bs ↔ L.Fits bs)
  within : ∀ bs : List UInt8, k + bs.length = l → ∀ a rest, d.parse bs = some (a, rest) →
    (P a ↔ Q ∧ L.Within bs)

namespace Decodes

variable {P : β → Prop} {f : α → Reader β} {L : Layout} {Q : Prop} {k l : ℕ}

theorem done {b : β} (h : P b ↔ Q) : Decodes P (.done b) [] Q k l where
  covers _ _ := iff_of_true rfl trivial
  within bs _ a rest hparse := by
    obtain ⟨rfl, -⟩ : b = a ∧ bs = rest := by simpa using hparse
    exact h.trans (and_iff_left trivial).symm

/-- A part of fixed width, with what is known of its value. -/
theorem part {n : ℕ} {d : Reader α} {R : α → Prop} (hd : Takes n d R)
    (hf : ∀ a, R a → Decodes P (f a) L Q (k + n) l) :
    Decodes P (d >>= f) (.bytes n :: L) Q k l where
  covers bs hlen := by
    rw [Covers, parse_bind]
    by_cases hn : n ≤ bs.length
    · obtain ⟨a, hparse, hR⟩ := hd.some_of_le bs hn
      have hrest := (hf a hR).covers (bs.drop n) (by rw [List.length_drop]; omega)
      rw [hparse, Option.bind_some]
      exact hrest.trans (and_iff_right hn).symm
    · rw [hd.none_of_lt bs (Nat.lt_of_not_le hn)]
      exact iff_of_false Bool.false_ne_true fun h => hn h.1
  within bs hlen b rest hb := by
    rw [parse_bind] at hb
    by_cases hn : n ≤ bs.length
    · obtain ⟨a, hparse, hR⟩ := hd.some_of_le bs hn
      rw [hparse, Option.bind_some] at hb
      have hP := (hf a hR).within (bs.drop n) (by rw [List.length_drop]; omega) b rest hb
      exact hP.trans (and_congr_right fun _ => (and_iff_right trivial).symm)
    · rw [hd.none_of_lt bs (Nat.lt_of_not_le hn)] at hb
      cases hb

/-- A field of fixed width. -/
theorem bytes {n : ℕ} {d : Reader α} (hd : Takes n d fun _ => True)
    (hf : ∀ a, Decodes P (f a) L Q (k + n) l) : Decodes P (d >>= f) (.bytes n :: L) Q k l :=
  part hd fun a _ => hf a

theorem byte {f : UInt8 → Reader β} (hf : ∀ a, Decodes P (f a) L Q (k + 1) l) :
    Decodes P (Reader.byte >>= f) (.bytes 1 :: L) Q k l :=
  bytes .byte hf

/-- A list after its length.  The array is in bounds when the length is at most `cap`. -/
theorem list {γ : Type} {w size cap : ℕ} {d : Reader α} {toNat : α → ℕ}
    {arr : α → Reader (CArray cap γ)} {g : α → CArray cap γ → Reader β}
    (hd : Counts w d toNat)
    (harr : k + w ≤ l → ∀ a,
      Takes (toNat a * size) (arr a) fun x => x.InBounds ↔ toNat a ≤ cap)
    (hg : ∀ a x k', Decodes P (g a x) L (Q ∧ x.InBounds) k' l) :
    Decodes P (d >>= fun a => arr a >>= g a) (.list w size cap :: L) Q k l where
  covers bs hlen := by
    rw [Covers, parse_bind]
    by_cases hw : w ≤ bs.length
    · obtain ⟨a, hparse, hcount⟩ := hd.some_of_le bs hw
      have hspan : (Field.list w size cap).span bs = w + toNat a * size := by
        rw [Field.span, hcount]
      rw [hparse, Option.bind_some, parse_bind, Layout.Fits, hspan, ← List.drop_drop]
      by_cases hn : toNat a * size ≤ (bs.drop w).length
      · obtain ⟨x, hx, -⟩ := (harr (by omega) a).some_of_le _ hn
        have hin : w + toNat a * size ≤ bs.length := by
          rw [List.length_drop] at hn
          omega
        rw [hx, Option.bind_some, and_iff_right hin]
        refine (hg a x (k + w + toNat a * size)).covers _ ?_
        simp only [List.length_drop]
        omega
      · rw [(harr (by omega) a).none_of_lt _ (Nat.lt_of_not_le hn)]
        refine iff_of_false Bool.false_ne_true fun h => hn ?_
        have hle := h.1
        rw [List.length_drop]
        omega
    · rw [hd.none_of_lt bs (Nat.lt_of_not_le hw)]
      refine iff_of_false Bool.false_ne_true fun h => hw ?_
      exact Nat.le_trans (Nat.le_add_right w _) h.1
  within bs hlen b rest hb := by
    rw [parse_bind] at hb
    by_cases hw : w ≤ bs.length
    · obtain ⟨a, hparse, hcount⟩ := hd.some_of_le bs hw
      rw [hparse, Option.bind_some, parse_bind] at hb
      by_cases hn : toNat a * size ≤ (bs.drop w).length
      · obtain ⟨x, hx, hbounds⟩ := (harr (by omega) a).some_of_le _ hn
        rw [hx, Option.bind_some] at hb
        have hP := (hg a x (k + w + toNat a * size)).within _
          (by simp only [List.length_drop] at hn ⊢; omega) b rest hb
        rw [hP, Layout.Within, Field.Within, Field.span, ← hcount, hbounds, and_assoc,
          List.drop_drop]
      · rw [(harr (by omega) a).none_of_lt _ (Nat.lt_of_not_le hn)] at hb
        cases hb
    · rw [hd.none_of_lt bs (Nat.lt_of_not_le hw)] at hb
      cases hb

/-- A branch that is taken on every message long enough to reach it. -/
theorem ite {c : Prop} [Decidable c] {d e : Reader β} (hc : k ≤ l → c)
    (hd : Decodes P d L Q k l) : Decodes P (if c then d else e) L Q k l where
  covers bs hlen := by
    rw [if_pos (hc (by omega))]
    exact hd.covers bs hlen
  within bs hlen := by
    rw [if_pos (hc (by omega))]
    exact hd.within bs hlen

/-- A result wrapped into another one. -/
theorem map {d : Reader α} {g : α → β} (hd : Decodes (fun a => P (g a)) d L Q k l) :
    Decodes P (d >>= fun a => .done (g a)) L Q k l where
  covers bs hlen := by
    rw [← hd.covers bs hlen, Covers, Covers, parse_bind]
    cases d.parse bs <;> rfl
  within bs hlen b rest hb := by
    rw [parse_bind] at hb
    cases hparse : d.parse bs with
    | none => rw [hparse] at hb; cases hb
    | some r =>
      rw [hparse] at hb
      obtain ⟨rfl, rfl⟩ : g r.1 = b ∧ r.2 = rest := by simpa using hb
      exact hd.within bs hlen r.1 r.2 hparse

end Decodes

end ZnpHost.Lib
