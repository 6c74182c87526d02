import ZnpHost.Lib.Bytes

/-!
# Readers of a byte buffer

A reader is a program that reads a buffer through an index variable of eight bits.
It has two meanings.  `exec` runs it on the buffer as the code does, where nothing
stops the index at the end of the message.  `parse` runs it on the bytes of the message
alone and fails when they run out.  The two agree on a message that is long enough,
and on one that is not the code reads beyond its end.

## Main definitions

* `Reader` — the programs, a monad.
* `Reader.exec`, `Reader.reads` — the result on a buffer, and the indices read.
* `Reader.parse` — the result on a message.
* `Reader.exec_of_parse`, `Reader.reads_of_parse_none` — how they are related.
* `Reader.Straight` — the reader moves past every byte it reads, so it reads each byte once.
-/

namespace ZnpHost.Lib

/-- A program that reads a buffer through an index. -/
inductive Reader (α : Type) : Type
  | done (a : α)
  /-- Read `n + m` bytes from the index on and move the index by `n`. -/
  | next (n m : ℕ) (k : (Fin (n + m) → UInt8) → Reader α)

namespace Reader

variable {α β : Type}

/-! ## The monad -/

protected def bind : Reader α → (α → Reader β) → Reader β
  | .done a, f => f a
  | .next n m k, f => .next n m fun b => (k b).bind f

instance : Monad Reader where
  pure := Reader.done
  bind := Reader.bind

@[simp] theorem pure_def (a : α) : (pure a : Reader α) = .done a := rfl

@[simp] theorem done_bind (a : α) (f : α → Reader β) : (Reader.done a >>= f) = f a := rfl

@[simp] theorem next_bind (n m : ℕ) (k : (Fin (n + m) → UInt8) → Reader α) (f : α → Reader β) :
    (Reader.next n m k >>= f) = .next n m fun b => k b >>= f := rfl

/-! ## Primitive readers -/

/-- `buff[idx++]`. -/
def byte : Reader UInt8 := .next 1 0 fun b => .done (b 0)

/-- `buff[idx]`, leaving the index alone. -/
def peek : Reader UInt8 := .next 0 1 fun b => .done (b 0)

/-- A copied block of `n` bytes. -/
def block (n : ℕ) : Reader (List UInt8) := .next n 0 fun b => .done (List.ofFn b)

/-- Repeat a reader and collect the results in order. -/
def times : ℕ → Reader α → Reader (List α)
  | 0, _ => .done []
  | n + 1, d => do
    let a ← d
    let as ← times n d
    return a :: as

/-- A loop of `n` rounds over an accumulator; rounds are numbered from `i`. -/
def loop {σ : Type} (f : ℕ → σ → Reader σ) : ℕ → ℕ → σ → Reader σ
  | 0, _, s => .done s
  | n + 1, i, s => do
    let s ← f i s
    loop f n (i + 1) s

/-! ## Running on a buffer -/

/-- The result on a buffer and the index afterwards. -/
def exec (mem : Mem) : Reader α → UInt8 → α × UInt8
  | .done a, i => (a, i)
  | .next n _ k, i => exec mem (k fun j => mem (i.toNat + j)) (i + UInt8.ofNat n)

/-- The indices read, in order. -/
def reads (mem : Mem) : Reader α → UInt8 → List ℕ
  | .done _, _ => []
  | .next n m k, i =>
    (List.range (n + m)).map (i.toNat + ·) ++
      reads mem (k fun j => mem (i.toNat + j)) (i + UInt8.ofNat n)

/-- One reader after the other. -/
theorem exec_bind (mem : Mem) (d : Reader α) (f : α → Reader β) (i : UInt8) :
    exec mem (d >>= f) i = exec mem (f (exec mem d i).1) (exec mem d i).2 := by
  induction d generalizing i with
  | done a => rfl
  | next n m k ih => exact ih _ _

theorem exec_map (mem : Mem) (g : α → β) (d : Reader α) (i : UInt8) :
    exec mem (g <$> d) i = (g (exec mem d i).1, (exec mem d i).2) :=
  exec_bind mem d (fun a => .done (g a)) i

/-! ## Running on a message -/

/-- The result on a message and the bytes left over; `none` when the message is too short. -/
def parse : Reader α → List UInt8 → Option (α × List UInt8)
  | .done a, bs => some (a, bs)
  | .next n m k, bs =>
    if h : n + m ≤ bs.length then parse (k fun j => bs[j]) (bs.drop n) else none

/-- The message is long enough for all the reader takes from it. -/
def Covers (d : Reader α) (bs : List UInt8) : Prop := (d.parse bs).isSome

instance (d : Reader α) (bs : List UInt8) : Decidable (d.Covers bs) :=
  inferInstanceAs (Decidable (_ = true))

@[simp] theorem parse_done (a : α) (bs : List UInt8) : parse (.done a) bs = some (a, bs) := rfl

theorem parse_bind (d : Reader α) (f : α → Reader β) (bs : List UInt8) :
    parse (d >>= f) bs = (d.parse bs).bind fun r => (f r.1).parse r.2 := by
  induction d generalizing bs with
  | done a => rfl
  | next n m k ih =>
    simp only [next_bind, parse]
    split
    · exact ih _ _
    · rfl

/-- What follows the message is left over. -/
theorem parse_append (d : Reader α) {bs rest : List UInt8} {a : α}
    (h : d.parse bs = some (a, rest)) (cs : List UInt8) :
    d.parse (bs ++ cs) = some (a, rest ++ cs) := by
  induction d generalizing bs with
  | done b =>
    simp only [parse_done, Option.some.injEq, Prod.mk.injEq] at h ⊢
    exact ⟨h.1, by rw [h.2]⟩
  | next n m k ih =>
    simp only [parse] at h ⊢
    split at h
    case isFalse => cases h
    case isTrue hle =>
      have hle' : n + m ≤ (bs ++ cs).length := by
        rw [List.length_append]
        omega
      have hsame : (fun j : Fin (n + m) => (bs ++ cs)[j]) = fun j => bs[j] := by
        funext j
        exact List.getElem_append_left (Nat.lt_of_lt_of_le j.isLt hle)
      rw [dif_pos hle', hsame, List.drop_append_of_le_length (by omega)]
      exact ih _ h

@[simp] theorem parse_byte_cons (b : UInt8) (bs : List UInt8) :
    byte.parse (b :: bs) = some (b, bs) := by
  simp [byte, parse]

/-! ## The two meanings -/

/-- The buffer holds the message from index `i` on, and the index cannot wrap inside it. -/
structure Holds (mem : Mem) (i : UInt8) (bs : List UInt8) : Prop where
  bytes : ∀ j (h : j < bs.length), mem (i.toNat + j) = bs[j]
  room : i.toNat + bs.length ≤ 255

namespace Holds

variable {mem : Mem} {i : UInt8} {bs : List UInt8}

theorem toNat_add (h : Holds mem i bs) {n : ℕ} (hn : n ≤ bs.length) :
    (i + UInt8.ofNat n).toNat = i.toNat + n := by
  have hroom := h.room
  simp only [UInt8.toNat_add, UInt8.toNat_ofNat']
  omega

theorem drop (h : Holds mem i bs) {n : ℕ} (hn : n ≤ bs.length) :
    Holds mem (i + UInt8.ofNat n) (bs.drop n) where
  bytes j hj := by
    rw [List.length_drop] at hj
    rw [h.toNat_add hn, Nat.add_assoc, List.getElem_drop]
    exact h.bytes (n + j) (by omega)
  room := by
    have hroom := h.room
    rw [h.toNat_add hn, List.length_drop]
    omega

/-- What a reader takes from the buffer inside the message is the message. -/
theorem window (h : Holds mem i bs) {n : ℕ} (hn : n ≤ bs.length) :
    (fun j : Fin n => mem (i.toNat + j)) = fun j => bs[j] := by
  funext j
  exact h.bytes j (Nat.lt_of_lt_of_le j.isLt hn)

end Holds

/-- **On a message that is long enough** the code computes what the message says and reads
inside it only. -/
theorem exec_of_parse {mem : Mem} (d : Reader α) {i : UInt8} {bs rest : List UInt8} {a : α}
    (hm : Holds mem i bs) (h : d.parse bs = some (a, rest)) :
    (d.exec mem i).1 = a ∧ ∀ r ∈ d.reads mem i, i.toNat ≤ r ∧ r < i.toNat + bs.length := by
  induction d generalizing i bs with
  | done b =>
    simp only [parse_done, Option.some.injEq, Prod.mk.injEq] at h
    exact ⟨h.1, fun r hr => nomatch hr⟩
  | next n m k ih =>
    simp only [parse] at h
    split at h
    case isFalse => cases h
    case isTrue hle =>
      have hn : n ≤ bs.length := by omega
      rw [← hm.window hle] at h
      obtain ⟨hval, hreads⟩ := ih _ (hm.drop hn) h
      refine ⟨hval, ?_⟩
      intro r hr
      cases List.mem_append.mp hr with
      | inl hnow =>
        obtain ⟨j, hj, rfl⟩ := List.mem_map.mp hnow
        have hlt := List.mem_range.mp hj
        constructor
        · omega
        · omega
      | inr hlater =>
        have hin := hreads r hlater
        rw [hm.toNat_add hn, List.length_drop] at hin
        constructor
        · omega
        · omega

/-- **On a message that is too short** the code reads beyond its end. -/
theorem reads_of_parse_none {mem : Mem} (d : Reader α) {i : UInt8} {bs : List UInt8}
    (hm : Holds mem i bs) (h : d.parse bs = none) :
    ∃ r ∈ d.reads mem i, i.toNat + bs.length ≤ r := by
  induction d generalizing i bs with
  | done b => cases h
  | next n m k ih =>
    simp only [parse] at h
    split at h
    case isTrue hle =>
      have hn : n ≤ bs.length := by omega
      rw [← hm.window hle] at h
      obtain ⟨r, hr, hout⟩ := ih _ (hm.drop hn) h
      rw [hm.toNat_add hn, List.length_drop] at hout
      exact ⟨r, List.mem_append_right _ hr, by omega⟩
    case isFalse hlt =>
      refine ⟨i.toNat + (n + m - 1), List.mem_append_left _ (List.mem_map.mpr ?_), by omega⟩
      exact ⟨n + m - 1, List.mem_range.mpr (by omega), rfl⟩

/-- The reader stays inside the message exactly when the message is long enough. -/
theorem reads_inside_iff {mem : Mem} (d : Reader α) {i : UInt8} {bs : List UInt8}
    (hm : Holds mem i bs) :
    (∀ r ∈ d.reads mem i, i.toNat ≤ r ∧ r < i.toNat + bs.length) ↔ d.Covers bs := by
  cases h : d.parse bs with
  | none =>
    obtain ⟨r, hr, hout⟩ := reads_of_parse_none d hm h
    refine iff_of_false (fun hall => ?_) (by simp [Covers, h])
    have hin := (hall r hr).2
    omega
  | some p => exact iff_of_true (exec_of_parse d hm h).2 (by simp [Covers, h])

/-! ## One pass over the message -/

/-- What is left over was there before. -/
theorem length_le_of_parse (d : Reader α) {bs rest : List UInt8} {a : α}
    (h : d.parse bs = some (a, rest)) : rest.length ≤ bs.length := by
  induction d generalizing bs with
  | done b =>
    obtain ⟨-, rfl⟩ : b = a ∧ bs = rest := by simpa using h
    exact Nat.le_refl _
  | next n m k ih =>
    simp only [parse] at h
    split at h
    case isFalse => cases h
    case isTrue =>
      have hle := ih _ h
      rw [List.length_drop] at hle
      omega

/-- The reader moves past every byte it reads. -/
def Straight : Reader α → Prop
  | .done _ => True
  | .next _ m k => m = 0 ∧ ∀ b, Straight (k b)

namespace Straight

variable {d : Reader α} {f : α → Reader β}

theorem done (a : α) : Straight (.done a) := trivial

@[simp] theorem done_iff {a : α} : Straight (.done a) ↔ True := Iff.rfl

@[simp] theorem byte : Straight byte := ⟨rfl, fun _ => trivial⟩

theorem bind (hd : d.Straight) (hf : ∀ a, (f a).Straight) : (d >>= f).Straight := by
  induction d with
  | done a => exact hf a
  | next n m k ih => exact ⟨hd.1, fun b => ih b (hd.2 b)⟩

@[simp] theorem bind_done {g : α → β} (hd : d.Straight) :
    (d >>= fun a => Reader.done (g a)).Straight :=
  hd.bind fun a => done (g a)

theorem fmap {g : α → β} (hd : d.Straight) : (g <$> d).Straight := hd.bind_done

/-- What follows a value that some message has. -/
theorem of_parse {bs rest : List UInt8} {a : α} (h : d.parse bs = some (a, rest))
    (hs : (d >>= f).Straight) : (f a).Straight := by
  induction d generalizing bs with
  | done b =>
    obtain ⟨rfl, -⟩ : b = a ∧ bs = rest := by simpa using h
    exact hs
  | next n m k ih =>
    simp only [parse] at h
    split at h
    · exact ih _ h (hs.2 _)
    · cases h

theorem bind_iff (hd : d.Straight) (hall : ∀ a, ∃ bs rest, d.parse bs = some (a, rest)) :
    (d >>= f).Straight ↔ ∀ a, (f a).Straight := by
  constructor
  · intro hs a
    obtain ⟨bs, rest, hparse⟩ := hall a
    exact of_parse hparse hs
  · exact hd.bind

@[simp] theorem byte_bind_iff {f : UInt8 → Reader β} :
    (Reader.byte >>= f).Straight ↔ ∀ c, (f c).Straight :=
  byte.bind_iff fun c => ⟨[c], [], parse_byte_cons c []⟩

theorem times (hd : d.Straight) (n : ℕ) : (times n d).Straight := by
  induction n with
  | zero => exact done []
  | succ n ih => exact hd.bind fun a => ih.bind fun as => done (a :: as)

/-- **Such a reader reads the bytes it takes one after the other**, each of them once. -/
theorem reads_eq {mem : Mem} {i : UInt8} {bs rest : List UInt8} {a : α} (hd : d.Straight)
    (hm : Holds mem i bs) (h : d.parse bs = some (a, rest)) :
    d.reads mem i = List.range' i.toNat (bs.length - rest.length) := by
  induction d generalizing i bs with
  | done b =>
    obtain ⟨-, rfl⟩ : b = a ∧ bs = rest := by simpa using h
    rw [Nat.sub_self]
    rfl
  | next n m k ih =>
    obtain ⟨rfl, hk⟩ := hd
    simp only [parse] at h
    split at h
    case isFalse => cases h
    case isTrue hle =>
      have hn : n ≤ bs.length := by omega
      have hleft := length_le_of_parse _ h
      rw [← hm.window hle] at h
      rw [List.length_drop] at hleft
      have hlater := ih _ (hk _) (hm.drop hn) h
      rw [hm.toNat_add hn, List.length_drop] at hlater
      rw [reads, hlater, Nat.add_zero, ← List.range'_eq_map_range, List.range'_append_1]
      congr 1
      omega

end Straight

end Reader

end ZnpHost.Lib
