import ZnpHost.Apps.InputCmd

/-!
# One answer

The value that a line names, and where its bytes are stored.  A number is named as `%x` reads
it; a longer field is named by its bytes in two digits each, the highest one first, with or
without colons between them, and the low bytes that are not given are zero.

## Main definitions

* `spelled` — the bytes that a line spells.
* `valueOf` — the value that a line names, low byte first.
* `Reads`, `storeValue_eq` — the digits of a value, and what the loop over them stores.
* `Stores` — what an answer does to the block.
-/

namespace ZnpHost.Apps

open Lib

/-! ## Values -/

/-- The byte of two digits. -/
def byteOf (a b : UInt8) : Option UInt8 :=
  (digitOf a).bind fun x => (digitOf b).map fun y => UInt8.ofNat (16 * x + y)

/-- The bytes of a line of digits, two for each byte. -/
def spelled : List UInt8 → Option (List UInt8)
  | [] => some []
  | [_] => none
  | a :: b :: 58 :: cs => (byteOf a b).bind fun x => (spelled cs).map (x :: ·)
  | a :: b :: cs => (byteOf a b).bind fun x => (spelled cs).map (x :: ·)

/-- An attribute of this size is read as a number. -/
def IsNumber (size : ℕ) : Prop := size = 2 ∨ size = 4 ∨ size = 1

instance (size : ℕ) : Decidable (IsNumber size) := inferInstanceAs (Decidable (_ ∨ _))

/-- The value of an attribute that a line names, low byte first. -/
def valueOf (size : ℕ) (line : List UInt8) : Option (List UInt8) :=
  if IsNumber size then
    (scanX line).bind fun v =>
      if 0 ≤ v ∧ v < 256 ^ size then some (leBytes size v.toNat) else none
  else
    (spelled line).bind fun bs =>
      if bs.length ≤ size then some (bs ++ List.replicate (size - bs.length) 0).reverse else none

/-! ## The loop over the digits -/

/-- The bytes that the loop takes from a text; `fill` says that it may go on at its end. -/
inductive Reads (fill : Prop) : List UInt8 → List UInt8 → Prop
  | enough (cs : List UInt8) : Reads fill cs []
  | fill {bs : List UInt8} (h : fill) : Reads fill [] bs → Reads fill [] (0 :: bs)
  | pair {a b x : UInt8} {cs bs : List UInt8} (h : byteOf a b = some x) (hcs : cs.head? ≠ some 58) :
      Reads fill cs bs → Reads fill (a :: b :: cs) (x :: bs)
  | colon {a b x : UInt8} {cs bs : List UInt8} (h : byteOf a b = some x) :
      Reads fill cs bs → Reads fill (a :: b :: 58 :: cs) (x :: bs)

variable {text : Mem} {pos fill size : ℕ} {d : Digits} {t bs cs : List UInt8} {k : ℕ}

/-- The character at which the next byte may begin. -/
theorem colon_iff {m : Mem} {a b : UInt8} (hstr : IsString m (a :: b :: cs)) :
    m 2 = 58 ↔ cs.head? = some 58 := by
  cases cs with
  | nil =>
    have hnul : m 2 = 0 := hstr.nul
    simp [hnul]
  | cons c cs =>
    have hchar := hstr.char_eq (k := 2) (by simp)
    simp [hchar]

/-- One byte of two digits. -/
theorem storeByte_pair {a b x : UInt8} (hx : byteOf a b = some x)
    (hstr : IsString (text.shift d.strPos) (a :: b :: cs))
    (hlen : d.strPos + (a :: b :: cs).length < 128) :
    storeByte text pos fill size d k =
      { input := d.input.set (pos + size - 1 - k) x
        strPos := d.strPos + if cs.head? = some 58 then 3 else 2
        written := (pos + size - 1 - k) :: d.written } := by
  obtain ⟨u, hu, hbyte⟩ := Option.bind_eq_some_iff.mp hx
  obtain ⟨v, hv, rfl⟩ := Option.map_eq_some_iff.mp hbyte
  have hread : cString (128 - d.strPos) (text.shift d.strPos) = a :: b :: cs :=
    hstr.cString_eq (by omega)
  have hfirst : text d.strPos = a := by
    have hchar := hstr.char_eq (k := 0) (by simp)
    simpa [Mem.shift] using hchar
  have hgo : text d.strPos ≠ 0 := by
    rw [hfirst]
    exact (isDigit_of_digitOf hu).nul
  have hcolon : text (d.strPos + 2) = 58 ↔ cs.head? = some 58 := colon_iff hstr
  simp only [storeByte, if_pos hgo, hread, scan2hhx_pair hu hv, hcolon]

/-- A byte behind the end of the line. -/
theorem storeByte_end (hstr : IsString (text.shift d.strPos) []) :
    storeByte text pos fill size d k =
      { d with input := d.input.set (fill + size - 1 - k) 0
               written := (fill + size - 1 - k) :: d.written } := by
  have hend : text d.strPos = 0 := by
    have hnul := hstr.nul
    simpa [Mem.shift] using hnul
  simp [storeByte, hend]

/-- The rest of a value below its last byte. -/
theorem store_rest {m m' : Mem} {w w' : List ℕ} {x : UInt8}
    (hinput : m' = (m.set (pos + bs.length) x).blit pos bs.reverse)
    (hwritten : w' = List.range' pos bs.length ++ (pos + bs.length) :: w) :
    m' = m.blit pos (x :: bs).reverse ∧ w' = List.range' pos (x :: bs).length ++ w := by
  constructor
  · have hset := Mem.set_blit m pos bs.reverse x
    rw [List.length_reverse] at hset
    rw [hinput, hset, List.reverse_cons]
  · rw [hwritten, List.length_cons, List.range'_1_concat, List.append_assoc]
    rfl

/-- **The loop stores what it reads**, from the last byte of the attribute to the first. -/
theorem storeValue_of_reads (h : Reads (fill = pos) t bs)
    (hstr : IsString (text.shift d.strPos) t) (hlen : d.strPos + t.length < 128)
    (hk : k + bs.length = size) :
    ((List.range' k bs.length).foldl (storeByte text pos fill size) d).input =
        d.input.blit pos bs.reverse ∧
      ((List.range' k bs.length).foldl (storeByte text pos fill size) d).written =
        List.range' pos bs.length ++ d.written := by
  induction h generalizing d k with
  | enough cs => simp
  | @fill bs hfill _ ih =>
    rw [List.length_cons] at hk
    have hcell : fill + size - 1 - k = pos + bs.length := by omega
    have hrest := ih (k := k + 1)
      (d := { d with input := d.input.set (pos + bs.length) 0
                     written := (pos + bs.length) :: d.written }) hstr hlen (by omega)
    rw [List.length_cons, List.range'_succ, List.foldl_cons, storeByte_end hstr, hcell]
    exact store_rest hrest.1 hrest.2
  | @pair a b x cs bs hx hcs _ ih =>
    rw [List.length_cons] at hk
    have hcell : pos + size - 1 - k = pos + bs.length := by omega
    have hnext : IsString (text.shift (d.strPos + 2)) cs := by
      have hshift := hstr.shift (a := [a, b])
      rwa [Mem.shift_shift] at hshift
    have hrest := ih (k := k + 1)
      (d := { input := d.input.set (pos + bs.length) x, strPos := d.strPos + 2,
              written := (pos + bs.length) :: d.written })
      hnext (by simp only [List.length_cons] at hlen ⊢; omega) (by omega)
    rw [List.length_cons, List.range'_succ, List.foldl_cons, storeByte_pair hx hstr hlen, hcell,
      if_neg hcs]
    exact store_rest hrest.1 hrest.2
  | @colon a b x cs bs hx _ ih =>
    rw [List.length_cons] at hk
    have hcell : pos + size - 1 - k = pos + bs.length := by omega
    have hnext : IsString (text.shift (d.strPos + 3)) cs := by
      have hshift := hstr.shift (a := [a, b, 58])
      rwa [Mem.shift_shift] at hshift
    have hrest := ih (k := k + 1)
      (d := { input := d.input.set (pos + bs.length) x, strPos := d.strPos + 3,
              written := (pos + bs.length) :: d.written })
      hnext (by simp only [List.length_cons] at hlen ⊢; omega) (by omega)
    rw [List.length_cons, List.range'_succ, List.foldl_cons, storeByte_pair hx hstr hlen, hcell,
      List.head?_cons, if_pos rfl]
    exact store_rest hrest.1 hrest.2

/-! ## What an answer does to the block -/

/-- A store of `size` bytes at `pos` that keeps the rest of the block, and leaves there the value
that was named, if there is one. -/
structure Stores (d d' : Digits) (pos size : ℕ) (v : Option (List UInt8)) : Prop where
  frame : ∀ i, i < pos ∨ pos + size ≤ i → d'.input i = d.input i
  within : ∀ i ∈ d'.written, i ∈ d.written ∨ pos ≤ i ∧ i < pos + size
  mono : ∀ i ∈ d.written, i ∈ d'.written
  value : ∀ bs ∈ v, (d'.input.shift pos).take size = bs
  all : v.isSome → ∀ i, pos ≤ i → i < pos + size → i ∈ d'.written

variable {v : Option (List UInt8)} {d' : Digits}

/-- A loop that reads the whole value. -/
theorem stores_of_reads (h : Reads (fill = pos) t bs) (hstr : IsString text t)
    (hlen : t.length < 128) (hbs : bs.length = size) (hv : ∀ bs' ∈ v, bs' = bs.reverse)
    (hd : d.strPos = 0) : Stores d (storeValue text pos fill size d) pos size v := by
  have hfrom : IsString (text.shift d.strPos) t := by rwa [hd, Mem.shift_zero]
  have hend : 0 + bs.length = size := by rwa [Nat.zero_add]
  obtain ⟨hinput, hwritten⟩ := storeValue_of_reads h hfrom (by omega) hend
  rw [hbs, ← List.range_eq_range'] at hinput hwritten
  rw [← storeValue] at hinput hwritten
  constructor
  case frame =>
    intro i hi
    rw [hinput]
    cases hi with
    | inl hlt => exact Mem.blit_lt _ _ hlt
    | inr hge => exact Mem.blit_ge _ _ (by rwa [List.length_reverse, hbs])
  case within =>
    intro i hi
    rw [hwritten, List.mem_append, List.mem_range'_1] at hi
    exact hi.symm
  case mono =>
    intro i hi
    rw [hwritten]
    exact List.mem_append_right _ hi
  case value =>
    intro bs' hbs'
    rw [hv bs' hbs', hinput]
    exact Mem.take_shift_blit _ _ _ (by rw [List.length_reverse, hbs])
  case all =>
    intro _ i hle hlt
    rw [hwritten, List.mem_append, List.mem_range'_1]
    exact .inl ⟨hle, hlt⟩

/-- The indices of a byte of an attribute. -/
theorem storeByte_frame (text : Mem) (pos size : ℕ) (hk : k < size) (d : Digits) :
    Stores d (storeByte text pos pos size d k) pos size none := by
  have hcell : pos ≤ pos + size - 1 - k ∧ pos + size - 1 - k < pos + size := by omega
  have hset : ∀ (b : UInt8) (i : ℕ), i < pos ∨ pos + size ≤ i →
      d.input.set (pos + size - 1 - k) b i = d.input i := by
    intro b i hi
    exact Mem.set_ne _ _ (by omega)
  have hmem : ∀ i ∈ (pos + size - 1 - k) :: d.written,
      i ∈ d.written ∨ pos ≤ i ∧ i < pos + size := by
    intro i hi
    cases hi with
    | head => exact .inr hcell
    | tail _ hi => exact .inl hi
  simp only [storeByte]
  split
  · split
    · exact ⟨fun _ _ => rfl, fun _ hi => .inl hi, fun _ hi => hi, by simp, by simp⟩
    · exact ⟨hset _, hmem, fun _ hi => List.mem_cons_of_mem _ hi, by simp, by simp⟩
  · exact ⟨hset _, hmem, fun _ hi => List.mem_cons_of_mem _ hi, by simp, by simp⟩

/-- The loop stays inside the attribute. -/
theorem storeValue_frame (text : Mem) (pos size : ℕ) (d : Digits) :
    Stores d (storeValue text pos pos size d) pos size none := by
  have hpart : ∀ n ≤ size,
      Stores d ((List.range n).foldl (storeByte text pos pos size) d) pos size none := by
    intro n hn
    induction n with
    | zero => exact ⟨fun _ _ => rfl, fun _ hi => .inl hi, fun _ hi => hi, by simp, by simp⟩
    | succ n ih =>
      rw [List.range_succ, List.foldl_append, List.foldl_cons, List.foldl_nil]
      have hlast := storeByte_frame text pos size (Nat.lt_of_succ_le hn)
        ((List.range n).foldl (storeByte text pos pos size) d)
      have hprev := ih (Nat.le_of_succ_le hn)
      constructor
      case frame =>
        intro i hi
        rw [hlast.frame i hi, hprev.frame i hi]
      case within =>
        intro i hi
        exact (hlast.within i hi).elim (hprev.within i) .inr
      case mono =>
        intro i hi
        exact hlast.mono i (hprev.mono i hi)
      case value => simp
      case all => simp
  exact hpart size (Nat.le_refl size)

/-! ## Lines that name a value -/

theorem byteOf_byteText (b : UInt8) :
    byteOf (hexChar (b.toNat / 16)) (hexChar (b.toNat % 16)) = some b := by
  have hlt := b.toNat_lt
  have hsum : 16 * (b.toNat / 16) + b.toNat % 16 = b.toNat := Nat.div_add_mod b.toNat 16
  rw [byteOf, digitOf_hexChar _ (by omega), digitOf_hexChar _ (Nat.mod_lt _ (by decide)),
    Option.bind_some, Option.map_some, hsum, UInt8.ofNat_toNat]

/-- The loop reads back the bytes of a text. -/
theorem reads_byteText {p : Prop} (bs : List UInt8) (hcs : cs.head? ≠ some 58) :
    Reads p (bs.flatMap byteText ++ cs) bs := by
  induction bs with
  | nil => exact .enough _
  | cons b bs ih =>
    refine .pair (byteOf_byteText b) ?_ ih
    cases bs with
    | nil => simpa using hcs
    | cons b' bs =>
      have hlt := b'.toNat_lt
      have hdigit := isDigit_of_digitOf (digitOf_hexChar (b'.toNat / 16) (by omega))
      simpa [byteText] using hdigit.colon

/-- The loop reads a line that spells bytes, and zeros behind its end. -/
theorem reads_spelled {p : Prop} (hp : p) (h : spelled t = some bs) (n : ℕ) :
    Reads p t (bs ++ List.replicate n 0) := by
  fun_induction spelled t generalizing bs with
  | case1 =>
    obtain rfl : [] = bs := by simpa using h
    induction n with
    | zero => exact .enough _
    | succ n ih => exact .fill hp ih
  | case2 => cases h
  | case3 a b cs ih =>
    obtain ⟨x, hx, hrest⟩ := Option.bind_eq_some_iff.mp h
    obtain ⟨bs', hbs', rfl⟩ := Option.map_eq_some_iff.mp hrest
    exact .colon hx (ih hbs')
  | case4 a b cs hcs ih =>
    obtain ⟨x, hx, hrest⟩ := Option.bind_eq_some_iff.mp h
    obtain ⟨bs', hbs', rfl⟩ := Option.map_eq_some_iff.mp hrest
    refine .pair hx ?_ (ih hbs')
    cases cs with
    | nil => simp
    | cons c cs =>
      intro hhead
      exact hcs cs (congrArg (· :: cs) (Option.some.inj hhead))

/-- The value of a number that is read. -/
theorem valueOf_number (hsize : IsNumber size) {l bs : List UInt8} (h : valueOf size l = some bs) :
    ∃ v : ℤ, scanX l = some v ∧ 0 ≤ v ∧ v < 256 ^ size ∧ bs = leBytes size v.toNat := by
  rw [valueOf, if_pos hsize] at h
  obtain ⟨v, hv, hfits⟩ := Option.bind_eq_some_iff.mp h
  by_cases hin : 0 ≤ v ∧ v < 256 ^ size
  · rw [if_pos hin, Option.some.injEq] at hfits
    exact ⟨v, hv, hin.1, hin.2, hfits.symm⟩
  · simp [hin] at hfits

/-- A number that fits is what is left in `tem`. -/
theorem toNat_convert (hsize : IsNumber size) (tem : UInt32) {value : Mem} {v : ℤ}
    (hv : scanX (line value) = some v) (hle : 0 ≤ v) (hlt : v < 256 ^ size) :
    (convert true size tem value).1.toNat = v.toNat := by
  have hword : v < 2 ^ 32 := by
    have hpow : (256 : ℤ) ^ size ≤ 2 ^ 32 := by
      rcases hsize with rfl | rfl | rfl <;> decide
    omega
  simp only [convert, if_true, hv, Int.emod_eq_of_lt hle hword]
  rw [UInt32.toNat_ofNat']
  omega

/-- **A number.**  Its digits are stored whatever the line is. -/
theorem number_stores (hsize : IsNumber size) (tem : UInt32) (value : Mem) (pos fill : ℕ)
    (hd : d.strPos = 0) :
    Stores d (storeValue (convert true size tem value).2 pos fill size d) pos size
      (valueOf size (line value)) := by
  obtain ⟨hpos, hword⟩ : 0 < size ∧ 2 * size ≤ 8 := by
    rcases hsize with rfl | rfl | rfl <;> decide
  obtain ⟨tem', htem⟩ : ∃ tem', (convert true size tem value).1 = tem' := ⟨_, rfl⟩
  have htext : (convert true size tem value).2 =
      value.blit 0 (sprintfX (2 * size) tem'.toNat ++ [0]) := by
    rw [← htem]
    rfl
  obtain ⟨m, k, hprint, hm⟩ := exists_sprintfX size tem'.toNat hpos
  have hdigits : ∀ c ∈ sprintfX (2 * size) tem'.toNat, IsDigit c := by
    intro c hc
    obtain ⟨x, hx, rfl⟩ := mem_digitsX hc
    exact isDigit_of_digitOf (digitOf_hexChar x hx)
  have hcolon : (digitsX k tem'.toNat).head? ≠ some 58 := by
    intro hhead
    have hmem := List.mem_of_mem_head? hhead
    obtain ⟨x, hx, heq⟩ := mem_digitsX hmem
    exact (isDigit_of_digitOf (digitOf_hexChar x hx)).colon heq
  have hstr : IsString (convert true size tem value).2 (sprintfX (2 * size) tem'.toNat) := by
    rw [htext]
    exact isString_blit value fun hzero => (hdigits 0 hzero).nul rfl
  have hlen := length_sprintfX_lt hword (n := tem'.toNat) tem'.toNat_lt (by decide)
  have hreads := reads_byteText (p := fill = pos) (leBytes size m).reverse hcolon
  rw [← hprint] at hreads
  apply stores_of_reads hreads hstr (by omega) (by simp) _ hd
  intro bs hbs
  obtain ⟨v, hv, hle, hlt, rfl⟩ := valueOf_number hsize hbs
  have hval := toNat_convert hsize tem hv hle hlt
  rw [htem] at hval
  have hfits : tem'.toNat < 256 ^ size := by
    rw [hval]
    apply (Int.toNat_lt hle).mpr
    rw [Int.natCast_pow]
    exact hlt
  rw [List.reverse_reverse, hm hfits, hval]

/-- **Any attribute that is not a list.** -/
theorem scalar_stores (size : ℕ) (tem : UInt32) (answer : Answer) (pos : ℕ) (hd : d.strPos = 0) :
    Stores d (storeValue (convert (IsNumber size) size tem answer.value).2 pos pos size d) pos size
      (valueOf size (line answer.value)) := by
  by_cases hsize : IsNumber size
  · rw [decide_eq_true hsize]
    exact number_stores hsize tem answer.value pos pos hd
  have htext : (convert (IsNumber size) size tem answer.value).2 = answer.value := by
    rw [decide_eq_false hsize]
    rfl
  rw [htext]
  cases hv : valueOf size (line answer.value) with
  | none => exact storeValue_frame answer.value pos size d
  | some bs =>
    rw [valueOf, if_neg hsize] at hv
    obtain ⟨digits, hdigits, hfits⟩ := Option.bind_eq_some_iff.mp hv
    by_cases hlen : digits.length ≤ size
    · rw [if_pos hlen, Option.some.injEq] at hfits
      have hreads := reads_spelled (p := pos = pos) rfl hdigits (size - digits.length)
      apply stores_of_reads hreads (isString_cString answer.terminated) answer.terminated
      · rw [List.length_append, List.length_replicate]
        omega
      · intro bs' hbs'
        rw [hfits]
        exact (Option.some.inj hbs').symm
      · exact hd
    · simp [hlen] at hfits

end ZnpHost.Apps
