import ZnpHost.Apps.InputText

/-!
# Where `inputCmd` stores the answers

The attributes are stored one behind the other.  Two-byte values are aligned, but a list only
when its first element is stored: an empty list is not.

## Main definitions

* `CmdAtt.start`, `codeEnd`, `codeStart` — where the code puts the attributes.
* `Regular` — what the loop relies on: a list has the attribute with its length in front of it.
* `Done` — the attributes below an index are stored.
* `inputCmd_done` — when the loop ends they all are, and nothing else was written.
-/

namespace ZnpHost.Apps

open Lib

/-! ## Places -/

/-- The number of values that an attribute has room for. -/
def CmdAtt.cells (a : CmdAtt) : ℕ := if a.isList = 0 then 1 else a.isList

/-- Where an attribute with `n` values is stored, when the one before ends at `pos`. -/
def CmdAtt.start (a : CmdAtt) (n pos : ℕ) : ℕ :=
  if a.size = 2 ∧ pos % 2 ≠ 0 ∧ (a.isList = 0 ∨ n ≠ 0) then pos + 1 else pos

/-- Where the first `j` attributes end; attribute `i` has `n i` values. -/
def codeEnd (atts : List CmdAtt) (n : ℕ → ℕ) : ℕ → ℕ
  | 0 => 0
  | j + 1 =>
    match atts[j]? with
    | none => codeEnd atts n j
    | some a => a.start (n j) (codeEnd atts n j) + a.size * a.cells

/-- Where attribute `j` is stored. -/
def codeStart (atts : List CmdAtt) (n : ℕ → ℕ) (j : ℕ) : ℕ :=
  match atts[j]? with
  | none => codeEnd atts n j
  | some a => a.start (n j) (codeEnd atts n j)

variable {atts : List CmdAtt} {a : CmdAtt} {n n' : ℕ → ℕ} {i j k pos : ℕ}

theorem CmdAtt.le_start (a : CmdAtt) (n pos : ℕ) : pos ≤ a.start n pos := by
  rw [CmdAtt.start]
  split <;> omega

/-- The place does not depend on the number of values but for an empty list. -/
theorem CmdAtt.start_congr {m m' : ℕ} (h : a.isList ≠ 0 → (m = 0 ↔ m' = 0)) :
    a.start m pos = a.start m' pos := by
  by_cases hlist : a.isList = 0
  · simp [CmdAtt.start, hlist]
  · simp [CmdAtt.start, h hlist]

/-- A place is its own. -/
theorem CmdAtt.start_start (a : CmdAtt) (m pos : ℕ) :
    a.start m (a.start m pos) = a.start m pos := by
  by_cases hpad : a.size = 2 ∧ pos % 2 ≠ 0 ∧ (a.isList = 0 ∨ m ≠ 0)
  · have heven : (pos + 1) % 2 = 0 := by omega
    simp [CmdAtt.start, hpad, heven]
  · have hstay : a.start m pos = pos := if_neg hpad
    rw [hstay, hstay]

theorem codeStart_eq (h : atts[j]? = some a) :
    codeStart atts n j = a.start (n j) (codeEnd atts n j) := by
  simp [codeStart, h]

/-- A list that is not empty starts where it would with one element. -/
theorem codeStart_of_ne_zero (h : atts[j]? = some a) (hn : n j ≠ 0) :
    codeStart atts n j = a.start 1 (codeEnd atts n j) := by
  rw [codeStart_eq h]
  exact CmdAtt.start_congr (by simp [hn])

theorem codeEnd_succ (h : atts[j]? = some a) :
    codeEnd atts n (j + 1) = codeStart atts n j + a.size * a.cells := by
  simp [codeEnd, codeStart, h]

theorem codeEnd_mono (h : j ≤ k) : codeEnd atts n j ≤ codeEnd atts n k := by
  induction h with
  | refl => exact Nat.le_refl _
  | step _ ih =>
    refine Nat.le_trans ih ?_
    rw [codeEnd]
    split
    · exact Nat.le_refl _
    · exact Nat.le_trans (CmdAtt.le_start _ _ _) (Nat.le_add_right _ _)

/-- The places of the attributes do not overlap. -/
theorem codeStart_add_le (h : atts[j]? = some a) (hjk : j < k) :
    codeStart atts n j + a.size * a.cells ≤ codeEnd atts n k := by
  rw [← codeEnd_succ h]
  exact codeEnd_mono hjk

/-- The end of the first attributes depends on the lists among them. -/
theorem codeEnd_congr
    (h : ∀ j < k, ∀ a ∈ atts[j]?, a.isList ≠ 0 → (n j = 0 ↔ n' j = 0)) :
    codeEnd atts n k = codeEnd atts n' k := by
  induction k with
  | zero => rfl
  | succ k ih =>
    have hprev := ih fun j hj => h j (Nat.lt_succ_of_lt hj)
    cases hatt : atts[k]? with
    | none => simp [codeEnd, hatt, hprev]
    | some a =>
      have hstart : a.start (n k) (codeEnd atts n' k) = a.start (n' k) (codeEnd atts n' k) :=
        CmdAtt.start_congr (h k (Nat.lt_succ_self k) a hatt)
      simp [codeEnd, hatt, hprev, hstart]

theorem codeStart_congr (ha : atts[k]? = some a)
    (h : ∀ j ≤ k, ∀ a ∈ atts[j]?, a.isList ≠ 0 → (n j = 0 ↔ n' j = 0)) :
    codeStart atts n k = codeStart atts n' k := by
  rw [codeStart_eq ha, codeStart_eq ha, codeEnd_congr fun j hj => h j (Nat.le_of_lt hj)]
  exact CmdAtt.start_congr (h k (Nat.le_refl k) a ha)

/-! ## What is stored -/

/-- The number of lines entered for an attribute. -/
def InputState.counts (s : InputState) (j : ℕ) : ℕ := (s.entered j).length

/-- The value, if there is one, stands at `p`, and all its bytes were written. -/
def Holds (s : InputState) (p size : ℕ) (v : Option (List UInt8)) : Prop :=
  ∀ bs ∈ v, (s.input.shift p).take size = bs ∧ ∀ i, p ≤ i → i < p + size → i ∈ s.written

/-- The number of values of an attribute, `n` of which have been entered. -/
def CmdAtt.used (a : CmdAtt) (n : ℕ) : ℕ := if a.isList = 0 then 1 else n

/-- A byte of attribute `j`. -/
def InBlock (atts : List CmdAtt) (n : ℕ → ℕ) (j i : ℕ) : Prop :=
  ∃ a ∈ atts[j]?, codeStart atts n j ≤ i ∧ i < codeStart atts n j + a.size * a.used (n j)

/-- The attributes below `x` are stored, and a list has as many elements as its length says. -/
structure Done (atts : List CmdAtt) (x : ℕ) (s : InputState) : Prop where
  scalar : ∀ j < x, ∀ a ∈ atts[j]?, a.isList = 0 → s.counts j = 1
  list : ∀ j < x, ∀ a ∈ atts[j]?, a.isList ≠ 0 → s.counts j < a.isList
  holds : ∀ j < x, ∀ a ∈ atts[j]?, ∀ i l, (s.entered j)[i]? = some l →
    Holds s (codeStart atts s.counts j + a.size * i) a.size (valueOf a.size l)
  counted : ∀ j < x, ∀ a ∈ atts[j]?, a.isList ≠ 0 → ∀ p ∈ atts[j - 1]?,
    ∀ l ∈ (s.entered (j - 1))[0]?, ∀ bs ∈ valueOf p.size l, s.counts j = leNat bs

variable {s s' : InputState} {x : ℕ}

theorem Done.mono (h : Done atts x s) (hj : j ≤ x) : Done atts j s where
  scalar i hi := h.scalar i (by omega)
  list i hi := h.list i (by omega)
  holds i hi := h.holds i (by omega)
  counted i hi := h.counted i (by omega)

/-- An element stands inside its attribute. -/
theorem Done.index_lt (h : Done atts x s) (hj : j < x) (ha : atts[j]? = some a) {l : List UInt8}
    (hl : (s.entered j)[i]? = some l) : i < a.cells := by
  have hi : i < s.counts j := (List.getElem?_eq_some_iff.mp hl).1
  by_cases hlist : a.isList = 0
  · have hone := h.scalar j hj a ha hlist
    simp only [CmdAtt.cells, hlist, if_true]
    omega
  · have hlt := h.list j hj a ha hlist
    simp only [CmdAtt.cells, hlist, if_false]
    omega

theorem take_shift_congr {m m' : Mem} {p size : ℕ} (h : ∀ i, p ≤ i → i < p + size → m' i = m i) :
    (m'.shift p).take size = (m.shift p).take size := by
  apply List.map_congr_left
  intro i hi
  have hlt := List.mem_range.mp hi
  exact h (p + i) (by omega) (by omega)

theorem Holds.frame {p size : ℕ} {v : Option (List UInt8)} (h : Holds s p size v)
    (hinput : ∀ i, p ≤ i → i < p + size → s'.input i = s.input i)
    (hwritten : ∀ i ∈ s.written, i ∈ s'.written) : Holds s' p size v := by
  intro bs hbs
  obtain ⟨hvalue, hall⟩ := h bs hbs
  constructor
  · rw [take_shift_congr hinput, hvalue]
  · intro i hle hlt
    exact hwritten i (hall i hle hlt)

/-- **Frame.**  What is stored below is not touched by a store above. -/
theorem Done.frame (h : Done atts x s) (hent : ∀ j < x, s'.entered j = s.entered j)
    (hinput : ∀ i < codeEnd atts s.counts x, s'.input i = s.input i)
    (hwritten : ∀ i ∈ s.written, i ∈ s'.written) : Done atts x s' := by
  have hcounts : ∀ j < x, s'.counts j = s.counts j := by
    intro j hj
    rw [InputState.counts, hent j hj]
    rfl
  constructor
  case scalar =>
    intro j hj a ha hlist
    rw [hcounts j hj]
    exact h.scalar j hj a ha hlist
  case list =>
    intro j hj a ha hlist
    rw [hcounts j hj]
    exact h.list j hj a ha hlist
  case holds =>
    intro j hj a ha i l hl
    rw [hent j hj] at hl
    have hstart : codeStart atts s'.counts j = codeStart atts s.counts j := by
      apply codeStart_congr ha
      intro k hk b _ _
      rw [hcounts k (by omega)]
    rw [hstart]
    apply (h.holds j hj a ha i l hl).frame _ hwritten
    intro k _ hk
    apply hinput
    have hcells := h.index_lt hj ha hl
    have hend := codeStart_add_le (n := s.counts) ha hj
    have hmul : a.size * (i + 1) ≤ a.size * a.cells := Nat.mul_le_mul_left _ hcells
    rw [Nat.mul_succ] at hmul
    omega
  case counted =>
    intro j hj a ha hlist p hp l hl bs hbs
    rw [hent (j - 1) (by omega)] at hl
    rw [hcounts j hj]
    exact h.counted j hj a ha hlist p hp l hl bs hbs

/-- One attribute more. -/
theorem Done.succ (h : Done atts x s) (ha : atts[x]? = some a)
    (hone : a.isList = 0 → s.counts x = 1)
    (hlist : a.isList ≠ 0 → s.counts x < a.isList)
    (hholds : ∀ i l, (s.entered x)[i]? = some l →
      Holds s (codeStart atts s.counts x + a.size * i) a.size (valueOf a.size l))
    (hcounted : a.isList ≠ 0 → ∀ p ∈ atts[x - 1]?, ∀ l ∈ (s.entered (x - 1))[0]?,
      ∀ bs ∈ valueOf p.size l, s.counts x = leNat bs) : Done atts (x + 1) s := by
  have hcases : ∀ j < x + 1, j < x ∨ j = x := fun j hj => Nat.lt_succ_iff_lt_or_eq.mp hj
  have hatt : ∀ b ∈ atts[x]?, b = a := by
    intro b hb
    rw [ha] at hb
    exact (Option.some.inj hb).symm
  constructor
  case scalar =>
    intro j hj b hb
    rcases hcases j hj with hlt | rfl
    · exact h.scalar j hlt b hb
    · exact hatt b hb ▸ hone
  case list =>
    intro j hj b hb
    rcases hcases j hj with hlt | rfl
    · exact h.list j hlt b hb
    · exact hatt b hb ▸ hlist
  case holds =>
    intro j hj b hb
    rcases hcases j hj with hlt | rfl
    · exact h.holds j hlt b hb
    · exact hatt b hb ▸ hholds
  case counted =>
    intro j hj b hb
    rcases hcases j hj with hlt | rfl
    · exact h.counted j hlt b hb
    · exact hatt b hb ▸ hcounted

/-- Places and blocks depend on the number of elements of the lists. -/
theorem InBlock.congr (h : ∀ k ≤ j, ∀ a ∈ atts[k]?, a.isList ≠ 0 → n k = n' k) :
    InBlock atts n j i ↔ InBlock atts n' j i := by
  have hatt : ∀ a ∈ atts[j]?,
      codeStart atts n j = codeStart atts n' j ∧ a.used (n j) = a.used (n' j) := by
    intro a ha
    constructor
    · apply codeStart_congr ha
      intro k hk b hb hlist
      rw [h k hk b hb hlist]
    · by_cases hlist : a.isList = 0
      · simp [CmdAtt.used, hlist]
      · rw [h j (Nat.le_refl j) a ha hlist]
  constructor
  · rintro ⟨a, ha, hle, hlt⟩
    obtain ⟨hstart, hused⟩ := hatt a ha
    exact ⟨a, ha, hstart ▸ hle, hstart ▸ hused ▸ hlt⟩
  · rintro ⟨a, ha, hle, hlt⟩
    obtain ⟨hstart, hused⟩ := hatt a ha
    exact ⟨a, ha, hstart ▸ hle, hstart ▸ hused ▸ hlt⟩

/-- The block of a list grows with the list. -/
theorem InBlock.grow (ha : atts[k]? = some a) (hlist : a.isList ≠ 0)
    (hbelow : ∀ m < k, n' m = n m) (hself : n k ≤ n' k) (hj : j ≤ k)
    (h : InBlock atts n j i) : InBlock atts n' j i := by
  rcases Nat.lt_or_eq_of_le hj with hlt | rfl
  · refine (InBlock.congr ?_).mp h
    intro m hm b _ _
    exact (hbelow m (by omega)).symm
  · obtain ⟨b, hb, hge, hlt⟩ := h
    obtain rfl : a = b := Option.some.inj (ha.symm.trans hb)
    rw [CmdAtt.used, if_neg hlist] at hlt
    have hmul : a.size * n j ≤ a.size * n' j := Nat.mul_le_mul_left _ hself
    have hpos : n j ≠ 0 := by
      intro hzero
      rw [hzero] at hlt
      omega
    have hstart : codeStart atts n' j = codeStart atts n j := by
      apply codeStart_congr ha
      intro m hm b _ _
      rcases Nat.lt_or_eq_of_le hm with hm | rfl
      · rw [hbelow m hm]
      · omega
    refine ⟨a, ha, hstart ▸ hge, ?_⟩
    rw [hstart, CmdAtt.used, if_neg hlist]
    omega

/-! ## The loop over the attributes -/

/-- Attribute `j`, if it is a list, has its length in the one before, in one or two bytes. -/
def LengthBefore (j : ℕ) : Option CmdAtt → Option CmdAtt → Prop
  | some p, some a => a.isList = 0 ∨
      (a.size = 2 ∨ a.size = 1) ∧ 0 < j ∧ p.isList = 0 ∧ (p.size = 1 ∨ p.size = 2)
  | _, _ => True

instance : ∀ j p a, Decidable (LengthBefore j p a)
  | _, some _, some _ => inferInstanceAs (Decidable (_ ∨ _))
  | _, none, _ => .isTrue trivial
  | _, some _, none => .isTrue trivial

/-- Every list has its length in front of it. -/
def Regular (atts : List CmdAtt) : Prop :=
  ∀ j < atts.length, LengthBefore j atts[j - 1]? atts[j]?

instance : DecidablePred Regular := fun atts => inferInstanceAs (Decidable (∀ j < atts.length, _))

theorem Regular.list (h : Regular atts) (ha : atts[j]? = some a) (hlist : a.isList ≠ 0) :
    (a.size = 2 ∨ a.size = 1) ∧ 0 < j ∧
      ∃ p, atts[j - 1]? = some p ∧ p.isList = 0 ∧ (p.size = 1 ∨ p.size = 2) := by
  have hj : j < atts.length := (List.getElem?_eq_some_iff.mp ha).1
  have hp : atts[j - 1]? = some atts[j - 1] := List.getElem?_eq_getElem (by omega)
  have hbefore := h j hj
  rw [ha, hp] at hbefore
  obtain ⟨hsize, hpos, hrest⟩ := hbefore.resolve_left hlist
  exact ⟨hsize, hpos, _, hp, hrest⟩

/-- The invariant of the loop.  The attribute that is asked for may have been asked for before,
when it is the length of a list. -/
structure Inv (atts : List CmdAtt) (s : InputState) : Prop where
  done : Done atts s.x s
  pos : s.currentPos = codeEnd atts s.counts s.x ∨
    ∃ a ∈ atts[s.x]?, a.isList = 0 ∧ s.currentPos = codeStart atts s.counts s.x
  within : ∀ i ∈ s.written, ∃ j, (j < s.x ∨ j = s.x ∧ ∃ a ∈ atts[j]?, a.isList = 0) ∧
    InBlock atts s.counts j i

theorem inv_start (atts : List CmdAtt) (heap : Mem) (tem : UInt32) (answers : List Answer) :
    Inv atts ⟨0, 0, heap, tem, answers, [], fun _ => []⟩ where
  done := ⟨by simp, by simp, by simp, by simp⟩
  pos := .inl rfl
  within := by simp

/-- The block of a state. -/
def InputState.block (s : InputState) : Digits := ⟨s.input, 0, s.written⟩

theorem Stores.holds {d : Digits} {size : ℕ} {v : Option (List UInt8)}
    (h : Stores d s.block pos size v) : Holds s pos size v := by
  intro bs hbs
  exact ⟨h.value bs hbs, h.all (Option.isSome_of_mem hbs)⟩

/-- What a round does for an attribute that is not a list. -/
theorem scalarRound_spec (hlist : a.isList = 0) (hs : scalarRound a s = some s') :
    ∃ l, s'.x = s.x + 1 ∧ s'.currentPos = a.start (s.counts s.x) s.currentPos + a.size ∧
      s'.entered = Function.update s.entered s.x [l] ∧
      Stores s.block s'.block (a.start (s.counts s.x) s.currentPos) a.size (valueOf a.size l) := by
  cases hans : s.answers with
  | nil => simp [scalarRound, hans] at hs
  | cons answer answers =>
    have hpos : (if a.size = 2 ∧ s.currentPos % 2 ≠ 0 then s.currentPos + 1 else s.currentPos) =
        a.start (s.counts s.x) s.currentPos := by
      simp [CmdAtt.start, hlist]
    have hst := scalar_stores (d := s.block) a.size s.tem answer
      (a.start (s.counts s.x) s.currentPos) rfl
    simp only [scalarRound, hans, hpos, Option.some.injEq] at hs
    subst hs
    exact ⟨line answer.value, rfl, rfl, rfl, hst.frame, hst.within, hst.mono, hst.value, hst.all⟩

/-- An attribute that is not a list. -/
theorem Inv.scalarRound (h : Inv atts s) (ha : atts[s.x]? = some a) (hlist : a.isList = 0)
    (hs : scalarRound a s = some s') : Inv atts s' := by
  obtain ⟨l, hx, hcurrent, hentered, hst⟩ := scalarRound_spec hlist hs
  have hpos : a.start (s.counts s.x) s.currentPos = codeStart atts s.counts s.x := by
    rw [codeStart_eq ha]
    rcases h.pos with hend | ⟨b, hb, _, hplace⟩
    · rw [hend]
    · rw [hplace, codeStart_eq ha, CmdAtt.start_start]
  rw [hpos] at hcurrent hst
  have hother : ∀ j, j ≠ s.x → s'.entered j = s.entered j := by
    intro j hj
    rw [hentered, Function.update_of_ne hj]
  have hself : s'.entered s.x = [l] := by rw [hentered, Function.update_self]
  have hcounts : ∀ j, ∀ b ∈ atts[j]?, b.isList ≠ 0 → s'.counts j = s.counts j := by
    intro j b hb hblist
    have hj : j ≠ s.x := by
      rintro rfl
      rw [ha] at hb
      exact hblist (Option.some.inj hb ▸ hlist)
    rw [InputState.counts, hother j hj]
    rfl
  have hstart : codeStart atts s'.counts s.x = codeStart atts s.counts s.x := by
    apply codeStart_congr ha
    intro j _ b hb hblist
    rw [hcounts j b hb hblist]
  have hbelow : codeEnd atts s.counts s.x ≤ codeStart atts s.counts s.x := by
    rw [codeStart_eq ha]
    exact CmdAtt.le_start _ _ _
  constructor
  case done =>
    rw [hx]
    have hdone : Done atts s.x s' :=
      h.done.frame (fun j hj => hother j (Nat.ne_of_lt hj))
        (fun i hi => hst.frame i (.inl (by omega))) hst.mono
    apply hdone.succ ha
    · intro _
      rw [InputState.counts, hself]
      rfl
    · intro hfalse
      exact absurd hlist hfalse
    · intro i l' hl'
      rw [hself, List.getElem?_singleton] at hl'
      by_cases hi : i = 0
      · rw [if_pos hi, Option.some.injEq] at hl'
        rw [hi, Nat.mul_zero, Nat.add_zero, hstart, ← hl']
        exact hst.holds
      · simp [hi] at hl'
    · intro hfalse
      exact absurd hlist hfalse
  case pos =>
    left
    rw [hx, hcurrent, codeEnd_succ ha, hstart, CmdAtt.cells, if_pos hlist, Nat.mul_one]
  case within =>
    intro i hi
    rw [hx]
    rcases hst.within i hi with hold | hnew
    · obtain ⟨j, hj, hblock⟩ := h.within i hold
      exact ⟨j, .inl (by omega), (InBlock.congr fun k _ => hcounts k).mpr hblock⟩
    · refine ⟨s.x, .inl (Nat.lt_succ_self _), a, ha, ?_⟩
      rw [hstart, CmdAtt.used, if_pos hlist, Nat.mul_one]
      exact hnew

/-- The loop over the elements of a list at `x`. -/
structure InList (atts : List CmdAtt) (a : CmdAtt) (x : ℕ) (tempPos : ℕ) (s : InputState) :
    Prop where
  x_eq : s.x = x
  done : Done atts x s
  pos : s.currentPos = a.start (s.counts x) (codeEnd atts s.counts x)
  temp : tempPos = s.currentPos + a.size * s.counts x
  holds : ∀ i l, (s.entered x)[i]? = some l →
    Holds s (codeStart atts s.counts x + a.size * i) a.size (valueOf a.size l)
  within : ∀ i ∈ s.written, ∃ j ≤ x, InBlock atts s.counts j i

/-- What a round does for an element of a list: it leaves the state from which the rest of the
list is asked for. -/
theorem listRounds_succ {m tempPos : ℕ} (hsize : a.size = 2 ∨ a.size = 1)
    (hs : listRounds a (m + 1) tempPos s = some s') :
    ∃ l s₁, let pad := if a.size = 2 ∧ tempPos % 2 ≠ 0 then 1 else 0
      listRounds a m (tempPos + pad + a.size) s₁ = some s' ∧ s₁.x = s.x ∧
      s₁.currentPos = s.currentPos + pad ∧
      s₁.entered = Function.update s.entered s.x (s.entered s.x ++ [l]) ∧
      Stores s.block s₁.block (tempPos + pad) a.size (valueOf a.size l) := by
  cases hans : s.answers with
  | nil => simp [listRounds, hans] at hs
  | cons answer answers =>
    have hnumber : IsNumber a.size := by
      rcases hsize with h | h <;> simp [IsNumber, h]
    simp only [listRounds, hans, decide_eq_true hsize] at hs
    have hst := number_stores (d := s.block) hnumber s.tem answer.value
      (tempPos + if a.size = 2 ∧ tempPos % 2 ≠ 0 then 1 else 0)
      (s.currentPos + if a.size = 2 ∧ tempPos % 2 ≠ 0 then 1 else 0) rfl
    exact ⟨line answer.value, _, hs, rfl, rfl, rfl, hst.frame, hst.within, hst.mono, hst.value,
      hst.all⟩

/-- The padding in front of the first element. -/
theorem CmdAtt.pad_eq {len p current tempPos : ℕ} (hlist : a.isList ≠ 0)
    (hcurrent : current = a.start len p) (htemp : tempPos = current + a.size * len) :
    current + (if a.size = 2 ∧ tempPos % 2 ≠ 0 then 1 else 0) = a.start 1 p ∧
      tempPos + (if a.size = 2 ∧ tempPos % 2 ≠ 0 then 1 else 0) = a.start 1 p + a.size * len := by
  by_cases hsize : a.size = 2
  · by_cases hzero : len = 0
    · simp only [CmdAtt.start, hlist, hzero, hsize] at hcurrent htemp ⊢
      subst hcurrent
      subst htemp
      by_cases hodd : p % 2 ≠ 0
      · simp [hodd]
      · simp [hodd]
    · have hstart : a.start len p = a.start 1 p := CmdAtt.start_congr (by simp [hzero])
      have heven : tempPos % 2 = 0 := by
        rw [htemp, hcurrent, CmdAtt.start, hsize]
        split <;> omega
      have hnone : ¬ (a.size = 2 ∧ tempPos % 2 ≠ 0) := fun hpad => hpad.2 heven
      rw [if_neg hnone]
      constructor
      · rw [Nat.add_zero, hcurrent, hstart]
      · rw [Nat.add_zero, htemp, hcurrent, hstart]
  · simp only [hsize, false_and, if_false, Nat.add_zero]
    have hstart : ∀ m, a.start m p = p := fun m => by simp [CmdAtt.start, hsize]
    rw [hstart] at hcurrent ⊢
    omega

/-- One element more. -/
theorem InList.next {tempPos : ℕ} {l : List UInt8} {s₁ : InputState} (h : InList atts a x tempPos s)
    (ha : atts[x]? = some a) (hlist : a.isList ≠ 0) (hx : s₁.x = s.x)
    (hcurrent : s₁.currentPos =
      s.currentPos + if a.size = 2 ∧ tempPos % 2 ≠ 0 then 1 else 0)
    (hentered : s₁.entered = Function.update s.entered s.x (s.entered s.x ++ [l]))
    (hst : Stores s.block s₁.block (tempPos + if a.size = 2 ∧ tempPos % 2 ≠ 0 then 1 else 0)
      a.size (valueOf a.size l)) :
    InList atts a x
      (tempPos + (if a.size = 2 ∧ tempPos % 2 ≠ 0 then 1 else 0) + a.size) s₁ := by
  obtain ⟨hpos, htemp⟩ := CmdAtt.pad_eq hlist h.pos h.temp
  rw [htemp] at hst ⊢
  rw [hpos] at hcurrent
  rw [h.x_eq] at hx hentered
  have hother : ∀ j, j ≠ x → s₁.entered j = s.entered j := by
    intro j hj
    rw [hentered, Function.update_of_ne hj]
  have hself : s₁.entered x = s.entered x ++ [l] := by rw [hentered, Function.update_self]
  have hlen : s₁.counts x = s.counts x + 1 := by
    rw [InputState.counts, hself, List.length_append]
    rfl
  have hcounts : ∀ j < x, s₁.counts j = s.counts j := by
    intro j hj
    rw [InputState.counts, hother j (Nat.ne_of_lt hj)]
    rfl
  have hend : codeEnd atts s₁.counts x = codeEnd atts s.counts x := by
    apply codeEnd_congr
    intro j hj b _ _
    rw [hcounts j hj]
  have hplace : codeStart atts s₁.counts x = a.start 1 (codeEnd atts s.counts x) := by
    rw [codeStart_of_ne_zero ha (by omega), hend]
  have hle : codeEnd atts s.counts x ≤ a.start 1 (codeEnd atts s.counts x) := CmdAtt.le_start _ _ _
  constructor
  case x_eq => exact hx
  case done =>
    apply h.done.frame (fun j hj => hother j (Nat.ne_of_lt hj))
    · intro i hi
      exact hst.frame i (.inl (by omega))
    · exact hst.mono
  case pos => rw [hcurrent, ← codeStart_eq ha, hplace]
  case temp => rw [hcurrent, hlen, Nat.mul_succ, Nat.add_assoc]
  case holds =>
    intro i l' hl'
    rw [hplace]
    rw [hself, List.getElem?_append] at hl'
    by_cases hi : i < (s.entered x).length
    · -- An element that is there already.
      rw [if_pos hi] at hl'
      have hne : s.counts x ≠ 0 := Nat.ne_of_gt (Nat.lt_of_le_of_lt (Nat.zero_le i) hi)
      have hholds := h.holds i l' hl'
      rw [codeStart_of_ne_zero ha hne] at hholds
      apply hholds.frame _ hst.mono
      intro k _ hk
      have hmul : a.size * (i + 1) ≤ a.size * s.counts x := Nat.mul_le_mul_left _ hi
      rw [Nat.mul_succ] at hmul
      exact hst.frame k (.inl (by omega))
    · rw [if_neg hi, List.getElem?_singleton] at hl'
      by_cases hlast : i - (s.entered x).length = 0
      · rw [if_pos hlast, Option.some.injEq] at hl'
        have heq : i = s.counts x := by
          rw [InputState.counts]
          omega
        rw [heq, ← hl']
        exact hst.holds
      · simp [hlast] at hl'
  case within =>
    intro i hi
    rcases hst.within i hi with hin | hnew
    · obtain ⟨j, hj, hblock⟩ := h.within i hin
      exact ⟨j, hj, hblock.grow ha hlist hcounts (by omega) hj⟩
    · refine ⟨x, Nat.le_refl x, a, ha, ?_⟩
      rw [hplace, CmdAtt.used, if_neg hlist, hlen, Nat.mul_succ]
      omega

/-- The rest of a list. -/
theorem InList.run {m tempPos : ℕ} (h : InList atts a x tempPos s) (ha : atts[x]? = some a)
    (hlist : a.isList ≠ 0) (hsize : a.size = 2 ∨ a.size = 1)
    (hs : listRounds a m tempPos s = some s') :
    ∃ s₁ t, InList atts a x t s₁ ∧ s₁.counts x = s.counts x + m ∧
      (∀ j, j ≠ x → s₁.entered j = s.entered j) ∧
      s' = { s₁ with x := s₁.x + 1, currentPos := s₁.currentPos + a.size * a.isList } := by
  induction m generalizing s tempPos with
  | zero =>
    rw [listRounds, Option.some.injEq] at hs
    exact ⟨s, tempPos, h, rfl, fun _ _ => rfl, hs.symm⟩
  | succ m ih =>
    obtain ⟨l, s₁, hrest, hx, hcurrent, hentered, hst⟩ := listRounds_succ hsize hs
    obtain ⟨s₂, t, hin, hlen, hother, heq⟩ :=
      ih (h.next ha hlist hx hcurrent hentered hst) hrest
    rw [h.x_eq] at hentered
    refine ⟨s₂, t, hin, ?_, ?_, heq⟩
    · have hone : s₁.counts x = s.counts x + 1 := by
        rw [InputState.counts, hentered, Function.update_self, List.length_append]
        rfl
      omega
    · intro j hj
      rw [hother j hj, hentered, Function.update_of_ne hj]

/-- The length of a list is read back from where it is stored. -/
theorem listLen_eq {p : CmdAtt} {q : ℕ} (hsize : p.size = 1 ∨ p.size = 2)
    (hpos : s.currentPos = q + p.size) :
    listLen p.size s = leNat ((s.input.shift q).take p.size) := by
  rcases hsize with h | h
  · simp [listLen, hpos, h, Mem.take, Mem.shift, leNat]
  · simp [listLen, hpos, h, Mem.take, Mem.shift, leNat, List.range_succ]

/-- The attribute in front of a list. -/
structure Before (atts : List CmdAtt) (x : ℕ) (s : InputState) (p : CmdAtt) : Prop where
  pos : 0 < x
  att : atts[x - 1]? = some p
  scalar : p.isList = 0
  size : p.size = 1 ∨ p.size = 2
  place : s.currentPos = codeStart atts s.counts (x - 1) + p.size

theorem Inv.before (h : Inv atts s) (hreg : Regular atts) (ha : atts[s.x]? = some a)
    (hlist : a.isList ≠ 0) :
    ∃ p, Before atts s.x s p ∧ s.currentPos = codeEnd atts s.counts s.x := by
  obtain ⟨-, hpos, p, hp, hscalar, hsize⟩ := hreg.list ha hlist
  have hend : s.currentPos = codeEnd atts s.counts s.x := by
    rcases h.pos with hend | ⟨b, hb, hb0, _⟩
    · exact hend
    · rw [ha] at hb
      exact absurd (Option.some.inj hb ▸ hb0) hlist
  have hplace : codeEnd atts s.counts s.x = codeStart atts s.counts (s.x - 1) + p.size := by
    obtain ⟨y, hy⟩ : ∃ y, s.x = y + 1 := ⟨s.x - 1, by omega⟩
    rw [hy, Nat.add_sub_cancel] at hp ⊢
    rw [codeEnd_succ hp, CmdAtt.cells, if_pos hscalar, Nat.mul_one]
  exact ⟨p, ⟨hpos, hp, hscalar, hsize, hend.trans hplace⟩, hend⟩

/-- A list that is given up. -/
theorem Inv.retry (h : Inv atts s) (hreg : Regular atts) (ha : atts[s.x]? = some a)
    (hlist : a.isList ≠ 0) :
    Inv atts { s with x := s.x - 1, currentPos := s.currentPos - prevAttSize atts s.x } := by
  obtain ⟨p, hp, hend⟩ := h.before hreg ha hlist
  have hpos := hp.pos
  have hprev : prevAttSize atts s.x = p.size := by simp [prevAttSize, hp.att]
  constructor
  case done =>
    have hdone := h.done.mono (Nat.sub_le s.x 1)
    exact ⟨hdone.scalar, hdone.list, hdone.holds, hdone.counted⟩
  case pos =>
    right
    refine ⟨p, hp.att, hp.scalar, ?_⟩
    have hplace := hp.place
    change s.currentPos - prevAttSize atts s.x = codeStart atts s.counts (s.x - 1)
    omega
  case within =>
    intro i hi
    obtain ⟨j, hj, hblock⟩ := h.within i hi
    have hlt : j < s.x := by
      rcases hj with hlt | ⟨rfl, b, hb, hb0⟩
      · exact hlt
      · rw [ha] at hb
        exact absurd (Option.some.inj hb ▸ hb0) hlist
    by_cases hlast : j = s.x - 1
    · exact ⟨j, .inr ⟨hlast, p, hlast ▸ hp.att, hp.scalar⟩, hblock⟩
    · exact ⟨j, .inl (by change j < s.x - 1; omega), hblock⟩

/-- A list whose elements are asked for. -/
theorem Inv.inList (h : Inv atts s) (hreg : Regular atts) (ha : atts[s.x]? = some a)
    (hlist : a.isList ≠ 0) :
    InList atts a s.x s.currentPos { s with entered := Function.update s.entered s.x [] } := by
  obtain ⟨p, hp, hend⟩ := h.before hreg ha hlist
  have hother : ∀ j, j ≠ s.x → Function.update s.entered s.x [] j = s.entered j :=
    fun j hj => Function.update_of_ne hj _ _
  have hself : Function.update s.entered s.x [] s.x = [] := Function.update_self _ _ _
  have hcounts : ∀ j < s.x, InputState.counts
      { s with entered := Function.update s.entered s.x [] } j = s.counts j :=
    fun j hj => congrArg List.length (hother j (Nat.ne_of_lt hj))
  have hzero : InputState.counts
      { s with entered := Function.update s.entered s.x [] } s.x = 0 :=
    congrArg List.length hself
  constructor
  case x_eq => rfl
  case done =>
    exact h.done.frame (fun j hj => hother j (Nat.ne_of_lt hj)) (fun _ _ => rfl) fun _ hi => hi
  case pos =>
    rw [hzero, codeEnd_congr fun j hj b _ _ => by rw [hcounts j hj]]
    simp [CmdAtt.start, hlist, hend]
  case temp => rw [hzero, Nat.mul_zero, Nat.add_zero]
  case holds =>
    intro i l hl
    change (Function.update s.entered s.x [] s.x)[i]? = some l at hl
    rw [hself] at hl
    simp at hl
  case within =>
    intro i hi
    obtain ⟨j, hj, hblock⟩ := h.within i hi
    rcases hj with hlt | ⟨rfl, b, hb, hb0⟩
    · refine ⟨j, Nat.le_of_lt hlt, (InBlock.congr ?_).mpr hblock⟩
      intro k hk b _ _
      exact hcounts k (by omega)
    · rw [ha] at hb
      exact absurd (Option.some.inj hb ▸ hb0) hlist

/-- A list. -/
theorem Inv.list (h : Inv atts s) (hreg : Regular atts) (ha : atts[s.x]? = some a)
    (hlist : a.isList ≠ 0) (hshort : listLen (prevAttSize atts s.x) s < a.isList)
    (hs : listRounds a (listLen (prevAttSize atts s.x) s) s.currentPos
      { s with entered := Function.update s.entered s.x [] } = some s') : Inv atts s' := by
  obtain ⟨p, hp, hend⟩ := h.before hreg ha hlist
  have hprev : prevAttSize atts s.x = p.size := by simp [prevAttSize, hp.att]
  obtain ⟨s₁, t, hin, hlen, hother, rfl⟩ :=
    (h.inList hreg ha hlist).run ha hlist (hreg.list ha hlist).1 hs
  have hzero : InputState.counts
      { s with entered := Function.update s.entered s.x [] } s.x = 0 := by
    simp [InputState.counts]
  have hcount : s₁.counts s.x = listLen p.size s := by rw [hlen, hzero, Nat.zero_add, hprev]
  rw [hprev] at hshort
  constructor
  case done =>
    have hdone : Done atts (s.x + 1) s₁ := by
      apply hin.done.succ ha
      · intro hfalse
        exact absurd hfalse hlist
      · intro _
        rwa [hcount]
      · exact hin.holds
      · intro _ p' hp' l hl bs hbs
        obtain rfl : p = p' := Option.some.inj (hp.att.symm.trans hp')
        have hne : s.x - 1 ≠ s.x := by
          have hpos := hp.pos
          omega
        have hsame : s₁.entered (s.x - 1) = s.entered (s.x - 1) := by
          rw [hother _ hne]
          exact Function.update_of_ne hne _ _
        rw [hsame] at hl
        have hholds :=
          h.done.holds (s.x - 1) (Nat.sub_lt hp.pos Nat.one_pos) p hp.att 0 l hl bs hbs
        rw [hcount, listLen_eq hp.size hp.place, ← hholds.1, Nat.mul_zero, Nat.add_zero]
    change Done atts (s₁.x + 1) _
    rw [hin.x_eq]
    exact ⟨hdone.scalar, hdone.list, hdone.holds, hdone.counted⟩
  case pos =>
    left
    change s₁.currentPos + a.size * a.isList = codeEnd atts s₁.counts (s₁.x + 1)
    rw [hin.x_eq, codeEnd_succ ha, codeStart_eq ha, ← hin.pos, CmdAtt.cells, if_neg hlist]
  case within =>
    intro i hi
    obtain ⟨j, hj, hblock⟩ := hin.within i hi
    refine ⟨j, .inl ?_, hblock⟩
    change j < s₁.x + 1
    rw [hin.x_eq]
    exact Nat.lt_succ_of_le hj

/-- **Step lemma.** -/
theorem Inv.round (h : Inv atts s) (hreg : Regular atts)
    (hs : inputRound atts s = some (.inl s')) : Inv atts s' := by
  cases ha : atts[s.x]? with
  | none => simp [inputRound, ha] at hs
  | some a =>
    simp only [inputRound, ha] at hs
    by_cases hlist : a.isList = 0
    · simp only [hlist, if_true, Option.map_eq_some_iff, Sum.inl.injEq] at hs
      obtain ⟨s₁, hround, rfl⟩ := hs
      exact h.scalarRound ha hlist hround
    · simp only [hlist, if_false] at hs
      by_cases hlong : a.isList ≤ listLen (prevAttSize atts s.x) s
      · simp only [hlong, if_true, Option.some.injEq, Sum.inl.injEq] at hs
        rw [← hs]
        exact h.retry hreg ha hlist
      · simp only [hlong, if_false, Option.map_eq_some_iff, Sum.inl.injEq] at hs
        obtain ⟨s₁, hround, rfl⟩ := hs
        exact h.list hreg ha hlist (Nat.lt_of_not_le hlong) hround

/-- **The whole loop.**  All attributes are stored, and nothing else was written. -/
theorem inputCmd_done {fuel : ℕ} {heap : Mem} {tem : UInt32} {answers : List Answer}
    (hreg : Regular atts) (h : inputCmd atts fuel heap tem answers = some s) :
    Done atts atts.length s ∧ ∀ i ∈ s.written, ∃ j, InBlock atts s.counts j i := by
  apply runLoop_rule (P := Inv atts)
    (Q := fun s => Done atts atts.length s ∧ ∀ i ∈ s.written, ∃ j, InBlock atts s.counts j i)
    (inv_start atts heap tem answers) (fun s s' hs => hs.round hreg) _ h
  intro s s' hs hend
  cases ha : atts[s.x]? with
  | none =>
    obtain rfl : s = s' := by simpa [inputRound, ha] using hend
    have hx : atts.length ≤ s.x := List.getElem?_eq_none_iff.mp ha
    constructor
    · exact hs.done.mono hx
    · intro i hi
      obtain ⟨j, -, hblock⟩ := hs.within i hi
      exact ⟨j, hblock⟩
  | some a =>
    simp only [inputRound, ha] at hend
    split at hend
    · simp at hend
    · split at hend <;> simp at hend

end ZnpHost.Apps
