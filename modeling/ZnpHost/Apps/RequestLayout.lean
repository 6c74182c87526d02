import ZnpHost.Apps.InputLayout

/-!
# The layout that the builders expect

What was entered stands where the request structure of the command has it if the size of the
structure fits in a byte, no two-byte list that begins at an odd place is empty in front of
another attribute, and every line names a value of its attribute.  Otherwise it does not.

## Main definitions

* `members` — the members of the structure of a command.
* `LaidOut` — every index is in bounds, every value at the offset of its member.
* `Fits` — the condition on what was entered.
* `laidOut_iff` — the two are the same.
-/

namespace ZnpHost.Apps

open Lib

/-- The members that the attributes of a command stand for. -/
def members (atts : List CmdAtt) : List Member := atts.map fun a => a.toField.member

/-- What was entered is laid out as the structure that `sendCmd` passes on. -/
structure LaidOut (index : ℕ) (atts : List CmdAtt) (s : InputState) : Prop where
  inBounds : ∀ i ∈ s.written, i < commandSize atts
  scalar : ∀ j, ∀ a ∈ atts[j]?, a.isList = 0 → s.counts j = 1
  list : ∀ j, ∀ a ∈ atts[j]?, a.isList ≠ 0 → ∃ p ∈ atts[j - 1]?, ∃ l bs,
    s.entered (j - 1) = [l] ∧ valueOf p.size l = some bs ∧ s.counts j = leNat bs
  values : ∀ j, ∀ a ∈ atts[j]?, ∀ i l, (s.entered j)[i]? = some l →
    (valueOf a.size l).isSome ∧
      Holds s (offset ((sendCmd index).map Field.member) j + a.size * i) a.size (valueOf a.size l)

/-- The size of the structure of a command. -/
def requestSize (atts : List CmdAtt) : ℕ := structEnd (members atts) atts.length

/-- The two-byte lists that begin at an odd place and have another attribute behind them. -/
def oddLists (atts : List CmdAtt) : List ℕ :=
  (List.range (atts.length - 1)).filter fun j =>
    (atts[j]?.any fun a => a.isList ≠ 0 ∧ a.size = 2) && structEnd (members atts) j % 2 ≠ 0

/-- The condition on the command and on what was entered. -/
structure Fits (atts : List CmdAtt) (s : InputState) : Prop where
  room : requestSize atts < 256
  lists : ∀ j ∈ oddLists atts, s.entered j ≠ []
  named : ∀ j, ∀ a ∈ atts[j]?, ∀ l ∈ s.entered j, (valueOf a.size l).isSome

/-! ## The table -/

/-- What holds of the attributes of every command. -/
structure TableFacts (atts : List CmdAtt) : Prop where
  regular : Regular atts
  sizes : ∀ a ∈ atts, 0 < a.size ∧ (a.isList ≠ 0 → a.size ≤ 2)
  total : commandSize atts = requestSize atts % 256

theorem tableFacts {c : Cmd} (hc : c ∈ commands) : TableFacts c.atts := by
  have hall : ∀ c ∈ commands, Regular c.atts ∧
      (∀ a ∈ c.atts, 0 < a.size ∧ (a.isList ≠ 0 → a.size ≤ 2)) ∧
      commandSize c.atts = requestSize c.atts % 256 := by decide +kernel
  obtain ⟨hregular, hsizes, htotal⟩ := hall c hc
  exact ⟨hregular, hsizes, htotal⟩

/-- The commands that do not fit. -/
theorem requestSize_lt_iff : ∀ index < 72, ∀ c ∈ commands[index]?,
    requestSize c.atts < 256 ↔ index ≠ 24 ∧ index ≠ 62 := by
  decide +kernel

/-- The commands that have a two-byte list at an odd place in front of another attribute. -/
theorem oddLists_commands : ∀ index < 72, ∀ c ∈ commands[index]?, oddLists c.atts =
    if index = 21 ∨ index = 41 ∨ index = 62 then [6] else if index = 35 then [4] else [] := by
  decide +kernel

/-- Behind such a list come the length of another one and that list. -/
theorem drop_oddLists : ∀ c ∈ commands, ∀ j ∈ oddLists c.atts,
    ((c.atts.drop (j + 1)).map fun a => (a.size, a.isList == 0)) = [(1, true), (2, false)] := by
  decide +kernel

/-- A structure that does not fit has an attribute that is no list behind the end of the block. -/
theorem exists_outside : ∀ c ∈ commands, 256 ≤ requestSize c.atts →
    ((List.range c.atts.length).any fun j => (c.atts[j]?.any fun a => a.isList == 0) &&
      commandSize c.atts ≤ offset (members c.atts) j) = true := by
  decide +kernel

/-- The structure of a command is the one its attributes stand for. -/
theorem members_eq {index : ℕ} {c : Cmd} (hc : commands[index]? = some c) :
    (sendCmd index).map Field.member = members c.atts := by
  have hindex : index < 72 := (List.getElem?_eq_some_iff.mp hc).1
  have hshape := congrArg (·[index]?) commands_shape
  simp only [List.getElem?_map, hc, List.getElem?_range hindex, Option.map_some,
    Option.some.injEq] at hshape
  rw [← hshape, members, List.map_map]
  rfl

/-! ## Where the places agree -/

variable {atts : List CmdAtt} {a : CmdAtt} {n : ℕ → ℕ} {s : InputState} {j k m pos : ℕ}

/-- A list whose place depends on its elements is not empty. -/
def Padded (a : CmdAtt) (m pos : ℕ) : Prop :=
  a.isList ≠ 0 → a.size = 2 → pos % 2 ≠ 0 → m ≠ 0

/-- The code aligns an attribute as the compiler does. -/
theorem CmdAtt.start_eq (hsize : 0 < a.size ∧ (a.isList ≠ 0 → a.size ≤ 2))
    (hpad : Padded a m pos) : a.start m pos = alignUp a.toField.member.size pos := by
  obtain ⟨hpos, hle⟩ := hsize
  by_cases htwo : a.size = 2
  · have halign : a.toField.member.size = 2 := by
      by_cases hlist : a.isList = 0 <;> simp [CmdAtt.toField, hlist, htwo]
    rw [halign, alignUp_two]
    by_cases hodd : pos % 2 ≠ 0
    · have hcond : a.isList = 0 ∨ m ≠ 0 := by
        by_cases hlist : a.isList = 0
        · exact .inl hlist
        · exact .inr (hpad hlist htwo hodd)
      simp [CmdAtt.start, htwo, hodd, hcond]
    · simp [CmdAtt.start, hodd]
  · have halign : a.toField.member.size = 1 := by
      by_cases hlist : a.isList = 0
      · by_cases hsmall : a.size ≤ 2
        · simp only [CmdAtt.toField, hlist, hsmall]
          simp
          omega
        · simp [CmdAtt.toField, hlist, hsmall]
      · have hone : a.size = 1 := by
          have hsmall := hle hlist
          omega
        simp [CmdAtt.toField, hlist, hone]
    rw [halign, alignUp_one, CmdAtt.start, if_neg fun h => htwo h.1]

theorem CmdAtt.bytes_eq (a : CmdAtt) :
    a.toField.member.size * a.toField.member.count = a.size * a.cells := by
  by_cases hlist : a.isList = 0
  · by_cases hsmall : a.size ≤ 2 <;> simp [CmdAtt.toField, CmdAtt.cells, hlist, hsmall]
  · simp [CmdAtt.toField, CmdAtt.cells, hlist]

theorem getElem?_members (ha : atts[j]? = some a) :
    (members atts)[j]? = some a.toField.member := by
  simp [members, ha]

/-- The code puts the first attributes where the compiler does. -/
theorem codeEnd_eq (hfacts : TableFacts atts)
    (h : ∀ j < k, ∀ a ∈ atts[j]?, Padded a (n j) (structEnd (members atts) j)) :
    codeEnd atts n k = structEnd (members atts) k := by
  induction k with
  | zero => rfl
  | succ k ih =>
    have hprev := ih fun j hj => h j (Nat.lt_succ_of_lt hj)
    cases ha : atts[k]? with
    | none => simp [codeEnd, structEnd, members, ha, hprev]
    | some a =>
      have hsize := hfacts.sizes a (List.mem_of_getElem? ha)
      have hpad := h k (Nat.lt_succ_self k) a ha
      rw [codeEnd_succ ha, codeStart_eq ha, hprev, structEnd_succ (getElem?_members ha), offset,
        getElem?_members ha, CmdAtt.start_eq hsize hpad, CmdAtt.bytes_eq]

theorem codeStart_eq_offset (hfacts : TableFacts atts) (ha : atts[j]? = some a)
    (h : ∀ k ≤ j, ∀ a ∈ atts[k]?, Padded a (n k) (structEnd (members atts) k)) :
    codeStart atts n j = offset (members atts) j := by
  have hsize := hfacts.sizes a (List.mem_of_getElem? ha)
  rw [codeStart_eq ha, codeEnd_eq hfacts fun k hk => h k (Nat.le_of_lt hk), offset,
    getElem?_members ha, CmdAtt.start_eq hsize (h j (Nat.le_refl j) a ha)]

theorem mem_oddLists : j ∈ oddLists atts ↔ j + 1 < atts.length ∧ ∃ a, atts[j]? = some a ∧
    a.isList ≠ 0 ∧ a.size = 2 ∧ structEnd (members atts) j % 2 ≠ 0 := by
  cases ha : atts[j]? with
  | none => simp [oddLists, ha]
  | some a =>
    simp only [oddLists, List.mem_filter, List.mem_range, ha, Option.any_some, Bool.and_eq_true,
      decide_eq_true_eq, Option.some.injEq, exists_eq_left']
    omega

/-! ## Both directions -/

section

variable {index : ℕ}

/-- With an element in every list all places agree. -/
theorem codeEnd_one (hfacts : TableFacts atts) (k : ℕ) :
    codeEnd atts (fun _ => 1) k = structEnd (members atts) k :=
  codeEnd_eq hfacts fun _ _ _ _ _ _ _ => Nat.one_ne_zero

theorem codeStart_one (hfacts : TableFacts atts) (ha : atts[j]? = some a) :
    codeStart atts (fun _ => 1) j = offset (members atts) j :=
  codeStart_eq_offset hfacts ha fun _ _ _ _ _ _ _ => Nat.one_ne_zero

/-- The places in the structure are those of the code with an element in every list. -/
theorem offset_eq_start (hfacts : TableFacts atts) (ha : atts[k]? = some a) :
    offset (members atts) k = a.start 1 (structEnd (members atts) k) ∧
      structEnd (members atts) (k + 1) = offset (members atts) k + a.size * a.cells := by
  rw [← codeStart_one hfacts ha, ← codeEnd_one hfacts, ← codeEnd_one hfacts, codeEnd_succ ha,
    codeStart_eq ha]
  exact ⟨rfl, rfl⟩

theorem Fits.padded (h : Fits atts s) (ha : atts[j]? = some a)
    (hj : j + 1 < atts.length ∨ s.counts j ≠ 0) :
    Padded a (s.counts j) (structEnd (members atts) j) := by
  intro hlist hsize hodd
  rcases hj with hlt | hne
  · have hmem : j ∈ oddLists atts := mem_oddLists.mpr ⟨hlt, a, ha, hlist, hsize, hodd⟩
    have hne := h.lists j hmem
    exact fun hzero => hne (List.length_eq_zero_iff.mp hzero)
  · exact hne

/-- Attributes that have a value stand where the structure has them. -/
theorem Fits.place (h : Fits atts s) (hfacts : TableFacts atts) (ha : atts[j]? = some a)
    (hne : s.counts j ≠ 0) : codeStart atts s.counts j = offset (members atts) j := by
  apply codeStart_eq_offset hfacts ha
  intro k hk b hb
  apply h.padded hb
  rcases Nat.lt_or_eq_of_le hk with hlt | rfl
  · left
    have hj : j < atts.length := (List.getElem?_eq_some_iff.mp ha).1
    omega
  · exact .inr hne

theorem laidOut_of_fits (hfacts : TableFacts atts)
    (hmembers : (sendCmd index).map Field.member = members atts)
    (hdone : Done atts atts.length s) (hwritten : ∀ i ∈ s.written, ∃ j, InBlock atts s.counts j i)
    (h : Fits atts s) : LaidOut index atts s := by
  have hlen : ∀ j, ∀ a ∈ atts[j]?, j < atts.length :=
    fun j a ha => (List.getElem?_eq_some_iff.mp ha).1
  constructor
  case inBounds =>
    intro i hi
    obtain ⟨j, a, ha, hle, hlt⟩ := hwritten i hi
    have hused : s.counts j ≠ 0 ∧ a.used (s.counts j) ≤ a.cells := by
      by_cases hlist : a.isList = 0
      · have hone := hdone.scalar j (hlen j a ha) a ha hlist
        simp [CmdAtt.used, CmdAtt.cells, hlist, hone]
      · have hshort := hdone.list j (hlen j a ha) a ha hlist
        rw [CmdAtt.used, if_neg hlist] at hlt ⊢
        rw [CmdAtt.cells, if_neg hlist]
        constructor
        · intro hzero
          rw [hzero] at hlt
          omega
        · omega
    rw [h.place hfacts ha hused.1, ← codeStart_one hfacts ha] at hlt
    have hcells : a.size * a.used (s.counts j) ≤ a.size * a.cells :=
      Nat.mul_le_mul_left _ hused.2
    have hend := codeStart_add_le (n := fun _ => 1) ha (hlen j a ha)
    rw [codeEnd_one hfacts, ← requestSize] at hend
    rw [hfacts.total, Nat.mod_eq_of_lt h.room]
    omega
  case scalar => exact fun j a ha => hdone.scalar j (hlen j a ha) a ha
  case list =>
    intro j a ha hlist
    obtain ⟨-, hpos, p, hp, hscalar, -⟩ := hfacts.regular.list ha hlist
    have hone := hdone.scalar (j - 1) (hlen _ p hp) p hp hscalar
    obtain ⟨l, hl⟩ := List.length_eq_one_iff.mp hone
    have hnamed := h.named (j - 1) p hp l (by rw [hl]; exact List.mem_singleton_self l)
    obtain ⟨bs, hbs⟩ := Option.isSome_iff_exists.mp hnamed
    exact ⟨p, hp, l, bs, hl, hbs,
      hdone.counted j (hlen j a ha) a ha hlist p hp l (by simp [hl]) bs hbs⟩
  case values =>
    intro j a ha i l hl
    constructor
    · exact h.named j a ha l (List.mem_of_getElem? hl)
    · have hne : s.counts j ≠ 0 := by
        have hi : i < s.counts j := (List.getElem?_eq_some_iff.mp hl).1
        omega
      rw [hmembers, ← h.place hfacts ha hne]
      exact hdone.holds j (hlen j a ha) a ha i l hl

/-- The bytes of a value that is laid out were written. -/
theorem LaidOut.written (h : LaidOut index atts s)
    (hmembers : (sendCmd index).map Field.member = members atts) (ha : atts[j]? = some a)
    {i q : ℕ} (hi : i < s.counts j) (hle : offset (members atts) j + a.size * i ≤ q)
    (hlt : q < offset (members atts) j + a.size * i + a.size) : q ∈ s.written := by
  obtain ⟨hsome, hholds⟩ := h.values j a ha i _ (List.getElem?_eq_getElem hi)
  obtain ⟨bs, hbs⟩ := Option.isSome_iff_exists.mp hsome
  rw [hmembers] at hholds
  exact (hholds bs hbs).2 q hle hlt

/-- A byte of an attribute lies in front of the end of that attribute. -/
theorem InBlock.lt_codeEnd (hdone : Done atts atts.length s) {i : ℕ}
    (h : InBlock atts s.counts j i) : i < codeEnd atts s.counts (j + 1) := by
  obtain ⟨a, ha, -, hlt⟩ := h
  have hj : j < atts.length := (List.getElem?_eq_some_iff.mp ha).1
  have hused : a.used (s.counts j) ≤ a.cells := by
    by_cases hlist : a.isList = 0
    · simp [CmdAtt.used, CmdAtt.cells, hlist]
    · have hshort := hdone.list j hj a ha hlist
      rw [CmdAtt.used, if_neg hlist, CmdAtt.cells, if_neg hlist]
      exact Nat.le_of_lt hshort
  rw [codeEnd_succ ha]
  exact Nat.lt_of_lt_of_le hlt (Nat.add_le_add_left (Nat.mul_le_mul_left _ hused) _)

/-- An empty list at an odd place, the length of the next list behind it, and that list: the
member of the length is at `place`. -/
structure Shifted (atts : List CmdAtt) (s : InputState) (j place : ℕ) : Prop where
  length : atts.length = j + 3
  next : ∃ b, atts[j + 1]? = some b ∧ b.size = 1 ∧ b.isList = 0
  last : ∃ b, atts[j + 2]? = some b ∧ b.size = 2 ∧ b.isList ≠ 0
  nextOffset : offset (members atts) (j + 1) = place
  lastOffset : offset (members atts) (j + 2) = place + 2
  listEnd : codeEnd atts s.counts (j + 1) ≤ place
  nextEnd : codeEnd atts s.counts (j + 2) ≤ place
  lastStart : codeStart atts s.counts (j + 2) = place

/-- There is at most one such list. -/
theorem eq_of_mem_oddLists {c : Cmd} (hc : commands[index]? = some c) {i : ℕ}
    (hi : i ∈ oddLists c.atts) (hj : j ∈ oddLists c.atts) : i = j := by
  have hindex : index < 72 := (List.getElem?_eq_some_iff.mp hc).1
  rw [oddLists_commands index hindex c hc] at hi hj
  by_cases hsix : index = 21 ∨ index = 41 ∨ index = 62
  · rw [if_pos hsix, List.mem_singleton] at hi hj
    rw [hi, hj]
  · rw [if_neg hsix] at hi hj
    by_cases hfour : index = 35
    · rw [if_pos hfour, List.mem_singleton] at hi hj
      rw [hi, hj]
    · simp [hfour] at hi

/-- The attributes from such a list on. -/
theorem attributes_of_mem_oddLists {c : Cmd} (hc : c ∈ commands) (hj : j ∈ oddLists c.atts) :
    c.atts.length = j + 3 ∧ (∃ b, c.atts[j + 1]? = some b ∧ b.size = 1 ∧ b.isList = 0) ∧
      ∃ d, c.atts[j + 2]? = some d ∧ d.size = 2 ∧ d.isList ≠ 0 := by
  obtain ⟨b, tail, hb, hbshape, htail⟩ := List.map_eq_cons_iff.mp (drop_oddLists c hc j hj)
  obtain ⟨d, tail', rfl, hdshape, hnone⟩ := List.map_eq_cons_iff.mp htail
  obtain rfl : tail' = [] := List.map_eq_nil_iff.mp hnone
  refine ⟨?_, ⟨b, ?_, by simpa using hbshape⟩, d, ?_, by simpa using hdshape⟩
  · have hlen := congrArg List.length hb
    rw [List.length_drop] at hlen
    simp only [List.length_cons, List.length_nil] at hlen
    omega
  · have hget := congrArg (·[0]?) hb
    simpa using hget
  · have hget := congrArg (·[1]?) hb
    simpa using hget

/-- What is in front of such a list stands where it should. -/
theorem codeEnd_of_mem_oddLists {c : Cmd} (hc : commands[index]? = some c)
    (hj : j ∈ oddLists c.atts) : codeEnd c.atts n j = structEnd (members c.atts) j := by
  have hlt := (mem_oddLists.mp hj).1
  apply codeEnd_eq (tableFacts (List.mem_of_getElem? hc))
  intro i hi e he hilist hisize hiodd
  have hother : i ∈ oddLists c.atts := mem_oddLists.mpr ⟨by omega, e, he, hilist, hisize, hiodd⟩
  exact absurd (eq_of_mem_oddLists hc hother hj) (Nat.ne_of_lt hi)

theorem exists_shifted {c : Cmd} (hc : commands[index]? = some c) (hj : j ∈ oddLists c.atts)
    (hnil : s.entered j = []) : ∃ place, Shifted c.atts s j place := by
  have hmem := List.mem_of_getElem? hc
  have hfacts := tableFacts hmem
  obtain ⟨-, a, ha, hlist, hsize, hodd⟩ := mem_oddLists.mp hj
  obtain ⟨hlength, ⟨b, hnext, hbsize, hbscalar⟩, d, hlast, hdsize, hdlist⟩ :=
    attributes_of_mem_oddLists hmem hj
  have hfront := @codeEnd_of_mem_oddLists s.counts j index c hc hj
  have hempty : s.counts j = 0 := by rw [InputState.counts, hnil, List.length_nil]
  have hbytes : ∀ m pos, b.start m pos = pos := by
    intro m pos
    simp [CmdAtt.start, hbsize]
  have hbcells : b.size * b.cells = 1 := by simp [CmdAtt.cells, hbsize, hbscalar]
  have hacells : a.size * a.cells = 2 * a.isList := by simp [CmdAtt.cells, hsize, hlist]
  have hafirst : a.start 1 (structEnd (members c.atts) j) = structEnd (members c.atts) j + 1 := by
    exact if_pos ⟨hsize, hodd, .inr Nat.one_ne_zero⟩
  have hanone : a.start 0 (structEnd (members c.atts) j) = structEnd (members c.atts) j := by
    simp [CmdAtt.start, hlist]
  obtain ⟨hjoffset, hjend⟩ := offset_eq_start hfacts ha
  obtain ⟨hboffset, hbend⟩ := offset_eq_start hfacts hnext
  obtain ⟨hdoffset, -⟩ := offset_eq_start hfacts hlast
  rw [hbytes] at hboffset
  rw [hafirst] at hjoffset
  rw [hacells] at hjend
  rw [hbcells] at hbend
  change structEnd (members c.atts) (j + 2) = _ at hbend
  have hcodej := codeEnd_succ (n := s.counts) ha
  rw [codeStart_eq ha, hempty, hfront, hanone, hacells] at hcodej
  have hcodeb := codeEnd_succ (n := s.counts) hnext
  rw [codeStart_eq hnext, hbytes, hbcells] at hcodeb
  change codeEnd c.atts s.counts (j + 2) = _ at hcodeb
  have hcoded := codeStart_eq (n := s.counts) hlast
  have hdodd : d.start 1 (structEnd (members c.atts) (j + 2)) =
      structEnd (members c.atts) (j + 2) + 1 := by
    exact if_pos ⟨hdsize, by omega, .inr Nat.one_ne_zero⟩
  have hdeven : d.start (s.counts (j + 2)) (codeEnd c.atts s.counts (j + 2)) =
      codeEnd c.atts s.counts (j + 2) := by
    apply if_neg
    intro hpad
    have hmod := hpad.2.1
    omega
  refine ⟨structEnd (members c.atts) (j + 1), ?_⟩
  constructor
  case length => exact hlength
  case next => exact ⟨b, hnext, hbsize, hbscalar⟩
  case last => exact ⟨d, hlast, hdsize, hdlist⟩
  case nextOffset => exact hboffset
  case lastOffset => omega
  case listEnd => omega
  case nextEnd => omega
  case lastStart => omega

theorem fits_of_laidOut {c : Cmd} (hc : commands[index]? = some c)
    (hdone : Done c.atts c.atts.length s)
    (hwritten : ∀ i ∈ s.written, ∃ j, InBlock c.atts s.counts j i)
    (h : LaidOut index c.atts s) : Fits c.atts s := by
  have hmem := List.mem_of_getElem? hc
  have hfacts := tableFacts hmem
  have hmembers := members_eq hc
  constructor
  case room =>
    by_contra hlarge
    have hout := exists_outside c hmem (Nat.le_of_not_lt hlarge)
    simp only [List.any_eq_true, List.mem_range, Bool.and_eq_true, decide_eq_true_eq,
      Option.any_eq_true, beq_iff_eq] at hout
    obtain ⟨j, hj, ⟨a, ha, hscalar⟩, hend⟩ := hout
    have hone := h.scalar j a ha hscalar
    have hsize := (hfacts.sizes a (List.mem_of_getElem? ha)).1
    have hin := h.written hmembers ha (i := 0) (q := offset (members c.atts) j) (by omega)
      (by omega) (by omega)
    exact absurd (h.inBounds _ hin) (Nat.not_lt_of_le hend)
  case lists =>
    intro j hj hnil
    obtain ⟨place, hshift⟩ := exists_shifted hc hj hnil
    obtain ⟨b, hb, hbsize, hscalar⟩ := hshift.next
    obtain ⟨d, hd, hdsize, hlist⟩ := hshift.last
    -- Only elements of the last list are written from `place` on.
    have hlast : ∀ q ∈ s.written, place ≤ q → q < place + 2 * s.counts (j + 2) := by
      intro q hq hle
      obtain ⟨k, hblock⟩ := hwritten q hq
      have hend := hblock.lt_codeEnd hdone
      obtain ⟨e, he, -, hlt⟩ := hblock
      have hk : k < c.atts.length := (List.getElem?_eq_some_iff.mp he).1
      have hlength := hshift.length
      rcases Nat.lt_trichotomy k (j + 1) with hbelow | rfl | habove
      · have hle : k + 1 ≤ j + 1 := hbelow
        have hmono : codeEnd c.atts s.counts (k + 1) ≤ codeEnd c.atts s.counts (j + 1) :=
          codeEnd_mono hle
        have hlistEnd := hshift.listEnd
        omega
      · have hnextEnd : codeEnd c.atts s.counts (j + 1 + 1) ≤ place := hshift.nextEnd
        omega
      · obtain rfl : k = j + 2 := by omega
        obtain rfl : d = e := Option.some.inj (hd.symm.trans he)
        rwa [hshift.lastStart, CmdAtt.used, if_neg hlist, hdsize] at hlt
    have hone := h.scalar (j + 1) b hb hscalar
    have hnext := hshift.nextOffset
    have hfirst := h.written hmembers hb (i := 0) (q := place) (by omega) (by omega) (by omega)
    have hpos := hlast place hfirst (Nat.le_refl place)
    have hoffset := hshift.lastOffset
    have hfinal := h.written hmembers hd (i := s.counts (j + 2) - 1)
      (q := place + 2 * s.counts (j + 2)) (by omega) (by rw [hdsize]; omega) (by rw [hdsize]; omega)
    have hcontra := hlast _ hfinal (by omega)
    omega
  case named =>
    intro j a ha l hl
    obtain ⟨i, hi, rfl⟩ := List.getElem_of_mem hl
    exact (h.values j a ha i _ (List.getElem?_eq_getElem hi)).1

end

/-- **What was entered is laid out as the builder expects exactly if it fits.** -/
theorem laidOut_iff {index : ℕ} {c : Cmd} (hc : commands[index]? = some c) {fuel : ℕ} {heap : Mem}
    {tem : UInt32} {answers : List Answer} {s : InputState}
    (h : inputCmd c.atts fuel heap tem answers = some s) :
    LaidOut index c.atts s ↔ Fits c.atts s := by
  have hfacts := tableFacts (List.mem_of_getElem? hc)
  obtain ⟨hdone, hwritten⟩ := inputCmd_done hfacts.regular h
  constructor
  · exact fits_of_laidOut hc hdone hwritten
  · exact laidOut_of_fits hfacts (members_eq hc) hdone hwritten

/-- A line typed into an empty buffer. -/
def typed (l : List UInt8) (h : 0 ∉ l ∧ l.length < 128) : Answer :=
  ⟨Mem.ofList (l ++ [0]) fun _ => 0, by
    rw [line, Mem.ofList, (isString_blit _ h.1).cString_eq h.2]
    exact h.2⟩

/-- `ZDO_MATCH_DESC_REQ`. -/
def matchDesc : Cmd := commands.get ⟨35, by decide⟩

theorem getElem?_matchDesc : commands[35]? = some matchDesc :=
  List.getElem?_eq_getElem (by decide)

/-- One cluster in each list; a length of 20 is not accepted. -/
def matchDescAnswers : List Answer :=
  [typed [48] (by decide), typed [49, 50, 97, 66] (by decide), typed [49, 48, 52] (by decide),
    typed [50, 48] (by decide), typed [49] (by decide), typed [54] (by decide),
    typed [49] (by decide), typed [48, 120, 53, 48, 49] (by decide)]

/-- A request that fits. -/
theorem laidOut_matchDesc : ∃ s, inputCmd matchDesc.atts 20 (fun _ => 238) 7 matchDescAnswers =
    some s ∧ LaidOut 35 matchDesc.atts s := by
  have hrun : (inputCmd matchDesc.atts 20 (fun _ => 238) 7 matchDescAnswers).isSome = true := rfl
  have hnamed : ∀ s ∈ inputCmd matchDesc.atts 20 (fun _ => 238) 7 matchDescAnswers, ∀ j < 7,
      ∀ a ∈ matchDesc.atts[j]?, ∀ l ∈ s.entered j, (valueOf a.size l).isSome := by decide +kernel
  have hlists : ∀ s ∈ inputCmd matchDesc.atts 20 (fun _ => 238) 7 matchDescAnswers,
      ∀ j ∈ oddLists matchDesc.atts, s.entered j ≠ [] := by decide +kernel
  refine ⟨_, (Option.some_get hrun).symm, ?_⟩
  apply (laidOut_iff getElem?_matchDesc (Option.some_get hrun).symm).mpr
  constructor
  · decide +kernel
  · exact hlists _ (Option.some_get hrun).symm
  · intro j a ha
    have hj : j < 7 := (List.getElem?_eq_some_iff.mp ha).1
    exact hnamed _ (Option.some_get hrun).symm j hj a ha

/-- No input cluster and one output cluster. -/
def noClusterAnswers : List Answer :=
  [typed [48] (by decide), typed [49] (by decide), typed [49, 48, 52] (by decide),
    typed [48] (by decide), typed [49] (by decide), typed [54] (by decide)]

/-- The number of output clusters is not where the builder looks for it. -/
theorem matchDesc_shifted : ¬ ∀ index c, commands[index]? = some c → ∀ fuel heap tem answers s,
    inputCmd c.atts fuel heap tem answers = some s → LaidOut index c.atts s := by
  intro hall
  have hrun : (inputCmd matchDesc.atts 20 (fun _ => 238) 7 noClusterAnswers).isSome = true := rfl
  have hlaid := hall 35 matchDesc getElem?_matchDesc 20 _ _ _ _ (Option.some_get hrun).symm
  have hline : (((inputCmd matchDesc.atts 20 (fun _ => 238) 7 noClusterAnswers).get hrun).entered
      5)[0]? = some [49] := rfl
  have hatt : matchDesc.atts[5]? = some ⟨"NumOutClusters", 1, 0⟩ := rfl
  obtain ⟨-, hholds⟩ := hlaid.values 5 _ hatt 0 [49] hline
  have hvalue : valueOf 1 [49] = some [1] := by decide
  have hbyte := (hholds [1] hvalue).1
  exact absurd (show [(6 : UInt8)] = [1] from hbyte) (by decide)

end ZnpHost.Apps
