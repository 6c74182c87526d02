import ZnpHost.Apps.Commands
import ZnpHost.Lib.CommonPrefix

/-!
# Completion of a command

`getMatched` looks for the commands whose names begin with what was typed.  If there are several,
it adds one letter of the first name and calls itself, until the number of matches changes; so
what was typed becomes the longest common prefix.  A letter that leads to a name is kept
without that test, which is right for the names of the table.

## Main definitions

* `Matcher`, `matchLoop`, `getMatched` — the function with its two global variables.
* `tab`, `enter` — what `clGetCmd` does with it.
* `matching` — the names that begin with what was typed.
* `Separated` — the condition on the names; the table meets it.
* `completion_exact` — what the two keys do.
-/

namespace ZnpHost.Apps

open Lib

/-! ## The code -/

/-- The name of a command, as a C string. -/
def Cmd.chars (c : Cmd) : List UInt8 := c.cmdName.toList.map fun ch => UInt8.ofNat ch.toNat

/-- The names of the table. -/
def cmdNames : List (List UInt8) := commands.map Cmd.chars

/-- The argument of `getMatched`, and the global variables. -/
structure Matcher where
  cmd : List UInt8
  matchedLength : ℕ
  matchedCmds : List ℕ

/-- The loop over the table; an exact match ends it. -/
def matchLoop (cmd : List UInt8) : List (List UInt8) → ℕ → List ℕ → ℕ → List ℕ × ℕ
  | [], _, matchedTemp, matchedLength => (matchedTemp, matchedLength)
  | name :: names, idx, matchedTemp, matchedLength =>
    if cmd.length ≤ name.length ∧ cmd = name.take cmd.length then
      if name.length = cmd.length then ([idx], 0)
      else matchLoop cmd names (idx + 1) (matchedTemp ++ [idx]) matchedLength
    else matchLoop cmd names (idx + 1) matchedTemp matchedLength

/-- `memcpy(matchedCmds, matchedTemp, cmdMatches)`. -/
def copyMatched (matchedTemp matchedCmds : List ℕ) : List ℕ :=
  matchedTemp ++ matchedCmds.drop matchedTemp.length

/-- `getMatched`; it calls itself with one more letter. -/
def getMatched (names : List (List UInt8)) : ℕ → Matcher → Option Matcher
  | 0, _ => none
  | fuel + 1, s =>
    let r := matchLoop s.cmd names 0 [] s.matchedLength
    let cmdMatches := r.1.length
    if 1 < cmdMatches ∧ (r.2 = cmdMatches ∨ r.2 = 0) then do
      let ch := (names.getD (r.1.headD 0) []).getD s.cmd.length 0
      let s' ← getMatched names fuel ⟨s.cmd ++ [ch], cmdMatches, s.matchedCmds⟩
      some ⟨s'.cmd, cmdMatches, copyMatched r.1 s'.matchedCmds⟩
    else
      -- the last letter went too far
      some ⟨if r.2 ≠ 0 then s.cmd.dropLast else s.cmd, cmdMatches, copyMatched r.1 s.matchedCmds⟩

/-- The tab key, pressed once: `cmdStr` afterwards. -/
def tab (names : List (List UInt8)) (fuel : ℕ) (cmdStr : List UInt8) (matchedCmds : List ℕ) :
    Option (List UInt8) := do
  let s ← getMatched names fuel ⟨cmdStr, 0, matchedCmds⟩
  some (if s.matchedLength = 1 then names.getD (s.matchedCmds.headD 0) [] else s.cmd)

/-- The tab key, pressed twice: the commands that are printed. -/
def tabTab (names : List (List UInt8)) (fuel : ℕ) (cmdStr : List UInt8) (matchedCmds : List ℕ) :
    Option (List ℕ) := do
  let s ← getMatched names fuel ⟨cmdStr, 0, matchedCmds⟩
  some (s.matchedCmds.take s.matchedLength)

/-- The enter key: the command with which `inputCmd` is called, if it is. -/
def enter (names : List (List UInt8)) (fuel : ℕ) (cmdStr : List UInt8) (matchedCmds : List ℕ) :
    Option (Option ℕ) := do
  let s ← getMatched names fuel ⟨cmdStr, 0, matchedCmds⟩
  let idx := s.matchedCmds.headD 0
  some (if s.matchedLength = 1 ∧ s.cmd = names.getD idx [] then some idx else none)

/-! ## The matches -/

section Spec

variable {names : List (List UInt8)} {cmd : List UInt8}

/-- The names that begin with `cmd`, and their indices from `idx` on. -/
def matchingFrom (cmd : List UInt8) (names : List (List UInt8)) (idx : ℕ) :
    List (List UInt8 × ℕ) :=
  (names.zipIdx idx).filter fun x => cmd.isPrefixOf x.1

/-- The names of a table that begin with `cmd`, and their indices. -/
def matching (names : List (List UInt8)) (cmd : List UInt8) : List (List UInt8 × ℕ) :=
  matchingFrom cmd names 0

theorem prefix_iff_take (cmd name : List UInt8) :
    cmd <+: name ↔ cmd.length ≤ name.length ∧ cmd = name.take cmd.length := by
  constructor
  · intro h
    exact ⟨h.length_le, List.prefix_iff_eq_take.mp h⟩
  · intro h
    exact List.prefix_iff_eq_take.mpr h.2

theorem mem_matching {x : List UInt8 × ℕ} :
    x ∈ matching names cmd ↔ names[x.2]? = some x.1 ∧ cmd <+: x.1 := by
  simp [matching, matchingFrom, List.mem_filter, List.mem_zipIdx_iff_getElem?]

/-- The loop finds all matches, unless one is exact. -/
theorem matchLoop_of_notMem (h : cmd ∉ names) (idx : ℕ) (acc : List ℕ) (matchedLength : ℕ) :
    matchLoop cmd names idx acc matchedLength =
      (acc ++ (matchingFrom cmd names idx).map Prod.snd, matchedLength) := by
  induction names generalizing idx acc with
  | nil => simp [matchLoop, matchingFrom]
  | cons name names ih =>
    rw [List.mem_cons, not_or] at h
    by_cases hp : cmd <+: name
    · have hlen : name.length ≠ cmd.length := fun heq => h.1 (hp.eq_of_length heq.symm)
      rw [matchLoop, if_pos ((prefix_iff_take cmd name).mp hp), if_neg hlen, ih h.2]
      simp [matchingFrom, hp]
    · rw [matchLoop, if_neg (mt (prefix_iff_take cmd name).mpr hp), ih h.2]
      simp [matchingFrom, hp]

/-- An exact match is the only one. -/
theorem matchLoop_of_mem (h : cmd ∈ names) (idx : ℕ) (acc : List ℕ) (matchedLength : ℕ) :
    matchLoop cmd names idx acc matchedLength = ([idx + names.idxOf cmd], 0) := by
  induction names generalizing idx acc with
  | nil => cases h
  | cons name names ih =>
    by_cases hname : cmd = name
    · subst hname
      simp [matchLoop]
    · have hmem : cmd ∈ names := (List.mem_cons.mp h).resolve_left hname
      have hidx : (name :: names).idxOf cmd = names.idxOf cmd + 1 := by
        simp [Ne.symm hname]
      have hlen : cmd <+: name → name.length ≠ cmd.length :=
        fun hp heq => hname (hp.eq_of_length heq.symm)
      rw [hidx, ← Nat.add_assoc, Nat.add_right_comm, matchLoop]
      by_cases hp : cmd <+: name
      · rw [if_pos ((prefix_iff_take cmd name).mp hp), if_neg (hlen hp), ih hmem]
      · rw [if_neg (mt (prefix_iff_take cmd name).mpr hp), ih hmem]

/-- With one more letter, some of the matches remain. -/
theorem matching_concat (names : List (List UInt8)) (cmd : List UInt8) (ch : UInt8) :
    matching names (cmd ++ [ch]) =
      (matching names cmd).filter fun x => (cmd ++ [ch]).isPrefixOf x.1 := by
  rw [matching, matching, matchingFrom, matchingFrom, List.filter_filter]
  apply List.filter_congr
  intro x _
  by_cases h : cmd ++ [ch] <+: x.1
  · have hcmd : cmd <+: x.1 := (List.prefix_append cmd [ch]).trans h
    simp [h, hcmd]
  · simp [h]

/-! ## One call -/

/-- The letter that is added: the next one of the first match. -/
def nextChar (names : List (List UInt8)) (cmd : List UInt8) : UInt8 :=
  (names.getD (((matching names cmd).map Prod.snd).headD 0) []).getD cmd.length 0

/-- A match that is not exact is longer, and the first one goes on with the letter added. -/
theorem nextChar_prefix {x : List UInt8 × ℕ} {xs : List (List UInt8 × ℕ)} (h : cmd ∉ names)
    (hx : matching names cmd = x :: xs) :
    cmd.length < x.1.length ∧ cmd ++ [nextChar names cmd] <+: x.1 := by
  obtain ⟨hget, hp⟩ := mem_matching.mp (hx ▸ List.mem_cons_self : x ∈ matching names cmd)
  have hne : cmd ≠ x.1 := fun heq => h (heq ▸ List.mem_of_getElem? hget)
  have hlt : cmd.length < x.1.length := by
    refine Nat.lt_of_le_of_ne hp.length_le fun heq => hne (hp.eq_of_length heq)
  have hnext : nextChar names cmd = x.1[cmd.length] := by
    simp [nextChar, hx, hget, List.getD_eq_getElem?_getD, hlt]
  refine ⟨hlt, ?_⟩
  obtain ⟨t, ht⟩ := hp
  rw [hnext]
  cases t with
  | nil =>
    rw [List.append_nil] at ht
    exact absurd ht hne
  | cons b t =>
    refine ⟨t, ?_⟩
    simp [← ht]

variable {fuel matchedLength : ℕ} {matchedCmds : List ℕ}

theorem getMatched_exact (h : cmd ∈ names) :
    getMatched names (fuel + 1) ⟨cmd, matchedLength, matchedCmds⟩ =
      some ⟨cmd, 1, copyMatched [names.idxOf cmd] matchedCmds⟩ := by
  simp [getMatched, matchLoop_of_mem h]

/-- The call that returns at once. -/
theorem getMatched_stop (h : cmd ∉ names) (hstop : ¬ (1 < (matching names cmd).length ∧
      (matchedLength = (matching names cmd).length ∨ matchedLength = 0))) :
    getMatched names (fuel + 1) ⟨cmd, matchedLength, matchedCmds⟩ =
      some ⟨if matchedLength ≠ 0 then cmd.dropLast else cmd, (matching names cmd).length,
        copyMatched ((matching names cmd).map Prod.snd) matchedCmds⟩ := by
  have hloop := matchLoop_of_notMem h 0 [] matchedLength
  rw [List.nil_append] at hloop
  change matchLoop cmd names 0 [] matchedLength = ((matching names cmd).map Prod.snd, _) at hloop
  simp only [getMatched, hloop, List.length_map, if_neg hstop]

/-- The call that adds a letter. -/
theorem getMatched_step (h : cmd ∉ names) (hgo : 1 < (matching names cmd).length ∧
      (matchedLength = (matching names cmd).length ∨ matchedLength = 0)) :
    getMatched names (fuel + 1) ⟨cmd, matchedLength, matchedCmds⟩ =
      (getMatched names fuel ⟨cmd ++ [nextChar names cmd], (matching names cmd).length,
        matchedCmds⟩).map fun s' => ⟨s'.cmd, (matching names cmd).length,
          copyMatched ((matching names cmd).map Prod.snd) s'.matchedCmds⟩ := by
  have hloop := matchLoop_of_notMem h 0 [] matchedLength
  rw [List.nil_append] at hloop
  change matchLoop cmd names 0 [] matchedLength = ((matching names cmd).map Prod.snd, _) at hloop
  simp only [getMatched, hloop, List.length_map, if_pos hgo]
  exact (Option.map_eq_bind ..).symm

/-! ## The recursion -/

/-- A name that is one letter longer than what other names begin with is what they begin with
themselves. -/
def Separated (names : List (List UInt8)) : Prop :=
  ∀ a ∈ names, ∀ b ∈ names, a.length ≤ b.length → a.dropLast <+: b → a <+: b

instance (names : List (List UInt8)) : Decidable (Separated names) :=
  List.decidableBAll _ names

/-- What is found: all matches, and their longest common prefix. -/
structure Completed (names : List (List UInt8)) (cmd : List UInt8) (s : Matcher) : Prop where
  length : s.matchedLength = (matching names cmd).length
  cmds : s.matchedCmds.take s.matchedLength = (matching names cmd).map Prod.snd
  longest : LongestCommonPrefix s.cmd ((matching names cmd).map Prod.fst)

theorem take_copyMatched (l : List (List UInt8 × ℕ)) (arr : List ℕ) :
    (copyMatched (l.map Prod.snd) arr).take l.length = l.map Prod.snd :=
  List.take_left' (List.length_map _)

theorem commonPrefix_matching (names : List (List UInt8)) (cmd : List UInt8) :
    CommonPrefix cmd ((matching names cmd).map Prod.fst) := by
  intro y hy
  obtain ⟨x, hx, rfl⟩ := List.mem_map.mp hy
  exact (mem_matching.mp hx).2

/-- **Letter by letter, what was typed grows to the longest common prefix.** -/
theorem getMatched_longest (hsep : Separated names) (fuel : ℕ) :
    ∀ (cmd : List UInt8) (matchedLength : ℕ) (matchedCmds : List ℕ), cmd ∉ names →
      1 < (matching names cmd).length →
      matchedLength = (matching names cmd).length ∨ matchedLength = 0 →
      (∀ name ∈ names, name.length < cmd.length + fuel) →
      ∃ s, getMatched names fuel ⟨cmd, matchedLength, matchedCmds⟩ = some s ∧
        Completed names cmd s := by
  induction fuel with
  | zero =>
    intro cmd matchedLength matchedCmds _ hmany _ hfuel
    obtain ⟨x, hx⟩ := List.exists_mem_of_length_pos (Nat.lt_trans Nat.zero_lt_one hmany)
    obtain ⟨hget, hp⟩ := mem_matching.mp hx
    have hle := hp.length_le
    have hlt := hfuel x.1 (List.mem_of_getElem? hget)
    omega
  | succ fuel ih =>
    intro cmd matchedLength matchedCmds hcmd hmany hlen hfuel
    let l := matching names cmd
    let next := cmd ++ [nextChar names cmd]
    obtain ⟨x, xs, hx⟩ : ∃ x xs, matching names cmd = x :: xs :=
      List.exists_cons_of_length_pos (Nat.lt_trans Nat.zero_lt_one hmany)
    obtain ⟨hlonger, hfirst⟩ := nextChar_prefix hcmd hx
    have hxmem : x ∈ matching names cmd := hx ▸ List.mem_cons_self
    have hxname : x.1 ∈ names := List.mem_of_getElem? (mem_matching.mp hxmem).1
    obtain ⟨k, rfl⟩ : ∃ k, fuel = k + 1 := ⟨fuel - 1, by have := hfuel x.1 hxname; omega⟩
    -- it suffices to follow the call with one more letter
    suffices hrec : ∃ s, getMatched names (k + 1) ⟨next, l.length, matchedCmds⟩ = some s ∧
        LongestCommonPrefix s.cmd (l.map Prod.fst) by
      obtain ⟨s, hs, hlongest⟩ := hrec
      refine ⟨⟨s.cmd, l.length, copyMatched (l.map Prod.snd) s.matchedCmds⟩, ?_,
        ⟨rfl, take_copyMatched l s.matchedCmds, hlongest⟩⟩
      rw [getMatched_step hcmd ⟨hmany, hlen⟩, hs]
      rfl
    by_cases hexact : next ∈ names
    · refine ⟨_, getMatched_exact hexact, ?_⟩
      have hcommon : CommonPrefix next (l.map Prod.fst) := by
        intro y hy
        obtain ⟨z, hz, rfl⟩ := List.mem_map.mp hy
        obtain ⟨hget, hp⟩ := mem_matching.mp hz
        have hne : cmd.length ≠ z.1.length :=
          fun heq => hcmd (hp.eq_of_length heq ▸ List.mem_of_getElem? hget)
        have hle := hp.length_le
        exact hsep next hexact z.1 (List.mem_of_getElem? hget) (by simp [next]; omega)
          (by simpa [next] using hp)
      obtain ⟨i, hi⟩ := List.mem_iff_getElem?.mp hexact
      have hmem : (next, i) ∈ l := mem_matching.mpr ⟨hi, List.prefix_append cmd _⟩
      exact .of_mem hcommon (List.mem_map.mpr ⟨_, hmem, rfl⟩)
    · by_cases hsame : (matching names next).length = l.length
      · have heq : matching names next = l := by
          rw [matching_concat] at hsame ⊢
          exact List.filter_eq_self.mpr (List.length_filter_eq_length_iff.mp hsame)
        have hcount : 1 < (matching names next).length := by rwa [hsame]
        obtain ⟨s, hs, hdone⟩ := ih next l.length matchedCmds hexact hcount (.inl hsame.symm)
          fun name hname => by
            have := hfuel name hname
            simp only [next, List.length_append, List.length_singleton]
            omega
        exact ⟨s, hs, heq ▸ hdone.longest⟩
      · have hpos : l.length ≠ 0 := Nat.ne_of_gt (Nat.lt_trans Nat.zero_lt_one hmany)
        refine ⟨_, getMatched_stop hexact ?_, ?_⟩
        · intro hgo
          exact hgo.2.elim (fun heq => hsame heq.symm) hpos
        · -- the letter is taken back
          have hback : (if l.length ≠ 0 then next.dropLast else next) = cmd := by
            rw [if_pos hpos, List.dropLast_concat]
          have hless : ((matching names cmd).filter fun x => next.isPrefixOf x.1).length <
              (matching names cmd).length := by
            rw [← matching_concat]
            refine Nat.lt_of_le_of_ne ?_ hsame
            rw [matching_concat]
            exact List.length_filter_le _ _
          obtain ⟨y, hy, hother⟩ := List.length_filter_lt_length_iff_exists.mp hless
          rw [hback]
          refine .of_split (commonPrefix_matching names cmd) (List.mem_map.mpr ⟨x, hxmem, rfl⟩)
            (List.mem_map.mpr ⟨y, hy, rfl⟩) hfirst ?_
          simpa using hother

/-! ## The keys -/

/-- Of one match the code takes the name. -/
theorem matching_singleton {x : List UInt8 × ℕ} (hx : matching names cmd = [x]) :
    names.getD x.2 [] = x.1 := by
  have hmem : x ∈ matching names cmd := by simp [hx]
  simp [List.getD_eq_getElem?_getD, (mem_matching.mp hmem).1]

/-- The first call, if the name is not complete and other names do not interfere. -/
theorem getMatched_few (fuel : ℕ) (matchedCmds : List ℕ) (h : cmd ∉ names)
    (hfew : ¬ 1 < (matching names cmd).length) :
    getMatched names (fuel + 1) ⟨cmd, 0, matchedCmds⟩ =
      some ⟨cmd, (matching names cmd).length,
        copyMatched ((matching names cmd).map Prod.snd) matchedCmds⟩ := by
  rw [getMatched_stop h fun hgo => hfew hgo.1]
  simp

/-- The tab key completes what was typed. -/
theorem tab_longest (hsep : Separated names) (hlen : ∀ name ∈ names, name.length < fuel + 1)
    (cmdStr : List UInt8) (matchedCmds : List ℕ) :
    ∃ cmdStr', tab names (fuel + 1) cmdStr matchedCmds = some cmdStr' ∧
      if matching names cmdStr = [] then cmdStr' = cmdStr
      else LongestCommonPrefix cmdStr' ((matching names cmdStr).map Prod.fst) := by
  by_cases hmem : cmdStr ∈ names
  · -- the name is complete, and it is the longest prefix of itself
    obtain ⟨i, hi⟩ := List.mem_iff_getElem?.mp hmem
    have hself : (cmdStr, i) ∈ matching names cmdStr := mem_matching.mpr ⟨hi, List.prefix_rfl⟩
    have hidx : names.getD (names.idxOf cmdStr) [] = cmdStr := by
      simp [List.getD_eq_getElem?_getD, List.getElem?_idxOf hmem]
    refine ⟨cmdStr, ?_, ?_⟩
    · simp only [tab, getMatched_exact hmem, copyMatched]
      simpa using hidx
    · rw [if_neg (List.ne_nil_of_mem hself)]
      exact .of_mem (commonPrefix_matching names cmdStr) (List.mem_map.mpr ⟨_, hself, rfl⟩)
  · by_cases hmany : 1 < (matching names cmdStr).length
    · obtain ⟨s, hs, hdone⟩ := getMatched_longest hsep (fuel + 1) cmdStr 0 matchedCmds hmem hmany
        (.inr rfl) fun name hname => Nat.lt_of_lt_of_le (hlen name hname) (by omega)
      have hone : s.matchedLength ≠ 1 := hdone.length ▸ Nat.ne_of_gt hmany
      refine ⟨s.cmd, ?_, ?_⟩
      · simp [tab, hs, hone]
      · rw [if_neg (List.ne_nil_of_length_pos (Nat.lt_trans Nat.zero_lt_one hmany))]
        exact hdone.longest
    · have hcall := getMatched_few fuel matchedCmds hmem hmany
      cases hx : matching names cmdStr with
      | nil =>
        rw [hx] at hcall
        exact ⟨cmdStr, by simp [tab, hcall], by simp⟩
      | cons x xs =>
        have hnil : xs = [] := by
          rw [hx, List.length_cons] at hmany
          exact List.length_eq_zero_iff.mp (by omega)
        subst hnil
        have hname := matching_singleton hx
        rw [hx] at hcall
        refine ⟨x.1, ?_, ?_⟩
        · simp only [tab, hcall, copyMatched]
          simpa using hname
        · rw [if_neg (List.cons_ne_nil x [])]
          refine .of_mem ?_ (by simp)
          simp [CommonPrefix]

/-- Pressed again, it lists the matches. -/
theorem tabTab_matching (hsep : Separated names)
    (hlen : ∀ name ∈ names, name.length < fuel + 1) (cmdStr : List UInt8)
    (matchedCmds : List ℕ) :
    tabTab names (fuel + 1) cmdStr matchedCmds =
      some (if cmdStr ∈ names then [names.idxOf cmdStr]
        else (matching names cmdStr).map Prod.snd) := by
  by_cases hmem : cmdStr ∈ names
  · simp [tabTab, getMatched_exact hmem, copyMatched, hmem]
  · by_cases hmany : 1 < (matching names cmdStr).length
    · obtain ⟨s, hs, hdone⟩ := getMatched_longest hsep (fuel + 1) cmdStr 0 matchedCmds hmem hmany
        (.inr rfl) fun name hname => Nat.lt_of_lt_of_le (hlen name hname) (by omega)
      simp [tabTab, hs, hdone.cmds, hmem]
    · simp [tabTab, getMatched_few fuel matchedCmds hmem hmany, take_copyMatched, hmem]

/-- The enter key runs the command whose name was typed, and no other one. -/
theorem enter_command (hsep : Separated names)
    (hlen : ∀ name ∈ names, name.length < fuel + 1) (cmdStr : List UInt8)
    (matchedCmds : List ℕ) :
    enter names (fuel + 1) cmdStr matchedCmds =
      some (if cmdStr ∈ names then some (names.idxOf cmdStr) else none) := by
  by_cases hmem : cmdStr ∈ names
  · simp only [enter, getMatched_exact hmem, copyMatched]
    simp [hmem]
  · by_cases hmany : 1 < (matching names cmdStr).length
    · obtain ⟨s, hs, hdone⟩ := getMatched_longest hsep (fuel + 1) cmdStr 0 matchedCmds hmem hmany
        (.inr rfl) fun name hname => Nat.lt_of_lt_of_le (hlen name hname) (by omega)
      have hone : s.matchedLength ≠ 1 := hdone.length ▸ Nat.ne_of_gt hmany
      simp [enter, hs, hone, hmem]
    · -- the one match is a longer name
      have hcall := getMatched_few fuel matchedCmds hmem hmany
      have hno : ¬ ((matching names cmdStr).length = 1 ∧
          cmdStr = names.getD ((copyMatched ((matching names cmdStr).map Prod.snd)
            matchedCmds).headD 0) []) := by
        intro hboth
        obtain ⟨x, hx⟩ := List.length_eq_one_iff.mp hboth.1
        have hname := hboth.2
        rw [hx] at hname
        simp only [List.map_cons, List.map_nil, copyMatched, List.cons_append,
          List.headD_cons] at hname
        rw [matching_singleton hx] at hname
        have hmemx : x ∈ matching names cmdStr := by simp [hx]
        exact hmem (hname ▸ List.mem_of_getElem? (mem_matching.mp hmemx).1)
      simp only [enter, hcall, Option.bind_eq_bind, Option.bind_some, if_neg hno, if_neg hmem]

end Spec

set_option maxRecDepth 4000 in
/-- The condition on the names holds of the table. -/
theorem separated_cmdNames : Separated cmdNames := by decide +kernel

set_option maxRecDepth 4000 in
theorem length_cmdNames : ∀ name ∈ cmdNames, name.length < 26 := by decide +kernel

/-- **Completion is exact.**  The tab key extends what was typed to the longest common prefix of
the names of the table that begin with it, if there are any; pressed again, it lists those names,
or the one that is complete; the enter key runs the command with exactly this name, if there is
one.  26 calls of `getMatched` are enough. -/
theorem completion_exact (cmdStr : List UInt8) (matchedCmds : List ℕ) (fuel : ℕ) :
    (∃ cmdStr', tab cmdNames (fuel + 26) cmdStr matchedCmds = some cmdStr' ∧
      if matching cmdNames cmdStr = [] then cmdStr' = cmdStr
      else LongestCommonPrefix cmdStr' ((matching cmdNames cmdStr).map Prod.fst)) ∧
    tabTab cmdNames (fuel + 26) cmdStr matchedCmds =
      some (if cmdStr ∈ cmdNames then [cmdNames.idxOf cmdStr]
        else (matching cmdNames cmdStr).map Prod.snd) ∧
    enter cmdNames (fuel + 26) cmdStr matchedCmds =
      some (if cmdStr ∈ cmdNames then some (cmdNames.idxOf cmdStr) else none) := by
  have hlen : ∀ name ∈ cmdNames, name.length < (fuel + 25) + 1 := fun name hname =>
    Nat.lt_of_lt_of_le (length_cmdNames name hname) (by omega)
  exact ⟨tab_longest separated_cmdNames hlen cmdStr matchedCmds,
    tabTab_matching separated_cmdNames hlen cmdStr matchedCmds,
    enter_command separated_cmdNames hlen cmdStr matchedCmds⟩

end ZnpHost.Apps
