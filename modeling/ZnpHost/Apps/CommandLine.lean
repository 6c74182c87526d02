import ZnpHost.Apps.Completion
import ZnpHost.Gnu.Keys

/-!
# The command line

`clGetCmd` reads keys until a command is entered.  It edits its line as `consoleGetLine` does,
with a history of its own, and completes it with the tab key.  The line `cmdStr`, its length
`cmdStrIdx` and the rows of `hist` have the names of `hostConsole.c` here.

## Main definitions

* `getMatchedAt` — `getMatched` on the buffer of the line.
* `CommandLine`, `clTab`, `clEnter`, `clGetCmd` — the variables, two keys, and the whole call.
* `CmdKey`, `readCommand` — keys, and the command that an editor with completion runs.
* `clGetCmd_runs` — the call runs this command.
-/

namespace ZnpHost.Apps

open Lib Gnu

/-! ## The code -/

/-- `getMatched` on the buffer: the buffer, `matchedLength` and `matchedCmds` afterwards. -/
def getMatchedAt (names : List (List UInt8)) :
    ℕ → Mem → ℕ → List ℕ → Option (Mem × ℕ × List ℕ)
  | 0, _, _, _ => none
  | fuel + 1, cmd, matchedLength, matchedCmds =>
    let index := (str cmd).length
    let r := matchLoop (str cmd) names 0 [] matchedLength
    let cmdMatches := r.1.length
    if 1 < cmdMatches ∧ (r.2 = cmdMatches ∨ r.2 = 0) then do
      let ch := (names.getD (r.1.headD 0) []).getD index 0
      let (cmd', _, cmds) ←
        getMatchedAt names fuel ((cmd.set index ch).set (index + 1) 0) cmdMatches matchedCmds
      some (cmd', cmdMatches, copyMatched r.1 cmds)
    else
      some (if r.2 ≠ 0 then cmd.set (index - 1) 0 else cmd, cmdMatches, copyMatched r.1 matchedCmds)

/-- The variables of `clGetCmd`, and the global array of the matches. -/
structure CommandLine extends Console where
  lastChar : UInt8
  matchedCmds : List ℕ

/-- `case '\t'`. -/
def clTab (names : List (List UInt8)) (fuel : ℕ) (s : CommandLine) : Option CommandLine := do
  let (ln, matchedLength, matchedCmds) ← getMatchedAt names fuel s.ln 0 s.matchedCmds
  let name := names.getD (matchedCmds.headD 0) []
  let ln := if matchedLength = 1 ∧ s.lastChar ≠ 9 then ln.blit 0 (name ++ [0]) else ln
  some
    { s with
      ln
      chIdx := (str ln).length
      matchedCmds
      -- the second tab is replaced by a space if it has printed something
      lastChar := if matchedLength ≠ 0 ∧ s.lastChar = 9 then 32 else 9 }

/-- `case '\n'`: the variables, and the command with which `inputCmd` is called, if it is. -/
def clEnter (names : List (List UInt8)) (fuel : ℕ) (s : CommandLine) :
    Option (CommandLine × Option ℕ) := do
  let (ln, matchedLength, matchedCmds) ← getMatchedAt names fuel s.ln 0 s.matchedCmds
  let idx := matchedCmds.headD 0
  let s' : CommandLine :=
    { s with toConsole := Console.enter { s.toConsole with ln }, lastChar := 10, matchedCmds }
  some (s', if matchedLength = 1 ∧ str ln = names.getD idx [] then some idx else none)

/-- A key that does not end the call. -/
def clStep (names : List (List UInt8)) (fuel : ℕ) (s : CommandLine) (ch : UInt8) :
    Option CommandLine :=
  if ch = 9 then clTab names fuel s
  else if ch = 10 then none
  else some { s with toConsole := s.toConsole.switch ch, lastChar := ch }

/-- `clGetCmd` on the characters that `consoleGetCh` returns; without a character it waits. -/
def clGetCmd (names : List (List UInt8)) (fuel : ℕ) :
    List UInt8 → CommandLine → Option (CommandLine × Option ℕ)
  | [], _ => none
  | ch :: chs, s =>
    if ch = 10 then clEnter names fuel s
    else (clStep names fuel s ch).bind (clGetCmd names fuel chs)

/-- The variables at the first round; the arrays and `lastChar` are not initialised. -/
def CommandLine.start (hist : History) (ln tempStr tempHist : Mem) (lastChar : UInt8)
    (matchedCmds : List ℕ) : CommandLine :=
  { Console.start hist ln tempStr tempHist with lastChar, matchedCmds }

/-! ## The editor -/

/-- A key of the command line. -/
inductive CmdKey
  | key (k : Key)
  | tab

/-- The characters that are read for a key. -/
def CmdKey.chars : CmdKey → List UInt8
  | key k => k.chars
  | tab => [9]

/-- The longest text that is certain: what all names that begin with `l` have in common. -/
def completion (names : List (List UInt8)) (l : List UInt8) : List UInt8 :=
  if matching names l = [] then l else longestCommon ((matching names l).map Prod.fst)

/-- The line is completed; the cursor is at its end. -/
def complete (names : List (List UInt8)) (e : LineEditor UInt8) : LineEditor UInt8 :=
  { e with before := (completion names e.line).reverse, after := [] }

/-- The command that is run: it has to be typed or completed to its whole name. -/
def readCommand (names : List (List UInt8)) : LineEditor UInt8 → List CmdKey → Option (Option ℕ)
  | _, [] => none
  | e, .tab :: ks => readCommand names (complete names e) ks
  | e, .key k :: ks =>
    match k.toLineKey with
    | .edit d => readCommand names (e.apply d) ks
    | .enter => some (if e.line ∈ names then some (names.idxOf e.line) else none)

/-! ## The buffer -/

variable {names : List (List UInt8)} {fuel : ℕ} {m : Mem} {l : List UInt8} {ch : UInt8}
  {e : LineEditor UInt8} {s s' : CommandLine}

/-- The names are C strings, and shorter than the buffer. -/
def AreStrings (names : List (List UInt8)) : Prop := ∀ name ∈ names, name.length < 255 ∧ 0 ∉ name

theorem AreStrings.getD (h : AreStrings names) (i : ℕ) :
    (names.getD i []).length < 255 ∧ 0 ∉ names.getD i [] := by
  by_cases hi : i < names.length
  · rw [List.getD_eq_getElem _ _ hi]
    exact h _ (List.getElem_mem hi)
  · rw [List.getD_eq_default _ _ (Nat.le_of_not_lt hi)]
    simp

/-- A character at the end of a string. -/
theorem isString_snoc (h : IsString m l) (hch : ch ≠ 0) :
    IsString ((m.set l.length ch).set (l.length + 1) 0) (l ++ [ch]) := by
  have hsplice := h.splice (Nat.le_refl l.length) (a := [ch]) (by simpa using Ne.symm hch)
  rw [List.take_length, ← Mem.blit_append] at hsplice
  rwa [Mem.set_eq_blit, Mem.set_eq_blit]

/-- The last character is taken back. -/
theorem isString_dropLast (h : IsString m l) : IsString (m.set (l.length - 1) 0) l.dropLast := by
  have hsplice := h.splice (Nat.sub_le l.length 1) (a := []) (by simp)
  rwa [List.append_nil, List.nil_append, ← List.dropLast_eq_take, ← Mem.set_eq_blit] at hsplice

/-- On the buffer the function does what it does on the string. -/
theorem getMatchedAt_eq (hnames : AreStrings names) (fuel : ℕ) :
    ∀ (l : List UInt8) (m : Mem) (matchedLength : ℕ) (matchedCmds : List ℕ) (r : Matcher),
      IsString m l → l.length < 256 →
      getMatched names fuel ⟨l, matchedLength, matchedCmds⟩ = some r →
      ∃ m', getMatchedAt names fuel m matchedLength matchedCmds =
        some (m', r.matchedLength, r.matchedCmds) ∧ IsString m' r.cmd ∧ r.cmd.length < 256 := by
  induction fuel with
  | zero =>
    intro l m matchedLength matchedCmds r _ _ h
    cases h
  | succ fuel ih =>
    intro l m matchedLength matchedCmds r hm hl h
    have hstr : str m = l := hm.cString_eq hl
    by_cases hmem : l ∈ names
    · rw [getMatched_exact hmem, Option.some.injEq] at h
      subst h
      exact ⟨m, by simp [getMatchedAt, hstr, matchLoop_of_mem hmem], hm, hl⟩
    · have hloop := matchLoop_of_notMem hmem 0 [] matchedLength
      rw [List.nil_append] at hloop
      change matchLoop l names 0 [] matchedLength = ((matching names l).map Prod.snd, _) at hloop
      by_cases hgo : 1 < (matching names l).length ∧
          (matchedLength = (matching names l).length ∨ matchedLength = 0)
      · rw [getMatched_step hmem hgo] at h
        obtain ⟨r', hr', rfl⟩ := Option.map_eq_some_iff.mp h
        obtain ⟨x, xs, hx⟩ : ∃ x xs, matching names l = x :: xs :=
          List.exists_cons_of_length_pos (Nat.lt_trans Nat.zero_lt_one hgo.1)
        obtain ⟨-, hpart⟩ := nextChar_prefix hmem hx
        have hxname : x.1 ∈ names :=
          List.mem_of_getElem? (mem_matching.mp (hx ▸ List.mem_cons_self)).1
        obtain ⟨hshort, hnul⟩ := hnames x.1 hxname
        have hch : nextChar names l ≠ 0 :=
          fun hzero => hnul (hpart.subset (by simp [hzero]))
        have hlen := hpart.length_le
        rw [List.length_append, List.length_singleton] at hlen
        obtain ⟨m', hm', hstring, hlt⟩ := ih _ _ _ _ r' (isString_snoc hm hch)
          (by rw [List.length_append, List.length_singleton]; omega) hr'
        refine ⟨m', ?_, hstring, hlt⟩
        simp only [getMatchedAt, hstr, hloop, List.length_map, if_pos hgo]
        change (getMatchedAt names fuel ((m.set l.length (nextChar names l)).set (l.length + 1) 0)
          _ matchedCmds).bind _ = _
        rw [hm']
        rfl
      · rw [getMatched_stop hmem hgo, Option.some.injEq] at h
        subst h
        refine ⟨if matchedLength ≠ 0 then m.set (l.length - 1) 0 else m, ?_, ?_, ?_⟩
        · simp only [getMatchedAt, hstr, hloop, List.length_map, if_neg hgo]
        · split
          · exact isString_dropLast hm
          · exact hm
        · split
          · exact Nat.lt_of_le_of_lt (by simp) hl
          · exact hl

/-! ## Completion -/

theorem completion_of_nil (h : matching names l = []) : completion names l = l := if_pos h

theorem longest_completion (h : matching names l ≠ []) :
    LongestCommonPrefix (completion names l) ((matching names l).map Prod.fst) := by
  rw [completion, if_neg h]
  exact longestCommonPrefix_longestCommon (by simpa using h)

/-- What was typed is kept. -/
theorem prefix_completion (names : List (List UInt8)) (l : List UInt8) :
    l <+: completion names l := by
  by_cases h : matching names l = []
  · rw [completion_of_nil h]
  · exact (longest_completion h).longest l (commonPrefix_matching names l)

/-- A completed line has the same matches. -/
theorem matching_completion (names : List (List UInt8)) (l : List UInt8) :
    matching names (completion names l) = matching names l := by
  by_cases h : matching names l = []
  · rw [completion_of_nil h]
  · apply List.filter_congr
    intro x hx
    have hiff : completion names l <+: x.1 ↔ l <+: x.1 := by
      constructor
      · exact (prefix_completion names l).trans
      · intro hp
        have hmem : x ∈ matching names l := List.mem_filter.mpr ⟨hx, by simpa using hp⟩
        exact (longest_completion h).common x.1 (List.mem_map.mpr ⟨x, hmem, rfl⟩)
    rw [Bool.eq_iff_iff, List.isPrefixOf_iff_prefix, List.isPrefixOf_iff_prefix]
    exact hiff

/-- It cannot be completed further. -/
theorem completion_completion (names : List (List UInt8)) (l : List UInt8) :
    completion names (completion names l) = completion names l := by
  by_cases h : matching names l = []
  · rw [completion_of_nil h, completion_of_nil h]
  · have hdone := longest_completion h
    rw [← matching_completion] at h hdone
    exact (longest_completion h).unique hdone

theorem tab_eq (hsep : Separated names) (hlen : ∀ name ∈ names, name.length < fuel + 1)
    (l : List UInt8) (matchedCmds : List ℕ) :
    tab names (fuel + 1) l matchedCmds = some (completion names l) := by
  obtain ⟨l', hl', hspec⟩ := tab_longest hsep hlen l matchedCmds
  rw [hl']
  by_cases h : matching names l = []
  · rw [if_pos h] at hspec
    rw [hspec, completion_of_nil h]
  · rw [if_neg h] at hspec
    exact congrArg some (hspec.unique (longest_completion h))

/-- The function returns, and leaves a completed line as it is. -/
theorem exists_getMatched (hsep : Separated names)
    (hlen : ∀ name ∈ names, name.length < fuel + 1) (l : List UInt8) (matchedCmds : List ℕ) :
    ∃ r, getMatched names (fuel + 1) ⟨l, 0, matchedCmds⟩ = some r ∧
      (completion names l = l → r.cmd = l) := by
  by_cases hmem : l ∈ names
  · exact ⟨_, getMatched_exact hmem, fun _ => rfl⟩
  · by_cases hmany : 1 < (matching names l).length
    · obtain ⟨r, hr, hdone⟩ := getMatched_longest hsep (fuel + 1) l 0 matchedCmds hmem hmany
        (.inr rfl) fun name hname => Nat.lt_of_lt_of_le (hlen name hname) (by omega)
      refine ⟨r, hr, fun hsettled => ?_⟩
      have hne : matching names l ≠ [] :=
        List.ne_nil_of_length_pos (Nat.lt_trans Nat.zero_lt_one hmany)
      have hlongest := longest_completion hne
      rw [hsettled] at hlongest
      exact hdone.longest.unique hlongest
    · exact ⟨_, getMatched_few fuel matchedCmds hmem hmany, fun _ => rfl⟩

/-! ## One key -/

/-- The variables show the editor; a second tab comes on a completed line. -/
structure ShowsLine (names : List (List UInt8)) (s : CommandLine) (e : LineEditor UInt8) :
    Prop where
  shows : Shows 256 s.toConsole e
  settled : s.lastChar = 9 → completion names e.line = e.line

/-- Another line, with the cursor at its end. -/
theorem shows_setLine {c : Console} (h : Shows 256 c e) (hm : IsString m l) (hl : l.length < 256) :
    Shows 256 { c with ln := m, chIdx := (str m).length, cPos := 0 }
      { e with before := l.reverse, after := [] } where
  text := by simpa [LineEditor.line] using hm
  chIdx := by
    have hstr : str m = l := hm.cString_eq hl
    simp [LineEditor.line, hstr]
  cPos := rfl
  short := by simpa [LineEditor.line] using hl
  mirror := rfl
  below := h.below
  shown := h.shown
  draft := h.draft
  older := h.older
  newer := h.newer

/-- The history does not depend on the cursor. -/
theorem below_enter {c : Console} {e : LineEditor UInt8} {i p : ℤ}
    (h : Shows 256 { c with chIdx := i, cPos := p } e) : c.enter.Below 256 := by
  have hbelow := History.Below.enter h (Nat.le_refl 256)
  have hsame : c.enter.toHistory =
      (Console.enter { c with chIdx := i, cPos := p }).toHistory := by
    simp only [Console.enter]
    split <;> split <;> rfl
  rwa [hsame]

/-- What the names have to be. -/
structure Completable (names : List (List UInt8)) (fuel : ℕ) : Prop where
  separated : Separated names
  strings : AreStrings names
  length : ∀ name ∈ names, name.length < fuel + 1

/-- **The tab key completes the line.** -/
theorem ShowsLine.tab (h : ShowsLine names s e) (hnames : Completable names fuel)
    (hcPos : s.cPos = 0) :
    ∃ s', clTab names (fuel + 1) s = some s' ∧ s'.isDir = s.isDir ∧
      ShowsLine names s' (complete names e) := by
  have hln := h.shows.text
  have hshort := h.shows.short
  obtain ⟨r, hr, hsame⟩ :=
    exists_getMatched hnames.separated hnames.length e.line s.matchedCmds
  obtain ⟨m, hm, hstring, hlt⟩ :=
    getMatchedAt_eq hnames.strings (fuel + 1) e.line s.ln 0 s.matchedCmds r hln hshort hr
  let name := names.getD (r.matchedCmds.headD 0) []
  let ln := if r.matchedLength = 1 ∧ s.lastChar ≠ 9 then m.blit 0 (name ++ [0]) else m
  have hline : IsString ln (completion names e.line) ∧ (completion names e.line).length < 256 := by
    by_cases htwice : s.lastChar = 9
    · have hkeep : ln = m := if_neg fun hboth => hboth.2 htwice
      rw [hkeep, h.settled htwice, ← hsame (h.settled htwice)]
      exact ⟨hstring, hlt⟩
    · have htab := tab_eq hnames.separated hnames.length e.line s.matchedCmds
      simp only [Apps.tab, hr, Option.bind_eq_bind, Option.bind_some, Option.some.injEq] at htab
      by_cases hone : r.matchedLength = 1
      · rw [if_pos hone] at htab
        have hname : name.length < 255 ∧ 0 ∉ name := hnames.strings.getD _
        have hcopy : ln = m.blit 0 (name ++ [0]) := if_pos ⟨hone, htwice⟩
        rw [hcopy, ← htab]
        exact ⟨isString_blit m hname.2, Nat.lt_succ_of_lt hname.1⟩
      · rw [if_neg hone] at htab
        have hkeep : ln = m := if_neg fun hboth => hone hboth.1
        rw [hkeep, ← htab]
        exact ⟨hstring, hlt⟩
  let s' : CommandLine :=
    { s with
      ln
      chIdx := (str ln).length
      matchedCmds := r.matchedCmds
      lastChar := if r.matchedLength ≠ 0 ∧ s.lastChar = 9 then 32 else 9 }
  have htab : clTab names (fuel + 1) s = some s' := by
    rw [clTab, hm]
    rfl
  refine ⟨s', htab, rfl, ?_, ?_⟩
  · have hset := shows_setLine h.shows hline.1 hline.2
    rwa [← hcPos] at hset
  · intro _
    have hdone : (complete names e).line = completion names e.line := by
      simp [complete, LineEditor.line]
    rw [hdone, completion_completion]

/-- **The enter key runs the command whose name is the line.** -/
theorem ShowsLine.enter (h : ShowsLine names s e) (hnames : Completable names fuel) :
    ∃ s', clEnter names (fuel + 1) s =
        some (s', if e.line ∈ names then some (names.idxOf e.line) else none) ∧
      s'.Below 256 := by
  obtain ⟨r, hr, -⟩ := exists_getMatched hnames.separated hnames.length e.line s.matchedCmds
  obtain ⟨m, hm, hstring, hlt⟩ := getMatchedAt_eq hnames.strings (fuel + 1) e.line s.ln 0
    s.matchedCmds r h.shows.text h.shows.short hr
  have hstr : str m = r.cmd := hstring.cString_eq hlt
  have hrun := enter_command hnames.separated hnames.length e.line s.matchedCmds
  simp only [Apps.enter, hr, Option.bind_eq_bind, Option.bind_some, Option.some.injEq] at hrun
  let s' : CommandLine :=
    { s with
      toConsole := Console.enter { s.toConsole with ln := m }
      lastChar := 10
      matchedCmds := r.matchedCmds }
  refine ⟨s', ?_, ?_⟩
  · rw [clEnter, hm, ← hrun, ← hstr]
    rfl
  · have hset := shows_setLine h.shows hstring hlt
    exact below_enter (c := { s.toConsole with ln := m }) hset

/-- Room for a character, newer lines recalled and lines completed with the cursor at the end. -/
def Careful (s : CommandLine) (ch : UInt8) : Prop :=
  (ch ≠ 9 → ch ≠ 10 → s.chIdx < 255) ∧ CursorAtEnd s.toConsole ch ∧ (ch = 9 → s.cPos = 0)

instance (s : CommandLine) (ch : UInt8) : Decidable (Careful s ch) :=
  inferInstanceAs (Decidable ((_ → _ → _) ∧ _ ∧ (_ → _)))

/-- The key is for the line. -/
def OfLine (ch : UInt8) : Prop := ch ≠ 9 ∧ ch ≠ 10

theorem clStep_ofLine (h : OfLine ch) :
    clStep names fuel s ch =
      some { s with toConsole := s.toConsole.switch ch, lastChar := ch } := by
  simp [clStep, h.1, h.2]

theorem consoleStep_ofLine (h : OfLine ch) (hcareful : Careful s ch) :
    consoleStep 256 s.toConsole ch = some (s.toConsole.switch ch) := by
  have hroom : s.chIdx < 255 := hcareful.1 h.1 h.2
  have hgo : s.chIdx < 256 ∧ ¬ s.toConsole.ends 256 ch := by
    constructor
    · omega
    · rintro (hnl | hfull)
      · exact h.2 hnl
      · omega
  exact if_pos hgo

/-- Characters for the line act as in `consoleGetLine`. -/
theorem ofLine_run {chs : List UInt8} (hchs : ∀ c ∈ chs, OfLine c)
    (hmeets : Meets (clStep names fuel) Careful s chs) :
    Meets (consoleStep 256) CursorAtEnd s.toConsole chs ∧
    ∀ c, exec (consoleStep 256) s.toConsole chs = some c →
      exec (clStep names fuel) s chs =
        some { s with toConsole := c, lastChar := chs.getLastD s.lastChar } := by
  induction chs generalizing s with
  | nil =>
    refine ⟨trivial, fun c hc => ?_⟩
    simp only [exec, Option.some.injEq] at hc
    rw [← hc]
    rfl
  | cons ch chs ih =>
    have hline : OfLine ch := hchs ch List.mem_cons_self
    have hstep := consoleStep_ofLine hline hmeets.1
    have hcl : clStep names fuel s ch = _ := clStep_ofLine hline
    obtain ⟨hrest, hexec⟩ :=
      ih (fun c hc => hchs c (List.mem_cons_of_mem ch hc)) (hmeets.2 _ hcl)
    refine ⟨⟨hmeets.1.2.1, fun c hc => ?_⟩, fun c hc => ?_⟩
    · rw [hstep, Option.mem_some_iff] at hc
      rwa [← hc]
    · rw [exec, hstep, Option.bind_some] at hc
      rw [exec, hcl, Option.bind_some, hexec c hc, List.getLastD_cons]

/-- The characters of an edit are for the line. -/
theorem ofLine_chars {k : Key} {d : Edit UInt8} (hk : k.toLineKey = .edit d) :
    ∀ c ∈ k.chars, OfLine c := by
  intro c hc
  cases k with
  | newline => cases hk
  | char b hb =>
    simp only [Key.chars, List.mem_singleton] at hc
    rw [hc]
    constructor <;>
    · rintro rfl
      exact absurd hb.1 (by decide)
  | _ =>
    constructor <;>
    · intro heq
      subst heq
      simp [Key.chars] at hc

/-- **Any other key acts as in `consoleGetLine`.** -/
theorem ShowsLine.key (h : ShowsLine names s e) (hdir : s.isDir = false) {k : Key}
    {d : Edit UInt8} (hk : k.toLineKey = .edit d)
    (hmeets : Meets (clStep names fuel) Careful s k.chars) :
    ∃ s', exec (clStep names fuel) s k.chars = some s' ∧ s'.isDir = false ∧
      ShowsLine names s' (e.apply d) := by
  have hline := ofLine_chars hk
  obtain ⟨c, cs, hcs⟩ := List.exists_cons_of_ne_nil k.chars_ne_nil
  have hroom : e.line.length + 1 < 256 := by
    have hchIdx := h.shows.chIdx
    have hfirst : Careful s c := by
      rw [hcs] at hmeets
      exact hmeets.1
    have hc : OfLine c := hline c (hcs ▸ List.mem_cons_self)
    have hlt := hfirst.1 hc.1 hc.2
    omega
  obtain ⟨hcursor, hrun⟩ := ofLine_run hline hmeets
  obtain ⟨c', hexec, hdir', hshows⟩ := h.shows.key (Nat.le_refl 256) hroom hdir hk hcursor
  refine ⟨_, hrun c' hexec, hdir', hshows, fun hlast => ?_⟩
  have hmem : (9 : UInt8) ∈ k.chars := by
    rw [hcs] at hlast ⊢
    rw [List.getLastD_cons] at hlast
    change cs.getLastD c = 9 at hlast
    rw [← hlast]
    exact List.getLastD_mem_cons
  exact absurd rfl (hline 9 hmem).1

/-! ## The whole call -/

/-- Keys that do not end the call can be taken first. -/
theorem clGetCmd_append {chs chs' : List UInt8} (h : exec (clStep names fuel) s chs = some s') :
    clGetCmd names fuel (chs ++ chs') s = clGetCmd names fuel chs' s' := by
  induction chs generalizing s with
  | nil =>
    simp only [exec, Option.some.injEq] at h
    rw [h, List.nil_append]
  | cons ch chs ih =>
    obtain ⟨s₁, h₁, h₂⟩ := Option.bind_eq_some_iff.mp h
    have hnl : ch ≠ 10 := by
      intro heq
      simp [clStep, heq] at h₁
    rw [List.cons_append, clGetCmd, if_neg hnl, h₁, Option.bind_some]
    exact ih h₂

/-- **A sequence of keys.** -/
theorem ShowsLine.run (h : ShowsLine names s e) (hnames : Completable names fuel)
    (hdir : s.isDir = false) {ks : List CmdKey}
    (hmeets : Meets (clStep names (fuel + 1)) Careful s (ks.flatMap CmdKey.chars)) :
    (clGetCmd names (fuel + 1) (ks.flatMap CmdKey.chars) s).map Prod.snd =
        readCommand names e ks ∧
    ∀ r, clGetCmd names (fuel + 1) (ks.flatMap CmdKey.chars) s = some r → r.1.Below 256 := by
  induction ks generalizing s e with
  | nil => exact ⟨rfl, fun r hr => nomatch hr⟩
  | cons k ks ih =>
    rw [List.flatMap_cons] at hmeets ⊢
    cases k with
    | tab =>
      obtain ⟨s', hs', hdir', hshows⟩ := h.tab hnames (hmeets.1.2.2 rfl)
      have hexec : exec (clStep names (fuel + 1)) s CmdKey.tab.chars = some s' := by
        rw [CmdKey.chars, exec, clStep, if_pos rfl, hs']
        rfl
      rw [clGetCmd_append hexec, readCommand]
      exact ih hshows (hdir'.trans hdir) (hmeets.right hexec)
    | key k =>
      rw [readCommand]
      cases hk : k.toLineKey with
      | enter =>
        have hnl : (CmdKey.key k).chars = [10] := by
          cases k with
          | newline => rfl
          | _ => cases hk
        obtain ⟨s', hs', hbelow⟩ := h.enter hnames
        rw [hnl, List.cons_append, clGetCmd, if_pos rfl, hs']
        refine ⟨rfl, fun r hr => ?_⟩
        rw [Option.some.injEq] at hr
        rwa [← hr]
      | edit d =>
        obtain ⟨s', hexec, hdir', hshows⟩ := h.key hdir hk hmeets.left
        change exec _ _ (CmdKey.key k).chars = _ at hexec
        rw [clGetCmd_append hexec]
        exact ih hshows hdir' (hmeets.right hexec)

/-- Before the first key.  The first tab may count as the second one. -/
theorem showsLine_start {hist : History} (hbelow : hist.Below 256)
    (hnil : completion names [] = []) (ln tempStr tempHist : Mem) (lastChar : UInt8)
    (matchedCmds : List ℕ) :
    ShowsLine names (CommandLine.start hist ln tempStr tempHist lastChar matchedCmds)
      (LineEditor.start (hist.lines hist.idxpHist)) where
  shows := shows_start hbelow (by decide) ln tempStr tempHist
  settled := fun _ => hnil

theorem nonzero_cmdNames : ∀ name ∈ cmdNames, 0 ∉ name := by decide +kernel

/-- The commands do not all begin with the same letter. -/
theorem completion_cmdNames_nil : completion cmdNames [] = [] := by decide +kernel

theorem completable_cmdNames (fuel : ℕ) : Completable cmdNames (fuel + 25) where
  separated := separated_cmdNames
  strings := fun name hname =>
    ⟨Nat.lt_trans (length_cmdNames name hname) (by decide), nonzero_cmdNames name hname⟩
  length := fun name hname => Nat.lt_of_lt_of_le (length_cmdNames name hname) (by omega)

/-- **`clGetCmd` is a line editor with completion.**  When the keys are pressed with care, it runs
the command that an editor with completion runs, and the history is in bounds for the next call. -/
theorem clGetCmd_runs (fuel : ℕ) {hist : History} (hbelow : hist.Below 256)
    (ln tempStr tempHist : Mem) (lastChar : UInt8) (matchedCmds : List ℕ) (ks : List CmdKey)
    (hcareful : Meets (clStep cmdNames (fuel + 26)) Careful
      (CommandLine.start hist ln tempStr tempHist lastChar matchedCmds)
      (ks.flatMap CmdKey.chars)) :
    (clGetCmd cmdNames (fuel + 26) (ks.flatMap CmdKey.chars)
        (CommandLine.start hist ln tempStr tempHist lastChar matchedCmds)).map Prod.snd =
      readCommand cmdNames (LineEditor.start (hist.lines hist.idxpHist)) ks ∧
    ∀ r, clGetCmd cmdNames (fuel + 26) (ks.flatMap CmdKey.chars)
        (CommandLine.start hist ln tempStr tempHist lastChar matchedCmds) = some r →
      r.1.Below 256 := by
  have hstart := showsLine_start hbelow completion_cmdNames_nil ln tempStr tempHist lastChar
    matchedCmds
  exact hstart.run (completable_cmdNames fuel) rfl hcareful

/-- The line `SYS_P` has been entered. -/
def pingHistory : History := ⟨fun _ => Mem.ofList [83, 89, 83, 95, 80, 0] fun _ => 0, 1, false⟩

theorem pingHistory_below : pingHistory.Below 256 := by
  constructor
  · decide
  · intro _
    exact (by decide : (str (Mem.ofList [83, 89, 83, 95, 80, 0] fun _ => 0)).length < 256)

/-- The line is recalled and completed. -/
def pingKeys : List CmdKey :=
  [.key .backspace, .key .up, .key .left, .key .right, .tab, .tab, .key .newline]

/-- The command is `SYS_PING`. -/
theorem clGetCmd_runs_ping :
    (clGetCmd cmdNames 26 (pingKeys.flatMap CmdKey.chars)
      (CommandLine.start pingHistory (fun _ => 7) (fun _ => 8) (fun _ => 9) 9 [])).map Prod.snd =
        some (some 0) := by
  have hruns := clGetCmd_runs 0 pingHistory_below (fun _ => 7) (fun _ => 8) (fun _ => 9) 9 []
    pingKeys (by decide +kernel)
  rw [hruns.1]
  decide +kernel

end ZnpHost.Apps
