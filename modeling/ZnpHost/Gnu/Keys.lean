import ZnpHost.Gnu.LineEditing

/-!
# Keys

What the terminal sends for a key, and the line that `consoleGetLine` returns for a sequence of
keys.

## Main definitions

* `Key`, `Key.chars` — the keys and their characters.
* `consoleGetLine_edits` — the call is a line editor.
-/

namespace ZnpHost.Gnu

open Lib

/-- A key of the terminal; a character key is a printable one. -/
inductive Key
  | char (c : UInt8) (printable : 32 ≤ c ∧ c < 127)
  | backspace
  | up
  | down
  | left
  | right
  | newline

namespace Key

/-- The characters that are read for a key. -/
def chars : Key → List UInt8
  | char c _ => [c]
  | backspace => [127]
  | up => [27, 91, 65]
  | down => [27, 91, 66]
  | right => [27, 91, 67]
  | left => [27, 91, 68]
  | newline => [10]

/-- What the key is for. -/
def toLineKey : Key → LineKey UInt8
  | char c _ => .edit (.insert c)
  | backspace => .edit .erase
  | up => .edit .older
  | down => .edit .newer
  | right => .edit .right
  | left => .edit .left
  | newline => .enter

theorem chars_ne_nil (k : Key) : k.chars ≠ [] := by
  cases k <;> simp [chars]

theorem ne_zero_of_mem_chars {k : Key} {c : UInt8} (h : c ∈ k.chars) : c ≠ 0 := by
  cases k with
  | char b hb =>
    simp only [chars, List.mem_singleton] at h
    intro hzero
    rw [← h, hzero] at hb
    exact absurd hb.1 (by decide)
  | _ =>
    intro hzero
    subst hzero
    simp [chars] at h

end Key

variable {maxLen : ℕ} {s s' : Console} {e : LineEditor UInt8} {ch : UInt8} {k : Key}

/-- The line and the length that the call returns. -/
def Console.result (s : Console) : List UInt8 × ℤ := (str s.ln, s.chIdx)

@[simp] theorem Console.enter_ln (s : Console) : s.enter.ln = s.ln := by
  simp only [Console.enter]
  split <;> split <;> rfl

@[simp] theorem Console.enter_chIdx (s : Console) : s.enter.chIdx = s.chIdx := by
  simp only [Console.enter]
  split <;> split <;> rfl

/-- Rounds that do not end the loop can be taken first. -/
theorem consoleGetLine_append {as bs : List UInt8} (h : exec (consoleStep maxLen) s as = some s') :
    consoleGetLine maxLen (as ++ bs) s = consoleGetLine maxLen bs s' := by
  induction as generalizing s with
  | nil =>
    simp only [exec, Option.some.injEq] at h
    rw [h, List.nil_append]
  | cons a as ih =>
    obtain ⟨s₁, h₁, h₂⟩ := Option.bind_eq_some_iff.mp h
    by_cases hgo : s.chIdx < maxLen ∧ ¬ s.ends maxLen a
    · simp only [consoleStep, if_pos hgo, Option.some.injEq] at h₁
      rw [List.cons_append, consoleGetLine, if_pos hgo.1]
      simp only [if_neg hgo.2]
      rw [h₁]
      exact ih h₂
    · simp [consoleStep, hgo] at h₁

/-- A printable character is none of those that `switch` and the loop look for. -/
structure Plain (c : UInt8) : Prop where
  nul : c ≠ 0
  newline : c ≠ 10
  escape : c ≠ 27
  erase : c ≠ 127

theorem plain_of_printable {c : UInt8} (h : 32 ≤ c ∧ c < 127) : Plain c := by
  constructor <;>
  · rintro rfl
    exact absurd h (by decide)

@[simp] theorem Console.isDir_backspace (s : Console) : s.backspace.isDir = s.isDir := by
  simp only [Console.backspace]
  split <;> rfl

@[simp] theorem Console.isDir_insert (s : Console) (ch : UInt8) :
    (s.insert ch).isDir = s.isDir := by
  simp only [Console.insert]
  split <;> rfl

namespace Shows

/-- A round that does not complete the line. -/
theorem step_eq (h : Shows maxLen s e) (hroom : e.line.length + 1 < maxLen) (hnl : ch ≠ 10) :
    consoleStep maxLen s ch = some (s.switch ch) := by
  have hchIdx := h.chIdx
  have hgo : s.chIdx < maxLen ∧ ¬ s.ends maxLen ch := by
    constructor
    · omega
    · rintro (heq | hfull)
      · exact hnl heq
      · omega
  exact if_pos hgo

/-- The call returns the line shown. -/
theorem returns (h : Shows maxLen s e) (hmax : maxLen ≤ 256) (hends : s.ends maxLen ch)
    (chs : List UInt8) :
    (consoleGetLine maxLen (ch :: chs) s).map Console.result =
      some (e.line, (e.line.length : ℤ)) := by
  have hgo : s.chIdx < maxLen := by
    rw [h.chIdx]
    exact_mod_cast h.short
  rw [consoleGetLine, if_pos hgo]
  simp only [if_pos hends, Option.map_some, Console.result, s.enter_ln, s.enter_chIdx,
    h.str_ln hmax, h.chIdx]

/-- A key of one character. -/
theorem press (h : Shows maxLen s e) (hmax : maxLen ≤ 256) (hroom : e.line.length + 1 < maxLen)
    (hch : ch ≠ 0) (hnl : ch ≠ 10) (hcursor : CursorAtEnd s ch) {d : Edit UInt8}
    (hd : editOf s.isDir ch = some d) :
    ∃ s', exec (consoleStep maxLen) s [ch] = some s' ∧ s'.isDir = (s.switch ch).isDir ∧
      Shows maxLen s' (e.apply d) := by
  have hswitch := h.switch hmax hch hroom hcursor
  rw [hd] at hswitch
  exact ⟨_, by simp [exec, h.step_eq hroom hnl], rfl, hswitch⟩

/-- A key with an escape sequence. -/
theorem escape (h : Shows maxLen s e) (hmax : maxLen ≤ 256) (hroom : e.line.length + 1 < maxLen)
    (hch : ch ≠ 0) (hnl : ch ≠ 10) {d : Edit UInt8} (hd : editOf true ch = some d)
    (hmeets : Meets (consoleStep maxLen) CursorAtEnd s [27, 91, ch]) :
    ∃ s', exec (consoleStep maxLen) s [27, 91, ch] = some s' ∧
      s'.isDir = (Console.switch { s with isDir := true } ch).isDir ∧
      Shows maxLen s' (e.apply d) := by
  have hdir := h.setDir true
  have hesc : consoleStep maxLen s 27 = some { s with isDir := true } :=
    h.step_eq hroom (by decide)
  have hbracket : consoleStep maxLen { s with isDir := true } 91 = some { s with isDir := true } :=
    hdir.step_eq hroom (by decide)
  have hcursor := ((hmeets.2 _ hesc).2 _ hbracket).1
  obtain ⟨s', hs', hkey⟩ := hdir.press hmax hroom hch hnl hcursor hd
  refine ⟨s', ?_, hkey⟩
  rw [exec, hesc, Option.bind_some, exec, hbracket, Option.bind_some, hs']

/-- **One key.**  Its characters act on the variables as the key does on the editor. -/
theorem key (h : Shows maxLen s e) (hmax : maxLen ≤ 256) (hroom : e.line.length + 1 < maxLen)
    (hdir : s.isDir = false) {d : Edit UInt8} (hk : k.toLineKey = .edit d)
    (hmeets : Meets (consoleStep maxLen) CursorAtEnd s k.chars) :
    ∃ s', exec (consoleStep maxLen) s k.chars = some s' ∧ s'.isDir = false ∧
      Shows maxLen s' (e.apply d) := by
  cases k with
  | newline => cases hk
  | char c hc =>
    cases hk
    have hc := plain_of_printable hc
    have hd : editOf s.isDir c = some (.insert c) := by
      simp [editOf, hdir, hc.escape, hc.erase]
    have hplain : (s.switch c).isDir = false := by
      simp [Console.switch, hdir, hc.escape, hc.erase]
    rw [← hplain]
    exact h.press hmax hroom hc.nul hc.newline hmeets.1 hd
  | backspace =>
    cases hk
    have hplain : (s.switch 127).isDir = false := by simp [Console.switch, hdir]
    rw [← hplain]
    exact h.press hmax hroom (by decide) (by decide) hmeets.1 rfl
  | up =>
    cases hk
    exact h.escape hmax hroom (by decide) (by decide) rfl hmeets
  | down =>
    cases hk
    exact h.escape hmax hroom (by decide) (by decide) rfl hmeets
  | left =>
    cases hk
    exact h.escape hmax hroom (by decide) (by decide) rfl hmeets
  | right =>
    cases hk
    exact h.escape hmax hroom (by decide) (by decide) rfl hmeets

/-- The first round of a key enters a complete line. -/
theorem returns_of_full (h : Shows maxLen s e) (hmax : maxLen ≤ 256)
    (hfull : e.line.length = maxLen - 1) (chs : List UInt8) :
    (consoleGetLine maxLen (k.chars ++ chs) s).map Console.result =
      some (e.line, (e.line.length : ℤ)) := by
  have hends : ∀ c, s.ends maxLen c := by
    intro c
    have hchIdx := h.chIdx
    have hshort := h.short
    exact .inr (by omega)
  obtain ⟨c, cs, hcs⟩ := List.exists_cons_of_ne_nil k.chars_ne_nil
  rw [hcs]
  exact h.returns hmax (hends c) (cs ++ chs)

/-- **A sequence of keys.**  The call returns the line that the editor returns. -/
theorem run (h : Shows maxLen s e) (hmax : maxLen ≤ 256) (hdir : s.isDir = false) {ks : List Key}
    (hmeets : Meets (consoleStep maxLen) CursorAtEnd s (ks.flatMap Key.chars)) :
    (consoleGetLine maxLen (ks.flatMap Key.chars) s).map Console.result =
      (readLine (maxLen - 1) e (ks.map Key.toLineKey)).map fun l => (l, (l.length : ℤ)) := by
  induction ks generalizing s e with
  | nil =>
    have hgo : s.chIdx < maxLen := by
      rw [h.chIdx]
      exact_mod_cast h.short
    simp [consoleGetLine, hgo, readLine]
  | cons k ks ih =>
    rw [List.flatMap_cons] at hmeets
    rw [List.flatMap_cons, List.map_cons]
    cases hk : k.toLineKey with
    | enter =>
      have hnl : k.chars = [10] := by
        cases k with
        | newline => rfl
        | _ => cases hk
      rw [hnl, readLine]
      exact h.returns hmax (.inl rfl) _
    | edit d =>
      rw [readLine]
      by_cases hfull : e.line.length = maxLen - 1
      · rw [if_pos hfull]
        exact h.returns_of_full hmax hfull _
      · have hroom : e.line.length + 1 < maxLen := by
          have hshort := h.short
          omega
        obtain ⟨s', hexec, hdir', hshows⟩ := h.key hmax hroom hdir hk hmeets.left
        rw [if_neg hfull, consoleGetLine_append hexec]
        exact ih hshows hdir' (hmeets.right hexec)

end Shows

/-- Before the first key. -/
theorem shows_start {hist : History} (hbelow : hist.Below maxLen) (hmin : 0 < maxLen)
    (ln tempStr temppHist : Mem) :
    Shows maxLen (Console.start hist ln tempStr temppHist)
      (LineEditor.start (hist.lines hist.idxpHist)) where
  text := isString_nil (Mem.set_same ln 0 0)
  chIdx := rfl
  cPos := rfl
  short := hmin
  mirror := rfl
  below := hbelow
  shown := Nat.zero_le _
  draft := fun hne => absurd rfl hne
  older := rfl
  newer := rfl

/-- A completed line keeps the history in bounds for the next call. -/
theorem History.Below.enter (h : Shows maxLen s e) (hmax : maxLen ≤ 256) :
    s.enter.Below maxLen := by
  have hln : (str s.ln).length < maxLen := by
    rw [h.str_ln hmax]
    exact h.short
  have hsave := h.below.save hmax hln s.idxpHist
  have hidx : (s.idxpHist + 1) % pHistMax < pHistMax := Nat.mod_lt _ (by decide)
  simp only [Console.enter]
  split <;> split
  · exact ⟨hidx, hsave.short⟩
  · exact ⟨hidx, hsave.short⟩
  · exact ⟨h.below.idx_lt, h.below.short⟩
  · exact ⟨h.below.idx_lt, h.below.short⟩

/-! ## The whole call -/

/-- What a round starts from, in a run that recalls newer lines with the cursor at the end. -/
theorem exists_shows {hist : History} (hbelow : hist.Below maxLen) (hmax : maxLen ≤ 256)
    (hmin : 0 < maxLen) (ln tempStr temppHist : Mem)
    (h : Steps (consoleStep maxLen) (fun s ch => ch ≠ 0 ∧ CursorAtEnd s ch)
      (Console.start hist ln tempStr temppHist) s) : ∃ e, Shows maxLen s e := by
  apply h.invariant
  · exact ⟨_, shows_start hbelow hmin ln tempStr temppHist⟩
  · intro s ch s' hs hc hstep
    obtain ⟨e, hs⟩ := hs
    by_cases hgo : s.chIdx < maxLen ∧ ¬ s.ends maxLen ch
    · simp only [consoleStep, if_pos hgo, Option.some.injEq] at hstep
      have hroom : e.line.length + 1 < maxLen := by
        have hchIdx := hs.chIdx
        have hnot : s.chIdx ≠ maxLen - 1 := fun hfull => hgo.2 (.inr hfull)
        omega
      rw [← hstep]
      exact ⟨_, hs.switch hmax hc.1 hroom hc.2⟩
    · simp [consoleStep, hgo] at hstep

/-- **`consoleGetLine` is a line editor.**  When newer lines are recalled with the cursor at the
end of the line, the invariant holds in every round, no index leaves its array, and the line
returned is the one that the keys make. -/
theorem consoleGetLine_edits (hmin : 2 ≤ maxLen) (hmax : maxLen ≤ 256) {hist : History}
    (hbelow : hist.Below maxLen) (ln tempStr temppHist : Mem) (ks : List Key)
    (hcursor : Meets (consoleStep maxLen) CursorAtEnd (Console.start hist ln tempStr temppHist)
      (ks.flatMap Key.chars)) :
    (∀ chs s, chs <+: ks.flatMap Key.chars →
      exec (consoleStep maxLen) (Console.start hist ln tempStr temppHist) chs = some s →
      EditorInv maxLen s ∧ ∀ ch, InRange maxLen s ch) ∧
    (consoleGetLine maxLen (ks.flatMap Key.chars) (Console.start hist ln tempStr temppHist)).map
        Console.result =
      (readLine (maxLen - 1) (LineEditor.start (hist.lines hist.idxpHist))
        (ks.map Key.toLineKey)).map fun l => (l, (l.length : ℤ)) := by
  have hpos : 0 < maxLen := Nat.lt_of_lt_of_le Nat.zero_lt_two hmin
  constructor
  · intro chs s hprefix hexec
    obtain ⟨rest, hrest⟩ := hprefix
    have hnul : ∀ c ∈ chs, c ≠ 0 := by
      intro c hc
      have hmem : c ∈ ks.flatMap Key.chars := hrest ▸ List.mem_append_left rest hc
      obtain ⟨k, -, hk⟩ := List.mem_flatMap.mp hmem
      exact Key.ne_zero_of_mem_chars hk
    rw [← hrest] at hcursor
    obtain ⟨e, hshows⟩ := exists_shows hbelow hmax hpos ln tempStr temppHist
      (Steps.refl.exec_of_meets (hcursor.left.and_of_forall hnul) hexec)
    exact ⟨hshows.inv, hshows.inv.inRange hmax⟩
  · exact (shows_start hbelow hpos ln tempStr temppHist).run hmax rfl hcursor

/-- One line, `ab`, has been entered. -/
def abHistory : History := ⟨fun _ => Mem.ofList [97, 98, 0] fun _ => 0, 1, false⟩

theorem abHistory_below : abHistory.Below 128 := by
  constructor
  · decide
  · intro _
    exact (by decide : (str (Mem.ofList [97, 98, 0] fun _ => 0)).length < 128)

/-- The line is recalled, edited and left with the cursor at its end. -/
def recallKeys : List Key :=
  [.char 120 (by decide), .up, .left, .char 99 (by decide), .right, .down, .backspace, .newline]

/-- The keys of a line. -/
theorem consoleGetLine_edits_recall :
    EditorInv 128 (Console.start abHistory (fun _ => 7) (fun _ => 8) fun _ => 9) ∧
    (consoleGetLine 128 (recallKeys.flatMap Key.chars)
        (Console.start abHistory (fun _ => 7) (fun _ => 8) fun _ => 9)).map Console.result =
      some ([], 0) := by
  have hedits := consoleGetLine_edits (by decide : 2 ≤ 128) (by decide) abHistory_below
    (fun _ => 7) (fun _ => 8) (fun _ => 9) recallKeys (by decide +kernel)
  exact ⟨(hedits.1 [] _ List.nil_prefix rfl).1, hedits.2⟩

/-- Recalling the newer line from inside the older one leaves the cursor in front of the line. -/
theorem consoleGetLine_down_inside :
    ¬ ∀ maxLen, 2 ≤ maxLen → maxLen ≤ 256 → ∀ hist : History, hist.Below maxLen →
      ∀ (ln tempStr temppHist : Mem) (ks : List Key) chs s, chs <+: ks.flatMap Key.chars →
        exec (consoleStep maxLen) (Console.start hist ln tempStr temppHist) chs = some s →
        EditorInv maxLen s ∧ ∀ ch, InRange maxLen s ch := by
  intro hall
  have hrun : (exec (consoleStep 128)
      (Console.start abHistory (fun _ => 0) (fun _ => 0) fun _ => 0)
      ([Key.up, .left, .down].flatMap Key.chars)).isSome = true := rfl
  have hinv := (hall 128 (by decide) (by decide) abHistory abHistory_below _ _ _ _ _ _
    (List.prefix_refl _) (Option.some_get hrun).symm).1.cPos_le
  exact absurd (show (1 : ℤ) ≤ 0 from hinv) (by decide)

end ZnpHost.Gnu
