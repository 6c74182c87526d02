import ZnpHost.Gnu.HostConsole
import ZnpHost.Lib.LineEditor

/-!
# `consoleGetLine` is a line editor

The variables of `consoleGetLine` show a line editor: `ln` its line, `cPos` and `tempStr` the
text behind the cursor, the rows of `pHist` and `temppHist` the lines before and after the one
shown.  Every key acts on the variables as on the editor, except that the recall of a newer
line leaves the cursor variables behind.

## Main definitions

* `Shows` — the variables and the editor they show.
* `Shows.switch` — what one character does.
* `CursorAtEnd` — a newer line is recalled with the cursor at the end of the line.
* `EditorInv`, `InRange` — the invariant of the loop, and the indices in range.
-/

namespace ZnpHost.Gnu

open Lib

/-! ## What the variables show -/

/-- The string in a row of `pHist`. -/
def History.row (h : History) (i : ℕ) : List UInt8 := str (h.pHist i)

/-- The first `n` rows, the last of them first. -/
def History.lines (h : History) (n : ℕ) : List (List UInt8) := ((List.range n).map h.row).reverse

/-- All lines of the history are shorter than `maxLen`. -/
structure History.Below (h : History) (maxLen : ℕ) : Prop where
  idx_lt : h.idxpHist < pHistMax
  short : ∀ i, (h.row i).length < maxLen

/-- The lines that are newer than the one shown, the line before the recall among them. -/
def Console.newer (s : Console) : List (List UInt8) :=
  if s.currpHist = 0 then []
  else (List.range' (s.idxpHist - s.currpHist + 1) (s.currpHist - 1)).map s.row ++ [str s.temppHist]

theorem Console.newer_succ (s : Console) {c : ℕ} (h : s.currpHist = c + 1) :
    s.newer = (List.range' (s.idxpHist - s.currpHist + 1) c).map s.row ++ [str s.temppHist] := by
  simp [Console.newer, h]

/-- The variables of `consoleGetLine` show a line editor. -/
structure Shows (maxLen : ℕ) (s : Console) (e : LineEditor UInt8) : Prop where
  text : IsString s.ln e.line
  chIdx : s.chIdx = e.line.length
  cPos : s.cPos = e.after.length
  short : e.line.length < maxLen
  mirror : s.tempStr.take e.after.length = e.after.reverse
  below : s.Below maxLen
  shown : s.currpHist ≤ s.idxpHist
  draft : s.currpHist ≠ 0 → (str s.temppHist).length < maxLen
  older : e.older = s.lines (s.idxpHist - s.currpHist)
  newer : e.newer = s.newer

variable {maxLen : ℕ} {s s' : Console} {e : LineEditor UInt8} {ch : UInt8}

theorem History.lines_succ (h : History) (n : ℕ) : h.lines (n + 1) = h.row n :: h.lines n := by
  simp [History.lines, List.range_succ]

namespace Shows

theorem before_length (h : Shows maxLen s e) : s.chIdx - s.cPos = e.before.length := by
  rw [h.chIdx, h.cPos, e.length_line]
  omega

/-- The string functions read the line. -/
theorem str_ln (h : Shows maxLen s e) (hmax : maxLen ≤ 256) : str s.ln = e.line :=
  h.text.cString_eq (Nat.lt_of_lt_of_le h.short hmax)

theorem after_nonzero (h : Shows maxLen s e) : 0 ∉ e.after :=
  fun hmem => h.text.nonzero (List.mem_append_right _ hmem)

/-- A tail stored behind a part of the text before the cursor. -/
theorem splice (h : Shows maxLen s e) {k : ℕ} (hk : k ≤ e.before.length) {a : List UInt8}
    (ha : 0 ∉ a) : IsString (s.ln.blit k (a ++ [0])) (e.before.reverse.take k ++ a) := by
  have hle : k ≤ e.line.length := by
    rw [e.length_line]
    omega
  have htake : e.line.take k = e.before.reverse.take k := by
    rw [← e.take_line, List.take_take, Nat.min_eq_left hk]
  rw [← htake]
  exact h.text.splice hle ha

end Shows

/-! ## The cursor -/

/-- Storing the text behind the cursor, and a terminator, from index `i` on. -/
theorem blit_mirror (m t : Mem) (i : ℕ) {a : List UInt8} (h : t.take a.length = a.reverse) :
    ((List.range a.length).foldl (fun m x => m.set (i + x) (t (a.length - 1 - x))) m).set
      (i + a.length) 0 = m.blit i (a ++ [0]) := by
  rw [foldl_set_mirror, h, List.reverse_reverse, Mem.set_eq_blit, Mem.blit_append]

theorem Shows.backspace (h : Shows maxLen s e) : Shows maxLen s.backspace (e.apply .erase) := by
  have hbefore := h.before_length
  have hcPos := h.cPos
  obtain ⟨before, after, older, newer⟩ := e
  cases before with
  | nil =>
    have hstay : ¬ (s.chIdx > 0 ∧ s.cPos < s.chIdx) := by
      simp only [List.length_nil] at hbefore
      omega
    rw [Console.backspace, if_neg hstay]
    exact h
  | cons c cs =>
    simp only [List.length_cons] at hbefore hcPos
    have hgo : s.chIdx > 0 ∧ s.cPos < s.chIdx := by omega
    have hstores : (fun (ln : Mem) (x : ℕ) =>
        ln.set (s.chIdx - s.cPos + x - 1).toNat (s.tempStr (s.cPos - x - 1).toNat)) =
        fun ln x => ln.set (cs.length + x) (s.tempStr (after.length - 1 - x)) := by
      funext ln x
      congr <;> omega
    have hlast : (s.chIdx - 1).toNat = cs.length + after.length := by omega
    have hn : s.cPos.toNat = after.length := by omega
    have hback : s.backspace =
        { s with ln := s.ln.blit cs.length (after ++ [0]), chIdx := s.chIdx - 1 } := by
      rw [Console.backspace, if_pos hgo, hstores, hlast, hn,
        ← blit_mirror s.ln s.tempStr cs.length (a := after) h.mirror]
    have hline := h.splice (k := cs.length) (by simp) h.after_nonzero
    have hlen := h.chIdx
    have hshort := h.short
    simp only [LineEditor.length_line, List.length_cons] at hlen hshort
    rw [hback]
    exact { h with
      text := by simpa [LineEditor.apply, LineEditor.line] using hline
      chIdx := by
        simp only [LineEditor.apply, LineEditor.length_line, List.tail_cons]
        omega
      short := by
        simp only [LineEditor.apply, LineEditor.length_line, List.tail_cons]
        omega }

theorem Shows.insert (h : Shows maxLen s e) (hch : ch ≠ 0)
    (hroom : e.line.length + 1 < maxLen) :
    Shows maxLen (s.insert ch) (e.apply (.insert ch)) := by
  have hbefore := h.before_length
  have hcPos := h.cPos
  have hstores : (fun (ln : Mem) (x : ℕ) =>
      ln.set (s.chIdx - s.cPos + (1 + x : ℕ)).toNat (s.tempStr (s.cPos - (1 + x : ℕ)).toNat)) =
      fun ln x => ln.set (e.before.length + 1 + x) (s.tempStr (e.after.length - 1 - x)) := by
    funext ln x
    congr <;> omega
  have hfirst : (s.chIdx - s.cPos).toNat = e.before.length := by omega
  have hlast : (s.chIdx + 1).toNat = e.before.length + 1 + e.after.length := by omega
  have hn : s.cPos.toNat = e.after.length := by omega
  have hins : s.insert ch =
      { s with ln := s.ln.blit e.before.length (ch :: e.after ++ [0]), chIdx := s.chIdx + 1 } := by
    rw [List.cons_append, Mem.blit_cons, ← blit_mirror _ s.tempStr _ h.mirror]
    by_cases hzero : s.cPos = 0
    · have hnil : e.after = [] := List.length_eq_zero_iff.mp (by omega)
      have hend : s.chIdx.toNat = e.before.length := by omega
      simp [Console.insert, hzero, hend, hlast, hnil]
    · simp only [Console.insert, if_pos hzero, List.range'_eq_map_range, List.foldl_map, hstores,
        hfirst, hlast, hn]
  have hnul : 0 ∉ ch :: e.after := by
    simp [h.after_nonzero, Ne.symm hch]
  have hline := h.splice (Nat.le_refl _) hnul
  rw [List.take_of_length_le (by simp)] at hline
  have hlen := h.chIdx
  rw [hins]
  exact { h with
    text := by simpa [LineEditor.apply, LineEditor.line] using hline
    chIdx := by
      simp only [LineEditor.length_line] at hlen
      simp only [LineEditor.apply, LineEditor.length_line, List.length_cons]
      omega
    short := by
      simp only [LineEditor.length_line] at hroom
      simp only [LineEditor.apply, LineEditor.length_line, List.length_cons]
      omega }

theorem Shows.left (h : Shows maxLen s e) : Shows maxLen s.left (e.apply .left) := by
  have hbefore := h.before_length
  obtain ⟨before, after, older, newer⟩ := e
  cases before with
  | nil =>
    have hstay : ¬ s.cPos < s.chIdx := by
      simp only [List.length_nil] at hbefore
      omega
    rw [Console.left, if_neg hstay]
    exact h
  | cons c cs =>
    have hcPos := h.cPos
    simp only [List.length_cons] at hbefore hcPos
    have hgo : s.cPos < s.chIdx := by omega
    have hn : s.cPos.toNat = after.length := by omega
    have hi : (s.chIdx - s.cPos - 1).toNat = cs.length := by omega
    have hchar : s.ln cs.length = c := by
      rw [h.text.char_eq (by simp [LineEditor.length_line]; omega)]
      simp [LineEditor.line]
    have hmirror : (s.tempStr.set after.length c).take (after.length + 1) =
        (c :: after).reverse := by
      rw [Mem.take_set_succ, List.reverse_cons]
      exact congrArg (· ++ [c]) h.mirror
    rw [Console.left, if_pos hgo, hn, hi, hchar]
    have hline : (LineEditor.mk cs (c :: after) older newer).line =
        (LineEditor.mk (c :: cs) after older newer).line := by
      simp [LineEditor.line]
    exact { h with
      text := hline ▸ h.text
      chIdx := hline ▸ h.chIdx
      short := hline ▸ h.short
      cPos := by
        simp only [LineEditor.apply, List.length_cons]
        omega
      mirror := hmirror }

theorem Shows.right (h : Shows maxLen s e) : Shows maxLen s.right (e.apply .right) := by
  have hcPos := h.cPos
  obtain ⟨before, after, older, newer⟩ := e
  cases after with
  | nil =>
    have hstay : ¬ s.cPos > 0 := by
      simp only [List.length_nil] at hcPos
      omega
    rw [Console.right, if_neg hstay]
    exact h
  | cons c cs =>
    simp only [List.length_cons] at hcPos
    have hgo : s.cPos > 0 := by omega
    have hline : (LineEditor.mk (c :: before) cs older newer).line =
        (LineEditor.mk before (c :: cs) older newer).line := by
      simp [LineEditor.line]
    have hmirror : s.tempStr.take cs.length = cs.reverse := by
      have hall := congrArg (List.take cs.length) h.mirror
      rw [Mem.take_take, Nat.min_eq_left (by simp), List.reverse_cons,
        List.take_left' (by simp)] at hall
      exact hall
    rw [Console.right, if_pos hgo]
    exact { h with
      text := hline ▸ h.text
      chIdx := hline ▸ h.chIdx
      short := hline ▸ h.short
      cPos := by
        simp only [LineEditor.apply]
        omega
      mirror := hmirror }

/-! ## The history -/

theorem Console.row_save (h : (str s.ln).length < 256) (i : ℕ) :
    (s.save i).row = Function.update s.row i (str s.ln) := by
  funext j
  by_cases hj : j = i
  · subst hj
    simp only [History.row, Console.save, Function.update_self]
    exact cString_strcpy _ _ h
  · simp [History.row, Console.save, hj]

/-- Rows that were not saved are the same, -/
theorem row_save_of_ne (h : (str s.ln).length < 256) {i j : ℕ} (hj : j ≠ i) :
    (s.save i).row j = s.row j := by
  rw [Console.row_save h]
  exact Function.update_of_ne hj _ _

/-- and so are the lines in them. -/
theorem map_row_save (h : (str s.ln).length < 256) {i : ℕ} {is : List ℕ} (hi : i ∉ is) :
    is.map (s.save i).row = is.map s.row := by
  apply List.map_congr_left
  intro j hj
  have hne : j ≠ i := fun heq => hi (heq ▸ hj)
  exact row_save_of_ne h hne

theorem lines_save (h : (str s.ln).length < 256) {i n : ℕ} (hn : n ≤ i) :
    (s.save i).lines n = s.lines n := by
  have hi : i ∉ List.range n := by simp [hn]
  rw [History.lines, History.lines, map_row_save h hi]

theorem History.Below.save (h : s.Below maxLen) (hmax : maxLen ≤ 256)
    (hln : (str s.ln).length < maxLen) (i : ℕ) : (s.save i).Below maxLen := by
  constructor
  · exact h.idx_lt
  · intro j
    rw [Console.row_save (Nat.lt_of_lt_of_le hln hmax)]
    by_cases hj : j = i
    · simpa [hj] using hln
    · simpa [hj] using h.short j

/-- A line with the cursor at its end, after `strcpy` from a row or from `temppHist`. -/
theorem Shows.load {src : Mem} {ls ls' : List (List UInt8)} (hmax : maxLen ≤ 256)
    (hcPos : s.cPos = 0) (hsrc : (str src).length < maxLen) (hbelow : s.Below maxLen)
    (hshown : s.currpHist ≤ s.idxpHist)
    (hdraft : s.currpHist ≠ 0 → (str s.temppHist).length < maxLen)
    (holder : ls = s.lines (s.idxpHist - s.currpHist)) (hnewer : ls' = s.newer) :
    Shows maxLen (s.load src) (LineEditor.switchTo (str src) ls ls') where
  text := by
    rw [LineEditor.line_switchTo]
    exact isString_strcpy 256 s.ln src
  chIdx := by
    rw [LineEditor.line_switchTo]
    exact congrArg (fun l : List UInt8 => (l.length : ℤ))
      (cString_strcpy s.ln src (Nat.lt_of_lt_of_le hsrc hmax))
  cPos := hcPos
  short := by rwa [LineEditor.line_switchTo]
  mirror := rfl
  below := hbelow
  shown := hshown
  draft := hdraft
  older := holder
  newer := hnewer

/-- The line is shorter than the buffer. -/
theorem Shows.length_ln_lt (h : Shows maxLen s e) (hmax : maxLen ≤ 256) :
    (str s.ln).length < maxLen := by
  rw [h.str_ln hmax]
  exact h.short

/-- The first recall keeps the line that was being typed in `temppHist`. -/
theorem Shows.up_first (h : Shows maxLen s e) (hmax : maxLen ≤ 256) (hzero : s.currpHist = 0)
    {n : ℕ} (hn : s.idxpHist = n + 1) :
    Shows maxLen s.up (LineEditor.switchTo (s.row n) (s.lines n) (str s.ln :: s.newer)) := by
  have hshort := h.length_ln_lt hmax
  have hup : s.up =
      Console.load
        { s with
          cPos := 0
          temppHist := strcpy 256 s.temppHist s.ln
          currpHist := s.currpHist + 1 }
        (s.pHist n) := by
    simp [Console.up, hzero, hn]
  have hdraft : str (strcpy 256 s.temppHist s.ln) = str s.ln :=
    cString_strcpy s.temppHist s.ln (Nat.lt_of_lt_of_le hshort hmax)
  rw [hup]
  apply Shows.load hmax
  · rfl
  · exact h.below.short n
  · exact h.below
  · change s.currpHist + 1 ≤ s.idxpHist
    omega
  · intro _
    rw [hdraft]
    exact hshort
  · rw [hzero, hn]
    rfl
  · simp [Console.newer, hzero, hdraft]

/-- Another one puts the line shown back to its row. -/
theorem Shows.up_again (h : Shows maxLen s e) (hmax : maxLen ≤ 256) {c : ℕ}
    (hc : s.currpHist = c + 1) {n : ℕ} (hn : s.idxpHist = s.currpHist + n + 1) :
    Shows maxLen s.up (LineEditor.switchTo (s.row n) (s.lines n) (str s.ln :: s.newer)) := by
  have hshort := h.length_ln_lt hmax
  have hlt : (str s.ln).length < 256 := Nat.lt_of_lt_of_le hshort hmax
  have hrow : s.idxpHist - (s.currpHist + 1) = n := by omega
  have hsave : s.idxpHist - s.currpHist = n + 1 := by omega
  have hgo : s.currpHist < s.idxpHist := by omega
  have hne : s.currpHist ≠ 0 := by omega
  have hup : s.up =
      Console.load
        { s.save (n + 1) with
          cPos := 0
          currpHist := s.currpHist + 1 }
        ((s.save (n + 1)).pHist n) := by
    simp [Console.up, hgo, hne, hrow, hsave, Console.save]
  have hstr : str ((s.save (n + 1)).pHist n) = s.row n :=
    row_save_of_ne hlt (Nat.ne_of_lt (Nat.lt_succ_self n))
  rw [hup, ← hstr]
  apply Shows.load hmax
  · rfl
  · rw [hstr]
    exact h.below.short n
  · exact h.below.save hmax hshort (n + 1)
  · exact hgo
  · intro _
    exact h.draft hne
  · change s.lines n = (s.save (n + 1)).lines (s.idxpHist - (s.currpHist + 1))
    rw [hrow, lines_save hlt (Nat.le_succ n)]
  · have hrest : (List.range' (n + 2) c).map (s.save (n + 1)).row =
        (List.range' (n + 2) c).map s.row := map_row_save hlt (by simp)
    have hself : (s.save (n + 1)).row (n + 1) = str s.ln := by
      rw [Console.row_save hlt, Function.update_self]
    rw [s.newer_succ hc, Console.newer_succ _ rfl]
    change _ = (List.range' (s.idxpHist - (s.currpHist + 1) + 1) s.currpHist).map
      (s.save (n + 1)).row ++ [str s.temppHist]
    rw [hrow, hc, List.range'_succ, List.map_cons, hself, hrest, ← hc, hsave]
    rfl

theorem Shows.up (h : Shows maxLen s e) (hmax : maxLen ≤ 256) :
    Shows maxLen s.up (e.apply .older) := by
  have holder := h.older
  by_cases hgo : s.currpHist < s.idxpHist
  · obtain ⟨n, hn⟩ := Nat.exists_eq_add_of_lt hgo
    have hsave : s.idxpHist - s.currpHist = n + 1 := by omega
    rw [hsave, History.lines_succ] at holder
    have happly : e.apply .older =
        LineEditor.switchTo (s.row n) (s.lines n) (e.line :: e.newer) := by
      simp [LineEditor.apply, holder]
    rw [happly, h.newer, ← h.str_ln hmax]
    cases hcur : s.currpHist with
    | zero => exact h.up_first hmax hcur (by omega)
    | succ c => exact h.up_again hmax hcur hn
  · have hnil : e.older = [] := by
      rw [holder, Nat.sub_eq_zero_of_le (Nat.le_of_not_lt hgo)]
      rfl
    have hstay : e.apply .older = e := by simp [LineEditor.apply, hnil]
    rw [Console.up, if_neg hgo, hstay]
    exact h

/-- The line shown goes back to row `r`. -/
theorem Shows.saved_lines (h : Shows maxLen s e) (hmax : maxLen ≤ 256) {r : ℕ}
    (hr : s.idxpHist - s.currpHist = r) : e.line :: e.older = (s.save r).lines (r + 1) := by
  have hlt : (str s.ln).length < 256 := Nat.lt_of_lt_of_le (h.length_ln_lt hmax) hmax
  rw [History.lines_succ, lines_save hlt (Nat.le_refl r), Console.row_save hlt,
    Function.update_self, h.older, hr, h.str_ln hmax]

/-- From the newest row back to the line that was being typed. -/
theorem Shows.down_draft (h : Shows maxLen s e) (hmax : maxLen ≤ 256) (hcur : s.currpHist = 1)
    (hcPos : s.cPos = 0) :
    Shows maxLen s.down (LineEditor.switchTo (str s.temppHist) (e.line :: e.older) []) := by
  obtain ⟨r, hr⟩ : ∃ r, s.idxpHist - s.currpHist = r := ⟨_, rfl⟩
  have hshown := h.shown
  have hnext : s.idxpHist - 0 = r + 1 := by omega
  have hdown : s.down = Console.load { s.save r with currpHist := 0 } s.temppHist := by
    rw [hcur] at hr
    simp [Console.down, hcur, hr, Console.save]
  rw [hdown]
  apply Shows.load hmax
  · exact hcPos
  · exact h.draft (by simp [hcur])
  · exact h.below.save hmax (h.length_ln_lt hmax) r
  · exact Nat.zero_le _
  · intro hfalse
    exact absurd rfl hfalse
  · rw [h.saved_lines hmax hr, ← hnext]
    rfl
  · rfl

/-- From a row to the next newer one. -/
theorem Shows.down_row (h : Shows maxLen s e) (hmax : maxLen ≤ 256) {c : ℕ}
    (hcur : s.currpHist = c + 2) (hcPos : s.cPos = 0) {r : ℕ}
    (hr : s.idxpHist - s.currpHist = r) :
    Shows maxLen s.down (LineEditor.switchTo (s.row (r + 1)) (e.line :: e.older)
      ((List.range' (r + 2) c).map s.row ++ [str s.temppHist])) := by
  have hshort := h.length_ln_lt hmax
  have hlt : (str s.ln).length < 256 := Nat.lt_of_lt_of_le hshort hmax
  have hshown := h.shown
  have hnext : s.idxpHist - (c + 1) = r + 1 := by omega
  have hdown : s.down =
      Console.load { s.save r with currpHist := c + 1 } ((s.save r).pHist (r + 1)) := by
    rw [hcur] at hr
    simp [Console.down, hcur, hr, hnext, Console.save]
  have hstr : str ((s.save r).pHist (r + 1)) = s.row (r + 1) :=
    row_save_of_ne hlt (Nat.ne_of_gt (Nat.lt_succ_self r))
  have hrest : (List.range' (r + 2) c).map (s.save r).row =
      (List.range' (r + 2) c).map s.row := map_row_save hlt (by simp)
  rw [hdown, ← hstr]
  apply Shows.load hmax
  · exact hcPos
  · rw [hstr]
    exact h.below.short (r + 1)
  · exact h.below.save hmax hshort r
  · change c + 1 ≤ s.idxpHist
    omega
  · intro _
    exact h.draft (by simp [hcur])
  · rw [h.saved_lines hmax hr, ← hnext]
    rfl
  · rw [Console.newer_succ _ rfl]
    change _ = (List.range' (s.idxpHist - (c + 1) + 1) c).map (s.save r).row ++
      [str s.temppHist]
    rw [hnext, hrest]

/-- The cursor has to be at the end of the line. -/
theorem Shows.down (h : Shows maxLen s e) (hmax : maxLen ≤ 256)
    (hcursor : s.currpHist ≠ 0 → s.cPos = 0) : Shows maxLen s.down (e.apply .newer) := by
  have hnewer := h.newer
  cases hcur : s.currpHist with
  | zero =>
    have hnil : e.newer = [] := by simp [hnewer, Console.newer, hcur]
    have hstay : e.apply .newer = e := by simp [LineEditor.apply, hnil]
    rw [Console.down, if_neg (by simp [hcur]), hstay]
    exact h
  | succ c =>
    have hcPos : s.cPos = 0 := hcursor (by simp [hcur])
    rw [s.newer_succ hcur] at hnewer
    cases c with
    | zero =>
      have happly : e.apply .newer =
          LineEditor.switchTo (str s.temppHist) (e.line :: e.older) [] := by
        simp [LineEditor.apply, hnewer]
      rw [happly]
      exact h.down_draft hmax hcur hcPos
    | succ c =>
      obtain ⟨r, hr⟩ : ∃ r, s.idxpHist - s.currpHist = r := ⟨_, rfl⟩
      have happly : e.apply .newer = LineEditor.switchTo (s.row (r + 1)) (e.line :: e.older)
          ((List.range' (r + 2) c).map s.row ++ [str s.temppHist]) := by
        rw [hr] at hnewer
        simp [LineEditor.apply, hnewer, List.range'_succ]
      rw [happly]
      exact h.down_row hmax hcur hcPos hr

/-! ## One character -/

/-- The edit that a character makes, by itself or behind an escape. -/
def editOf (isDir : Bool) (ch : UInt8) : Option (Edit UInt8) :=
  if ch = 127 then some .erase
  else if ch = 27 then none
  else if isDir then
    if ch = 65 then some .older
    else if ch = 66 then some .newer
    else if ch = 67 then some .right
    else if ch = 68 then some .left
    else none
  else some (.insert ch)

/-- A newer line is recalled with the cursor at the end of the line. -/
def CursorAtEnd (s : Console) (ch : UInt8) : Prop :=
  s.isDir = true → ch = 66 → s.currpHist ≠ 0 → s.cPos = 0

instance (s : Console) (ch : UInt8) : Decidable (CursorAtEnd s ch) :=
  inferInstanceAs (Decidable (_ → _ → _ → _))

/-- The editor does not depend on `isDir`. -/
theorem Shows.setDir (h : Shows maxLen s e) (b : Bool) : Shows maxLen { s with isDir := b } e :=
  { h with }

theorem Shows.direction (h : Shows maxLen s e) (hmax : maxLen ≤ 256) (hdir : s.isDir = true)
    (hcursor : CursorAtEnd s ch) (herase : ch ≠ 127) (hesc : ch ≠ 27) :
    Shows maxLen (s.direction ch) ((editOf true ch).elim e e.apply) := by
  by_cases hbracket : ch = 91
  · simpa [Console.direction, editOf, hbracket] using h.setDir true
  by_cases hup : ch = 65
  · simpa [Console.direction, editOf, hup] using (h.up hmax).setDir false
  by_cases hdown : ch = 66
  · simpa [Console.direction, editOf, hdown] using
      (h.down hmax (hcursor hdir hdown)).setDir false
  by_cases hright : ch = 67
  · simpa [Console.direction, editOf, hright] using h.right.setDir false
  by_cases hleft : ch = 68
  · simpa [Console.direction, editOf, hleft] using h.left.setDir false
  simpa [Console.direction, editOf, hbracket, hup, hdown, hright, hleft, herase, hesc] using
    h.setDir false

/-- **One character.**  It acts on the variables as on the editor that they show. -/
theorem Shows.switch (h : Shows maxLen s e) (hmax : maxLen ≤ 256) (hch : ch ≠ 0)
    (hroom : e.line.length + 1 < maxLen) (hcursor : CursorAtEnd s ch) :
    Shows maxLen (s.switch ch) ((editOf s.isDir ch).elim e e.apply) := by
  by_cases herase : ch = 127
  · simpa [Console.switch, editOf, herase] using h.backspace
  by_cases hesc : ch = 27
  · simpa [Console.switch, editOf, hesc] using h.setDir true
  cases hdir : s.isDir with
  | true => simpa [Console.switch, herase, hesc, hdir] using
      h.direction hmax hdir hcursor herase hesc
  | false => simpa [Console.switch, editOf, herase, hesc, hdir] using h.insert hch hroom

/-! ## The invariant -/

/-- The invariant of the loop. -/
structure EditorInv (maxLen : ℕ) (s : Console) : Prop where
  cPos_nonneg : 0 ≤ s.cPos
  cPos_le : s.cPos ≤ s.chIdx
  chIdx_lt : s.chIdx < maxLen
  nul : s.ln s.chIdx.toNat = 0
  nonzero : 0 ∉ s.ln.take s.chIdx.toNat
  mirror : s.tempStr.take s.cPos.toNat =
    ((s.ln.take s.chIdx.toNat).drop (s.chIdx - s.cPos).toNat).reverse

/-- All indices of a round are in range. -/
structure InRange (maxLen : ℕ) (s : Console) (ch : UInt8) : Prop where
  ln : ∀ i ∈ lnIndices maxLen s ch, 0 ≤ i ∧ i < maxLen
  tempStr : ∀ i ∈ tempStrIndices maxLen s ch, 0 ≤ i ∧ i < 256

theorem Shows.inv (h : Shows maxLen s e) : EditorInv maxLen s := by
  have hbefore := h.before_length
  have hcPos := h.cPos
  have hchIdx := h.chIdx
  have hshort := h.short
  have hlen : s.chIdx.toNat = e.line.length := by omega
  have hn : s.cPos.toNat = e.after.length := by omega
  constructor
  · omega
  · omega
  · omega
  · rw [hlen]
    exact h.text.nul
  · rw [hlen, h.text.chars]
    exact h.text.nonzero
  · rw [hlen, hn, hbefore, h.text.chars, h.mirror, Int.toNat_natCast, LineEditor.line,
      List.drop_left' (by simp)]

theorem EditorInv.inRange (h : EditorInv maxLen s) (hmax : maxLen ≤ 256) (ch : UInt8) :
    InRange maxLen s ch := by
  have hnonneg := h.cPos_nonneg
  have hle := h.cPos_le
  have hlt := h.chIdx_lt
  by_cases hends : s.ends maxLen ch
  · constructor
    · simp [lnIndices, hends]
    · simp [tempStrIndices, hends]
  have hroom : s.chIdx ≠ maxLen - 1 := fun hfull => hends (.inr hfull)
  constructor
  · intro i hi
    simp only [lnIndices, hends, if_false] at hi
    split at hi
    · split at hi
      · simp only [List.mem_append, List.mem_map, List.mem_range, List.mem_singleton] at hi
        obtain ⟨x, hx, rfl⟩ | rfl := hi <;> omega
      · simp at hi
    split at hi
    · simp at hi
    split at hi
    · split at hi
      · simp only [List.mem_singleton] at hi
        omega
      · simp at hi
    split at hi
    · simp only [List.cons_append, List.mem_cons, List.mem_append, List.mem_map,
        List.mem_range'_1, List.not_mem_nil, or_false] at hi
      obtain rfl | ⟨x, hx, rfl⟩ | rfl := hi <;> omega
    · simp only [List.mem_cons, List.not_mem_nil, or_false] at hi
      omega
  · intro i hi
    simp only [tempStrIndices, hends, if_false] at hi
    split at hi
    · split at hi
      · simp only [List.mem_map, List.mem_range] at hi
        obtain ⟨x, hx, rfl⟩ := hi
        omega
      · simp at hi
    split at hi
    · simp at hi
    split at hi
    · split at hi
      · simp only [List.mem_singleton] at hi
        omega
      · simp at hi
    · simp only [List.mem_map, List.mem_range'_1] at hi
      obtain ⟨x, hx, rfl⟩ := hi
      omega

end ZnpHost.Gnu
