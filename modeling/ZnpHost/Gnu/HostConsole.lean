import Mathlib.Data.Int.Notation
import ZnpHost.Lib.CString
import ZnpHost.Lib.Transition

/-!
# The console of the POSIX host

`consoleGetLine` reads characters until a line is complete.  Backspace, the cursor keys and the
recall of earlier lines work on the line `ln`, its length `chIdx`, the number `cPos` of
characters behind the cursor and a mirrored copy `tempStr` of these.

## Main definitions

* `History` — the lines entered so far.
* `Console` — the variables of `consoleGetLine`.
* `consoleStep` — one round of its loop.
* `consoleGetLine` — the whole call.
* `lnIndices`, `tempStrIndices` — the cells that a round uses.
-/

namespace ZnpHost.Gnu

open Lib

/-- The string in an array of 256 characters. -/
def str (m : Mem) : List UInt8 := cString 256 m

/-- The global variables: the rows of `pHist`, `idxpHist` and `pHistIsRollover`. -/
structure History where
  pHist : ℕ → Mem
  idxpHist : ℕ
  pHistIsRollover : Bool

/-- The size of `pHist`. -/
def pHistMax : ℕ := 256

/-- The local variables of `consoleGetLine` with the caller's buffer, and the global ones. -/
structure Console extends History where
  ln : Mem
  tempStr : Mem
  temppHist : Mem
  chIdx : ℤ
  cPos : ℤ
  isDir : Bool
  currpHist : ℕ

namespace Console

/-- The variables at the first round; the arrays are not initialised. -/
def start (h : History) (ln tempStr temppHist : Mem) : Console :=
  { h with ln := ln.set 0 0, tempStr, temppHist, chIdx := 0, cPos := 0, isDir := false,
           currpHist := 0 }

variable (s : Console)

/-- `strcpy(pHist[i], ln)`. -/
def save (i : ℕ) : Console :=
  { s with pHist := Function.update s.pHist i (strcpy 256 (s.pHist i) s.ln) }

/-- `strcpy(ln, src); chIdx = strlen(ln)`. -/
def load (src : Mem) : Console :=
  { s with ln := strcpy 256 s.ln src, chIdx := (str (strcpy 256 s.ln src)).length }

/-- The line is complete: it is added to the history unless it is the last line there. -/
def enter : Console :=
  let last := s.pHist ((pHistMax + s.idxpHist - 1) % pHistMax)
  let s : Console :=
    if (s.idxpHist = 0 ∧ s.pHistIsRollover = false) ∨ str last ≠ str s.ln then
      { s.save s.idxpHist with idxpHist := (s.idxpHist + 1) % pHistMax }
    else s
  if s.idxpHist = 0 then { s with pHistIsRollover := true } else s

/-- `case 127`. -/
def backspace : Console :=
  if s.chIdx > 0 ∧ s.cPos < s.chIdx then
    let ln := (List.range s.cPos.toNat).foldl
      (fun ln x => ln.set (s.chIdx - s.cPos + x - 1).toNat (s.tempStr (s.cPos - x - 1).toNat)) s.ln
    { s with ln := ln.set (s.chIdx - 1).toNat 0, chIdx := s.chIdx - 1 }
  else s

/-- `ch == 'A'`. -/
def up : Console :=
  if s.currpHist < s.idxpHist then
    let s : Console := { s with cPos := 0 }
    let s := if s.currpHist ≠ 0 then s.save (s.idxpHist - s.currpHist)
      else { s with temppHist := strcpy 256 s.temppHist s.ln }
    let s : Console := { s with currpHist := s.currpHist + 1 }
    s.load (s.pHist (s.idxpHist - s.currpHist))
  else s

/-- `ch == 'B'`.  `cPos` stays as it is. -/
def down : Console :=
  if s.currpHist ≠ 0 then
    let s := s.save (s.idxpHist - s.currpHist)
    let s : Console := { s with currpHist := s.currpHist - 1 }
    s.load (if s.currpHist ≠ 0 then s.pHist (s.idxpHist - s.currpHist) else s.temppHist)
  else s

/-- `ch == 'C'`. -/
def right : Console := if s.cPos > 0 then { s with cPos := s.cPos - 1 } else s

/-- `ch == 'D'`. -/
def left : Console :=
  if s.cPos < s.chIdx then
    { s with tempStr := s.tempStr.set s.cPos.toNat (s.ln (s.chIdx - s.cPos - 1).toNat)
             cPos := s.cPos + 1 }
  else s

/-- A character behind an escape. -/
def direction (ch : UInt8) : Console :=
  if ch = 91 then { s with isDir := true }
  else if ch = 65 then { s.up with isDir := false }
  else if ch = 66 then { s.down with isDir := false }
  else if ch = 67 then { s.right with isDir := false }
  else if ch = 68 then { s.left with isDir := false }
  else { s with isDir := false }

/-- Any other character. -/
def insert (ch : UInt8) : Console :=
  if s.cPos ≠ 0 then
    let ln := s.ln.set (s.chIdx - s.cPos).toNat ch
    let ln := (List.range' 1 s.cPos.toNat).foldl
      (fun ln x => ln.set (s.chIdx - s.cPos + x).toNat (s.tempStr (s.cPos - x).toNat)) ln
    { s with ln := ln.set (s.chIdx + 1).toNat 0, chIdx := s.chIdx + 1 }
  else
    let ln := s.ln.set s.chIdx.toNat ch
    { s with ln := ln.set (s.chIdx + 1).toNat 0, chIdx := s.chIdx + 1 }

/-- `switch (ch)`. -/
def switch (ch : UInt8) : Console :=
  if ch = 127 then s.backspace
  else if ch = 27 then { s with isDir := true }
  else if s.isDir then s.direction ch
  else s.insert ch

/-- The line is complete when this character is read. -/
def ends (maxLen : ℤ) (ch : UInt8) : Prop := ch = 10 ∨ s.chIdx = maxLen - 1

instance (maxLen : ℤ) (ch : UInt8) : Decidable (s.ends maxLen ch) :=
  inferInstanceAs (Decidable (_ ∨ _))

end Console

/-- The next round, if this one does not end the loop `while (chIdx < maxLen)`. -/
def consoleStep (maxLen : ℤ) (s : Console) (ch : UInt8) : Option Console :=
  if s.chIdx < maxLen ∧ ¬ s.ends maxLen ch then some (s.switch ch) else none

/-- `consoleGetLine(ln, maxLen)` on the characters that `consoleGetCh` returns: the variables at
its return.  Without a character it waits. -/
def consoleGetLine (maxLen : ℤ) : List UInt8 → Console → Option Console
  | chs, s =>
    if s.chIdx < maxLen then
      match chs with
      | [] => none
      | ch :: chs =>
        if s.ends maxLen ch then some s.enter else consoleGetLine maxLen chs (s.switch ch)
    else some s

/-! ## The cells in use -/

/-- The indices into `ln` of a round, those of the string functions apart. -/
def lnIndices (maxLen : ℤ) (s : Console) (ch : UInt8) : List ℤ :=
  if s.ends maxLen ch then []
  else if ch = 127 then
    if s.chIdx > 0 ∧ s.cPos < s.chIdx then
      (List.range s.cPos.toNat).map (fun x : ℕ => s.chIdx - s.cPos + x - 1) ++ [s.chIdx - 1]
    else []
  else if ch = 27 then []
  else if s.isDir then if ch = 68 ∧ s.cPos < s.chIdx then [s.chIdx - s.cPos - 1] else []
  else if s.cPos ≠ 0 then
    (s.chIdx - s.cPos) ::
      (List.range' 1 s.cPos.toNat).map (fun x : ℕ => s.chIdx - s.cPos + x) ++ [s.chIdx + 1]
  else [s.chIdx, s.chIdx + 1]

/-- The indices into `tempStr` of a round. -/
def tempStrIndices (maxLen : ℤ) (s : Console) (ch : UInt8) : List ℤ :=
  if s.ends maxLen ch then []
  else if ch = 127 then
    if s.chIdx > 0 ∧ s.cPos < s.chIdx then
      (List.range s.cPos.toNat).map fun x : ℕ => s.cPos - x - 1
    else []
  else if ch = 27 then []
  else if s.isDir then if ch = 68 ∧ s.cPos < s.chIdx then [s.cPos] else []
  else (List.range' 1 s.cPos.toNat).map fun x : ℕ => s.cPos - x

end ZnpHost.Gnu
