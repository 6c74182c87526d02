import Mathlib.Data.List.Basic
import Mathlib.Data.Nat.Notation

/-!
# A line editor

A line with a cursor, and the lines entered before it, which can be recalled and edited too.
The line is split at the cursor, the history at the line that is shown.

## Main definitions

* `LineEditor` — the two splits.
* `Edit`, `LineEditor.apply` — what can be done to a line.
* `LineKey`, `readLine` — keys, and the line that is entered with them.
-/

namespace ZnpHost.Lib

variable {α : Type*}

/-- The text on both sides of the cursor and the lines on both sides of the line shown; what is
nearest comes first, but for the text behind the cursor. -/
structure LineEditor (α : Type*) where
  before : List α
  after : List α
  older : List (List α)
  newer : List (List α)

/-- What can be done to the line. -/
inductive Edit (α : Type*)
  | insert (c : α)
  | erase
  | left
  | right
  | older
  | newer

namespace LineEditor

variable (e : LineEditor α)

/-- The line shown. -/
def line : List α := e.before.reverse ++ e.after

/-- An empty line after the lines entered so far, the last of them first. -/
def start (lines : List (List α)) : LineEditor α := ⟨[], [], lines, []⟩

/-- Show another line, with the cursor at its end. -/
def switchTo (l : List α) (older newer : List (List α)) : LineEditor α :=
  ⟨l.reverse, [], older, newer⟩

/-- The editor after an edit. -/
def apply : Edit α → LineEditor α
  | .insert c => { e with before := c :: e.before }
  | .erase => { e with before := e.before.tail }
  | .left =>
    match e.before with
    | [] => e
    | c :: cs => { e with before := cs, after := c :: e.after }
  | .right =>
    match e.after with
    | [] => e
    | c :: cs => { e with before := c :: e.before, after := cs }
  | .older =>
    match e.older with
    | [] => e
    | l :: ls => switchTo l ls (e.line :: e.newer)
  | .newer =>
    match e.newer with
    | [] => e
    | l :: ls => switchTo l (e.line :: e.older) ls

@[simp] theorem line_switchTo (l : List α) (ls ls' : List (List α)) :
    (switchTo l ls ls').line = l := by
  simp [switchTo, line]

theorem length_line : e.line.length = e.before.length + e.after.length := by simp [line]

/-- The text before the cursor begins the line. -/
theorem take_line : e.line.take e.before.length = e.before.reverse := by simp [line]

end LineEditor

/-- A key: an edit, or the end of the line. -/
inductive LineKey (α : Type*)
  | edit (d : Edit α)
  | enter

/-- The line entered with a sequence of keys.  A line of `full` characters is complete: any key
enters it. -/
def readLine (full : ℕ) : LineEditor α → List (LineKey α) → Option (List α)
  | _, [] => none
  | e, .enter :: _ => some e.line
  | e, .edit d :: ks => if e.line.length = full then some e.line else readLine full (e.apply d) ks

end ZnpHost.Lib
