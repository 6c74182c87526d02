import Mathlib.Algebra.Group.Int.Defs
import Mathlib.Logic.Function.Basic
import ZnpHost.Apps.Commands
import ZnpHost.Lib.CString
import ZnpHost.Lib.Hex
import ZnpHost.Lib.Loop

/-!
# `inputCmd`

The attributes of a command are asked for one after the other and stored in the block `input`
that `sendCmd` gets.  A number is read with `%x` and printed again with two digits for every
byte; the digits of the line are then stored from the last byte of the attribute to the first.

The model also records the indices written and the lines entered.

## Main definitions

* `commandSize` — the size of the block.
* `storeByte`, `storeValue` — the loop over the digits.
* `InputState`, `inputRound` — the variables, and one round of the loop over the attributes.
* `inputCmd` — the whole loop.
-/

namespace ZnpHost.Apps

open Lib

/-- `commandSize`, a `uint8_t`. -/
def commandSize (atts : List CmdAtt) : ℕ :=
  atts.foldl
    (fun size a =>
      let size := (size + a.size * (if a.isList = 0 then 1 else a.isList)) % 256
      (size + if a.size = 2 ∧ size % 2 ≠ 0 then 1 else 0) % 256)
    0

/-- The string in `value`. -/
def line (value : Mem) : List UInt8 := cString 128 value

/-- The contents of `value` at a return of `consoleGetLine`, which terminates the line. -/
structure Answer where
  value : Mem
  terminated : (line value).length < 128

/-! ## The digits of a line -/

/-- `input`, `strPos` and the indices written. -/
structure Digits where
  input : Mem
  strPos : ℕ
  written : List ℕ

/-- One round of the loop over the bytes of a value at `pos`.  A missing digit is written at
`fill`, which is `pos` but for the elements of a list. -/
def storeByte (value : Mem) (pos fill attSize : ℕ) (d : Digits) (idx : ℕ) : Digits :=
  if value d.strPos ≠ 0 then
    let strPos := d.strPos + if value (d.strPos + 2) = 58 then 3 else 2
    match scan2hhx (cString (128 - d.strPos) (value.shift d.strPos)) with
    | none => { d with strPos }
    | some b =>
      { input := d.input.set (pos + attSize - 1 - idx) b
        strPos
        written := (pos + attSize - 1 - idx) :: d.written }
  else
    { d with input := d.input.set (fill + attSize - 1 - idx) 0
             written := (fill + attSize - 1 - idx) :: d.written }

/-- The loop over the bytes of a value. -/
def storeValue (value : Mem) (pos fill attSize : ℕ) (d : Digits) : Digits :=
  (List.range attSize).foldl (storeByte value pos fill attSize) d

/-- `sscanf(value, "%x", &tem); sprintf(value, "%0nX", tem)` for an attribute that is a number;
without a number in the line `tem` stays as it is. -/
def convert (number : Bool) (attSize : ℕ) (tem : UInt32) (value : Mem) : UInt32 × Mem :=
  if number then
    let tem :=
      match scanX (line value) with
      | none => tem
      | some v => UInt32.ofNat (v % 2 ^ 32).toNat
    (tem, value.blit 0 (sprintfX (2 * attSize) tem.toNat ++ [0]))
  else (tem, value)

/-! ## The loop over the attributes -/

/-- The variables of `inputCmd`, what `consoleGetLine` is going to return, and what is recorded:
the indices written, and the last lines entered for an attribute. -/
structure InputState where
  x : ℕ
  currentPos : ℕ
  input : Mem
  tem : UInt32
  answers : List Answer
  written : List ℕ
  entered : ℕ → List (List UInt8)

/-- An attribute that is not a list. -/
def scalarRound (a : CmdAtt) (s : InputState) : Option InputState :=
  match s.answers with
  | [] => none
  | answer :: answers =>
    let (tem, text) := convert (a.size = 2 ∨ a.size = 4 ∨ a.size = 1) a.size s.tem answer.value
    let pos := if a.size = 2 ∧ s.currentPos % 2 ≠ 0 then s.currentPos + 1 else s.currentPos
    let d := storeValue text pos pos a.size ⟨s.input, 0, s.written⟩
    some
      { x := s.x + 1
        currentPos := pos + a.size
        input := d.input
        tem
        answers
        written := d.written
        entered := Function.update s.entered s.x [line answer.value] }

/-- The loop over the elements of a list, of which `n` are left, and what follows it. -/
def listRounds (a : CmdAtt) : ℕ → ℕ → InputState → Option InputState
  | 0, _, s => some { s with x := s.x + 1, currentPos := s.currentPos + a.size * a.isList }
  | n + 1, tempPos, s =>
    match s.answers with
    | [] => none
    | answer :: answers =>
      let (tem, text) := convert (a.size = 2 ∨ a.size = 1) a.size s.tem answer.value
      let pad := if a.size = 2 ∧ tempPos % 2 ≠ 0 then 1 else 0
      let d := storeValue text (tempPos + pad) (s.currentPos + pad) a.size ⟨s.input, 0, s.written⟩
      listRounds a n (tempPos + pad + a.size)
        { s with
          currentPos := s.currentPos + pad
          input := d.input
          tem
          answers
          written := d.written
          entered := Function.update s.entered s.x (s.entered s.x ++ [line answer.value]) }

/-- `prevAttSize`. -/
def prevAttSize (atts : List CmdAtt) (x : ℕ) : ℕ :=
  match atts[x - 1]? with
  | none => 0
  | some a => a.size

/-- `listLen`. -/
def listLen (prevAttSize : ℕ) (s : InputState) : ℕ :=
  if prevAttSize = 1 then (s.input (s.currentPos - 1)).toNat
  else (s.input (s.currentPos - 2)).toNat + 256 * (s.input (s.currentPos - 1)).toNat

/-- One round of the loop over the attributes.  A list that is too long is given up, and its
length is asked for again. -/
def inputRound (atts : List CmdAtt) (s : InputState) : Option (InputState ⊕ InputState) :=
  match atts[s.x]? with
  | none => some (.inr s)
  | some a =>
    if a.isList = 0 then (scalarRound a s).map .inl
    else if a.isList ≤ listLen (prevAttSize atts s.x) s then
      some (.inl { s with x := s.x - 1, currentPos := s.currentPos - prevAttSize atts s.x })
    else
      (listRounds a (listLen (prevAttSize atts s.x) s) s.currentPos
        { s with entered := Function.update s.entered s.x [] }).map .inl

/-- `inputCmd` up to its call of `sendCmd`: `heap` is what `malloc` returns, `tem` is not
initialised. -/
def inputCmd (atts : List CmdAtt) (fuel : ℕ) (heap : Mem) (tem : UInt32) (answers : List Answer) :
    Option InputState :=
  runLoop (inputRound atts) fuel ⟨0, 0, heap, tem, answers, [], fun _ => []⟩

end ZnpHost.Apps
