import Mathlib.Data.Nat.Notation

/-!
# Printing

`dbg_print` hands a message to `vprintf` if its level is at most `PRINT_LEVEL`, which
`dbgPrint.h` sets to warnings.  `vprintf` trusts the format: an argument of another kind than
its conversion asks for, or none at all, is undefined behaviour, and an integer taken for the
address of a string ends the process.

## Main definitions

* `PrintLevel`, `printLevel` — the levels of messages, and the one up to which they appear.
* `Answers` — the arguments of a call are those its format asks for.
* `dbgPrint` — the call, which may not come back.
-/

namespace ZnpHost.Gnu

/-- The levels of `dbgPrint.h`, the most urgent first. -/
inductive PrintLevel
  | error
  | warning
  | info
  | infoLowlevel
  | verbose
  deriving DecidableEq

/-- Their values in the enumeration. -/
def PrintLevel.value : PrintLevel → ℕ
  | error => 0
  | warning => 1
  | info => 2
  | infoLowlevel => 3
  | verbose => 4

/-- `PRINT_LEVEL`. -/
def printLevel : PrintLevel := .warning

/-- What a conversion asks for, and what an argument is: an integer, as for `%d`, `%x` and
`%02X`, or a string, as for `%s`. -/
inductive PrintKind
  | int
  | str
  deriving DecidableEq

/-- Every conversion finds an argument of its kind; further arguments are not looked at. -/
def Answers : List PrintKind → List PrintKind → Prop
  | [], _ => True
  | _ :: _, [] => False
  | c :: cs, a :: as => c = a ∧ Answers cs as

instance decidableAnswers : ∀ cs as, Decidable (Answers cs as)
  | [], _ => inferInstanceAs (Decidable True)
  | _ :: _, [] => inferInstanceAs (Decidable False)
  | c :: cs, a :: as =>
    have := decidableAnswers cs as
    inferInstanceAs (Decidable (c = a ∧ Answers cs as))

/-- `dbg_print`, with the conversions of the format and the kinds of the arguments.  `none`
stands for a process that `vprintf` has ended. -/
def dbgPrint (level : PrintLevel) (fmt args : List PrintKind) : Option Unit :=
  if printLevel.value < level.value then some ()
  else if Answers fmt args then some () else none

/-- A call does not come back exactly when its message appears and lacks an argument. -/
theorem dbgPrint_eq_none_iff {level : PrintLevel} {fmt args : List PrintKind} :
    dbgPrint level fmt args = none ↔ level.value ≤ printLevel.value ∧ ¬ Answers fmt args := by
  unfold dbgPrint
  split
  · next hquiet => simpa using fun hle => absurd hle (Nat.not_le.mpr hquiet)
  · next hloud => split <;> simp_all

end ZnpHost.Gnu
