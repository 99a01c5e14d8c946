import PocketCalculator.Character.Blank
import PocketCalculator.Display.Screen
import PocketCalculator.Entry.Glyphs
import PocketCalculator.Entry.Typing
import PocketCalculator.Expression.Reader
import PocketCalculator.Key

/-!
# Calculations on an expression

What equals, the factorial and the functions make of an expression.  Each
calculation ends in the text of a finite number or in the cause of its failure.

Main definitions:

- {lit}`resultText` is the text of a finite result.
- {lit}`valueOf` evaluates an expression.
- {lit}`factorialOf` takes the factorial of an expression that is a number.
- {lit}`immediate?` is the number that an operation applies to at once.

Main results:

- {lit}`resultText_eq_ok_iff`: when a result has a text.
-/

namespace PocketCalculator

/-! ## Results -/

/-- The text of a result, which has to be finite. -/
def resultText (x : Float) : Except Cause Text :=
  if (Exact.ofFloat x).isFinite then .ok (Display.ofFloat x) else .error .notFinite

/-- The text of a calculation that may fail. -/
def outcome : Except Cause Float → Except Cause Text
  | .ok x => resultText x
  | .error cause => .error cause

/-- A result has a text exactly when it is finite. -/
theorem resultText_eq_ok_iff {x : Float} {text : Text} :
    resultText x = .ok text ↔
      (Exact.ofFloat x).isFinite = true ∧ Display.ofFloat x = text := by
  unfold resultText
  split <;> simp_all

/-! ## Equals -/

/-- Whether there is nothing to calculate: a blank expression, or the sign of an
earlier failure. -/
def isIdle (expression : Text) : Bool :=
  expression.all isBlank || expression = Display.errorText

/-- The text that equals makes of an expression. -/
def valueOf (expression : Text) : Except Cause Text :=
  outcome (evaluate (withoutGlyphs expression))

/-! ## Factorial -/

-- Powers of natural numbers are the core library's, whatever else is imported.
attribute [local instance (2000)] instPowNat

/-- The largest number that sixty-four bits can hold. -/
def largestWord : Nat := 2 ^ (64 : Nat) - 1

/-- The whole number nearest to a text, when the text is a finite number and the
nearest whole number is not negative.  Halves go away from zero. -/
def wholeNumber? (text : Text) : Option Nat :=
  match (readNumber? text).map Exact.ofFloat with
  | some (.finite negative units) =>
    let n := roundHalfUp units Exact.one
    if negative && n != 0 then none else some n
  | _ => none

/-- The text of the factorial of an expression. -/
def factorialOf (expression : Text) : Except Cause Text :=
  match wholeNumber? expression with
  | none => .error (.notANumber expression)
  | some n =>
    match factorial (min n largestWord) with
    | .error cause => .error cause
    | .ok value => .ok (Display.ofFloat (Exact.ofNat value))

/-! ## Functions -/

/-- The number that an operation applies to at once: an expression that is a number.  The
placeholder is excepted, and so is what has an open parenthesis or the identifier of the
operation in it. -/
def immediate? (operation : Operation) (expression : Text) : Option Float :=
  if expression = placeholder ∨ '(' ∈ expression ∨
      operation.identifier.occursIn expression = true then none
  else readNumber? expression

/-- The placeholder is no number to apply a function to. -/
@[simp] theorem immediate?_placeholder (operation : Operation) :
    immediate? operation placeholder = none := by
  simp [immediate?]

/-- What an operation applies to at once is a number. -/
theorem readNumber?_of_immediate? {operation : Operation} {expression : Text} {x : Float}
    (h : immediate? operation expression = some x) : readNumber? expression = some x := by
  unfold immediate? at h
  split at h
  · exact absurd h (by simp)
  · exact h

end PocketCalculator
