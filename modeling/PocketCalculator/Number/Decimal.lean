import PocketCalculator.Number.Exact
import PocketCalculator.Text

/-!
# Decimal numerals

A numeral is a coefficient and a power of ten.  It is read from digits with at
most one dot, possibly followed by an exponent, and stands for the double
nearest to it.

Main definitions:

- {lit}`Decimal.ofPlain?` reads digits with at most one dot.
- {lit}`Decimal.ofScientific?` also takes an exponent.
- {lit}`Decimal.toFloat` is the nearest double.
- {lit}`readNumber?` reads a whole text as a number: a sign, then a numeral or
  the name of infinity or of what is not a number.

Main results:

- {lit}`Decimal.ofPlain?_append_dot` and {lit}`Decimal.ofPlain?_digits` give the
  value of a numeral with and without a dot.
- {lit}`readNumber?_minus` says that a minus sign negates the number after it.
-/

namespace PocketCalculator

/-- Whether a character is one of the ten ASCII digits. -/
def isDigit (c : Char) : Bool := '0' ≤ c && c ≤ '9'

/-- The number {lit}`coefficient * 10 ^ exponent`. -/
structure Decimal where
  coefficient : Nat
  exponent : Int
deriving DecidableEq, Repr

namespace Decimal

-- Powers of natural numbers are the core library's, whatever else is imported.
attribute [local instance (2000)] instPowNat

/-! ## Reading -/

/-- Reads digits with at most one dot; at least one digit has to be there. -/
def ofPlain? (text : Text) : Option Decimal :=
  let whole := text.takeWhile isDigit
  match text.dropWhile isDigit with
  | [] => if whole.isEmpty then none else some ⟨Nat.ofDigitChars 10 whole 0, 0⟩
  | '.' :: fraction =>
    let digits := whole ++ fraction
    if digits.isEmpty || !fraction.all isDigit then none
    else some ⟨Nat.ofDigitChars 10 digits 0, -(fraction.length : Int)⟩
  | _ => none

/-- Reads the digits after an exponent mark, with an optional sign. -/
def exponentOf? (text : Text) : Option Int :=
  let magnitude (digits : Text) : Option Nat :=
    if digits.isEmpty || !digits.all isDigit then none
    else some (Nat.ofDigitChars 10 digits 0)
  match text with
  | '-' :: digits => (magnitude digits).map fun n => -(n : Int)
  | '+' :: digits => (magnitude digits).map fun n => (n : Int)
  | digits => (magnitude digits).map fun n => (n : Int)

/-- Whether a character separates a numeral from its exponent. -/
def isExponentMark (c : Char) : Bool := c == 'e' || c == 'E'

/-- Reads digits with at most one dot, and an exponent if there is a mark. -/
def ofScientific? (text : Text) : Option Decimal :=
  let plain := text.takeWhile (!isExponentMark ·)
  match text.dropWhile (!isExponentMark ·) with
  | [] => ofPlain? plain
  | _ :: power =>
    match ofPlain? plain, exponentOf? power with
    | some d, some shift => some ⟨d.coefficient, d.exponent + shift⟩
    | _, _ => none

/-! ## Value -/

/-- How many decimal digits a natural number is written with. -/
def digitCount (n : Nat) : Nat := (Nat.toDigits 10 n).length

/-- A numeral at or above {lit}`10 ^ ceiling` passes the largest double by more than
half a step. -/
def ceiling : Int := 309

/-- A numeral below {lit}`10 ^ floor` is nearer to zero than to the smallest double. -/
def floor : Int := -324

/-- The double nearest to a numeral, an exact half going to the even neighbour.

A numeral with {lit}`k` digits and exponent {lit}`e` lies below
{lit}`10 ^ (k + e)` and not below a tenth of that, which settles the numerals
out of range without computing the power. -/
def toFloat (d : Decimal) : Float :=
  let top := digitCount d.coefficient + d.exponent
  if d.coefficient = 0 ∨ top ≤ floor then 0
  else if ceiling < top then Exact.infinity
  else if 0 ≤ d.exponent then
    Exact.nearest false (d.coefficient * 10 ^ d.exponent.toNat * Exact.one) 1
  else Exact.nearest false (d.coefficient * Exact.one) (10 ^ (-d.exponent).toNat)

end Decimal

/-! ## Signed numbers and names -/

/-- Reads a number without a sign.  The three names are told in any letter
case. -/
def readMagnitude? (text : Text) : Option Float :=
  let name := text.map Char.toLower
  if name = "inf".toList ∨ name = "infinity".toList then some Exact.infinity
  else if name = "nan".toList then some Exact.notANumber
  else (Decimal.ofScientific? text).map Decimal.toFloat

/-- Reads a whole text as a number. -/
def readNumber? : Text → Option Float
  | '-' :: magnitude => (readMagnitude? magnitude).map fun x => -x
  | '+' :: magnitude => readMagnitude? magnitude
  | magnitude => readMagnitude? magnitude

/-- A minus sign negates the number after it. -/
@[simp] theorem readNumber?_minus (magnitude : Text) :
    readNumber? ('-' :: magnitude) = (readMagnitude? magnitude).map fun x => -x := rfl

/-- A plus sign changes nothing. -/
@[simp] theorem readNumber?_plus (magnitude : Text) :
    readNumber? ('+' :: magnitude) = readMagnitude? magnitude := rfl

/-! ## Numerals with and without a dot -/

namespace Decimal

/-- A run of digits stands for their value. -/
theorem ofPlain?_digits {digits : Text} (all : ∀ c ∈ digits, isDigit c)
    (nonempty : digits ≠ []) :
    ofPlain? digits = some ⟨Nat.ofDigitChars 10 digits 0, 0⟩ := by
  have take : (digits ++ []).takeWhile isDigit = digits :=
    Text.takeWhile_append_of_boundary all (by simp)
  have drop : (digits ++ []).dropWhile isDigit = [] :=
    Text.dropWhile_append_of_boundary all (by simp)
  rw [List.append_nil] at take drop
  simp [ofPlain?, drop, take, nonempty]

/-- Digits after a dot lower the power of ten by one each. -/
theorem ofPlain?_append_dot {whole fraction : Text} (all : ∀ c ∈ whole, isDigit c)
    (all' : ∀ c ∈ fraction, isDigit c) (nonempty : whole ++ fraction ≠ []) :
    ofPlain? (whole ++ '.' :: fraction) =
      some ⟨Nat.ofDigitChars 10 (whole ++ fraction) 0, -(fraction.length : Int)⟩ := by
  have boundary : ∀ c, ('.' :: fraction).head? = some c → isDigit c = false := by
    intro c dot
    obtain rfl : '.' = c := by simpa using dot
    rfl
  have take := Text.takeWhile_append_of_boundary all boundary
  have drop := Text.dropWhile_append_of_boundary all boundary
  have digits : fraction.all isDigit = true := by simpa using all'
  simp only [ofPlain?, take, drop, digits]
  simp [nonempty]

end Decimal

end PocketCalculator
