import PocketCalculator.Number.Exact
import PocketCalculator.Text

/-!
# Fixed decimal places

A value is written with a fixed number of decimal places, rounded from its exact
value, and then relieved of the zeros that add nothing.

Main definitions:

- {lit}`Display.fixed` writes a signed fraction with any number of places.
- {lit}`Display.trimmed` is the screen's form of it: eight places, no trailing
  zero, no trailing dot and no negative zero.
- {lit}`Display.whole` writes a whole number directly.
-/

namespace PocketCalculator.Display

-- Powers of natural numbers are the core library's, whatever else is imported.
attribute [local instance (2000)] instPowNat

/-- The digits of a natural number, the highest first. -/
def digits (n : Nat) : Text := Nat.toDigits 10 n

/-- The digits of a natural number, with zeros in front up to a given width. -/
def paddedDigits (width n : Nat) : Text := (digits n).leftpad width '0'

/-- The sign in front of a magnitude. -/
def sign (negative : Bool) : Text := if negative then ['-'] else []

@[simp] theorem sign_true : sign true = ['-'] := rfl

@[simp] theorem sign_false : sign false = [] := rfl

/-! ## Fixed places -/

/-- The magnitude {lit}`num / den` with a sign and a fixed number of decimal places,
an exact half going to the even last digit.  The sign of a negative zero is
kept. -/
def fixed (places : Nat) (negative : Bool) (num den : Nat) : Text :=
  let scaled := roundHalfEven (num * 10 ^ places) den
  sign negative ++ digits (scaled / 10 ^ places) ++
    '.' :: paddedDigits places (scaled % 10 ^ places)

/-! ## The screen's plain form -/

/-- How many decimal places the screen shows at most. -/
def places : Nat := 8

/-- A count of least units in decimal form, shortened: trailing zeros go, then
a trailing dot, and zero has no sign. -/
def trimmed (negative : Bool) (units : Nat) : Text :=
  let text := ((fixed places negative units Exact.one).dropTrailing '0').dropTrailing '.'
  if text = "-0".toList ∨ text = "-".toList then "0".toList else text

/-! ## Whole numbers -/

/-- A whole number of least units in digits alone; zero has no sign. -/
def whole (negative : Bool) (units : Nat) : Text :=
  let n := units / Exact.one
  sign (negative && n != 0) ++ digits n

end PocketCalculator.Display
