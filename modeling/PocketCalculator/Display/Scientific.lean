import PocketCalculator.Display.Fixed

/-!
# Scientific notation

A value is written as a mantissa with one digit before the dot and a fixed
number after it, and the power of ten that belongs to it.

Main definitions:

- {lit}`Display.decimalExponent` is the power of ten of the leading digit.
- {lit}`Display.scientific` writes a signed fraction.
-/

namespace PocketCalculator.Display

-- Powers of natural numbers are the core library's, whatever else is imported.
attribute [local instance (2000)] instPowNat

/-- How many decimal places a mantissa has. -/
def mantissaPlaces : Nat := 5

/-- The power of ten of the leading digit of {lit}`num / den`; zero counts as a
number of ones. -/
def decimalExponent (num den : Nat) : Int :=
  if num = 0 then 0
  else if den ≤ num then (digits (num / den)).length - 1
  else -((digits ((den - 1) / num)).length : Int)

/-- The magnitude {lit}`num / den` divided by {lit}`10 ^ exponent`, with the decimal
places of a mantissa written as a whole number. -/
def significandAt (exponent : Int) (num den : Nat) : Nat :=
  let shift := exponent - mantissaPlaces
  if 0 ≤ shift then roundHalfEven num (den * 10 ^ shift.toNat)
  else roundHalfEven (num * 10 ^ (-shift).toNat) den

/-- The significand and the exponent of a mantissa.  A significand that rounds
up to the next power of ten moves into the exponent. -/
def mantissa (num den : Nat) : Nat × Int :=
  let exponent := decimalExponent num den
  let significand := significandAt exponent num den
  if significand < 10 ^ (mantissaPlaces + 1) then (significand, exponent)
  else (10 ^ mantissaPlaces, exponent + 1)

/-- The text of a power of ten: its sign and at least two digits. -/
def exponentText (exponent : Int) : Text :=
  (if exponent < 0 then '-' else '+') :: paddedDigits 2 exponent.natAbs

/-- The magnitude {lit}`num / den` with a sign in scientific notation, an exact half
going to the even last digit of the mantissa. -/
def scientific (negative : Bool) (num den : Nat) : Text :=
  let (significand, exponent) := mantissa num den
  sign negative ++ digits (significand / 10 ^ mantissaPlaces) ++
    '.' :: paddedDigits mantissaPlaces (significand % 10 ^ mantissaPlaces) ++
    'e' :: exponentText exponent

end PocketCalculator.Display
