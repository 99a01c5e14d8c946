import PocketCalculator.Text

/-!
# Causes of failure

Every calculation that fails has one cause.  The screen never shows it; the
journal writes its message.

Main definitions:

- {lit}`Cause` lists what can go wrong.
- {lit}`Cause.message` is the wording of each.
-/

namespace PocketCalculator

/-- What lies outside the domain of a function. -/
inductive DomainFault where
  | negativeSquareRoot
  | nonPositiveLogarithm
  | zeroDivisor
deriving DecidableEq, Repr

namespace DomainFault

/-- The wording of a domain fault. -/
def message : DomainFault → Text
  | negativeSquareRoot => "sqrt of negative".toList
  | nonPositiveLogarithm => "log of non-positive".toList
  | zeroDivisor => "division by zero".toList

end DomainFault

/-- Why a calculation failed. -/
inductive Cause where
  /-- A character that nothing can use where it stands, or the end of the text. -/
  | unexpected (found : Option Char)
  /-- A name that belongs to no function. -/
  | unknownFunction (name : Text)
  /-- An argument outside the domain of a function. -/
  | domain (fault : DomainFault)
  /-- A run of digits and dots that is no number. -/
  | malformedNumber (run : Text)
  /-- A number whose factorial is too large. -/
  | factorialTooLarge (n : Nat)
  /-- A result that is infinite or no number. -/
  | notFinite
  /-- More open factors than the limit. -/
  | tooDeeplyNested (limit : Nat)
  /-- A text that is no number with a factorial. -/
  | notANumber (text : Text)
deriving DecidableEq, Repr

namespace Cause

/-- The wording of a cause. -/
def message : Cause → Text
  | unexpected (some c) => "Unexpected: ".toList ++ [c]
  | unexpected none => "Unexpected: end of input".toList
  | unknownFunction name => "Unknown function: ".toList ++ name
  | domain fault => "Domain Error: ".toList ++ fault.message
  | malformedNumber run => "Malformed number: ".toList ++ run
  | factorialTooLarge n => "Number too large: ".toList ++ Nat.toDigits 10 n ++ ['!']
  | notFinite => "result is not finite".toList
  | tooDeeplyNested limit =>
    "Expression too deeply nested (max ".toList ++ Nat.toDigits 10 limit ++ [')']
  | notANumber text => "not a non-negative number: ".toList ++ text

end Cause

end PocketCalculator
