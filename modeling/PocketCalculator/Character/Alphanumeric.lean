import PocketCalculator.Character.Alphabetic
import PocketCalculator.Character.Numeric

/-!
# Alphanumeric characters

A character is alphanumeric when it is alphabetic or numeric in the sense of
Unicode, in whatever script.
-/

namespace PocketCalculator

/-- Whether a character is a letter or a number of any script. -/
def isAlphanumeric (c : Char) : Bool := isAlphabetic c || isNumeric c

end PocketCalculator
