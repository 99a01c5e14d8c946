import PocketCalculator.Display.Scientific

/-!
# The text of a result

A result is shown in at most fifteen characters.  Whole numbers and decimals
stay as they are while they fit, larger values take scientific notation, and
what is no finite number reads as an error.

Main definitions:

- {lit}`Display.ofExact` and {lit}`Display.ofFloat` choose between the forms.
- {lit}`Display.decimalOnly` is the same choice without a separate form for whole
  numbers.

Main results:

- {lit}`Display.ofFloat_of_not_finite` gives the text of what is no finite number.
-/

namespace PocketCalculator.Display

-- Powers of natural numbers are the core library's, whatever else is imported.
attribute [local instance (2000)] instPowNat

/-- What the screen shows in place of a failed calculation. -/
def errorText : Text := "Error".toList

/-- How many characters a result may take before it needs scientific notation. -/
def width : Nat := 15

/-- Whether a count of least units is a whole number of at most fifteen digits. -/
def isShortWhole (units : Nat) : Bool :=
  units % Exact.one == 0 && units < 10 ^ width * Exact.one

/-- Keeps a text that fits the screen and else takes scientific notation. -/
def fitted (negative : Bool) (units : Nat) (text : Text) : Text :=
  if width < text.length then scientific negative units Exact.one else text

/-- The text of an exact value. -/
def ofExact : Exact → Text
  | .finite negative units =>
    fitted negative units
      (if isShortWhole units then whole negative units else trimmed negative units)
  | .infinite _ => errorText
  | .nan => errorText

/-- The text of a result. -/
def ofFloat (x : Float) : Text := ofExact (Exact.ofFloat x)

/-- What is no finite number reads as an error. -/
theorem ofFloat_of_not_finite {x : Float} (h : (Exact.ofFloat x).isFinite = false) :
    ofFloat x = errorText := by
  unfold ofFloat
  cases value : Exact.ofFloat x with
  | finite negative units => simp [value] at h
  | infinite negative => rfl
  | nan => rfl

/-- The text of an exact value, whole numbers written as decimals too. -/
def decimalOnly : Exact → Text
  | .finite negative units => fitted negative units (trimmed negative units)
  | .infinite _ => errorText
  | .nan => errorText

end PocketCalculator.Display
