import PocketCalculator.Character.Alphanumeric
import PocketCalculator.Entry.Percent

/-!
# Typing symbols

A calculator with nothing entered shows zero.  This zero is a placeholder: a
symbol typed after it either replaces it or is added to it.

Main definitions:

- {lit}`placeholder` is the expression with nothing entered.
- {lit}`replacesPlaceholder` tells which symbols replace it.
- {lit}`afterSymbol` is the expression after a symbol.
- {lit}`afterInsertion` is the expression after an opened function.
-/

namespace PocketCalculator

/-- The expression with nothing entered. -/
def placeholder : Text := ['0']

/-- Whether a symbol replaces the placeholder.  Digits, operators and an opening
parenthesis do; a dot, a closing parenthesis and letters are added to it, and so
are letters and numbers of other scripts. -/
def replacesPlaceholder (first : Char) (symbol : Text) : Bool :=
  (!isAlphanumeric first && !(symbol = ['.'] || symbol = ['('] || symbol = [')']))
    || isDigit first || symbol = ['(']

/-- The expression after a symbol. -/
def afterSymbol (expression : Text) : Text → Text
  | [] => expression
  | first :: more =>
    let symbol := first :: more
    if symbol = ['%'] then percent expression
    else if expression = placeholder && replacesPlaceholder first symbol then symbol
    else expression ++ symbol

/-- The expression after a text that always replaces the placeholder. -/
def afterInsertion (expression text : Text) : Text :=
  if expression = placeholder then text else expression ++ text

/-- An empty symbol changes nothing. -/
@[simp] theorem afterSymbol_nil (expression : Text) : afterSymbol expression [] = expression := rfl

/-- The percent sign is a key of its own. -/
@[simp] theorem afterSymbol_percent (expression : Text) :
    afterSymbol expression ['%'] = percent expression := rfl

/-- After anything but the placeholder a symbol is added. -/
theorem afterSymbol_of_ne_placeholder {expression symbol : Text}
    (entered : expression ≠ placeholder) (h : symbol ≠ ['%']) :
    afterSymbol expression symbol = expression ++ symbol := by
  cases symbol with
  | nil => simp
  | cons first more => simp [afterSymbol, entered, h]

end PocketCalculator
