import PocketCalculator.Entry.State

/-!
# The keypad

The keypad shows its buttons in rows.  Three labels tell whether the inverse
mode is on; what their buttons press is the same in both modes, and the
calculator itself looks at the mode.

Main definitions:

- {lit}`Keypad.rows` lists the buttons from top to bottom.
- {lit}`Keypad.key?` is the key of a label.
- {lit}`Entry.click?` is the effect of a click.
- {lit}`Entry.screen` lists the texts that the window shows.
-/

namespace PocketCalculator

/-- A button of the keypad: its label and the key that it presses. -/
structure Button where
  label : Text
  key : Key
deriving DecidableEq, Repr

namespace Keypad

/-! ## Kinds of buttons -/

/-- A button that types its own label. -/
def symbol (label : Text) : Button := ⟨label, .symbol label⟩

/-- A button that carries out the operation of an identifier. -/
def operation (label identifier : Text) : Button :=
  ⟨label, .operation (.ofIdentifier identifier)⟩

/-- The label of a trigonometric button. -/
def trigonometric (inverse : Bool) (name : Text) : Text :=
  if inverse then 'a' :: name else name

/-! ## Layout -/

/-- The buttons from top to bottom, each row from left to right. -/
def rows (inverse : Bool) : List (List Button) :=
  let trig (name : Text) := operation (trigonometric inverse name) name
  [ [operation "log".toList "log10".toList, operation "ln".toList "ln".toList,
      ⟨"xʸ".toList, .symbol "^".toList⟩, operation "x!".toList "fact".toList],
    [⟨"Inv".toList, .invert⟩, trig "sin".toList, trig "cos".toList, trig "tan".toList],
    [operation "√".toList "sqrt".toList, operation "1/x".toList "inv".toList,
      symbol "(".toList, symbol ")".toList],
    [⟨"AC".toList, .clear .all⟩, ⟨"<-".toList, .clear .last⟩,
      symbol "%".toList, symbol "÷".toList],
    [symbol "7".toList, symbol "8".toList, symbol "9".toList, symbol "×".toList],
    [symbol "4".toList, symbol "5".toList, symbol "6".toList, symbol "-".toList],
    [symbol "1".toList, symbol "2".toList, symbol "3".toList, symbol "+".toList],
    [symbol "0".toList, symbol ".".toList, ⟨"=".toList, .equals⟩] ]

/-- All buttons, row by row. -/
def buttons (inverse : Bool) : List Button := (rows inverse).flatten

/-- The key of a label, if a button with this label is shown. -/
def key? (inverse : Bool) (label : Text) : Option Key :=
  ((buttons inverse).find? (·.label == label)).map Button.key

/-- No two buttons share a label. -/
theorem nodup_labels (inverse : Bool) : ((buttons inverse).map Button.label).Nodup := by
  cases inverse <;> decide

end Keypad

namespace Entry

/-- Clicks the button of a label, if it is shown. -/
def click? (entry : Entry) (label : Text) : Option Entry :=
  (Keypad.key? entry.inverse label).map entry.press

/-- The texts that the window shows: the indicator of the inverse mode, the
expression, and the labels of the buttons. -/
def screen (entry : Entry) : List Text :=
  "INV".toList :: entry.expression :: (Keypad.buttons entry.inverse).map Button.label

end Entry

end PocketCalculator
