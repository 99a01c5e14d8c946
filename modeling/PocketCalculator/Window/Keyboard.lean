import PocketCalculator.Entry.State

/-!
# The keyboard

The window takes what happened on the keyboard in one frame at a time.  Within
a frame the escape key comes first, then all typed texts in their order, then
the enter key, and the backspace key at last; a control key counts once.

Main definitions:

- {lit}`Keyboard.key?` is the key of a typed character.
- {lit}`KeyboardEvent` is what can happen on the keyboard.
- {lit}`Entry.typeText` is the effect of a typed text.
- {lit}`Entry.frame` is the effect of a frame.

Main results:

- {lit}`Entry.typeText_append`: a text may be typed in pieces.
-/

namespace PocketCalculator

/-! ## Typed characters -/

namespace Keyboard

/-- The characters that type themselves. -/
def typesItself (c : Char) : Bool := isDigit c || c ∈ ".+-()^%".toList

/-- The key of a typed character.  Stars and the letter x multiply, slashes
divide, and an exclamation mark is the factorial. -/
def key? (c : Char) : Option Key :=
  if typesItself c then some (.symbol [c])
  else if c ∈ "*x×".toList then some (.symbol "×".toList)
  else if c ∈ "/÷".toList then some (.symbol "÷".toList)
  else if c = '=' then some .equals
  else if c = '!' then some (.operation .factorial)
  else none

end Keyboard

/-! ## Events -/

/-- A key of the keyboard that types nothing. -/
inductive ControlKey where
  | enter
  | backspace
  | escape
deriving DecidableEq, Repr

/-- What can happen on the keyboard. -/
inductive KeyboardEvent where
  | text (typed : Text)
  | control (key : ControlKey)
deriving DecidableEq, Repr

namespace KeyboardEvent

/-- What an event types. -/
def typed : KeyboardEvent → Text
  | text typed => typed
  | control _ => []

end KeyboardEvent

namespace Entry

/-! ## Frames -/

/-- Types one character; one without a key changes nothing. -/
def typeCharacter (entry : Entry) (c : Char) : Entry :=
  match Keyboard.key? c with
  | some key => entry.press key
  | none => entry

/-- Types the characters of a text. -/
def typeText (entry : Entry) (text : Text) : Entry := text.foldl typeCharacter entry

@[simp] theorem typeText_nil (entry : Entry) : entry.typeText [] = entry := rfl

@[simp] theorem typeText_cons (entry : Entry) (c : Char) (text : Text) :
    entry.typeText (c :: text) = (entry.typeCharacter c).typeText text := rfl

/-- A text may be typed in pieces. -/
theorem typeText_append (entry : Entry) (text more : Text) :
    entry.typeText (text ++ more) = (entry.typeText text).typeText more :=
  List.foldl_append

/-- Presses a key if a control key is among the events of a frame. -/
def pressOn (entry : Entry) (events : List KeyboardEvent) (control : ControlKey) (key : Key) :
    Entry :=
  if .control control ∈ events then entry.press key else entry

/-- The effect of one frame of keyboard events. -/
def frame (entry : Entry) (events : List KeyboardEvent) : Entry :=
  let cleared := entry.pressOn events .escape (.clear .all)
  let typed := (events.map KeyboardEvent.typed).foldl typeText cleared
  let calculated := typed.pressOn events .enter .equals
  calculated.pressOn events .backspace (.clear .last)

end Entry

end PocketCalculator
