import PocketCalculator.Entry.Calculation

/-!
# The state of the calculator

The calculator holds an expression, the inverse mode and the cause of its last
failure.  A key changes them as this module says.

Main definitions:

- {lit}`Entry` is the state, and {lit}`Entry.new` the one with nothing entered.
- {lit}`Entry.apply` is the effect of a key.
- {lit}`Entry.press` also forgets the last failure first.

Main results:

- One lemma for each step and field says what the step does to the field.
- {lit}`Entry.pressAll_append`: keys may be pressed in two parts.
-/

namespace PocketCalculator

/-- The state of the calculator. -/
structure Entry where
  /-- What the screen shows. -/
  expression : Text
  /-- Whether the inverse mode is on. -/
  inverse : Bool
  /-- The cause of the last failure. -/
  lastCause : Option Cause
deriving DecidableEq, Repr

namespace Entry

/-- A calculator with nothing entered. -/
def new : Entry := ⟨placeholder, false, none⟩

@[simp] theorem expression_new : new.expression = placeholder := rfl

@[simp] theorem inverse_new : new.inverse = false := rfl

@[simp] theorem lastCause_new : new.lastCause = none := rfl

/-! ## Steps -/

/-- Shows another expression. -/
def showing (entry : Entry) (expression : Text) : Entry :=
  { entry with expression := expression }

/-- Shows the error text and remembers the cause of the failure. -/
def failing (entry : Entry) (cause : Cause) : Entry :=
  { entry with expression := Display.errorText, lastCause := some cause }

/-- Shows the text of a calculation or its failure. -/
def settle (entry : Entry) : Except Cause Text → Entry
  | .ok text => entry.showing text
  | .error cause => entry.failing cause

/-- Forgets the cause of the last failure. -/
def forget (entry : Entry) : Entry := { entry with lastCause := none }

@[simp] theorem expression_showing (entry : Entry) (expression : Text) :
    (entry.showing expression).expression = expression := rfl

@[simp] theorem inverse_showing (entry : Entry) (expression : Text) :
    (entry.showing expression).inverse = entry.inverse := rfl

@[simp] theorem lastCause_showing (entry : Entry) (expression : Text) :
    (entry.showing expression).lastCause = entry.lastCause := rfl

@[simp] theorem expression_failing (entry : Entry) (cause : Cause) :
    (entry.failing cause).expression = Display.errorText := rfl

@[simp] theorem inverse_failing (entry : Entry) (cause : Cause) :
    (entry.failing cause).inverse = entry.inverse := rfl

@[simp] theorem lastCause_failing (entry : Entry) (cause : Cause) :
    (entry.failing cause).lastCause = some cause := rfl

@[simp] theorem inverse_settle (entry : Entry) (outcome : Except Cause Text) :
    (entry.settle outcome).inverse = entry.inverse := by
  cases outcome <;> rfl

@[simp] theorem expression_forget (entry : Entry) :
    entry.forget.expression = entry.expression := rfl

@[simp] theorem inverse_forget (entry : Entry) : entry.forget.inverse = entry.inverse := rfl

@[simp] theorem lastCause_forget (entry : Entry) : entry.forget.lastCause = none := rfl

/-! ## Keys -/

/-- Types a symbol. -/
def typeSymbol (entry : Entry) (symbol : Text) : Entry :=
  entry.showing (afterSymbol entry.expression symbol)

/-- Opens an operation in the expression. -/
def openOperation (entry : Entry) (operation : Operation) : Entry :=
  entry.showing (afterInsertion entry.expression operation.opening)

/-- Applies a function to an expression that is a number, and else opens it. -/
def applyOrOpen (entry : Entry) (operation : Operation)
    (compute : Float → Except Cause Float) : Entry :=
  match immediate? operation entry.expression with
  | some x => entry.settle (outcome (compute x))
  | none => entry.openOperation operation

/-- The operation that a scientific key stands for in the present mode. -/
def effective (entry : Entry) (operation : Operation) : Operation :=
  if entry.inverse then operation.inverted else operation

/-- Carries out a scientific operation. -/
def operate (entry : Entry) (operation : Operation) : Entry :=
  match entry.effective operation with
  | .factorial => entry.settle (factorialOf entry.expression)
  | .reciprocal => entry.applyOrOpen .reciprocal reciprocal
  | .function f => entry.applyOrOpen (.function f) f.apply
  | .other identifier => entry.openOperation (.other identifier)

/-- Switches the inverse mode. -/
def invert (entry : Entry) : Entry := { entry with inverse := !entry.inverse }

/-- Calculates the expression. -/
def equals (entry : Entry) : Entry :=
  if isIdle entry.expression then entry else entry.settle (valueOf entry.expression)

/-- The expression without its last character.  Nothing is left of the error
text or of a single character. -/
def afterDeletion (expression : Text) : Text :=
  if expression = Display.errorText ∨ expression.length ≤ 1 then placeholder
  else expression.dropLast

/-- Clears all or the last character. -/
def clear (entry : Entry) : Clearing → Entry
  | .all => { entry with expression := placeholder, inverse := false }
  | .last => entry.showing (afterDeletion entry.expression)

/-- The effect of a key. -/
def apply (entry : Entry) : Key → Entry
  | .symbol text => entry.typeSymbol text
  | .operation operation => entry.operate operation
  | .invert => entry.invert
  | .equals => entry.equals
  | .clear clearing => entry.clear clearing

/-- Presses a key: the last failure is forgotten, and the key takes effect. -/
def press (entry : Entry) (key : Key) : Entry := entry.forget.apply key

/-- Presses keys one after the other. -/
def pressAll (entry : Entry) (keys : List Key) : Entry := keys.foldl press entry

@[simp] theorem pressAll_nil (entry : Entry) : entry.pressAll [] = entry := rfl

@[simp] theorem pressAll_cons (entry : Entry) (key : Key) (keys : List Key) :
    entry.pressAll (key :: keys) = (entry.press key).pressAll keys := rfl

theorem pressAll_append (entry : Entry) (keys more : List Key) :
    entry.pressAll (keys ++ more) = (entry.pressAll keys).pressAll more :=
  List.foldl_append

end Entry

end PocketCalculator
