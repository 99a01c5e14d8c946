import PocketCalculator.ScalarFunction

/-!
# Keys

What can be pressed: symbols, scientific operations, the switch of the inverse
mode, equals, and the two ways to clear.

Main definitions:

- {lit}`Operation.ofIdentifier` and {lit}`Operation.identifier` connect scientific
  operations and their identifiers.
- {lit}`Operation.inverted` is the operation of the inverse mode.
- {lit}`Operation.opening` is the text that opens an operation in an expression.
- {lit}`Key` lists the keys.

Main results:

- {lit}`Operation.identifier_ofIdentifier`: no identifier is lost.
- {lit}`Operation.inverted_eq_self_iff`: the inverse mode changes sine, cosine and
  tangent, and nothing else.
-/

namespace PocketCalculator

/-! ## Scientific operations -/

/-- A scientific operation. -/
inductive Operation where
  | factorial
  | reciprocal
  | function (f : ScalarFunction)
  /-- An identifier without an operation of its own. -/
  | other (identifier : Text)
deriving DecidableEq, Repr

namespace Operation

/-- The operation of an identifier. -/
def ofIdentifier (identifier : Text) : Operation :=
  if identifier = "fact".toList then factorial
  else if identifier = "inv".toList then reciprocal
  else match ScalarFunction.ofName? identifier with
    | some f => function f
    | none => other identifier

/-- The identifier of an operation. -/
def identifier : Operation → Text
  | factorial => "fact".toList
  | reciprocal => "inv".toList
  | function f => f.name
  | other identifier => identifier

/-- No identifier is lost. -/
@[simp] theorem identifier_ofIdentifier (identifier : Text) :
    (ofIdentifier identifier).identifier = identifier := by
  unfold ofIdentifier
  split
  · next same => exact same.symm
  split
  · next same => exact same.symm
  split
  · next found => exact ScalarFunction.name_of_ofName? found
  · rfl

/-- A function is the operation of its name. -/
@[simp] theorem ofIdentifier_name (f : ScalarFunction) :
    ofIdentifier f.name = function f := by
  cases f <;> decide

/-- The operation of the inverse mode. -/
def inverted : Operation → Operation
  | function .sin => function .asin
  | function .cos => function .acos
  | function .tan => function .atan
  | operation => operation

/-- The inverse mode changes sine, cosine and tangent, and nothing else. -/
theorem inverted_eq_self_iff (operation : Operation) :
    operation.inverted = operation ↔
      operation ≠ function .sin ∧ operation ≠ function .cos ∧ operation ≠ function .tan := by
  cases operation with
  | function f => cases f <;> simp [inverted]
  | _ => simp [inverted]

/-- The text that opens an operation in an expression, up to its parenthesis. -/
def opening : Operation → Text
  | reciprocal => "1/(".toList
  | operation => operation.identifier ++ ['(']

end Operation

/-! ## Keys -/

/-- How much a clearing key clears. -/
inductive Clearing where
  /-- The expression and the inverse mode. -/
  | all
  /-- The last character. -/
  | last
deriving DecidableEq, Repr

/-- A key of the calculator. -/
inductive Key where
  | symbol (text : Text)
  | operation (op : Operation)
  | invert
  | equals
  | clear (clearing : Clearing)
deriving DecidableEq, Repr

end PocketCalculator
