import PocketCalculator.Expression.Literal
import PocketCalculator.ScalarFunction

/-!
# What an expression can mean

Reading an expression combines the meanings of its parts.  A meaning is given
by one operation for each construct, so that the same reading yields a number
or a syntax tree.

Main definitions:

- {lit}`Operator` lists the five operators that chain from left to right.
- {lit}`Meaning` is one operation for each construct.
- {lit}`Meaning.number` computes with doubles.
-/

namespace PocketCalculator

/-! ## Operators -/

/-- An operator that chains from left to right. -/
inductive Operator where
  | add
  | sub
  | mul
  | div
  | rem
deriving DecidableEq, Repr

namespace Operator

/-- The character of an operator. -/
def symbol : Operator → Char
  | add => '+'
  | sub => '-'
  | mul => '*'
  | div => '/'
  | rem => '%'

/-- The operators that bind less tightly. -/
def additive? (c : Char) : Option Operator :=
  if c = '+' then some add else if c = '-' then some sub else none

/-- The operators that bind more tightly. -/
def multiplicative? (c : Char) : Option Operator :=
  if c = '*' then some mul
  else if c = '/' then some div
  else if c = '%' then some rem
  else none

/-- The result of an operator on doubles.  Division by zero gives an infinity
or no number, and the remainder has the sign of its dividend. -/
def apply : Operator → Float → Float → Float
  | add, x, y => x + y
  | sub, x, y => x - y
  | mul, x, y => x * y
  | div, x, y => x / y
  | rem, x, y => remainder x y

end Operator

/-! ## Meanings -/

/-- One operation for each construct of an expression.  Only a call can fail. -/
structure Meaning (α : Type) where
  literal : Literal → α
  plus : α → α
  minus : α → α
  binary : Operator → α → α → α
  power : α → α → α
  call : Text → α → Except Cause α

namespace Meaning

/-- The value of a call: the name has to belong to a function, and the argument
to its domain. -/
def callNumber (name : Text) (x : Float) : Except Cause Float :=
  match ScalarFunction.ofName? name with
  | none => .error (.unknownFunction name)
  | some f => f.apply x

/-- Computing with doubles. -/
def number : Meaning Float where
  literal := Literal.value
  plus x := x
  minus x := -x
  binary := Operator.apply
  power := Float.pow
  call := callNumber

end Meaning

end PocketCalculator
