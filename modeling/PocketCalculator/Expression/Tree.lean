import PocketCalculator.Expression.Reader

/-!
# Expression trees

A tree has one node for each construct of an expression.  It has a meaning from
left to right, and it is printed with parentheses where the grammar asks for
them and nowhere else.

Main definitions:

- {lit}`Expr` is the type of trees.
- {lit}`Expr.denote` gives a tree the meaning of its parts, from left to right.
- {lit}`Expr.tokens` prints a tree.
- {lit}`Expr.openFactors` counts the factors open at once while the printed tree is
  read.
- {lit}`Meaning.tree` reads an expression as a tree.
-/

namespace PocketCalculator

/-- A tree of an expression. -/
inductive Expr where
  | literal (literal : Literal)
  | plus (operand : Expr)
  | minus (operand : Expr)
  | binary (operator : Operator) (left right : Expr)
  | power (base exponent : Expr)
  | call (name : Text) (argument : Expr)
deriving DecidableEq

namespace Expr

/-! ## Meaning -/

/-- The meaning of a tree.  Parts are taken from left to right, and the first
failure is the failure of the tree. -/
def denote {α : Type} (meaning : Meaning α) : Expr → Except Cause α
  | literal l => .ok (meaning.literal l)
  | plus e =>
    match e.denote meaning with
    | .error cause => .error cause
    | .ok x => .ok (meaning.plus x)
  | minus e =>
    match e.denote meaning with
    | .error cause => .error cause
    | .ok x => .ok (meaning.minus x)
  | binary operator left right =>
    match left.denote meaning with
    | .error cause => .error cause
    | .ok x =>
      match right.denote meaning with
      | .error cause => .error cause
      | .ok y => .ok (meaning.binary operator x y)
  | power base exponent =>
    match base.denote meaning with
    | .error cause => .error cause
    | .ok x =>
      match exponent.denote meaning with
      | .error cause => .error cause
      | .ok y => .ok (meaning.power x y)
  | call name argument =>
    match argument.denote meaning with
    | .error cause => .error cause
    | .ok x => meaning.call name x

/-! ## Printing -/

/-- How tightly a construct binds, from a sum to a base. -/
inductive Binding where
  | sum
  | product
  | factor
  | base
deriving DecidableEq, Repr

namespace Binding

/-- The order of the bindings, the loosest first. -/
def rank : Binding → Nat
  | sum => 0
  | product => 1
  | factor => 2
  | base => 3

end Binding

/-- How tightly an operator binds. -/
def operatorBinding : Operator → Binding
  | .add => .sum
  | .sub => .sum
  | .mul => .product
  | .div => .product
  | .rem => .product

/-- The binding that the right operand of an operator needs at least. -/
def rightBinding : Operator → Binding
  | .add => .product
  | .sub => .product
  | .mul => .factor
  | .div => .factor
  | .rem => .factor

/-- How tightly a tree binds. -/
def binding : Expr → Binding
  | literal _ => .base
  | plus _ => .factor
  | minus _ => .factor
  | binary operator _ _ => operatorBinding operator
  | power _ _ => .factor
  | call _ _ => .factor

/-- Whether a tree needs parentheses where a binding is asked for. -/
def needsParentheses (least : Binding) (e : Expr) : Bool := e.binding.rank < least.rank

/-- Puts parentheses around tokens. -/
def parenthesized (tokens : List Token) : List Token :=
  .mark '(' :: tokens ++ [.mark ')']

/-- The tokens of a printed tree.  A sign and a call bind one factor, and so
does an exponent; a base is a number or stands in parentheses. -/
def tokens : Expr → List Token
  | literal l => [.number l.run]
  | plus e => .mark '+' :: inside .factor e e.tokens
  | minus e => .mark '-' :: inside .factor e e.tokens
  | binary operator left right =>
    inside (operatorBinding operator) left left.tokens ++
      .mark operator.symbol :: inside (rightBinding operator) right right.tokens
  | power base exponent =>
    inside .base base base.tokens ++ .mark '^' :: inside .factor exponent exponent.tokens
  | call name argument => .name name :: inside .factor argument argument.tokens
where
  /-- The tokens of a part, in parentheses if it needs them. -/
  inside (least : Binding) (e : Expr) (printed : List Token) : List Token :=
    if e.needsParentheses least then parenthesized printed else printed

/-! ## Nesting -/

/-- How many factors are open at once while the printed tree is read. -/
def openFactors : Expr → Nat
  | literal _ => 1
  | plus e => inside .factor e e.openFactors + 1
  | minus e => inside .factor e e.openFactors + 1
  | binary operator left right =>
    max (inside (operatorBinding operator) left left.openFactors)
      (inside (rightBinding operator) right right.openFactors)
  | power base exponent =>
    max (inside .base base base.openFactors) (inside .factor exponent exponent.openFactors + 1)
  | call _ argument => inside .factor argument argument.openFactors + 1
where
  /-- The count of a part; parentheses are a factor of their own. -/
  inside (least : Binding) (e : Expr) (count : Nat) : Nat :=
    if e.needsParentheses least then count + 1 else count

end Expr

/-! ## Reading -/

/-- Reading an expression as a tree.  Any name may be called. -/
def Meaning.tree : Meaning Expr where
  literal := Expr.literal
  plus := Expr.plus
  minus := Expr.minus
  binary := Expr.binary
  power := Expr.power
  call name argument := .ok (.call name argument)

end PocketCalculator
