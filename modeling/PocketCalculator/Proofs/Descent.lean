import PocketCalculator.Expression.Tree

/-!
# Reading with a cursor

An expression can be read without cutting its text into tokens first: a cursor goes through
the text one character at a time, and each construct of the grammar is a program that moves
it.  Every move is recorded, together with what is cut out of the text, what has been read,
and where an exponent or a missing parenthesis is met.

The loops of a descent are given a number of rounds, and so are the calls of factors inside
factors.  A loop that does not end within them has no outcome, and neither has the descent.
So a descent with an outcome is one all of whose loops and calls end.

Main definitions:

- {lit}`Cursor` is a place in a text with the character that comes next.
- {lit}`Moment` is a recorded event with the cursor it happened at.
- {lit}`Descent` is the type of programs that move a cursor.
- {lit}`Descent.skipUpTo` and {lit}`Descent.continueUpTo` are the loops.
- {lit}`Descent.enter` and {lit}`Descent.leaving` count the factors that are open.
- {lit}`Descent.chain` reads sums and products, {lit}`Descent.factor` reads factors.
- {lit}`descend` reads a whole text and keeps the record.
-/

namespace PocketCalculator

/-! ## Cursors -/

/-- A place in a text: how many characters have been passed, and the character that comes
next. -/
structure Cursor where
  text : Text
  position : Nat
  current : Option Char
deriving DecidableEq, Repr

namespace Cursor

/-- The cursor in front of a text. -/
def start (text : Text) : Cursor := ⟨text, 0, text.head?⟩

/-- The cursor one character further, or where it is if nothing is left. -/
def next (cursor : Cursor) : Cursor :=
  let position :=
    if cursor.position < cursor.text.length then cursor.position + 1 else cursor.position
  { cursor with position, current := cursor.text[position]? }

/-- The text that has not been passed. -/
def ahead (cursor : Cursor) : Text := cursor.text.drop cursor.position

/-- The text between a position and the cursor. -/
def since (cursor : Cursor) (start : Nat) : Text := (cursor.text.take cursor.position).drop start

end Cursor

/-! ## What is recorded -/

/-- The levels of the grammar on which operands are chained. -/
inductive ChainLevel where
  | sum
  | product
deriving DecidableEq, Repr

namespace ChainLevel

/-- The operators of a level, in the order in which they are looked for. -/
def operators : ChainLevel → List Operator
  | sum => [.add, .sub]
  | product => [.mul, .div, .rem]

/-- How tightly a level binds. -/
def binding : ChainLevel → Expr.Binding
  | sum => .sum
  | product => .product

end ChainLevel

/-- What a base is made of. -/
inductive BaseKind where
  | parenthesis
  | number
  | call
deriving DecidableEq, Repr

/-- What happens in a descent. -/
inductive Event where
  /-- The cursor was put in front of the text. -/
  | started
  /-- The cursor was moved to the next character. -/
  | moved
  /-- The text from a position to the cursor was cut out. -/
  | cut (start : Nat)
  /-- The text behind the cursor was looked at. -/
  | looked
  /-- A sum, a product or a factor that begins at a position has been read. -/
  | read (piece : Expr.Binding) (start : Nat)
  /-- The caret behind a base was taken. -/
  | raised (base : BaseKind)
  /-- The closing parenthesis of a sum was not there. -/
  | leftOpen
deriving DecidableEq, Repr

/-- An event, with the cursor as the event left it. -/
structure Moment where
  cursor : Cursor
  event : Event
deriving DecidableEq, Repr

/-! ## Programs -/

namespace Descent

/-- The cursor of a descent, how many factors are open, and what has been recorded up to
now. -/
structure State where
  cursor : Cursor
  openFactors : Nat
  trace : List Moment
deriving DecidableEq, Repr

namespace State

/-- The state in which a descent begins. -/
def start (text : Text) : State := ⟨.start text, 0, [⟨.start text, .started⟩]⟩

/-- Records an event. -/
def noting (s : State) (event : Event) : State :=
  { s with trace := s.trace ++ [⟨s.cursor, event⟩] }

/-- Moves the cursor. -/
def moved (s : State) : State := noting { s with cursor := s.cursor.next } .moved

/-- One more factor is open. -/
def entered (s : State) : State := { s with openFactors := s.openFactors + 1 }

/-- One factor less is open. -/
def left (s : State) : State := { s with openFactors := s.openFactors - 1 }

end State

end Descent

/-- A program that moves a cursor.  It gives a value or fails with a cause, or a loop of it
does not end.  A failure keeps what has been recorded. -/
abbrev Descent := ExceptT Cause (StateT Descent.State Option)

namespace Descent

/-- The cursor where it is. -/
def cursor : Descent Cursor := return (← get).cursor

/-- Records an event. -/
def note (event : Event) : Descent Unit := modify (·.noting event)

/-- Moves the cursor. -/
def advance : Descent Unit := modify State.moved

/-- A loop whose rounds are used up. -/
def unended {α : Type} : Descent α := ExceptT.mk fun _ => none

/-- Opens a factor, unless as many are open as may be. -/
def enter (limit : Nat) : Descent Unit := do
  if limit ≤ (← get).openFactors then throw (.tooDeeplyNested limit) else modify State.entered

/-- Carries out a program and closes a factor, whether the program succeeds or fails. -/
def leaving {α : Type} (program : Descent α) : Descent α := ExceptT.mk do
  let outcome ← program.run
  modify State.left
  return outcome

/-- Gives a value or fails with a cause. -/
def settle {α : Type} : Except Cause α → Descent α
  | .ok x => return x
  | .error cause => throw cause

/-- Moves the cursor over the characters of a class. -/
def skipUpTo (p : Char → Bool) : Nat → Descent Unit
  | 0 => unended
  | rounds + 1 => do
    if (← cursor).current.any p then
      advance
      skipUpTo p rounds
    else return ()

section

variable (rounds : Nat)

/-- Skips spaces and then takes a character if it is next. -/
def eat (c : Char) : Descent Bool := do
  skipUpTo (· == ' ') rounds
  if (← cursor).current = some c then
    advance
    return true
  else return false

/-- Takes the first operator of a list that is next. -/
def eatOperator : List Operator → Descent (Option Operator)
  | [] => return none
  | operator :: others => do
    if ← eat rounds operator.symbol then return some operator else eatOperator others

/-- Takes a closing parenthesis if it is next. -/
def close : Descent Unit := do
  if ← eat rounds ')' then return () else note .leftOpen

/-- Cuts out the text between a position and the cursor. -/
def cut (start : Nat) : Descent Text := do
  note (.cut start)
  return (← cursor).since start

/-- Reads the name that begins at a position. -/
def nameFrom (start : Nat) : Descent Text := do
  skipUpTo isSmallLetter rounds
  let letters ← cut start
  if letters = "log".toList then
    note .looked
    if "10".toList <+: (← cursor).ahead then
      advance
      advance
      return letters ++ "10".toList
    else return letters
  else return letters

variable {α : Type} (meaning : Meaning α)

/-- Reads the number that begins at a position. -/
def numberFrom (start : Nat) : Descent α := do
  skipUpTo isRunCharacter rounds
  let run ← cut start
  match Literal.ofRun? run with
  | some literal => return meaning.literal literal
  | none => throw (.malformedNumber run)

/-- Joins a value with each operator of a level and each operand after it. -/
def continueUpTo (level : ChainLevel) (operand : Descent α) : Nat → α → Descent α
  | 0, _ => unended
  | left + 1, x => do
    match ← eatOperator rounds level.operators with
    | some operator =>
      let y ← operand
      continueUpTo level operand left (meaning.binary operator x y)
    | none => return x

/-- Reads operands joined by the operators of a level. -/
def chain (level : ChainLevel) (operand : Descent α) : Descent α := do
  let start := (← cursor).position
  let first ← operand
  let x ← continueUpTo rounds meaning level operand rounds first
  note (.read level.binding start)
  return x

/-- Reads a sum of products. -/
def sum (factor : Descent α) : Descent α :=
  chain rounds meaning .sum (chain rounds meaning .product factor)

/-- Reads the base of a power, the factors inside it with another program. -/
def base (factor : Descent α) : Descent (α × BaseKind) := do
  let start := (← cursor).position
  if ← eat rounds '(' then
    let x ← sum rounds meaning factor
    close rounds
    return (x, .parenthesis)
  else if (← cursor).current.any isRunCharacter then
    let x ← numberFrom rounds meaning start
    return (x, .number)
  else if (← cursor).current.any isSmallLetter then
    let name ← nameFrom rounds start
    let argument ← factor
    let x ← settle (meaning.call name argument)
    return (x, .call)
  else throw (.unexpected (← cursor).current)

/-- Reads the exponent of a base, if there is one. -/
def raise (factor : Descent α) (x : α) (kind : BaseKind) : Descent α := do
  if ← eat rounds '^' then
    note (.raised kind)
    let y ← factor
    return meaning.power x y
  else return x

/-- Reads a factor that has been opened. -/
def opened (factor : Descent α) : Descent α := do
  if ← eat rounds '+' then
    let x ← factor
    return meaning.plus x
  else if ← eat rounds '-' then
    let x ← factor
    return meaning.minus x
  else
    let (x, kind) ← base rounds meaning factor
    raise rounds meaning factor x kind

/-- Reads a factor, with a number of rounds for the factors inside it. -/
def factor (limit : Nat) : Nat → Descent α
  | 0 => unended
  | left + 1 => do
    let start := (← cursor).position
    enter limit
    let x ← leaving (opened rounds meaning (factor limit left))
    note (.read .factor start)
    return x

/-- Reads a sum that nothing follows. -/
def whole (limit : Nat) : Descent α := do
  let x ← sum rounds meaning (factor rounds meaning limit rounds)
  let cursor ← cursor
  if cursor.position < cursor.text.length then throw (.unexpected cursor.current)
  else return x

end

end Descent

/-- Reads a text as one expression with at most {lit}`limit` factors open at once and
{lit}`rounds` rounds for each loop and for calls inside calls, and keeps the record. -/
def descend {α : Type} (meaning : Meaning α) (limit rounds : Nat) (text : Text) :
    Option (Except Cause α × Descent.State) :=
  (Descent.whole rounds meaning limit).run.run (.start text)

end PocketCalculator
