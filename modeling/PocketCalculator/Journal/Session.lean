import PocketCalculator.Entry.State
import PocketCalculator.Journal.Directive
import PocketCalculator.Journal.Record

/-!
# The journal of a session

A session is the calculator together with what it has written.  Every key writes a record
of itself before it takes effect.  A calculation that fails writes a record while its
expression is still there, and the key writes a last one when a failure is remembered at
its end.

Main definitions:

- {lit}`Session` is the calculator with its journal, and {lit}`Session.start` a new one.
- {lit}`Session.apply` is the effect of a key, with the records of failures.
- {lit}`Session.press` presses a key, and {lit}`Session.reset` clears everything.
- {lit}`Session.performAll` does one {lit}`Action` after the other.
- {lit}`Session.lines` are the lines that a filter shows; {lit}`sessionLog` and
  {lit}`startLog` are those of a sequence of keys and of the program's start.
-/

namespace PocketCalculator

/-- The calculator and what it has written. -/
structure Session where
  entry : Entry
  /-- The records, the oldest one first. -/
  journal : List Record
deriving DecidableEq, Repr

namespace Session

/-- A new calculator, which has written nothing. -/
def start : Session := ⟨Entry.new, []⟩

/-! ## Steps -/

/-- Writes a record. -/
def write (session : Session) (record : Record) : Session :=
  { session with journal := session.journal ++ [record] }

/-- Changes the calculator and writes nothing. -/
def becoming (session : Session) (entry : Entry) : Session := { session with entry := entry }

/-- Writes the failure of the present expression, then shows the error text. -/
def failing (session : Session) (cause : Cause) : Session :=
  (session.write (.failed session.entry.expression cause)).becoming
    (session.entry.failing cause)

/-- Shows the text of a calculation or its failure. -/
def settle (session : Session) : Except Cause Text → Session
  | .ok text => session.becoming (session.entry.showing text)
  | .error cause => session.failing cause

@[simp] theorem entry_write (session : Session) (record : Record) :
    (session.write record).entry = session.entry := rfl

@[simp] theorem journal_write (session : Session) (record : Record) :
    (session.write record).journal = session.journal ++ [record] := rfl

@[simp] theorem entry_becoming (session : Session) (entry : Entry) :
    (session.becoming entry).entry = entry := rfl

@[simp] theorem journal_becoming (session : Session) (entry : Entry) :
    (session.becoming entry).journal = session.journal := rfl

@[simp] theorem entry_failing (session : Session) (cause : Cause) :
    (session.failing cause).entry = session.entry.failing cause := rfl

@[simp] theorem journal_failing (session : Session) (cause : Cause) :
    (session.failing cause).journal =
      session.journal ++ [.failed session.entry.expression cause] := rfl

/-- Applies a function to an expression that is a number, and else opens it. -/
def applyOrOpen (session : Session) (operation : Operation)
    (compute : Float → Except Cause Float) : Session :=
  match immediate? operation session.entry.expression with
  | some x => session.settle (outcome (compute x))
  | none => session.becoming (session.entry.openOperation operation)

/-- Carries out a scientific operation. -/
def operate (session : Session) (operation : Operation) : Session :=
  match session.entry.effective operation with
  | .factorial => session.settle (factorialOf session.entry.expression)
  | .reciprocal => session.applyOrOpen .reciprocal reciprocal
  | .function f => session.applyOrOpen (.function f) f.apply
  | .other identifier => session.becoming (session.entry.openOperation (.other identifier))

/-- Calculates the expression. -/
def equals (session : Session) : Session :=
  if isIdle session.entry.expression then session
  else session.settle (valueOf session.entry.expression)

/-- The effect of a key. -/
def apply (session : Session) : Key → Session
  | .symbol text => session.becoming (session.entry.typeSymbol text)
  | .operation operation => session.operate operation
  | .invert => session.becoming session.entry.invert
  | .equals => session.equals
  | .clear clearing => session.becoming (session.entry.clear clearing)

/-- Writes the cause that the calculator remembers, if there is one. -/
def writeCause (session : Session) : Session :=
  match session.entry.lastCause with
  | none => session
  | some cause => session.write (.shown cause)

/-- Presses a key: it is written, the last failure is forgotten, the key takes effect, and
a new failure is written. -/
def press (session : Session) (key : Key) : Session :=
  (((session.write (.pressed key session.entry.expression)).becoming
    session.entry.forget).apply key).writeCause

/-- Clears everything, as a key. -/
def reset (session : Session) : Session := session.press (.clear .all)

end Session

/-! ## Runs -/

/-- What can be done to a session. -/
inductive Action where
  | press (key : Key)
  | reset
deriving DecidableEq, Repr

/-- The key that an action presses. -/
def Action.key : Action → Key
  | press key => key
  | reset => .clear .all

namespace Session

/-- Does one thing to a session. -/
def perform (session : Session) : Action → Session
  | .press key => session.press key
  | .reset => session.reset

/-- Does one thing after the other. -/
def performAll (session : Session) (actions : List Action) : Session :=
  actions.foldl perform session

@[simp] theorem performAll_nil (session : Session) : session.performAll [] = session := rfl

/-- The lines of the journal that a filter shows. -/
def lines (filter : Filter) (session : Session) : List Text :=
  (filter.select session.journal).map Record.line

end Session

/-- The lines that a sequence of keys writes under a filter. -/
def sessionLog (filter : Filter) (keys : List Key) : List Text :=
  (Session.start.performAll (keys.map .press)).lines filter

/-- The lines that the start of the program writes under a filter. -/
def startLog (filter : Filter) : List Text :=
  (filter.select [Record.started]).map Record.line

end PocketCalculator
