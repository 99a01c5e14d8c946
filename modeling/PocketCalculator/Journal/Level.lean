import PocketCalculator.Number.Decimal

/-!
# Levels of the journal

A record of the journal has a level, and a filter shows the records up to a
level.

Main definitions:

- {lit}`Level` lists the levels; {lit}`Level.off` is for filters only.
- {lit}`Level.read?` reads a level by name or number.
- {lit}`Level.shows` compares the level of a filter with that of a record.
-/

namespace PocketCalculator

/-- A level, from the one that shows nothing to the one that shows everything. -/
inductive Level where
  | off
  | error
  | warn
  | info
  | debug
  | trace
deriving DecidableEq, Repr

namespace Level

/-- All levels in increasing order. -/
def all : List Level := [off, error, warn, info, debug, trace]

/-- The place of a level in the order. -/
def rank : Level → Nat
  | off => 0
  | error => 1
  | warn => 2
  | info => 3
  | debug => 4
  | trace => 5

/-- The name of a level. -/
def name : Level → Text
  | off => "OFF".toList
  | error => "ERROR".toList
  | warn => "WARN".toList
  | info => "INFO".toList
  | debug => "DEBUG".toList
  | trace => "TRACE".toList

/-- Reads a level: a name in any letter case, or the number of its rank. -/
def read? (text : Text) : Option Level :=
  if !text.isEmpty && text.all isDigit then
    all.find? (·.rank == Nat.ofDigitChars 10 text 0)
  else all.find? (·.name == text.map Char.toUpper)

/-- Whether a filter of a level shows the records of another. -/
def shows (filter record : Level) : Bool := record.rank ≤ filter.rank

/-- The name of a level reads as the level. -/
@[simp] theorem read?_name (level : Level) : read? level.name = some level := by
  cases level <;> decide

end Level

end PocketCalculator
