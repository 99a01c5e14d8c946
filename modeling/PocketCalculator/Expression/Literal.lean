import PocketCalculator.Number.Decimal

/-!
# Number literals

A run of digits and dots is a literal when it reads as a number.

Main definitions:

- {lit}`Literal` pairs such a run with the numeral that it stands for.
- {lit}`Literal.ofRun?` recognises literals.

Main results:

- {lit}`Literal.ofRun?_eq_some_iff`: a run is a literal exactly when it reads as a
  numeral, and then it keeps its spelling.
-/

namespace PocketCalculator

/-- A run of digits with at most one dot and at least one digit. -/
structure Literal where
  /-- The spelling. -/
  run : Text
  /-- The numeral that the spelling stands for. -/
  decimal : Decimal
  reads : Decimal.ofPlain? run = some decimal
deriving DecidableEq

namespace Literal

/-- The double nearest to a literal. -/
def value (literal : Literal) : Float := literal.decimal.toFloat

/-- Recognises the runs that are literals. -/
def ofRun? (run : Text) : Option Literal :=
  match reads : Decimal.ofPlain? run with
  | none => none
  | some decimal => some ⟨run, decimal, reads⟩

/-- A literal is recognised by its spelling. -/
@[simp] theorem ofRun?_run (literal : Literal) : ofRun? literal.run = some literal := by
  obtain ⟨run, decimal, reads⟩ := literal
  unfold ofRun?
  split
  · next unread => simp [reads] at unread
  · next other read =>
    obtain rfl : decimal = other := by simpa [reads] using read
    rfl

/-- A recognised run keeps its spelling. -/
theorem run_of_ofRun? {run : Text} {literal : Literal} (h : ofRun? run = some literal) :
    literal.run = run := by
  unfold ofRun? at h
  split at h
  · simp at h
  · obtain rfl := Option.some.inj h
    rfl

/-- Recognition and spelling are inverse to each other. -/
theorem ofRun?_eq_some_iff {run : Text} {literal : Literal} :
    ofRun? run = some literal ↔ literal.run = run :=
  ⟨run_of_ofRun?, fun h => h ▸ ofRun?_run literal⟩

/-- A run that reads as no numeral is no literal. -/
theorem ofRun?_eq_none_iff {run : Text} :
    ofRun? run = none ↔ Decimal.ofPlain? run = none := by
  unfold ofRun?
  split <;> simp_all

end Literal

end PocketCalculator
