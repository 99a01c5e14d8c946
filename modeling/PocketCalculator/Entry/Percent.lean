import PocketCalculator.Display.Screen
import PocketCalculator.Expression.Token

/-!
# Percentages

The percent key divides the last number of an expression by a hundred.  The
last number is the last run of digits and dots, and whatever follows it goes
away with it.

Main definitions:

- {lit}`splitAtLastRun` finds the last run.
- {lit}`percent` is the expression after the key.

Main results:

- {lit}`splitAtLastRun_append`: the three parts make up the expression.
- {lit}`boundary_splitAtLastRun`: the last run is whole.
- {lit}`splitAtLastRun_eq`: the last run is told by its surroundings.
-/

namespace PocketCalculator

/-- What stands before the last run of digits and dots, the run, and what stands
after it.  Without any such run all of the text stands after it. -/
def splitAtLastRun (text : Text) : Text × Text × Text :=
  let after := text.reverse.takeWhile (!isRunCharacter ·)
  let rest := text.reverse.dropWhile (!isRunCharacter ·)
  let run := rest.takeWhile isRunCharacter
  let before := rest.dropWhile isRunCharacter
  (before.reverse, run.reverse, after.reverse)

/-- The three parts make up the text. -/
theorem splitAtLastRun_append (text : Text) :
    (splitAtLastRun text).1 ++ (splitAtLastRun text).2.1 ++ (splitAtLastRun text).2.2 = text := by
  simp only [splitAtLastRun, ← List.reverse_append]
  simp

/-- The last run is whole: no digit and no dot stands directly in front of it. -/
theorem boundary_splitAtLastRun {text : Text} {c : Char}
    (h : (splitAtLastRun text).1.getLast? = some c) : isRunCharacter c = false := by
  have hboundary := List.head?_dropWhile_not isRunCharacter
    (text.reverse.dropWhile (!isRunCharacter ·))
  simp only [splitAtLastRun, List.getLast?_reverse] at h
  rw [h] at hboundary
  exact hboundary

/-- A run is the last one when no other stands after it and it cannot be
extended to the front. -/
theorem splitAtLastRun_eq {before run after : Text} (nonempty : run ≠ [])
    (inside : ∀ c ∈ run, isRunCharacter c = true)
    (outside : ∀ c ∈ after, isRunCharacter c = false)
    (maximal : ∀ c, before.getLast? = some c → isRunCharacter c = false) :
    splitAtLastRun (before ++ run ++ after) = (before, run, after) := by
  have outside' : ∀ c ∈ after.reverse, (!isRunCharacter c) = true := by simpa using outside
  have inside' : ∀ c ∈ run.reverse, isRunCharacter c = true := by simpa using inside
  have runStarts : ∀ c, (run.reverse ++ before.reverse).head? = some c →
      (!isRunCharacter c) = false := by
    intro c first
    cases h : run.reverse with
    | nil => simp_all
    | cons d more =>
      obtain rfl : d = c := by simpa [h] using first
      simp [inside' d (by simp [h])]
  have beforeStarts : ∀ c, before.reverse.head? = some c → isRunCharacter c = false := by
    intro c first
    exact maximal c (by simpa using first)
  have text : (before ++ run ++ after).reverse =
      after.reverse ++ (run.reverse ++ before.reverse) := by simp
  simp only [splitAtLastRun, text,
    Text.takeWhile_append_of_boundary outside' runStarts,
    Text.dropWhile_append_of_boundary outside' runStarts,
    Text.takeWhile_append_of_boundary inside' beforeStarts,
    Text.dropWhile_append_of_boundary inside' beforeStarts]
  simp

/-- The expression after the percent key: the last number divided by a hundred,
or the percent sign itself when there is no last number. -/
def percent (expression : Text) : Text :=
  let (before, run, _) := splitAtLastRun expression
  match Decimal.ofPlain? run with
  | some decimal => before ++ Display.ofFloat (decimal.toFloat / 100)
  | none => expression ++ ['%']

end PocketCalculator
