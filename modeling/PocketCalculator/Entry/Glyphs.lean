import PocketCalculator.Text

/-!
# Glyphs of the screen

The screen writes multiplication, division, squares and square roots with
glyphs of their own.  Before an expression is read they give way to the
characters that the reader knows.

Main definitions:

- {lit}`withoutGlyphs` is the expression to be read.

Main results:

- {lit}`withoutGlyphs_of_none`: an expression without glyphs is read as it is.
-/

namespace PocketCalculator

/-- Replaces the glyphs of an expression.  A root sign that opens no parenthesis
stays as it is. -/
def withoutGlyphs : Text → Text
  | [] => []
  | '√' :: '(' :: text => "sqrt(".toList ++ withoutGlyphs text
  | c :: text =>
    if c = '×' then '*' :: withoutGlyphs text
    else if c = '÷' then '/' :: withoutGlyphs text
    else if c = '²' then '^' :: '2' :: withoutGlyphs text
    else c :: withoutGlyphs text

/-- The characters that can change when an expression is read. -/
def isGlyph (c : Char) : Bool := c == '×' || c == '÷' || c == '²' || c == '√'

/-- An expression without glyphs is read as it is. -/
theorem withoutGlyphs_of_none {text : Text} (none : ∀ c ∈ text, isGlyph c = false) :
    withoutGlyphs text = text := by
  induction text with
  | nil => rfl
  | cons c text ih =>
    have plain : isGlyph c = false := none c (by simp)
    have rest : withoutGlyphs text = text := ih fun d h => none d (by simp [h])
    simp only [isGlyph, Bool.or_eq_false_iff, beq_eq_false_iff_ne] at plain
    unfold withoutGlyphs
    split
    · simp_all
    · simp_all
    · simp_all

end PocketCalculator
