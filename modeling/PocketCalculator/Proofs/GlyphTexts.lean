import PocketCalculator.Entry.Glyphs
import PocketCalculator.Proofs.TextCuts

/-!
# Glyphs as they are read

Glyphs give way to characters before an expression is read, and these characters may run
together with their neighbours.  Only two of them do: the {lit}`sqrt` of a root sign with
the small letters directly in front of it, and the {lit}`2` of a square with the digits and
dots directly behind it.  Everywhere else a root sign is a token of its own, and a square is
a complete exponent, which might as well stand in parentheses.

Main definitions:

- {lit}`writtenOut` writes the glyphs of an expression out, roots and squares by their
  neighbours.
- {lit}`spelledOut` writes out what each glyph is read as.
- {lit}`glyphsAsTokens` writes every glyph out as tokens of its own, and
  {lit}`GlyphsApart` tells where this makes no difference.
- {lit}`Token.Squared` relates tokens to the same ones with squares in parentheses.

Main results:

- Theorem {lit}`squared_lex_spelledOut`: an expression without its glyphs falls into the
  tokens of what they are read as, up to parentheses around squares.
- Theorem {lit}`spelledOut_of_apart`: glyphs that stand apart are read as tokens of their
  own.
-/

namespace PocketCalculator

/-! ## Writing glyphs out -/

/-- What one character is written out as, given the text of a square by the character
after it.  Root signs are written out together with their parenthesis. -/
def writtenCharacter (square : Option Char → Text) (c : Char) (next : Option Char) : Text :=
  if c = '×' then ['*'] else if c = '÷' then ['/'] else if c = '²' then square next else [c]

/-- Writes the glyphs of an expression out, given the text of a root sign by whether a small
letter stands in front of it, and the text of a square by the character after it. -/
def writtenOut (root : Bool → Text) (square : Option Char → Text) : Bool → Text → Text
  | _, [] => []
  | afterLetter, '√' :: '(' :: text => root afterLetter ++ writtenOut root square false text
  | _, c :: text =>
    writtenCharacter square c text.head? ++ writtenOut root square (isSmallLetter c) text

/-- The root sign for the reader, whatever is in front of it. -/
def plainRoot (_ : Bool) : Text := "sqrt(".toList

/-- The square for the reader, whatever comes after it. -/
def plainSquare (_ : Option Char) : Text := "^2".toList

/-- The root sign as it is read: behind a letter its name goes on with the letters, and else
it begins there. -/
def rootAsRead (afterLetter : Bool) : Text :=
  if afterLetter then "sqrt(".toList else " sqrt(".toList

/-- The square as it is read: in front of a digit or a dot its exponent goes on with them,
and else it is complete. -/
def squareAsRead (next : Option Char) : Text :=
  if next.any isRunCharacter then "^2".toList else "^(2)".toList

/-- An expression with every glyph written out as what it is read as. -/
def spelledOut (text : Text) : Text := writtenOut rootAsRead squareAsRead false text

/-- An expression with every glyph written out as tokens of its own. -/
def glyphsAsTokens (text : Text) : Text :=
  writtenOut (fun _ => " sqrt(".toList) (fun _ => "^(2)".toList) false text

/-- A square is written out by what comes after it. -/
theorem writtenCharacter_square (square : Option Char → Text) (next : Option Char) :
    writtenCharacter square '²' next = square next := rfl

/-- A square is complete if neither a digit nor a dot comes after it. -/
theorem squareAsRead_of_complete {next : Option Char} (h : next.any isRunCharacter = false) :
    squareAsRead next = "^(2)".toList := by
  rw [squareAsRead, h]
  rfl

/-- A character other than a square is written out as one character of the same class. -/
theorem exists_writtenCharacter {c : Char} (h : c ≠ '²') :
    ∃ d, (∀ square next, writtenCharacter square c next = [d]) ∧
      isRunCharacter d = isRunCharacter c ∧ isSmallLetter d = isSmallLetter c := by
  by_cases htimes : c = '×'
  · exact ⟨'*', fun _ _ => if_pos htimes, by rw [htimes]; decide, by rw [htimes]; decide⟩
  by_cases hover : c = '÷'
  · refine ⟨'/', fun _ _ => ?_, by rw [hover]; decide, by rw [hover]; decide⟩
    rw [writtenCharacter, if_neg htimes, if_pos hover]
  · refine ⟨c, fun _ _ => ?_, rfl, rfl⟩
    rw [writtenCharacter, if_neg htimes, if_neg hover, if_neg h]

/-- Without its glyphs an expression is written out with no regard to their neighbours. -/
theorem withoutGlyphs_eq_writtenOut (afterLetter : Bool) (text : Text) :
    withoutGlyphs text = writtenOut plainRoot plainSquare afterLetter text := by
  fun_induction writtenOut plainRoot plainSquare afterLetter text with
  | case1 => rfl
  | case2 afterLetter text ih =>
    rw [withoutGlyphs, ih]
    rfl
  | case3 afterLetter c text hroot ih =>
    rw [withoutGlyphs, ← ih, writtenCharacter]
    · split
      · rfl
      split
      · rfl
      split <;> rfl
    · exact hroot

/-! ## Glyphs that stand apart -/

/-- No square stands directly in front of a digit or a dot, and no root sign that opens a
parenthesis stands directly behind a small letter. -/
structure GlyphsApart (text : Text) : Prop where
  square : ∀ c, isRunCharacter c = true → ¬ ['²', c] <:+: text
  root : ∀ c, isSmallLetter c = true → ¬ [c, '√', '('] <:+: text

/-- Glyphs that stand apart do so in the rest of a text. -/
theorem GlyphsApart.tail {c : Char} {text : Text} (h : GlyphsApart (c :: text)) :
    GlyphsApart text where
  square d hd hpart := h.square d hd (hpart.trans (List.suffix_cons c text).isInfix)
  root d hd hpart := h.root d hd (hpart.trans (List.suffix_cons c text).isInfix)

/-- Where glyphs stand apart each is read as tokens of its own. -/
theorem spelledOut_of_apart {text : Text} (h : GlyphsApart text) :
    spelledOut text = glyphsAsTokens text := by
  have hgeneral (afterLetter : Bool) (text : Text) (h : GlyphsApart text)
      (hfront : afterLetter = true → ¬ ['√', '('] <+: text) :
      writtenOut rootAsRead squareAsRead afterLetter text =
        writtenOut (fun _ => " sqrt(".toList) (fun _ => "^(2)".toList) afterLetter text := by
    fun_induction writtenOut rootAsRead squareAsRead afterLetter text with
    | case1 => rw [writtenOut]
    | case2 afterLetter text ih =>
      have hletter : afterLetter = false := by
        cases afterLetter with
        | false => rfl
        | true => exact absurd ⟨text, rfl⟩ (hfront rfl)
      rw [writtenOut, ih h.tail.tail (by simp), hletter]
      rfl
    | case3 afterLetter c text hroot ih =>
      have hrest : isSmallLetter c = true → ¬ ['√', '('] <+: text := by
        rintro hc ⟨more, rfl⟩
        exact h.root c hc ⟨[], more, rfl⟩
      have hcharacter : writtenCharacter squareAsRead c text.head? =
          writtenCharacter (fun _ => "^(2)".toList) c text.head? := by
        by_cases hsquare : c = '²'
        · subst hsquare
          have hnext : text.head?.any isRunCharacter = false := by
            cases text with
            | nil => rfl
            | cons d text =>
              cases hd : isRunCharacter d with
              | false => exact hd
              | true => exact absurd ⟨[], text, rfl⟩ (h.square d hd)
          rw [writtenCharacter_square, writtenCharacter_square, squareAsRead_of_complete hnext]
        · obtain ⟨d, hd, -⟩ := exists_writtenCharacter hsquare
          rw [hd, hd]
      rw [writtenOut, ih h.tail hrest, hcharacter]
      exact hroot
  exact hgeneral false text h (by simp)

/-! ## Tokens -/

namespace Token

/-- The second tokens are the first ones with some squares in parentheses. -/
inductive Squared : List Token → List Token → Prop
  | nil : Squared [] []
  | token (token : Token) {tokens tokens' : List Token} (rest : Squared tokens tokens') :
      Squared (token :: tokens) (token :: tokens')
  | square {tokens tokens' : List Token} (rest : Squared tokens tokens') :
      Squared (mark '^' :: number ['2'] :: tokens)
        (mark '^' :: mark '(' :: number ['2'] :: mark ')' :: tokens')

/-- The same tokens may stand in front of both. -/
theorem Squared.append {tokens tokens' : List Token} (h : Squared tokens tokens')
    (front : List Token) : Squared (front ++ tokens) (front ++ tokens') := by
  induction front with
  | nil => exact h
  | cons token front ih => exact .token token ih

/-- Tokens as they are have no square in parentheses. -/
theorem Squared.refl (tokens : List Token) : Squared tokens tokens := by
  have h := Squared.nil.append tokens
  rwa [List.append_nil] at h

/-- A square falls into three tokens, whatever is in front of it, if neither a digit nor a
dot comes after it. -/
theorem lex_append_square (front : Text) {text : Text}
    (h : ∀ c, text.head? = some c → isRunCharacter c = false) :
    lex (front ++ '^' :: '2' :: text) = lex front ++ mark '^' :: number ['2'] :: lex text := by
  have hcaret : (mark '^').IsProper := by decide
  have htwo : (number ['2']).IsProper := by decide
  have hnumber : lex ('2' :: text) = number ['2'] :: lex text := lex_spelling htwo h
  rw [lex_append (by simp [hcaret.2.1]) (.inr (by simp [hcaret.2.2])), lex_mark _ hcaret,
    hnumber]

/-- A square in parentheses falls into five tokens, whatever is around it. -/
theorem lex_append_square_parenthesized (front text : Text) :
    lex (front ++ '^' :: '(' :: '2' :: ')' :: text) =
      lex front ++ mark '^' :: mark '(' :: number ['2'] :: mark ')' :: lex text := by
  have hcaret : (mark '^').IsProper := by decide
  have htwo : (number ['2']).IsProper := by decide
  have hclosing : isRunCharacter ')' = false := by decide
  have hnumber : lex ('2' :: ')' :: text) = number ['2'] :: lex (')' :: text) :=
    lex_spelling htwo (by simp [StopsBefore, hclosing])
  rw [lex_append (by simp [hcaret.2.1]) (.inr (by simp [hcaret.2.2])), lex_mark _ hcaret,
    lex_mark _ (by decide), hnumber,
    lex_mark _ (by decide)]

end Token

open Token

/-- What begins with neither a digit nor a dot is written out for the reader as what begins
with neither. -/
theorem head?_writtenOut {text : Text} (h : text.head?.any isRunCharacter = false)
    (afterLetter : Bool) :
    ∀ c, (writtenOut plainRoot plainSquare afterLetter text).head? = some c →
      isRunCharacter c = false := by
  intro c hc
  fun_cases writtenOut plainRoot plainSquare afterLetter text with
  | case1 =>
    rw [writtenOut] at hc
    exact absurd hc (by simp)
  | case2 afterLetter text =>
    rw [writtenOut] at hc
    obtain rfl : 's' = c := Option.some.inj hc
    decide
  | case3 afterLetter d text hroot =>
    rw [writtenOut] at hc
    · by_cases hsquare : d = '²'
      · subst hsquare
        obtain rfl : '^' = c := Option.some.inj hc
        decide
      · obtain ⟨e, he, hrun, -⟩ := exists_writtenCharacter hsquare
        rw [he] at hc
        obtain rfl : e = c := Option.some.inj hc
        rw [hrun]
        exact h
    · exact hroot

/-- Behind any text that ends in no letter unless a letter is said to be in front, glyphs
written out for the reader fall into the tokens of what they are read as, up to parentheses
around squares.  The induction moves what has been written out to the text in front, and
starts again with nothing in front only where both texts can be cut. -/
theorem squared_lex_writtenOut (front : Text) (afterLetter : Bool) (text : Text)
    (hfront : afterLetter = false → ∀ c, front.getLast? = some c → isSmallLetter c = false) :
    Squared (lex (front ++ writtenOut plainRoot plainSquare afterLetter text))
      (lex (front ++ writtenOut rootAsRead squareAsRead afterLetter text)) := by
  fun_induction writtenOut rootAsRead squareAsRead afterLetter text generalizing front with
  | case1 =>
    rw [writtenOut]
    exact Squared.refl _
  | case2 afterLetter text ih =>
    rw [writtenOut, plainRoot]
    cases afterLetter with
    | true =>
      have hopened := ih (front ++ "sqrt(".toList) (by
        intro _ c hc
        obtain rfl : '(' = c := by simpa using hc
        decide)
      rw [List.append_assoc, List.append_assoc] at hopened
      exact hopened
    | false =>
      have hletters (more : Text) :
          lex (front ++ ("sqrt(".toList ++ more)) = lex front ++ lex ("sqrt(".toList ++ more) := by
        refine lex_append ?_ (.inl (hfront rfl))
        intro c hc
        obtain rfl : 's' = c := Option.some.inj hc
        decide
      have hspace (more : Text) :
          lex (front ++ (" sqrt(".toList ++ more)) = lex front ++ lex ("sqrt(".toList ++ more) := by
        have hblank : lex (" sqrt(".toList ++ more) = lex ("sqrt(".toList ++ more) :=
          lex_spaces 1 _
        rw [← hblank]
        refine lex_append ?_ (.inr ?_)
        all_goals
          intro c hc
          obtain rfl : ' ' = c := Option.some.inj hc
          decide
      have hroot : rootAsRead false = " sqrt(".toList := rfl
      rw [hletters, hroot, hspace]
      refine (ih "sqrt(".toList ?_).append (lex front)
      intro _ c hc
      obtain rfl : '(' = c := by simpa using hc
      decide
  | case3 afterLetter c text hroot ih =>
    rw [writtenOut]
    · by_cases hsquare : c = '²'
      · subst hsquare
        cases hnext : text.head?.any isRunCharacter with
        | true =>
          have hread : writtenCharacter squareAsRead '²' text.head? = "^2".toList := if_pos hnext
          rw [hread]
          have hopened := ih (front ++ "^2".toList) (by
            intro _ c hc
            obtain rfl : '2' = c := by simpa using hc
            decide)
          rw [List.append_assoc, List.append_assoc] at hopened
          exact hopened
        | false =>
          have hrest := ih [] (by simp)
          rw [writtenCharacter_square, writtenCharacter_square, squareAsRead_of_complete hnext]
          have hsquares := (Squared.square hrest).append (lex front)
          rw [List.nil_append, List.nil_append,
            ← lex_append_square front (head?_writtenOut hnext _),
            ← lex_append_square_parenthesized] at hsquares
          exact hsquares
      · obtain ⟨d, hd, -, hletter⟩ := exists_writtenCharacter hsquare
        have hopened := ih (front ++ [d]) (by
          intro hc e he
          obtain rfl : d = e := by simpa using he
          rw [hletter, hc])
        rw [List.append_assoc, List.append_assoc] at hopened
        rw [hd, hd]
        exact hopened
    · exact hroot

/-- An expression without its glyphs falls into the tokens of what they are read as, up to
parentheses around squares. -/
theorem squared_lex_spelledOut (text : Text) :
    Squared (lex (withoutGlyphs text)) (lex (spelledOut text)) := by
  rw [withoutGlyphs_eq_writtenOut false]
  exact squared_lex_writtenOut [] false text (by simp)

example : spelledOut "log√(3²5×2²".toList = "logsqrt(3^25*2^(2)".toList := by rfl

end PocketCalculator
