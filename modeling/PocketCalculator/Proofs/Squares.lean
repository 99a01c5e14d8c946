import PocketCalculator.Proofs.DescentPieces
import PocketCalculator.Proofs.GlyphTexts
import PocketCalculator.Proofs.Rereading
import PocketCalculator.Proofs.Unlimited

/-!
# Squares in parentheses

An exponent that is the number two and nothing else may stand in parentheses: the factor in
parentheses ends where the number ends, and both are raised to whatever exponent follows.
The parentheses only need room for one more open factor.  With what glyphs fall into, this
says what an expression with glyphs is read as.

Main definitions:

- {lit}`Reader.ExponentOpened` relates what comes after a caret, in parentheses and without.

Main results:

- Theorem {lit}`Reader.parallel_factor_squared`: factors with squares in parentheses read
  like those without.
- Theorem {lit}`readUnlimited_squared`: without a limit the parentheses cannot be noticed.
- Theorem {lit}`equals_reads_glyphs`: what equals makes of glyphs.
-/

namespace PocketCalculator

namespace Reader

open Token (Squared)

variable {α : Type} {meaning : Meaning α}

/-- The first input may have squares in parentheses that the second one has without, and so
may be the exponent at the front. -/
def ExponentOpened (input input' : List Token) : Prop :=
  Squared input' input ∨
    ∃ rest rest', input = .mark '(' :: .number ['2'] :: .mark ')' :: rest ∧
      input' = .number ['2'] :: rest' ∧ Squared rest' rest

/-- No step of the grammar breaks the relation, and behind a caret an exponent may begin
with its parenthesis. -/
theorem respected_squared (lost : Cause → Prop) :
    Respected (fun input input' => Squared input' input) ExponentOpened lost where
  step {input input'} h := by
    cases h with
    | nil => exact .inr ⟨by simp [AtClosing], by simp [AtClosing], .inl rfl⟩
    | token token rest =>
      exact .inl ⟨token, _, _, rfl, rfl, fun _ => rest, fun _ => .inl rest⟩
    | square rest =>
      exact .inl ⟨.mark '^', _, _, rfl, rfl, fun hcaret => absurd rfl hcaret,
        fun _ => .inr ⟨_, _, rfl, rfl, rest⟩⟩
  closing {input input'} h := by
    cases h with
    | nil => exact .nil
    | @token token tokens tokens' rest =>
      by_cases hclosing : token = .mark ')'
      · subst hclosing
        exact rest
      · rw [dropClosing_of_ne hclosing, dropClosing_of_ne hclosing]
        exact .token token rest
    | square rest => exact .square rest

/-- A sum that is a number in parentheses is read up to the closing one. -/
theorem run_sum_number_closing {limit room : Nat} {run : Text} {l : Literal}
    (h : Literal.ofRun? run = some l) (rest : List Token) :
    (sum meaning (factor meaning limit (room + 1))).run (.number run :: .mark ')' :: rest) =
      .ok (meaning.literal l, .mark ')' :: rest) := by
  have hend : AtClosing (.mark ')' :: rest) := by
    intro token htoken
    exact (Option.some.inj htoken).symm
  rw [sum_eq_chain, run_chain, run_product_number h (by simp)]
  · exact continueWith_of_atClosing rfl hend _
  · intro token htoken
    rw [hend token htoken]
    rfl

/-- Factors with squares in parentheses read like those without, refusals apart. -/
theorem parallel_factor_squared (meaning : Meaning α) (limit room : Nat) :
    Parallel ExponentOpened (fun input input' => Squared input' input)
      (· = .tooDeeplyNested limit) (factor meaning limit room) (factor meaning limit room) := by
  induction room with
  | zero => exact fun _ => .error _
  | succ room ih =>
    intro input input' h
    rcases h with h | ⟨rest, rest', rfl, rfl, hrest⟩
    · exact tracks_opened (respected_squared _) (fun h => ih (.inl h)) ih h
    · have htwo : Literal.ofRun? ['2'] = some ⟨['2'], ⟨2, 0⟩, rfl⟩ := rfl
      rw [run_factor_number htwo, run_factor_succ, opened_of_base (by simp) (by simp), base]
      cases room with
      | zero =>
        have hrefused : (sum meaning (factor meaning limit 0)).run
            (.number ['2'] :: .mark ')' :: rest) = .error (.tooDeeplyNested limit) := rfl
        rw [hrefused]
        exact .lost (by rfl) _
      | succ room =>
        rw [run_sum_number_closing htwo]
        exact tracks_raise (respected_squared _) ih _ hrest

end Reader

/-! ## Whole expressions -/

section Whole

open Token (Squared)

variable {α : Type} {meaning : Meaning α} {input input' : List Token}

/-- Tokens with squares in parentheses read like those without, unless they are refused. -/
theorem readTokens_squared (meaning : Meaning α) (limit : Nat) (h : Squared input' input) :
    readTokens meaning limit input = .error (.tooDeeplyNested limit) ∨
      readTokens meaning limit input' = readTokens meaning limit input := by
  have htracks := Reader.parallel_sum meaning (Reader.respected_squared _)
    (fun h => Reader.parallel_factor_squared meaning limit limit (.inl h)) h
  rw [readTokens, readTokens]
  generalize (Reader.sum meaning (Reader.factor meaning limit limit)).run input = first
    at htracks
  generalize (Reader.sum meaning (Reader.factor meaning limit limit)).run input' = second
    at htracks
  cases htracks with
  | ok hrest => cases hrest <;> exact .inr rfl
  | error cause => exact .inr rfl
  | lost hlost => exact .inl (by rw [hlost]; rfl)

/-- Without a limit tokens with squares in parentheses read like those without. -/
theorem readUnlimited_squared (hcall : meaning.NeverRefuses) (h : Squared input' input) :
    readUnlimited meaning input' = readUnlimited meaning input := by
  have hinput : input.length < input.length + input'.length + 1 := by omega
  have hinput' : input'.length < input.length + input'.length + 1 := by omega
  rw [← readTokens_eq_readUnlimited hcall hinput, ← readTokens_eq_readUnlimited hcall hinput']
  rcases readTokens_squared meaning (input.length + input'.length + 1) h with hrefused | hsame
  · rw [readTokens_eq_readUnlimited hcall hinput] at hrefused
    exact absurd hrefused (readUnlimited_ne_refused hcall input _)
  · exact hsame

end Whole

/-- Equals reads each glyph as it is spelled out: {lit}`×` and {lit}`÷` as operators, a
square as a complete exponent unless a digit or a dot comes directly after it, and a root
sign with its parenthesis as a name of its own unless a small letter stands directly in
front of it.  Then it shows what this evaluates to without a limit, or fails at the limit.
Where the glyphs stand apart, each is read as tokens of its own. -/
theorem equals_reads_glyphs {entry : Entry} (h : isIdle entry.expression = false) :
    evaluateUnlimited (withoutGlyphs entry.expression) =
        evaluateUnlimited (spelledOut entry.expression) ∧
      (entry.press .equals =
          entry.forget.settle (outcome (evaluateUnlimited (spelledOut entry.expression))) ∨
        evaluate (withoutGlyphs entry.expression) = .error (.tooDeeplyNested nestingLimit) ∧
          entry.press .equals = entry.forget.failing (.tooDeeplyNested nestingLimit)) ∧
      (GlyphsApart entry.expression →
        spelledOut entry.expression = glyphsAsTokens entry.expression) := by
  have hcall := Meaning.neverRefuses_number
  have hsame : evaluateUnlimited (withoutGlyphs entry.expression) =
      evaluateUnlimited (spelledOut entry.expression) :=
    readUnlimited_squared hcall (squared_lex_spelledOut entry.expression)
  refine ⟨hsame, ?_, spelledOut_of_apart⟩
  rw [Entry.press_equals h, valueOf, ← hsame]
  rcases readTokens_refused_or_eq hcall nestingLimit
    (Token.lex (withoutGlyphs entry.expression)) with hrefused | hread
  · have hdeep : evaluate (withoutGlyphs entry.expression) =
        .error (.tooDeeplyNested nestingLimit) := hrefused
    rw [hdeep]
    exact .inr ⟨rfl, rfl⟩
  · have hvalue : evaluate (withoutGlyphs entry.expression) =
        evaluateUnlimited (withoutGlyphs entry.expression) := hread
    rw [hvalue]
    exact .inl rfl

/-- What equals makes of a screen may be found by running the descent. -/
theorem Entry.press_equals_of_descend {entry after : Entry} {text : Text}
    (hidle : isIdle entry.expression = false) (htext : withoutGlyphs entry.expression = text)
    (h : (descend Meaning.number nestingLimit (text.length + 1) text).map
      (fun run => entry.forget.settle (outcome run.1)) = some after) :
    entry.press .equals = after := by
  rw [press_equals hidle, valueOf, htext]
  exact Option.some.inj ((map_descend Meaning.number nestingLimit text
    fun value => entry.forget.settle (outcome value)).symm.trans h)

/-- A root sign at the front stands apart from everything and is read as a name. -/
theorem equals_reads_glyphs_root :
    let entry := Entry.new.press (.symbol "√(16".toList)
    isIdle entry.expression = false ∧ GlyphsApart entry.expression ∧
      spelledOut entry.expression = glyphsAsTokens entry.expression ∧
      (entry.press .equals).expression = "4".toList := by
  intro entry
  have hscreen : entry.expression = "√(16".toList := by decide +kernel
  have hidle : isIdle entry.expression = false := by decide +kernel
  have happart : GlyphsApart entry.expression := by
    rw [hscreen]
    constructor <;> intro c _ <;> simp +decide [List.infix_cons_iff, List.prefix_cons_iff]
  have hplain : withoutGlyphs entry.expression = "sqrt(16".toList := by decide +kernel
  have hpress : entry.press .equals = entry.forget.showing "4".toList :=
    entry.press_equals_of_descend hidle hplain (by decide +kernel)
  exact ⟨hidle, happart, (equals_reads_glyphs hidle).2.2 happart, by rw [hpress]; rfl⟩

/-- Behind letters a root sign is no token of its own: its name goes on with them to one that
no function has, where two calls would give two. -/
theorem root_behind_letters_is_no_token :
    let entry := Entry.new.press (.symbol "+sqrt√(16".toList)
    entry.expression = "+sqrt√(16".toList ∧ isIdle entry.expression = false ∧
      (entry.press .equals).expression = Display.errorText ∧
      (entry.press .equals).lastCause = some (.unknownFunction "sqrtsqrt".toList) ∧
      outcome (evaluateUnlimited (glyphsAsTokens entry.expression)) = .ok "2".toList := by
  intro entry
  have hscreen : entry.expression = "+sqrt√(16".toList := by decide +kernel
  have hidle : isIdle entry.expression = false := by decide +kernel
  have hplain : withoutGlyphs entry.expression = "+sqrtsqrt(16".toList := by decide +kernel
  have hpress : entry.press .equals =
      entry.forget.failing (.unknownFunction "sqrtsqrt".toList) :=
    entry.press_equals_of_descend hidle hplain (by decide +kernel)
  have hapart : glyphsAsTokens entry.expression = "+sqrt sqrt(16".toList := by decide +kernel
  have hvalue : (outcome (evaluate "+sqrt sqrt(16".toList)).toOption = some "2".toList :=
    Option.some.inj ((map_descend _ _ _ fun value => (outcome value).toOption).symm.trans
      (by decide +kernel))
  refine ⟨hscreen, hidle, by rw [hpress]; rfl, by rw [hpress]; rfl, ?_⟩
  rw [hapart, ← evaluate_eq_of_length (by decide)]
  generalize outcome (evaluate "+sqrt sqrt(16".toList) = shown at hvalue
  cases shown with
  | ok text => exact congrArg Except.ok (Option.some.inj hvalue)
  | error cause => exact absurd hvalue (by simp [Except.toOption])

end PocketCalculator
