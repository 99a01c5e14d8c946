import PocketCalculator.Entry.State
import PocketCalculator.Proofs.DecimalRounding
import PocketCalculator.Proofs.PlainText
import PocketCalculator.Proofs.Printing

/-!
# Reading a result again

The plain text of a result evaluates to a double that is shown by the same text.
The count of last places that the text shows is a nearest one to the result, and
the double read from the text is at least as near to that count as the result was,
so it rounds to the same count.  Scientific notation is no expression: its exponent
mark is a letter that nothing can use where it stands.

Main results:

- Theorem {lit}`evaluate_sign_append`: a sign and a numeral evaluate to a signed value.
- Theorem {lit}`Decimal.ofFloat_toFloat`: the value of a numeral with few digits.
- Theorem {lit}`Display.lastPlaces_nearestUnits`: the double read from a count of last
  places rounds to that count.
- Theorem {lit}`Display.ofFloat_cases`: a finite result has a plain text, which reads
  back to itself, or a scientific one, which cannot be read.
-/

namespace PocketCalculator

/-! ## A sign and a numeral -/

/-- The tree of a literal behind an optional minus sign. -/
def Expr.signed (negative : Bool) (l : Literal) : Expr :=
  if negative then .minus (.literal l) else .literal l

/-- The value of a literal behind an optional minus sign. -/
def Literal.signedValue (negative : Bool) (l : Literal) : Float :=
  if negative then -l.value else l.value

/-- The meaning of the tree is the signed value. -/
theorem Expr.denote_signed (negative : Bool) (l : Literal) :
    (signed negative l).denote Meaning.number = .ok (l.signedValue negative) := by
  cases negative <;> simp [signed, Expr.denote, Meaning.number, Literal.signedValue]

/-- A sign opens one factor and the literal behind it another. -/
theorem Expr.openFactors_signed (negative : Bool) (l : Literal) :
    (signed negative l).openFactors ≤ nestingLimit := by
  cases negative with
  | false => exact (by decide : 1 ≤ nestingLimit)
  | true => exact (by decide : 2 ≤ nestingLimit)

/-- A sign and a numeral fall into their own tokens, whatever follows the numeral that
is neither a digit nor a dot. -/
theorem Token.lex_sign_append (negative : Bool) (l : Literal) (rest : Text)
    (hrest : ∀ c, rest.head? = some c → isRunCharacter c = false) :
    lex (Display.sign negative ++ (l.run ++ rest)) =
      (Expr.signed negative l).tokens ++ lex rest := by
  have hliteral : lex (l.run ++ rest) = number l.run :: lex rest :=
    lex_spelling l.isProper hrest
  cases negative with
  | false => exact hliteral
  | true =>
    have hproper : (mark '-').IsProper := by decide
    have hminus : lex ('-' :: (l.run ++ rest)) = mark '-' :: lex (l.run ++ rest) :=
      lex_spelling hproper trivial
    exact hminus.trans (congrArg _ hliteral)

/-- A sign and a numeral evaluate to a signed value. -/
theorem evaluate_sign_append (negative : Bool) (l : Literal) :
    evaluate (Display.sign negative ++ l.run) = .ok (l.signedValue negative) := by
  have hlex := Token.lex_sign_append negative l [] (by simp)
  rw [List.append_nil, Token.lex_nil, List.append_nil] at hlex
  rw [evaluate, readAs, hlex, readTokens_of_prints (Expr.signed negative l).prints_tokens.toSum
    (Expr.openFactors_signed negative l), Expr.denote_signed]

/-- A text that begins with a letter begins with a name. -/
theorem Token.exists_name_of_letter {c : Char} (more : Text) (hc : isSmallLetter c = true) :
    ∃ letters rest, lex (c :: more) = name (c :: letters) :: rest := by
  have hnext : ∃ letters, (next c more).1 = name (c :: letters) := by
    rw [next, isRunCharacter_of_isSmallLetter hc, if_neg Bool.false_ne_true, if_pos hc]
    unfold named
    split
    · next hlog _ =>
      rw [(List.cons.inj hlog).1]
      exact ⟨_, rfl⟩
    · exact ⟨_, rfl⟩
  obtain ⟨letters, hname⟩ := hnext
  refine ⟨letters, lex (next c more).2, ?_⟩
  rw [lex, scan_cons, hname, List.filter_cons_of_pos (by simp), lex]

/-- A letter directly after a numeral is unexpected. -/
theorem evaluate_sign_append_letter (negative : Bool) (l : Literal) {c : Char} (more : Text)
    (hc : isSmallLetter c = true) :
    evaluate (Display.sign negative ++ (l.run ++ c :: more)) =
      .error (.unexpected (some c)) := by
  have hstops (d : Char) (hd : (c :: more).head? = some d) : isRunCharacter d = false := by
    rw [← Option.some.inj hd]
    exact isRunCharacter_of_isSmallLetter hc
  obtain ⟨letters, rest, hname⟩ := Token.exists_name_of_letter more hc
  rw [evaluate, readAs, Token.lex_sign_append negative l _ hstops, hname]
  exact readTokens_of_prints_append (Expr.signed negative l).prints_tokens.toSum
    (Expr.openFactors_signed negative l) (Expr.denote_signed negative l) (by simp)

/-! ## The value of a numeral -/

/-- A nearest double is at most twice as large as its fraction. -/
theorem Exact.nearestUnits_mul_le (num : Nat) {den : Nat} (hden : 0 < den) :
    nearestUnits num den * den ≤ 2 * num := by
  have hzero := dist_nearestUnits_le num 0 hden (Nat.two_pow_pos 53)
  rw [Nat.zero_mul, Nat.zero_mul, Nat.dist_zero_right] at hzero
  unfold Nat.dist at hzero
  omega

namespace Decimal

/-- A bound on coefficients that keeps a numeral away from the largest double. -/
def moderate : Nat := 10 ^ 24

/-- The value of a numeral with few digits. -/
theorem ofFloat_toFloat {coefficient : Nat} (hcoefficient : coefficient < moderate)
    (decimals : Nat) :
    Exact.ofFloat (toFloat ⟨coefficient, -(decimals : Int)⟩) =
      .finite false (Exact.nearestUnits (coefficient * Exact.one) (10 ^ decimals)) := by
  have hden : 0 < 10 ^ decimals := Nat.pow_pos (by decide)
  have hfits : Exact.nearestUnits (coefficient * Exact.one) (10 ^ decimals) < Exact.beyond := by
    have hle := Exact.nearestUnits_mul_le (coefficient * Exact.one) hden
    have hlarge : 2 * (moderate * Exact.one) ≤ Exact.beyond := by
      rw [← Nat.mul_assoc]
      exact Nat.le_trans (Nat.mul_le_mul_right _ (by decide : 2 * moderate ≤ 2 ^ 81))
        (Exact.two_pow_mul_one_le_beyond (by decide))
    have hproduct : coefficient * Exact.one < moderate * Exact.one :=
      Nat.mul_lt_mul_of_pos_right hcoefficient Exact.one_pos
    have hself := Nat.le_mul_of_pos_right
      (Exact.nearestUnits (coefficient * Exact.one) (10 ^ decimals)) hden
    omega
  rw [toFloat_neg_natCast]
  exact Exact.ofFloat_nearest hden false hfits

end Decimal

/-! ## The same count again -/

namespace Display

/-- The double read from a count of last places rounds to that count, when the count is
the rounding of any double. -/
theorem lastPlaces_nearestUnits {count coefficient decimals significand shift : Nat}
    (hdecimals : decimals ≤ places) (hvalue : coefficient * 10 ^ (places - decimals) = count)
    (hdigits : significand < 2 ^ 53) (hcount : lastPlaces (significand * 2 ^ shift) = count) :
    lastPlaces (Exact.nearestUnits (coefficient * Exact.one) (10 ^ decimals)) = count := by
  have hden : 0 < 10 ^ decimals := Nat.pow_pos (by decide)
  have hscale : 10 ^ places = 10 ^ decimals * 10 ^ (places - decimals) := by
    rw [← Nat.pow_add, Nat.add_sub_cancel' hdecimals]
  have hscaled (units : Nat) :
      Nat.dist (units * 10 ^ places) (count * Exact.one) =
        Nat.dist (coefficient * Exact.one) (units * 10 ^ decimals) * 10 ^ (places - decimals) := by
    rw [hscale, ← hvalue, Nat.mul_right_comm, ← Nat.mul_assoc, Nat.dist_mul_right,
      Nat.dist_comm]
  refine roundHalfEven_eq_of_dist_le Exact.one_pos hcount ?_
  rw [hscaled, hscaled]
  exact Nat.mul_le_mul_right _ (Exact.dist_nearestUnits_le _ shift hden hdigits)

/-- The text of a finite result. -/
theorem ofFloat_of_units {x : Float} {negative : Bool} {units : Nat}
    (h : Exact.ofFloat x = .finite negative units) :
    ofFloat x = fitted negative units
      (sign (negative && lastPlaces units != 0) ++ plainBody (lastPlaces units)) := by
  rw [ofFloat, h, ofExact_finite, trimmed_eq]

/-- The value of a signed literal has the sign of the literal. -/
theorem ofFloat_signedValue {l : Literal} {units : Nat} (negative : Bool)
    (h : Exact.ofFloat l.value = .finite false units) :
    Exact.ofFloat (l.signedValue negative) = .finite negative units := by
  cases negative with
  | false => rw [Literal.signedValue, if_neg Bool.false_ne_true, h]
  | true => rw [Literal.signedValue, if_pos rfl, Exact.ofFloat_neg, h, Exact.negate_finite,
      Bool.not_false]

/-- A plain text is a literal behind a sign, and its value is shown by the same text. -/
theorem exists_literal_of_plain {x : Float} {negative : Bool} {units : Nat}
    (hx : Exact.ofFloat x = .finite negative units)
    (hfits : ¬ width < (sign (negative && lastPlaces units != 0) ++
      plainBody (lastPlaces units)).length) :
    ∃ (signed : Bool) (l : Literal), ofFloat x = sign signed ++ l.run ∧
      (Exact.ofFloat (l.signedValue signed)).isFinite = true ∧
      ofFloat (l.signedValue signed) = ofFloat x := by
  obtain ⟨significand, shift, hunits, hdigits⟩ := Exact.units_of_ofFloat hx
  obtain ⟨coefficient, decimals, hdecimals, hreads, hvalue⟩ :=
    ofPlain?_plainBody (lastPlaces units)
  have htext := ofFloat_of_units hx
  rw [fitted, if_neg hfits] at htext
  generalize hcount : lastPlaces units = count at *
  have hmoderate : coefficient < Decimal.moderate := by
    have hlength : (digits (count / 10 ^ places)).length ≤ width := by
      simp only [plainBody, List.length_append] at hfits
      omega
    have hwhole := (Nat.length_toDigits_le_iff (by decide) (by decide)).1 hlength
    have hself := Nat.le_mul_of_pos_right coefficient
      (Nat.pow_pos (by decide) : 0 < 10 ^ (places - decimals))
    unfold Decimal.moderate
    unfold width places at *
    omega
  let l : Literal := ⟨plainBody count, _, hreads⟩
  have hread := ofFloat_signedValue (l := l) (negative && count != 0)
    (Decimal.ofFloat_toFloat hmoderate decimals)
  have hagain := lastPlaces_nearestUnits hdecimals hvalue hdigits (hunits ▸ hcount)
  refine ⟨negative && count != 0, l, htext, ?_, ?_⟩
  · rw [hread]
    rfl
  · have hsign : (negative && count != 0 && count != 0) = (negative && count != 0) := by
      rw [Bool.and_assoc, Bool.and_self]
    rw [ofFloat_of_units hread, hagain, hsign, fitted, if_neg hfits, htext]

/-- A text in scientific notation is a literal behind a sign, an exponent mark, and a
signed exponent. -/
theorem exists_literal_of_scientific (negative : Bool) (num den : Nat) :
    ∃ (l : Literal) (exponent : Int),
      scientific negative num den = sign negative ++ (l.run ++ 'e' :: exponentText exponent) := by
  have hwhole (c : Char) (hc : c ∈ digits ((mantissa num den).1 / 10 ^ mantissaPlaces)) :
      isDigit c = true :=
    isDigit_of_mem_digits hc
  have hfraction (c : Char)
      (hc : c ∈ paddedDigits mantissaPlaces ((mantissa num den).1 % 10 ^ mantissaPlaces)) :
      isDigit c = true :=
    isDigit_of_mem_paddedDigits hc
  have hreads := Decimal.ofPlain?_append_dot hwhole hfraction (by simp [digits_ne_nil])
  refine ⟨⟨_, _, hreads⟩, (mantissa num den).2, ?_⟩
  rw [scientific]
  simp only [List.append_assoc]

/-- The forms of a finite result.  A plain text is a literal behind a sign, and its value
is shown by the same text; in scientific notation an exponent mark follows the literal. -/
theorem ofFloat_cases {x : Float} (hfinite : (Exact.ofFloat x).isFinite = true) :
    ∃ (signed : Bool) (l : Literal),
      (ofFloat x = sign signed ++ l.run ∧
        (Exact.ofFloat (l.signedValue signed)).isFinite = true ∧
        ofFloat (l.signedValue signed) = ofFloat x) ∨
      ∃ exponent, ofFloat x = sign signed ++ (l.run ++ 'e' :: exponentText exponent) := by
  cases hx : Exact.ofFloat x with
  | infinite negative =>
    rw [hx] at hfinite
    exact absurd hfinite Bool.false_ne_true
  | nan =>
    rw [hx] at hfinite
    exact absurd hfinite Bool.false_ne_true
  | finite negative units =>
    by_cases hlong : width < (sign (negative && lastPlaces units != 0) ++
        plainBody (lastPlaces units)).length
    · obtain ⟨l, exponent, htext⟩ := exists_literal_of_scientific negative units Exact.one
      refine ⟨negative, l, .inr ⟨exponent, ?_⟩⟩
      rw [ofFloat_of_units hx, fitted, if_pos hlong, htext]
    · obtain ⟨signed, l, hplain⟩ := exists_literal_of_plain hx hlong
      exact ⟨signed, l, .inl hplain⟩

/-! ## The characters of a result -/

/-- A result is written with digits, a dot, signs and the exponent mark. -/
def isResultCharacter (c : Char) : Bool := isRunCharacter c || c == '-' || c == '+' || c == 'e'

theorem isResultCharacter_of_mem {x : Float} {c : Char}
    (hfinite : (Exact.ofFloat x).isFinite = true) (hc : c ∈ ofFloat x) :
    isResultCharacter c = true := by
  have hrun {d : Char} (hd : isRunCharacter d = true) : isResultCharacter d = true := by
    rw [isResultCharacter, hd]
    rfl
  have hsign {signed : Bool} (hd : c ∈ sign signed) : isResultCharacter c = true := by
    cases signed with
    | false => exact absurd hd List.not_mem_nil
    | true =>
      rw [List.mem_singleton.1 hd]
      decide
  obtain ⟨signed, l, ⟨htext, -⟩ | ⟨exponent, htext⟩⟩ := ofFloat_cases hfinite
  · rw [htext] at hc
    rcases List.mem_append.1 hc with hc | hc
    · exact hsign hc
    · exact hrun (l.isProper.2 c hc)
  · rw [htext] at hc
    rcases List.mem_append.1 hc with hc | hc
    · exact hsign hc
    rcases List.mem_append.1 hc with hc | hc
    · exact hrun (l.isProper.2 c hc)
    rcases List.mem_cons.1 hc with rfl | hc
    · decide
    rcases List.mem_cons.1 hc with rfl | hc
    · split <;> decide
    · exact hrun (isRunCharacter_of_isDigit (isDigit_of_mem_paddedDigits hc))

/-- The characters of a result lie between the plus sign and the exponent mark. -/
theorem code_of_isResultCharacter {c : Char} (h : isResultCharacter c = true) :
    0x2b ≤ c.toNat ∧ c.toNat ≤ 0x65 ∧ c ≠ 'E' := by
  simp only [isResultCharacter, isRunCharacter, isDigit, Bool.or_eq_true, Bool.and_eq_true,
    decide_eq_true_eq, beq_iff_eq, Char.le_def, UInt32.le_iff_toNat_le] at h
  have hzero : ('0' : Char).val.toNat = 48 := rfl
  have hnine : ('9' : Char).val.toNat = 57 := rfl
  rcases h with (((hdigit | rfl) | rfl) | rfl) | rfl
  · have hcode : c.toNat = c.val.toNat := rfl
    refine ⟨by omega, by omega, ?_⟩
    rintro rfl
    exact absurd hdigit (by decide)
  all_goals decide

/-- The characters of a result are read as they are. -/
theorem isGlyph_of_isResultCharacter {c : Char} (h : isResultCharacter c = true) :
    isGlyph c = false := by
  have hcode := code_of_isResultCharacter h
  cases hglyph : isGlyph c with
  | false => rfl
  | true =>
    simp only [isGlyph, Bool.or_eq_true, beq_iff_eq] at hglyph
    rcases hglyph with ((rfl | rfl) | rfl) | rfl <;> exact absurd hcode (by decide)

/-- The characters of a result are not blank. -/
theorem isBlank_of_isResultCharacter {c : Char} (h : isResultCharacter c = true) :
    isBlank c = false := by
  have hcode := code_of_isResultCharacter h
  simp only [isBlank, blankRanges, CodeRanges.contains, List.any_cons, List.any_nil,
    Bool.or_false, Bool.or_eq_false_iff, Bool.and_eq_false_iff, decide_eq_false_iff_not]
  omega

end Display

/-! ## Equals again -/

/-- A finite result reads back to a double with the same text while it is plain, and in
scientific notation its exponent mark is unexpected. -/
theorem evaluate_ofFloat {x : Float} (hfinite : (Exact.ofFloat x).isFinite = true) :
    if 'e' ∈ Display.ofFloat x then
      evaluate (Display.ofFloat x) = .error (.unexpected (some 'e'))
    else ∃ y, evaluate (Display.ofFloat x) = .ok y ∧ (Exact.ofFloat y).isFinite = true ∧
      Display.ofFloat y = Display.ofFloat x := by
  obtain ⟨signed, l, ⟨htext, hread, hagain⟩ | ⟨exponent, htext⟩⟩ :=
    Display.ofFloat_cases hfinite
  · have hplain : 'e' ∉ Display.sign signed ++ l.run := by
      intro he
      rcases List.mem_append.1 he with he | he
      · revert he
        cases signed <;> decide
      · exact absurd (l.isProper.2 'e' he) (by decide)
    rw [htext, if_neg hplain]
    exact ⟨_, evaluate_sign_append signed l, hread, hagain.trans htext⟩
  · have hmark :
        'e' ∈ Display.sign signed ++ (l.run ++ 'e' :: Display.exponentText exponent) := by
      simp
    rw [htext, if_pos hmark]
    exact evaluate_sign_append_letter signed l _ (by decide)

/-- A finite result is something to calculate. -/
theorem isIdle_ofFloat {x : Float} (hfinite : (Exact.ofFloat x).isFinite = true) :
    isIdle (Display.ofFloat x) = false := by
  have hne : Display.ofFloat x ≠ [] := by
    obtain ⟨signed, l, ⟨htext, -⟩ | ⟨exponent, htext⟩⟩ := Display.ofFloat_cases hfinite
    all_goals
      rw [htext]
      have hrun := l.isProper.1
      simp [hrun]
  obtain ⟨c, more, htext⟩ := List.exists_cons_of_ne_nil hne
  have hc : Display.isResultCharacter c = true :=
    Display.isResultCharacter_of_mem hfinite (by rw [htext]; exact List.mem_cons_self)
  have herror : c :: more ≠ Display.errorText := by
    intro heq
    exact (Display.code_of_isResultCharacter hc).2.2 (List.cons.inj heq).1
  rw [isIdle, htext, List.all_cons, Display.isBlank_of_isResultCharacter hc, Bool.false_and,
    Bool.false_or]
  exact decide_eq_false herror

/-- A finite result has no glyphs to be replaced. -/
theorem valueOf_ofFloat {x : Float} (hfinite : (Exact.ofFloat x).isFinite = true) :
    valueOf (Display.ofFloat x) = outcome (evaluate (Display.ofFloat x)) := by
  rw [valueOf, withoutGlyphs_of_none]
  intro c hc
  exact Display.isGlyph_of_isResultCharacter (Display.isResultCharacter_of_mem hfinite hc)

namespace Entry

/-- Equals settles the value of what is to be calculated. -/
theorem press_equals {entry : Entry} (h : isIdle entry.expression = false) :
    entry.press .equals = entry.forget.settle (valueOf entry.expression) :=
  if_neg (by rw [expression_forget, h]; exact Bool.false_ne_true)

/-- Equals leaves a state alone that has nothing to calculate, and otherwise records a
cause or shows a finite result. -/
theorem press_equals_cases {entry : Entry} (h : (entry.press .equals).lastCause = none) :
    (isIdle entry.expression = true ∧ entry.press .equals = entry.forget) ∨
      ∃ x, (Exact.ofFloat x).isFinite = true ∧
        entry.press .equals = entry.forget.showing (Display.ofFloat x) := by
  cases hidle : isIdle entry.expression with
  | true => exact .inl ⟨rfl, if_pos hidle⟩
  | false =>
    right
    rw [press_equals hidle] at h ⊢
    cases hvalue : valueOf entry.expression with
    | error cause =>
      rw [hvalue] at h
      exact absurd h (by simp [settle])
    | ok text =>
      rw [valueOf] at hvalue
      cases hread : evaluate (withoutGlyphs entry.expression) with
      | error cause =>
        rw [hread, outcome] at hvalue
        exact absurd hvalue (by simp)
      | ok x =>
        rw [hread, outcome, resultText_eq_ok_iff] at hvalue
        obtain ⟨hfinite, rfl⟩ := hvalue
        exact ⟨x, hfinite, rfl⟩

/-- Equals on a state that shows a result calculates the text of the result. -/
theorem press_equals_showing (entry : Entry) {x : Float}
    (hfinite : (Exact.ofFloat x).isFinite = true) :
    (entry.showing (Display.ofFloat x)).press .equals =
      (entry.forget.showing (Display.ofFloat x)).settle
        (outcome (evaluate (Display.ofFloat x))) := by
  rw [press_equals (isIdle_ofFloat hfinite), expression_showing, valueOf_ofFloat hfinite]
  rfl

/-- Nothing that is left alone has an exponent mark. -/
theorem notMem_of_isIdle {expression : Text} (h : isIdle expression = true) :
    'e' ∉ expression := by
  rw [isIdle, Bool.or_eq_true] at h
  rcases h with hblank | herror
  · intro he
    exact absurd (List.all_eq_true.1 hblank 'e' he) (by decide)
  · rw [of_decide_eq_true herror]
    decide

end Entry

/-- A finite result that is shown in plain form evaluates to a finite double with the
same text, so that equals, where it has recorded no failure, changes nothing when it is
pressed again.  Scientific notation is no expression: there the exponent mark is
unexpected, and the second press fails. -/
theorem equals_again :
    (∀ x : Float, (Exact.ofFloat x).isFinite = true →
      if 'e' ∈ Display.ofFloat x then
        evaluate (Display.ofFloat x) = .error (.unexpected (some 'e'))
      else ∃ y, evaluate (Display.ofFloat x) = .ok y ∧ (Exact.ofFloat y).isFinite = true ∧
        Display.ofFloat y = Display.ofFloat x) ∧
    ∀ entry : Entry, (entry.press .equals).lastCause = none →
      if 'e' ∈ (entry.press .equals).expression then
        ((entry.press .equals).press .equals).expression = Display.errorText ∧
          ((entry.press .equals).press .equals).lastCause = some (.unexpected (some 'e'))
      else (entry.press .equals).press .equals = entry.press .equals := by
  refine ⟨fun x hfinite => evaluate_ofFloat hfinite, ?_⟩
  intro entry hsuccess
  rcases Entry.press_equals_cases hsuccess with ⟨hidle, hpress⟩ | ⟨x, hfinite, hpress⟩
  · rw [hpress, Entry.expression_forget, if_neg (Entry.notMem_of_isIdle hidle)]
    exact if_pos hidle
  · have hread := evaluate_ofFloat hfinite
    rw [hpress, Entry.press_equals_showing entry.forget hfinite, Entry.expression_showing]
    by_cases hmark : 'e' ∈ Display.ofFloat x
    · rw [if_pos hmark] at hread
      rw [hread, if_pos hmark]
      exact ⟨rfl, rfl⟩
    · rw [if_neg hmark] at hread
      obtain ⟨y, hy, hyfinite, hagain⟩ := hread
      rw [hy, if_neg hmark, outcome, resultText_eq_ok_iff.2 ⟨hyfinite, hagain⟩]
      rfl

/-- A hundred thousand million million is a result that does not read back. -/
theorem large_result_is_unreadable :
    (Exact.ofFloat (Float.ofBits 0x4376345785d8a000)).isFinite = true ∧
      Display.ofFloat (Float.ofBits 0x4376345785d8a000) = "1.00000e+17".toList ∧
      ¬ ∃ y, evaluate (Display.ofFloat (Float.ofBits 0x4376345785d8a000)) = .ok y := by
  have hvalue : Exact.ofFloat (Float.ofBits 0x4376345785d8a000) =
      .finite false (10 ^ 17 * Exact.one) := by decide +kernel
  have hfinite : (Exact.ofFloat (Float.ofBits 0x4376345785d8a000)).isFinite = true := by
    rw [hvalue]
    rfl
  have htext : Display.ofFloat (Float.ofBits 0x4376345785d8a000) = "1.00000e+17".toList :=
    (congrArg Display.ofExact hvalue).trans (by decide +kernel)
  refine ⟨hfinite, htext, ?_⟩
  generalize Float.ofBits 0x4376345785d8a000 = x at hfinite htext
  have hread := evaluate_ofFloat hfinite
  rw [if_pos (by rw [htext]; decide)] at hread
  rw [hread]
  simp

/-- A quarter, entered without its zero, is shown with it, and reads back from there. -/
theorem equals_again_quarter :
    let entry := Entry.new.showing ".25".toList
    (entry.press .equals).expression = "0.25".toList ∧
      (entry.press .equals).press .equals = entry.press .equals ∧
      ∃ y, evaluate "0.25".toList = .ok y ∧ Display.ofFloat y = "0.25".toList := by
  intro entry
  have hquarter : ∃ x, evaluate ".25".toList = .ok x ∧
      Exact.ofFloat x = .finite false (2 ^ 1072) := by
    let l : Literal := ⟨".25".toList, ⟨25, -2⟩, rfl⟩
    have hunits : Exact.nearestUnits (25 * Exact.one) (10 ^ 2) = 2 ^ 1072 := by decide +kernel
    refine ⟨l.signedValue false, evaluate_sign_append false l, ?_⟩
    rw [← hunits]
    exact Display.ofFloat_signedValue false (Decimal.ofFloat_toFloat (by decide) _)
  obtain ⟨x, hevaluate, hvalue⟩ := hquarter
  have hfinite : (Exact.ofFloat x).isFinite = true := by rw [hvalue]; rfl
  have htext : Display.ofFloat x = "0.25".toList :=
    (congrArg Display.ofExact hvalue).trans (by decide +kernel)
  have hpress : entry.press .equals = entry.forget.showing "0.25".toList := by
    have hentry : valueOf entry.expression = .ok "0.25".toList := by
      have hglyphs : withoutGlyphs entry.expression = ".25".toList := by decide
      rw [valueOf, hglyphs, hevaluate, outcome, resultText_eq_ok_iff]
      exact ⟨hfinite, htext⟩
    rw [Entry.press_equals (by decide), hentry]
    rfl
  have hsuccess : (entry.press .equals).lastCause = none := by rw [hpress]; rfl
  have hagain := equals_again.2 entry hsuccess
  rw [if_neg (by rw [hpress]; decide)] at hagain
  refine ⟨by rw [hpress]; rfl, hagain, ?_⟩
  have hread := equals_again.1 x hfinite
  rw [htext, if_neg (by decide)] at hread
  obtain ⟨y, hy, -, hsame⟩ := hread
  exact ⟨y, hy, hsame⟩

end PocketCalculator
