import PocketCalculator.Expression.Literal
import PocketCalculator.Proofs.Spacing

/-!
# Numerals

A run of digits and dots is a numeral in two ways: it is made of digits alone, or
one dot stands between two stretches of digits that are not both empty.

Main results:

- Theorem {lit}`Decimal.shape_of_ofPlain?`: a numeral has one of the two forms, and
  its value follows from the form.
- Theorems {lit}`Decimal.ofPlain?_zero_cons` and {lit}`Decimal.ofPlain?_of_zero_cons`:
  a zero in front does not change a numeral.
- Theorem {lit}`Literal.isProper`: a literal is a proper token.
- Theorem {lit}`readMagnitude?_of_head?`: what begins with no letter is read as a
  numeral, with or without an exponent.
- Theorem {lit}`Literal.ofScientific?_run`: a literal is also read where an exponent may
  follow.
-/

namespace PocketCalculator

/-- Digits stand in runs. -/
theorem isRunCharacter_of_isDigit {c : Char} (h : isDigit c = true) :
    isRunCharacter c = true := by
  rw [isRunCharacter, h, Bool.true_or]

/-- The form of a numeral: digits alone, or one dot between digits. -/
theorem Decimal.shape_of_ofPlain? {run : Text} {decimal : Decimal}
    (h : Decimal.ofPlain? run = some decimal) :
    (run ≠ [] ∧ (∀ c ∈ run, isDigit c = true) ∧
        decimal = ⟨Nat.ofDigitChars 10 run 0, 0⟩) ∨
      ∃ whole fraction, run = whole ++ '.' :: fraction ∧
        (∀ c ∈ whole, isDigit c = true) ∧ (∀ c ∈ fraction, isDigit c = true) ∧
        whole ++ fraction ≠ [] ∧
        decimal = ⟨Nat.ofDigitChars 10 (whole ++ fraction) 0, -(fraction.length : Int)⟩ := by
  have hwhole : ∀ c ∈ run.takeWhile isDigit, isDigit c = true :=
    List.all_eq_true.1 List.all_takeWhile
  have hsplit := List.takeWhile_append_dropWhile (p := isDigit) (l := run)
  unfold Decimal.ofPlain? at h
  dsimp only at h
  split at h
  · next hrest =>
    rw [hrest, List.append_nil] at hsplit
    rw [hsplit] at h hwhole
    refine Or.inl ⟨?_, hwhole, ?_⟩
    · rintro rfl
      exact absurd h (by simp)
    · split at h
      · exact absurd h (by simp)
      · exact (Option.some.inj h).symm
  · next fraction hrest =>
    rw [hrest] at hsplit
    split at h
    · exact absurd h (by simp)
    next hfraction =>
    simp only [Bool.or_eq_true, Bool.not_eq_true', not_or, Bool.not_eq_false,
      List.isEmpty_iff] at hfraction
    exact Or.inr ⟨_, fraction, hsplit.symm, hwhole, List.all_eq_true.1 hfraction.2,
      hfraction.1, (Option.some.inj h).symm⟩
  · exact absurd h (by simp)

/-- A zero in front of a numeral does not change it. -/
theorem Decimal.ofPlain?_zero_cons {run : Text} {decimal : Decimal}
    (h : ofPlain? run = some decimal) : ofPlain? ('0' :: run) = some decimal := by
  have hzero : isDigit '0' = true := by decide
  have hvalue (digits : Text) :
      Nat.ofDigitChars 10 ('0' :: digits) 0 = Nat.ofDigitChars 10 digits 0 := by
    rw [Nat.ofDigitChars_cons]
    rfl
  rcases shape_of_ofPlain? h with ⟨-, hdigits, rfl⟩ | h
  · rw [ofPlain?_digits (List.forall_mem_cons.2 ⟨hzero, hdigits⟩) (List.cons_ne_nil _ _),
      hvalue]
  · obtain ⟨whole, fraction, rfl, hwhole, hfraction, -, rfl⟩ := h
    rw [← List.cons_append, ofPlain?_append_dot (List.forall_mem_cons.2 ⟨hzero, hwhole⟩)
      hfraction (List.cons_ne_nil _ _), List.cons_append, hvalue]

/-- A zero in front of another digit can be left out. -/
theorem Decimal.ofPlain?_of_zero_cons {c : Char} {run : Text} {decimal : Decimal}
    (hc : isDigit c = true) (h : ofPlain? ('0' :: c :: run) = some decimal) :
    ofPlain? (c :: run) = some decimal := by
  have hread : ∃ other, ofPlain? (c :: run) = some other := by
    rcases shape_of_ofPlain? h with ⟨-, hdigits, -⟩ | h
    · exact ⟨_, ofPlain?_digits (List.forall_mem_cons.1 hdigits).2 (List.cons_ne_nil _ _)⟩
    · obtain ⟨whole, fraction, hrun, hwhole, hfraction, -, -⟩ := h
      cases whole with
      | nil => exact absurd (List.cons.inj hrun).1 (by decide)
      | cons d whole =>
        obtain ⟨-, hrun⟩ := List.cons.inj hrun
        cases whole with
        | nil =>
          rw [(List.cons.inj hrun).1] at hc
          exact absurd hc (by decide)
        | cons e whole =>
          rw [hrun]
          exact ⟨_, ofPlain?_append_dot (List.forall_mem_cons.1 hwhole).2 hfraction
            (List.cons_ne_nil _ _)⟩
  obtain ⟨other, hother⟩ := hread
  rw [hother, ← h, ofPlain?_zero_cons hother]

/-- A literal has at least one character, and only digits and dots. -/
theorem Literal.isProper (l : Literal) : (Token.number l.run).IsProper := by
  rcases Decimal.shape_of_ofPlain? l.reads with ⟨hne, hdigits, -⟩ | h
  · exact ⟨hne, fun c hc => isRunCharacter_of_isDigit (hdigits c hc)⟩
  · obtain ⟨whole, fraction, hrun, hwhole, hfraction, -, -⟩ := h
    rw [hrun]
    refine ⟨by simp, ?_⟩
    intro c hc
    rcases List.mem_append.1 hc with hc | hc
    · exact isRunCharacter_of_isDigit (hwhole c hc)
    rcases List.mem_cons.1 hc with rfl | hc
    · decide
    · exact isRunCharacter_of_isDigit (hfraction c hc)

/-- A literal falls into a single token. -/
theorem Literal.lex_run (l : Literal) : Token.lex l.run = [.number l.run] := by
  have hlex : Token.lex (l.run ++ []) = .number l.run :: Token.lex [] :=
    Token.lex_spelling l.isProper (by simp [Token.StopsBefore])
  rwa [List.append_nil, Token.lex_nil] at hlex

/-! ## Numerals as whole texts -/

/-- The letters are two ranges of codes. -/
theorem isAlpha_eq (c : Char) :
    c.isAlpha = (decide ('A'.val ≤ c.val ∧ c.val ≤ 'Z'.val) ||
      (decide ('a'.val ≤ c.val) && decide (c.val ≤ 'z'.val))) := rfl

/-- What begins with no letter is read as a numeral: it is no name, for only a capital letter
changes its case. -/
theorem readMagnitude?_of_head? {text : Text}
    (h : ∀ c, text.head? = some c → c.isAlpha = false) :
    readMagnitude? text = (Decimal.ofScientific? text).map Decimal.toFloat := by
  have hname (name : Text) (hfirst : name.head?.any Char.isAlpha = true) :
      text.map Char.toLower ≠ name := by
    rintro rfl
    cases text with
    | nil => exact absurd hfirst (by simp)
    | cons c text =>
      have hc : c.isAlpha = false := h c rfl
      have hcase : ¬ (c.val ≥ 'A'.val ∧ c.val ≤ 'Z'.val) := by
        intro hupper
        rw [isAlpha_eq, Bool.or_eq_false_iff] at hc
        exact of_decide_eq_false hc.1 hupper
      have hlower : c.toLower = c := dif_neg hcase
      simp [hlower, hc] at hfirst
  rw [readMagnitude?]
  rw [if_neg (not_or.2 ⟨hname _ (by decide), hname _ (by decide)⟩), if_neg (hname _ (by decide))]

namespace Decimal

/-- Without an exponent mark there is no exponent. -/
theorem ofScientific?_of_unmarked {text : Text}
    (h : ∀ c ∈ text, isExponentMark c = false) : ofScientific? text = ofPlain? text := by
  have hplain : ∀ c ∈ text, (!isExponentMark c) = true := by simpa using h
  have htake : (text ++ []).takeWhile (!isExponentMark ·) = text :=
    Text.takeWhile_append_of_boundary hplain (by simp)
  have hdrop : (text ++ []).dropWhile (!isExponentMark ·) = [] :=
    Text.dropWhile_append_of_boundary hplain (by simp)
  rw [List.append_nil] at htake hdrop
  rw [ofScientific?]
  rw [hdrop, htake]

/-- An exponent shifts the numeral in front of its mark. -/
theorem ofScientific?_append {text power : Text} {mark : Char} {d : Decimal} {shift : Int}
    (hmark : isExponentMark mark = true) (h : ∀ c ∈ text, isExponentMark c = false)
    (hplain : ofPlain? text = some d) (hpower : exponentOf? power = some shift) :
    ofScientific? (text ++ mark :: power) = some ⟨d.coefficient, d.exponent + shift⟩ := by
  have hinside : ∀ c ∈ text, (!isExponentMark c) = true := by simpa using h
  have hboundary : ∀ c, (mark :: power).head? = some c → (!isExponentMark c) = false := by
    intro c hc
    rw [← Option.some.inj hc, hmark]
    rfl
  rw [ofScientific?]
  rw [Text.takeWhile_append_of_boundary hinside hboundary,
    Text.dropWhile_append_of_boundary hinside hboundary, hplain]
  dsimp only
  rw [hpower]

end Decimal

/-- What begins with no sign is read as a magnitude. -/
theorem readNumber?_of_head? {text : Text} (hminus : text.head? ≠ some '-')
    (hplus : text.head? ≠ some '+') : readNumber? text = readMagnitude? text := by
  unfold readNumber?
  split
  · exact absurd rfl hminus
  · exact absurd rfl hplus
  · rfl

/-- The characters of runs are neither letters nor signs. -/
theorem class_of_isRunCharacter {c : Char} (h : isRunCharacter c = true) :
    c.isAlpha = false ∧ Decimal.isExponentMark c = false ∧ c ≠ '-' ∧ c ≠ '+' := by
  have hcode : c.val.toNat = 46 ∨ 48 ≤ c.val.toNat ∧ c.val.toNat ≤ 57 := by
    simp only [isRunCharacter, isDigit, Bool.or_eq_true, Bool.and_eq_true, decide_eq_true_eq,
      beq_iff_eq, Char.le_def, UInt32.le_iff_toNat_le] at h
    rcases h with hdigit | rfl
    · exact .inr hdigit
    · exact .inl rfl
  have hne (d : Char) (hd : ¬ (d.val.toNat = 46 ∨ 48 ≤ d.val.toNat ∧ d.val.toNat ≤ 57)) :
      c ≠ d := by
    rintro rfl
    exact hd hcode
  refine ⟨?_, ?_, hne '-' (by decide), hne '+' (by decide)⟩
  · simp only [isAlpha_eq, UInt32.le_iff_toNat_le, Bool.or_eq_false_iff,
      Bool.and_eq_false_iff, decide_eq_false_iff_not]
    have hA : ('A' : Char).val.toNat = 65 := rfl
    have ha : ('a' : Char).val.toNat = 97 := rfl
    omega
  · simp [Decimal.isExponentMark, hne 'e' (by decide), hne 'E' (by decide)]

namespace Literal

/-- The characters of a literal. -/
theorem class_of_mem (l : Literal) {c : Char} (hc : c ∈ l.run) :
    c.isAlpha = false ∧ Decimal.isExponentMark c = false ∧ c ≠ '-' ∧ c ≠ '+' :=
  class_of_isRunCharacter (l.isProper.2 c hc)

/-- A literal has no exponent. -/
theorem ofScientific?_run (l : Literal) : Decimal.ofScientific? l.run = some l.decimal := by
  rw [Decimal.ofScientific?_of_unmarked fun c hc => (l.class_of_mem hc).2.1, l.reads]

end Literal

end PocketCalculator
