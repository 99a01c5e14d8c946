import PocketCalculator.Proofs.LeadingZeros
import PocketCalculator.Proofs.OpenedOperations
import PocketCalculator.Proofs.Rereading

/-!
# Functions at once and deferred

A function key applies its function at once to an expression that is a number.  The
same function can be opened in front of the number and be calculated with equals.
Two readers of numbers then have to agree: one takes the whole text with its sign, the
other takes the sign as part of an expression.

Main results:

- Theorem {lit}`exists_tree_of_readNumber?`: a number without letters is the tree of a
  literal behind a sign, and both readers give it the same value.
- Theorems {lit}`evaluate_name_opening` and {lit}`evaluate_reciprocal_opening`: what an
  opened function makes of a tree whose closing parenthesis is missing.
- Theorem {lit}`operate_eq_equals`: a function shows the same at once and deferred.
-/

namespace PocketCalculator

/-! ## Numbers without letters -/

/-- Without letters a magnitude is a literal. -/
theorem exists_literal_of_readMagnitude? {text : Text} {x : Float}
    (hletters : ∀ c ∈ text, c.isAlpha = false) (h : readMagnitude? text = some x) :
    ∃ l : Literal, text = l.run ∧ x = l.value := by
  have hmarks (c : Char) (hc : c ∈ text) : Decimal.isExponentMark c = false := by
    cases hmark : Decimal.isExponentMark c with
    | false => rfl
    | true =>
      have hletter := hletters c hc
      simp only [Decimal.isExponentMark, Bool.or_eq_true, beq_iff_eq] at hmark
      rcases hmark with rfl | rfl <;> exact absurd hletter (by decide)
  rw [readMagnitude?_of_head? fun c hc => hletters c (List.mem_of_mem_head? hc),
    Decimal.ofScientific?_of_unmarked hmarks] at h
  obtain ⟨decimal, hdecimal, rfl⟩ := Option.map_eq_some_iff.1 h
  exact ⟨⟨text, decimal, hdecimal⟩, rfl, rfl⟩

/-- Without letters a number is the tree of a literal, perhaps behind a sign, and has the
value of the tree. -/
theorem exists_tree_of_readNumber? {text : Text} {x : Float}
    (hletters : ∀ c ∈ text, c.isAlpha = false) (h : readNumber? text = some x) :
    (∀ c ∈ text, Display.isResultCharacter c = true) ∧
      ∃ e : Expr, Token.lex text = e.tokens ∧ e.openFactors ≤ 2 ∧
        e.denote Meaning.number = .ok x := by
  have hrun (l : Literal) (c : Char) (hc : c ∈ l.run) : Display.isResultCharacter c = true := by
    rw [Display.isResultCharacter, l.isProper.2 c hc]
    rfl
  unfold readNumber? at h
  split at h
  · next magnitude =>
    obtain ⟨y, hy, rfl⟩ := Option.map_eq_some_iff.1 h
    obtain ⟨l, rfl, rfl⟩ := exists_literal_of_readMagnitude?
      (fun c hc => hletters c (List.mem_cons_of_mem _ hc)) hy
    refine ⟨List.forall_mem_cons.2 ⟨by decide, hrun l⟩, .minus (.literal l), ?_,
      Nat.le_refl 2, rfl⟩
    rw [Token.lex_mark _ (by decide), l.lex_run]
    rfl
  · next magnitude =>
    obtain ⟨l, rfl, rfl⟩ := exists_literal_of_readMagnitude?
      (fun c hc => hletters c (List.mem_cons_of_mem _ hc)) h
    refine ⟨List.forall_mem_cons.2 ⟨by decide, hrun l⟩, .plus (.literal l), ?_,
      Nat.le_refl 2, rfl⟩
    rw [Token.lex_mark _ (by decide), l.lex_run]
    rfl
  · obtain ⟨l, rfl, rfl⟩ := exists_literal_of_readMagnitude? hletters h
    exact ⟨hrun l, .literal l, l.lex_run, Nat.le_succ 1, rfl⟩

/-! ## Functions opened in front of a tree -/

/-- A tree that needs little room evaluates, and leaves room for an opening in front of it. -/
theorem evaluateUnlimited_of_tree {e : Expr} {text : Text} {x : Float}
    (htext : Token.lex text = e.tokens) (hcount : e.openFactors ≤ 2)
    (hx : e.denote Meaning.number = .ok x) :
    evaluateUnlimited text = .ok x ∧ mostOpen text ≤ 2 := by
  have hcall := Meaning.neverRefuses_number
  have hread : readTokens Meaning.number 2 (Token.lex text) = .ok x := by
    rw [htext, readTokens_of_prints e.prints_tokens.toSum hcount, hx]
  have hrefused : readTokens Meaning.number 2 (Token.lex text) ≠ .error (.tooDeeplyNested 2) := by
    rw [hread]
    simp
  refine ⟨?_, Nat.le_of_not_lt fun hlt => hrefused ((readTokens_refused_iff hcall 2 _).2 hlt)⟩
  exact ((readTokens_refused_or_eq hcall 2 _).resolve_left hrefused).symm.trans hread

/-- A function opened in front of a tree is applied to its value. -/
theorem evaluate_name_opening (f : ScalarFunction) {e : Expr} {text : Text} {x : Float}
    (htext : Token.lex text = e.tokens) (hcount : e.openFactors ≤ 2)
    (hx : e.denote Meaning.number = .ok x) :
    evaluate (f.name ++ '(' :: text) = f.apply x := by
  obtain ⟨hvalue, hopen⟩ := evaluateUnlimited_of_tree htext hcount hx
  have hopening : f.name ++ '(' :: text = (Operation.function f).opening ++ text := by
    simp [Operation.opening, Operation.identifier]
  rw [hopening, evaluate_function_append f hvalue, if_pos]
  exact Nat.le_trans (Nat.add_le_add_right hopen 2) (by decide)

/-- The reciprocal opened in front of a tree divides one by its value. -/
theorem evaluate_reciprocal_opening {e : Expr} {text : Text} {x : Float}
    (htext : Token.lex text = e.tokens) (hcount : e.openFactors ≤ 2)
    (hx : e.denote Meaning.number = .ok x) :
    evaluate (Operation.reciprocal.opening ++ text) = .ok (1 / x) := by
  obtain ⟨hvalue, hopen⟩ := evaluateUnlimited_of_tree htext hcount hx
  rw [evaluate_reciprocal_append hvalue, if_pos]
  exact Nat.le_trans (Nat.add_le_add_right hopen 1) (by decide)

/-! ## Equals on an opened function -/

/-- An opened function is something to calculate, and it has no glyphs of its own. -/
theorem Operation.opening_is_read {operation : Operation}
    (happlies : operation = .reciprocal ∨ ∃ f, operation = .function f) :
    (∃ c more, operation.opening = c :: more ∧ isBlank c = false ∧ c ≠ 'E') ∧
      operation.opening.all (!isGlyph ·) = true := by
  rcases happlies with rfl | ⟨f, rfl⟩
  · exact ⟨⟨'1', ['/', '('], rfl, by decide, by decide⟩, by decide⟩
  · cases f <;> exact ⟨⟨_, _, rfl, by decide, by decide⟩, by decide⟩

/-- Equals on a function opened in front of a number settles what is evaluated. -/
theorem Entry.press_equals_opened (entry : Entry) {operation : Operation} {text : Text}
    (happlies : operation = .reciprocal ∨ ∃ f, operation = .function f)
    (htext : ∀ c ∈ text, Display.isResultCharacter c = true) :
    (entry.showing (operation.opening ++ text)).press .equals =
      (entry.showing (operation.opening ++ text)).forget.settle
        (outcome (evaluate (operation.opening ++ text))) := by
  obtain ⟨⟨c, more, hopening, hblank, hletter⟩, hglyphs⟩ := operation.opening_is_read happlies
  have hidle : isIdle (operation.opening ++ text) = false := by
    have herror : operation.opening ++ text ≠ Display.errorText := by
      rw [hopening]
      intro heq
      exact hletter (List.cons.inj heq).1
    rw [isIdle, decide_eq_false herror, hopening, List.cons_append, List.all_cons, hblank]
    rfl
  have hread : withoutGlyphs (operation.opening ++ text) = operation.opening ++ text := by
    apply withoutGlyphs_of_none
    intro d hd
    rcases List.mem_append.1 hd with hd | hd
    · simpa using List.all_eq_true.1 hglyphs d hd
    · exact Display.isGlyph_of_isResultCharacter (htext d hd)
  rw [Entry.press_equals hidle, Entry.expression_showing, valueOf, hread]

/-- A function key settles the value of its function on a number. -/
theorem Entry.press_operation_of_immediate? {entry : Entry} {operation effective : Operation}
    {x : Float} (heffective : entry.effective operation = effective)
    (himmediate : immediate? effective entry.expression = some x) :
    (∀ f, effective = .function f →
        entry.press (.operation operation) = entry.forget.settle (outcome (f.apply x))) ∧
      (effective = .reciprocal →
        entry.press (.operation operation) = entry.forget.settle (outcome (reciprocal x))) := by
  have hmode : entry.forget.effective operation = effective := heffective
  refine ⟨?_, ?_⟩
  · rintro f rfl
    rw [press, apply, operate, hmode]
    dsimp only
    rw [applyOrOpen, expression_forget, himmediate]
  · rintro rfl
    rw [press, apply, operate, hmode]
    dsimp only
    rw [applyOrOpen, expression_forget, himmediate]

/-- What is shown does not depend on the state before. -/
theorem Entry.expression_settle_eq (entry other : Entry) (result : Except Cause Text) :
    (entry.settle result).expression = (other.settle result).expression := by
  cases result <;> rfl

/-- What is shown is the text of a finite value or the error text. -/
theorem Entry.expression_settle_outcome (entry : Entry) (value : Except Cause Float) :
    (entry.settle (outcome value)).expression = Display.errorText ∨
      ∃ y, (Exact.ofFloat y).isFinite = true ∧
        (entry.settle (outcome value)).expression = Display.ofFloat y := by
  cases value with
  | error cause => exact .inl rfl
  | ok y =>
    rw [outcome, resultText]
    split
    · next hfinite => exact .inr ⟨y, hfinite, rfl⟩
    · exact .inl rfl

/-- The reciprocal and the division of one by a number settle alike: where the number is
zero the reciprocal refuses it, and the quotient is not finite. -/
theorem Entry.expression_settle_reciprocal (entry other : Entry) (x : Float) :
    (entry.settle (outcome (reciprocal x))).expression =
      (other.settle (outcome (.ok (1 / x)))).expression := by
  rw [reciprocal]
  split
  · next hzero =>
    have hquotient := Signs.isFinite_div_of_isZero (Signs.isZero_of_beq_zero hzero)
    rw [outcome, outcome, resultText, if_neg (by rw [hquotient]; exact Bool.false_ne_true)]
    rfl
  · exact entry.expression_settle_eq other _

/-- A function, or the reciprocal, shows the same on a number without letters when it is
applied at once and when it is opened in front of the number and calculated: the text of
the same finite value, or the error text. -/
theorem operate_eq_equals {entry : Entry} {operation effective : Operation} {x : Float}
    (heffective : entry.effective operation = effective)
    (happlies : effective = .reciprocal ∨ ∃ f, effective = .function f)
    (hletters : ∀ c ∈ entry.expression, c.isAlpha = false)
    (himmediate : immediate? effective entry.expression = some x) :
    let applied := entry.press (.operation operation)
    let deferred := (entry.showing (effective.opening ++ entry.expression)).press .equals
    applied.expression = deferred.expression ∧
      (applied.expression = Display.errorText ∨
        ∃ y, (Exact.ofFloat y).isFinite = true ∧ applied.expression = Display.ofFloat y) := by
  intro applied deferred
  have hnumber := readNumber?_of_immediate? himmediate
  obtain ⟨hcharacters, e, htext, hcount, hx⟩ := exists_tree_of_readNumber? hletters hnumber
  obtain ⟨hfunction, hreciprocal⟩ := Entry.press_operation_of_immediate? heffective himmediate
  have hdeferred := entry.press_equals_opened happlies hcharacters
  dsimp only [applied, deferred]
  rw [hdeferred]
  rcases happlies with rfl | ⟨f, rfl⟩
  · rw [hreciprocal rfl, evaluate_reciprocal_opening htext hcount hx]
    exact ⟨Entry.expression_settle_reciprocal _ _ x, Entry.expression_settle_outcome _ _⟩
  · have hopening : (Operation.function f).opening ++ entry.expression =
        f.name ++ '(' :: entry.expression := by
      simp [Operation.opening, Operation.identifier]
    rw [hfunction f rfl, hopening, evaluate_name_opening f htext hcount hx]
    exact ⟨Entry.expression_settle_eq _ _ _, Entry.expression_settle_outcome _ _⟩

/-- A negative zero has no reciprocal, and one divided by it is not finite: the screen
shows the same failure for both. -/
theorem operate_eq_equals_negative_zero :
    let entry := Entry.new.showing "-0".toList
    immediate? .reciprocal entry.expression = some (-Decimal.toFloat ⟨0, 0⟩) ∧
      (entry.press (.operation .reciprocal)).expression = Display.errorText ∧
      (entry.press (.operation .reciprocal)).lastCause = some (.domain .zeroDivisor) ∧
      ((entry.showing "1/(-0".toList).press .equals).expression = Display.errorText := by
  intro entry
  have himmediate : immediate? .reciprocal entry.expression = some (-Decimal.toFloat ⟨0, 0⟩) :=
    rfl
  have hreciprocal : reciprocal (-Decimal.toFloat ⟨0, 0⟩) = .error (.domain .zeroDivisor) := by
    have hzero : (-Decimal.toFloat ⟨0, 0⟩ == 0) = true := by decide +kernel
    rw [reciprocal, if_pos hzero]
  have hpress : entry.press (.operation .reciprocal) =
      entry.forget.failing (.domain .zeroDivisor) := by
    rw [(Entry.press_operation_of_immediate? rfl himmediate).2 rfl, hreciprocal]
    rfl
  have hletters : ∀ c ∈ entry.expression, c.isAlpha = false := by
    intro c hc
    have hcases : c = '-' ∨ c = '0' := by simpa [entry] using hc
    rcases hcases with rfl | rfl <;> decide
  have hmode : entry.effective .reciprocal = .reciprocal := rfl
  have hsame := (operate_eq_equals hmode (.inl rfl) hletters himmediate).1
  refine ⟨himmediate, by rw [hpress]; rfl, by rw [hpress]; rfl, ?_⟩
  rw [← Entry.expression_failing entry.forget (.domain .zeroDivisor), ← hpress]
  exact hsame.symm

end PocketCalculator
