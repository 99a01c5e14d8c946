import PocketCalculator.Entry.State
import PocketCalculator.Proofs.LeadingZeros
import PocketCalculator.Proofs.Rereading

/-!
# Typing an expression

The placeholder of a calculator with nothing entered is a zero that gives way to most
symbols, so the zeros that an expression is typed with at its front are not all on the
screen.  What is on the screen still has the value of what was typed, with one
exception: an operator typed after nothing but zeros replaces them.  A sign then stands
in front of its operand, and any other operator has lost its left operand.

Main definitions:

- {lit}`Typing.entered` is what typing a text leaves on the screen.
- {lit}`Typing.operatorAfterZeros?` finds the operator that replaces leading zeros.

Main results:

- Theorem {lit}`Typing.expression_pressAll`: typing leaves {lit}`entered` on the screen.
- Theorem {lit}`Typing.evaluate_entered`: where no operator replaces zeros, what is on
  the screen evaluates to what was typed.
-/

namespace PocketCalculator

namespace Typing

/-! ## Keys -/

/-- The operators of the keypad. -/
def isOperator (c : Char) : Bool := c ∈ ['+', '-', '×', '÷', '^']

/-- The characters of the keypad that an expression is typed with. -/
def isKeypadCharacter (c : Char) : Bool := isDigit c || c ∈ ['.', '(', ')'] || isOperator c

/-- The character that stands for a symbol in an expression to be read. -/
def asRead (c : Char) : Char := if c = '×' then '*' else if c = '÷' then '/' else c

/-- The keys that type a text. -/
def symbolKeys (text : Text) : List Key := text.map fun c => .symbol [c]

/-- A character of the keypad is a digit or one of eight marks. -/
theorem keypad_cases {c : Char} (h : isKeypadCharacter c = true) :
    isDigit c = true ∨
      c ∈ ['.', '(', ')', '+', '-', '×', '÷', '^'] := by
  simp only [isKeypadCharacter, isOperator, Bool.or_eq_true, decide_eq_true_eq] at h
  rcases h with (h | h) | h
  · exact .inl h
  · exact .inr (List.mem_append_left ['+', '-', '×', '÷', '^'] h)
  · exact .inr (List.mem_append_right ['.', '(', ')'] h)

/-- A property of digits and of the eight marks holds of the keypad. -/
theorem keypad_induction {P : Char → Prop} (digit : ∀ c, isDigit c = true → P c)
    (marks : P '.' ∧ P '(' ∧ P ')' ∧ P '+' ∧ P '-' ∧ P '×' ∧ P '÷' ∧ P '^')
    {c : Char} (h : isKeypadCharacter c = true) : P c := by
  rcases keypad_cases h with h | h
  · exact digit c h
  · obtain ⟨hdot, hopen, hclose, hplus, hminus, htimes, hdivided, hcaret⟩ := marks
    simp only [List.mem_cons, List.not_mem_nil, or_false] at h
    rcases h with rfl | rfl | rfl | rfl | rfl | rfl | rfl | rfl <;> assumption

/-- Only the glyphs of multiplication and division are read as other characters. -/
theorem withoutGlyphs_eq_map {text : Text} (h : ∀ c ∈ text, isKeypadCharacter c = true) :
    withoutGlyphs text = text.map asRead := by
  induction text with
  | nil => rfl
  | cons c text ih =>
    have hrest := ih fun d hd => h d (List.mem_cons_of_mem _ hd)
    have hsquare : c ≠ '²' ∧ c ≠ '√' := by
      refine keypad_induction (P := fun c => c ≠ '²' ∧ c ≠ '√') ?_ (by decide)
        (h c List.mem_cons_self)
      rintro c hc
      constructor <;> rintro rfl <;> exact absurd hc (by decide)
    rw [List.map_cons, asRead]
    unfold withoutGlyphs
    split
    · next heq => exact absurd heq (List.cons_ne_nil _ _)
    · next heq => exact absurd (List.cons.inj heq).1 hsquare.2
    · next heq =>
      obtain ⟨rfl, rfl⟩ := List.cons.inj heq
      rw [hrest]
      by_cases htimes : c = '×'
      · rw [if_pos htimes, if_pos htimes]
      by_cases hdivided : c = '÷'
      · rw [if_neg htimes, if_neg htimes, if_pos hdivided, if_pos hdivided]
      · rw [if_neg htimes, if_neg htimes, if_neg hdivided, if_neg hdivided, if_neg hsquare.1]

/-! ## What typing leaves on the screen -/

/-- What is left on the screen of a text typed after nothing: leading zeros give way to
what follows them, and a dot or a closing parenthesis is added to one zero. -/
def entered (text : Text) : Text :=
  match text.dropWhile (· == '0') with
  | [] => placeholder
  | c :: more => if c = '.' ∨ c = ')' then '0' :: c :: more else c :: more

/-- After anything but the placeholder every symbol is added. -/
theorem expression_pressAll_of_ne {text : Text} (hkeys : ∀ c ∈ text, isKeypadCharacter c = true)
    (entry : Entry) (hne : entry.expression ≠ []) (hentered : entry.expression ≠ placeholder) :
    (entry.pressAll (symbolKeys text)).expression = entry.expression ++ text := by
  induction text generalizing entry with
  | nil => exact (List.append_nil _).symm
  | cons c text ih =>
    have hpercent : [c] ≠ ['%'] := by
      intro heq
      have hc := hkeys c List.mem_cons_self
      rw [(List.cons.inj heq).1] at hc
      exact absurd hc (by decide)
    have hstep : (entry.press (.symbol [c])).expression = entry.expression ++ [c] :=
      afterSymbol_of_ne_placeholder hentered hpercent
    have hlong : entry.expression ++ [c] ≠ placeholder := by
      intro heq
      have hlength := congrArg List.length heq
      rw [List.length_append] at hlength
      exact hne (List.length_eq_zero_iff.1 (by simpa [placeholder] using hlength))
    rw [symbolKeys, List.map_cons, Entry.pressAll_cons, ← symbolKeys,
      ih (fun d hd => hkeys d (List.mem_cons_of_mem _ hd)) _ (by simp [hstep])
        (by rw [hstep]; exact hlong), hstep, List.append_assoc]
    rfl

/-- A symbol after the placeholder. -/
theorem afterSymbol_placeholder {c : Char} (h : isKeypadCharacter c = true) :
    afterSymbol placeholder [c] = if c = '.' ∨ c = ')' then ['0', c] else [c] := by
  refine keypad_induction (P := fun c => afterSymbol placeholder [c] =
    if c = '.' ∨ c = ')' then ['0', c] else [c]) ?_ (by decide +kernel) h
  intro c hc
  have hmarks : c ≠ '.' ∧ c ≠ ')' ∧ c ≠ '%' := by
    refine ⟨?_, ?_, ?_⟩ <;> rintro rfl <;> exact absurd hc (by decide)
  rw [if_neg (by simp [hmarks])]
  simp [afterSymbol, replacesPlaceholder, hc, hmarks]

/-- Typing after nothing leaves {lit}`entered` on the screen. -/
theorem expression_pressAll {text : Text} (hkeys : ∀ c ∈ text, isKeypadCharacter c = true)
    (entry : Entry) (hempty : entry.expression = placeholder) :
    (entry.pressAll (symbolKeys text)).expression = entered text := by
  induction text generalizing entry with
  | nil => exact hempty
  | cons c text ih =>
    have hrest : ∀ d ∈ text, isKeypadCharacter d = true :=
      fun d hd => hkeys d (List.mem_cons_of_mem _ hd)
    have hstep : (entry.press (.symbol [c])).expression = afterSymbol placeholder [c] :=
      congrArg (afterSymbol · [c]) hempty
    rw [symbolKeys, List.map_cons, Entry.pressAll_cons, ← symbolKeys]
    by_cases hzero : c = '0'
    · subst hzero
      have hsame : afterSymbol placeholder ['0'] = placeholder :=
        (afterSymbol_placeholder (by decide)).trans (if_neg (by decide))
      have hentered : entered ('0' :: text) = entered text := by
        rw [entered, List.dropWhile_cons_of_pos (by decide), ← entered]
      rw [hentered]
      exact ih hrest _ (hstep.trans hsame)
    · rw [afterSymbol_placeholder (hkeys c List.mem_cons_self)] at hstep
      have hdrop : (c :: text).dropWhile (· == '0') = c :: text :=
        List.dropWhile_cons_of_neg (by simpa using hzero)
      rw [expression_pressAll_of_ne hrest, hstep, entered, hdrop]
      · dsimp only
        split <;> rfl
      · rw [hstep]
        split <;> simp
      · rw [hstep]
        split <;> simp [placeholder, hzero]

/-! ## What it evaluates to -/

/-- The operator that follows the leading zeros of a text, when there are any. -/
def operatorAfterZeros? (text : Text) : Option Char :=
  if text.head? = some '0' then (text.dropWhile (· == '0')).head?.filter isOperator else none

/-- A text is a number of zeros and what remains without them. -/
theorem exists_zeros (text : Text) :
    ∃ n, text = List.replicate n '0' ++ text.dropWhile (· == '0') ∧
      (text.head? = some '0' ↔ n ≠ 0) := by
  refine ⟨(text.takeWhile (· == '0')).length, ?_, ?_⟩
  · have hzeros : text.takeWhile (· == '0') =
        List.replicate (text.takeWhile (· == '0')).length '0' := by
      rw [List.eq_replicate_iff]
      refine ⟨rfl, fun c hc => ?_⟩
      exact eq_of_beq (List.all_eq_true.1 (List.all_takeWhile (p := (· == '0'))) c hc)
    rw [← hzeros, List.takeWhile_append_dropWhile]
  · cases text with
    | nil => simp
    | cons c text =>
      by_cases hc : c = '0'
      · simp [hc]
      · simp [hc]

/-- Of zeros in front of a text that evaluates all but one can be left out. -/
theorem evaluate_of_zeros {n : Nat} {text : Text} {x : Float}
    (h : evaluate (List.replicate (n + 1) '0' ++ text) = .ok x) :
    evaluate ('0' :: text) = .ok x := by
  induction n with
  | zero => exact h
  | succ n ih => exact ih (evaluate_of_zero_digit (by decide) h)

/-- Reading a key as a character changes no digit. -/
theorem asRead_of_isDigit {c : Char} (h : isDigit c = true) : asRead c = c := by
  have htimes : c ≠ '×' := by
    rintro rfl
    exact absurd h (by decide)
  have hdivided : c ≠ '÷' := by
    rintro rfl
    exact absurd h (by decide)
  rw [asRead, if_neg htimes, if_neg hdivided]

/-- A key that takes the place of the zero and is no operator is a digit: a parenthesis
opened behind a zero has no value. -/
theorem isDigit_of_evaluate_zero {c : Char} {more : Text} {x : Float}
    (hc : isKeypadCharacter c = true) (hjoins : ¬(c = '.' ∨ c = ')'))
    (hoperator : isOperator c = false) (h : evaluate ('0' :: asRead c :: more) = .ok x) :
    isDigit c = true := by
  rcases keypad_cases hc with hdigit | hmark
  · exact hdigit
  · obtain rfl : c = '(' := by
      revert hoperator hjoins
      simp only [List.mem_cons, List.not_mem_nil, or_false] at hmark
      rcases hmark with rfl | rfl | rfl | rfl | rfl | rfl | rfl | rfl <;> decide
    have hopening := evaluate_zero_mark more
      (c := '(') ⟨by decide, by decide, by decide⟩ (by decide)
    exact absurd (h.symm.trans hopening) (by simp)

/-- Where no operator replaces zeros, what is on the screen evaluates to what was
typed. -/
theorem evaluate_entered {text : Text} {x : Float} (hne : text ≠ [])
    (hkeys : ∀ c ∈ text, isKeypadCharacter c = true)
    (hvalue : evaluate (text.map asRead) = .ok x) (hnone : operatorAfterZeros? text = none) :
    evaluate ((entered text).map asRead) = .ok x := by
  obtain ⟨n, hsplit, hhead⟩ := exists_zeros text
  rw [operatorAfterZeros?] at hnone
  rw [entered]
  generalize text.dropWhile (· == '0') = rest at *
  have hmap : text.map asRead = List.replicate n '0' ++ rest.map asRead := by
    rw [hsplit, List.map_append, List.map_replicate]
    rfl
  rw [hmap] at hvalue
  cases rest with
  | nil =>
    cases n with
    | zero => exact absurd hsplit hne
    | succ n => exact evaluate_of_zeros hvalue
  | cons c more =>
    have hc : isKeypadCharacter c = true := hkeys c (by rw [hsplit]; simp)
    dsimp only
    by_cases hjoins : c = '.' ∨ c = ')'
    · rw [if_pos hjoins]
      cases n with
      | succ n => exact evaluate_of_zeros hvalue
      | zero =>
        rcases hjoins with rfl | rfl
        · exact evaluate_zero_dot hvalue
        · have hclosing := evaluate_mark (more.map asRead)
            (c := ')') ⟨by decide, by decide, by decide⟩ (by decide)
          exact absurd (hvalue.symm.trans hclosing) (by simp)
    · rw [if_neg hjoins]
      cases n with
      | zero => exact hvalue
      | succ n =>
        have hzero : evaluate ('0' :: asRead c :: more.map asRead) = .ok x :=
          evaluate_of_zeros hvalue
        have hoperator : isOperator c = false := by
          rw [if_pos (hhead.2 (Nat.succ_ne_zero n))] at hnone
          simpa using hnone
        have hdigit := isDigit_of_evaluate_zero hc hjoins hoperator hzero
        have hsame := asRead_of_isDigit hdigit
        rw [hsame] at hzero
        rw [List.map_cons, hsame]
        exact evaluate_of_zero_digit hdigit hzero

/-- An operator that replaces zeros stands first on the screen, and a zero before it
gives what was typed. -/
theorem entered_of_operatorAfterZeros? {text : Text} {c : Char} {x : Float}
    (hvalue : evaluate (text.map asRead) = .ok x) (h : operatorAfterZeros? text = some c) :
    ∃ more, entered text = c :: more ∧ isOperator c = true ∧
      evaluate ('0' :: asRead c :: more.map asRead) = .ok x := by
  obtain ⟨n, hsplit, hhead⟩ := exists_zeros text
  rw [operatorAfterZeros?] at h
  rw [entered]
  generalize text.dropWhile (· == '0') = rest at *
  have hmap : text.map asRead = List.replicate n '0' ++ rest.map asRead := by
    rw [hsplit, List.map_append, List.map_replicate]
    rfl
  rw [hmap] at hvalue
  split at h
  · next hzero =>
    obtain ⟨n, rfl⟩ := Nat.exists_eq_succ_of_ne_zero (hhead.1 hzero)
    obtain ⟨hfirst, hoperator⟩ := Option.filter_eq_some_iff.1 h
    obtain ⟨more, rfl⟩ : ∃ more, rest = c :: more := by
      cases rest with
      | nil => exact absurd hfirst (by simp)
      | cons d more =>
        rw [Option.some.inj hfirst]
        exact ⟨more, rfl⟩
    have hstays : ¬ (c = '.' ∨ c = ')') := by
      rintro (rfl | rfl) <;> exact absurd hoperator (by decide)
    refine ⟨more, ?_, hoperator, evaluate_of_zeros hvalue⟩
    dsimp only
    rw [if_neg hstays]
  · exact absurd h (by simp)

/-! ## Equals after typing -/

/-- What typing leaves on the screen consists of keypad characters. -/
theorem isKeypadCharacter_of_mem_entered {text : Text}
    (hkeys : ∀ c ∈ text, isKeypadCharacter c = true) {c : Char} (hc : c ∈ entered text) :
    isKeypadCharacter c = true := by
  have hrest (d : Char) (hd : d ∈ text.dropWhile (· == '0')) : isKeypadCharacter d = true :=
    hkeys d ((List.dropWhile_suffix _).mem hd)
  rw [entered] at hc
  split at hc
  · rw [List.mem_singleton.1 hc]
    decide
  · next d more hdrop =>
    rw [hdrop] at hrest
    split at hc
    · rcases List.mem_cons.1 hc with rfl | hc
      · decide
      · exact hrest c hc
    · exact hrest c hc

/-- The screen is never empty after typing. -/
theorem entered_ne_nil (text : Text) : entered text ≠ [] := by
  rw [entered]
  split
  · exact List.cons_ne_nil _ _
  · split <;> exact List.cons_ne_nil _ _

/-- No character of the keypad is blank or begins the error text. -/
theorem visible_of_isKeypadCharacter {c : Char} (h : isKeypadCharacter c = true) :
    isBlank c = false ∧ c ≠ 'E' := by
  refine keypad_induction (P := fun c => isBlank c = false ∧ c ≠ 'E') ?_ (by decide +kernel) h
  intro c hc
  have hresult : Display.isResultCharacter c = true := by
    rw [Display.isResultCharacter, isRunCharacter_of_isDigit hc]
    rfl
  exact ⟨Display.isBlank_of_isResultCharacter hresult,
    (Display.code_of_isResultCharacter hresult).2.2⟩

/-- What typing leaves on the screen is something to calculate. -/
theorem isIdle_entered {text : Text} (hkeys : ∀ c ∈ text, isKeypadCharacter c = true) :
    isIdle (entered text) = false := by
  obtain ⟨c, more, htext⟩ := List.exists_cons_of_ne_nil (entered_ne_nil text)
  have hc : isKeypadCharacter c = true :=
    isKeypadCharacter_of_mem_entered hkeys (by rw [htext]; exact List.mem_cons_self)
  obtain ⟨hblank, hletter⟩ := visible_of_isKeypadCharacter hc
  have herror : c :: more ≠ Display.errorText := by
    intro heq
    exact hletter (List.cons.inj heq).1
  rw [isIdle, htext, List.all_cons, hblank, Bool.false_and, Bool.false_or]
  exact decide_eq_false herror

/-- Typing a text and pressing equals settles what the screen evaluates to. -/
theorem pressAll_equals {text : Text} (hkeys : ∀ c ∈ text, isKeypadCharacter c = true) :
    ∃ entry : Entry, Entry.new.pressAll (symbolKeys text ++ [.equals]) =
      entry.forget.settle (outcome (evaluate ((entered text).map asRead))) := by
  have hscreen := expression_pressAll hkeys Entry.new rfl
  have hread : withoutGlyphs (entered text) = (entered text).map asRead :=
    withoutGlyphs_eq_map fun c hc => isKeypadCharacter_of_mem_entered hkeys hc
  refine ⟨Entry.new.pressAll (symbolKeys text), ?_⟩
  rw [Entry.pressAll_append, Entry.pressAll_cons, Entry.pressAll_nil,
    Entry.press_equals (by rw [hscreen, isIdle_entered hkeys]), hscreen, valueOf, hread]

/-- A settled value is shown, and no cause is recorded. -/
theorem settle_value (entry : Entry) {x : Float} (hfinite : (Exact.ofFloat x).isFinite = true) :
    (entry.forget.settle (outcome (.ok x))).expression = Display.ofFloat x ∧
      (entry.forget.settle (outcome (.ok x))).lastCause = none := by
  rw [outcome, resultText_eq_ok_iff.2 ⟨hfinite, rfl⟩]
  exact ⟨rfl, rfl⟩

/-- A sign that has replaced a zero settles the same value, unless the text is refused
for being too deeply nested. -/
theorem settle_sign (entry : Entry) {operator : Operator} {text : Text} {x : Float}
    (hsum : Expr.operatorBinding operator = .sum)
    (hvalue : evaluate ('0' :: operator.symbol :: text) = .ok x)
    (hfinite : (Exact.ofFloat x).isFinite = true) :
    let final := entry.forget.settle (outcome (evaluate (operator.symbol :: text)))
    (evaluate (operator.symbol :: text) = .error (.tooDeeplyNested nestingLimit) →
        final.expression = Display.errorText ∧
          final.lastCause = some (.tooDeeplyNested nestingLimit)) ∧
      (evaluate (operator.symbol :: text) ≠ .error (.tooDeeplyNested nestingLimit) →
        final.expression = Display.ofFloat x ∧ final.lastCause = none) := by
  intro final
  refine ⟨?_, ?_⟩
  · intro hrefused
    have hfinal : final = entry.forget.failing (.tooDeeplyNested nestingLimit) := by
      dsimp only [final]
      rw [hrefused]
      rfl
    rw [hfinal]
    exact ⟨rfl, rfl⟩
  · intro hreads
    rcases evaluate_of_zero_sign hsum hvalue with hrefused | ⟨y, hy, halike⟩
    · exact absurd hrefused hreads
    · obtain ⟨htext, hsame⟩ := halike.ofFloat_eq
      dsimp only [final]
      rw [hy, htext]
      exact settle_value entry (hsame ▸ hfinite)

end Typing

open Typing in
/-- Typing an expression of finite value and pressing equals shows the value, with one
exception: an operator typed after nothing but zeros has replaced them.  A sign still
shows the value, if the text that begins with it is not too deeply nested; any other
operator is unexpected. -/
theorem equals_after_typing {text : Text} {x : Float} (hne : text ≠ [])
    (hkeys : ∀ c ∈ text, isKeypadCharacter c = true)
    (hvalue : evaluate (text.map asRead) = .ok x)
    (hfinite : (Exact.ofFloat x).isFinite = true) :
    let final := Entry.new.pressAll (symbolKeys text ++ [.equals])
    match operatorAfterZeros? text with
    | none => final.expression = Display.ofFloat x ∧ final.lastCause = none
    | some c =>
      if c = '+' ∨ c = '-' then
        (evaluate ((entered text).map asRead) = .error (.tooDeeplyNested nestingLimit) →
            final.expression = Display.errorText ∧
              final.lastCause = some (.tooDeeplyNested nestingLimit)) ∧
          (evaluate ((entered text).map asRead) ≠ .error (.tooDeeplyNested nestingLimit) →
            final.expression = Display.ofFloat x ∧ final.lastCause = none)
      else
        final.expression = Display.errorText ∧
          final.lastCause = some (.unexpected (some (asRead c))) := by
  intro final
  obtain ⟨entry, hfinal⟩ := pressAll_equals hkeys
  dsimp only [final]
  rw [hfinal]
  cases hreplaced : operatorAfterZeros? text with
  | none =>
    dsimp only
    rw [evaluate_entered hne hkeys hvalue hreplaced]
    exact settle_value entry hfinite
  | some c =>
    obtain ⟨more, hentered, hoperator, hzero⟩ := entered_of_operatorAfterZeros? hvalue hreplaced
    have hunexpected (d : Char) (hd : (Token.mark d).IsProper) (hbegins : d ∉ ['+', '-', '(']) :
        (entry.forget.settle (outcome (evaluate (d :: more.map asRead)))).expression =
            Display.errorText ∧
          (entry.forget.settle (outcome (evaluate (d :: more.map asRead)))).lastCause =
            some (.unexpected (some d)) := by
      rw [evaluate_mark _ hd hbegins]
      exact ⟨rfl, rfl⟩
    have hmem : c ∈ ['+', '-', '×', '÷', '^'] := of_decide_eq_true hoperator
    simp only [List.mem_cons, List.not_mem_nil, or_false] at hmem
    dsimp only
    rw [hentered, List.map_cons]
    rcases hmem with rfl | rfl | rfl | rfl | rfl
    · rw [if_pos (.inl rfl)]
      exact settle_sign entry (rfl : Expr.operatorBinding .add = .sum) hzero hfinite
    · rw [if_pos (.inr rfl)]
      exact settle_sign entry (rfl : Expr.operatorBinding .sub = .sum) hzero hfinite
    · rw [if_neg (by decide)]
      exact hunexpected '*' ⟨by decide, by decide, by decide⟩ (by decide)
    · rw [if_neg (by decide)]
      exact hunexpected '/' ⟨by decide, by decide, by decide⟩ (by decide)
    · rw [if_neg (by decide)]
      exact hunexpected '^' ⟨by decide, by decide, by decide⟩ (by decide)

open Typing in
/-- Zero times five is zero, but typed it is an error: the star has replaced the zero. -/
theorem zero_times_five_is_lost :
    (∃ x, evaluate ("0×5".toList.map asRead) = .ok x ∧ (Exact.ofFloat x).isFinite = true ∧
        Display.ofFloat x = "0".toList) ∧
      (Entry.new.pressAll (symbolKeys "0×5".toList ++ [.equals])).expression =
        Display.errorText := by
  let five : Literal := ⟨['5'], ⟨5, 0⟩, rfl⟩
  have hproduct : Exact.ofFloat (Literal.zero.value * five.value) = .finite false 0 := by
    decide +kernel
  have hlex : Token.lex "0*5".toList =
      (Expr.binary .mul (.literal Literal.zero) (.literal five)).tokens := by
    have hfive : Token.lex five.run = [.number five.run] :=
      (Token.lex_run [] (by decide)).trans (by rw [List.dropWhile_nil, Token.lex_nil]; rfl)
    exact (Token.lex_zero_mark ['5'] ⟨by decide, by decide, by decide⟩).trans
      (congrArg (Token.number ['0'] :: .mark '*' :: ·) hfive)
  have hread : evaluate "0*5".toList = .ok (Literal.zero.value * five.value) := by
    rw [evaluate, readAs, hlex, readTokens_of_prints (Expr.prints_tokens _).toSum (by decide)]
    simp [Expr.denote, Meaning.number, Operator.apply]
  generalize Literal.zero.value * five.value = x at hproduct hread
  refine ⟨⟨x, hread, by rw [hproduct]; rfl, ?_⟩, ?_⟩
  · exact (congrArg Display.ofExact hproduct).trans (by decide +kernel)
  · have hkeys : ∀ c ∈ "0×5".toList, isKeypadCharacter c = true :=
      List.all_eq_true.1 (by decide)
    obtain ⟨entry, hfinal⟩ := pressAll_equals hkeys
    have hscreen : (entered "0×5".toList).map asRead = "*5".toList := by decide
    have hmark := evaluate_mark (c := '*') ['5'] ⟨by decide, by decide, by decide⟩ (by decide)
    rw [hfinal, hscreen]
    exact congrArg (fun r => (entry.forget.settle (outcome r)).expression) hmark

open Typing in
/-- A number typed without its zero is shown with it. -/
theorem equals_after_typing_half :
    (Entry.new.pressAll (symbolKeys ".50".toList ++ [.equals])).expression = "0.5".toList := by
  have hhalf : ∃ x, evaluate (".50".toList.map asRead) = .ok x ∧
      Exact.ofFloat x = .finite false (2 ^ 1073) := by
    let l : Literal := ⟨".50".toList, ⟨50, -2⟩, rfl⟩
    have hunits : Exact.nearestUnits (50 * Exact.one) (10 ^ 2) = 2 ^ 1073 := by decide +kernel
    refine ⟨l.signedValue false, evaluate_sign_append false l, ?_⟩
    rw [← hunits]
    exact Display.ofFloat_signedValue false (Decimal.ofFloat_toFloat (by decide) _)
  obtain ⟨x, hvalue, hunits⟩ := hhalf
  have hfinite : (Exact.ofFloat x).isFinite = true := by rw [hunits]; rfl
  have htext : Display.ofFloat x = "0.5".toList :=
    (congrArg Display.ofExact hunits).trans (by decide +kernel)
  have hkeys : ∀ c ∈ ".50".toList, isKeypadCharacter c = true :=
    List.all_eq_true.1 (by decide)
  have hshown := equals_after_typing (by decide) hkeys hvalue hfinite
  have hnone : operatorAfterZeros? ".50".toList = none := by decide
  rw [hnone] at hshown
  exact hshown.1.trans htext

end PocketCalculator
