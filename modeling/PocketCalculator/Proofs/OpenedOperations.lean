import PocketCalculator.Key
import PocketCalculator.Proofs.DescentPieces
import PocketCalculator.Proofs.Numerals
import PocketCalculator.Proofs.OpenFactors

/-!
# Operations opened in front of an expression

The text that opens an operation ends in a parenthesis that it leaves open.  Whatever
expression is typed behind it becomes the argument as a whole, and the value is that of the
operation, with factors of the operation's own open around those of the expression.

Main results:

- Theorem {lit}`Reader.run_sum_of_room`: how much room a sum needs that reads without a
  limit.
- Theorem {lit}`Reader.run_factor_parenthesis`: an open parenthesis takes in all that follows.
- Theorems {lit}`evaluate_function_append` and {lit}`evaluate_reciprocal_append`: what an
  opened operation makes of an expression that has a value without a limit.
- Theorem {lit}`evaluate_opening_append`: what it makes of an expression that evaluates.
-/

namespace PocketCalculator

/-! ## Room for an expression -/

/-- No more factors are open at once than there are tokens, and one. -/
theorem mostOpenIn_le_length {α : Type} {meaning : Meaning α} (hcall : meaning.NeverRefuses)
    (input : List Token) : mostOpenIn meaning input ≤ input.length + 1 := by
  refine Nat.le_of_not_lt fun hlt => ?_
  have hrefused := (readTokens_refused_iff hcall (input.length + 1) input).2 hlt
  rw [readTokens_eq_readUnlimited hcall (Nat.lt_succ_self _)] at hrefused
  exact readUnlimited_ne_refused hcall input _ hrefused

namespace Reader

variable {α : Type} {meaning : Meaning α} {input rest : List Token} {x : α}

/-- A sum that reads without a limit reads the same with room for its open factors, and is
refused with less, whatever limit the refusal names. -/
theorem run_sum_of_room (hcall : meaning.NeverRefuses) (limit room : Nat)
    (h : (sum meaning (unlimited meaning)).run input = .ok (x, rest)) :
    (sum meaning (factor meaning limit room)).run input =
      if mostOpenIn meaning input ≤ room then .ok (x, rest)
      else .error (.tooDeeplyNested limit) := by
  have hread (name : Nat) :
      (sum meaning (factor meaning name room)).run input = .error (.tooDeeplyNested name) ∨
        (sum meaning (factor meaning name room)).run input = .ok (x, rest) := by
    rw [← h, eq_comm (b := (sum meaning (unlimited meaning)).run input)]
    exact agrees_sum meaning (agrees_unlimited hcall name room) input
  have hroom : (sum meaning (factor meaning room room)).run input =
      .error (.tooDeeplyNested room) ↔ room < mostOpenIn meaning input := by
    rw [← readTokens_refused_iff hcall, readTokens, complete_eq_refused_iff]
  have hrename (name name' : Nat)
      (hok : (sum meaning (factor meaning name room)).run input = .ok (x, rest)) :
      (sum meaning (factor meaning name' room)).run input = .ok (x, rest) := by
    rcases agrees_sum meaning
      (agrees_factor_of_le meaning name name' (Nat.le_refl room)) input with hrefused | hsame
    · rw [hok] at hrefused
      exact absurd hrefused (by simp)
    · rw [hsame, hok]
  split
  · next hopen =>
    rcases hread room with hrefused | hok
    · exact absurd (hroom.1 hrefused) (Nat.not_lt_of_le hopen)
    · exact hrename room limit hok
  · next hopen =>
    rcases hread limit with hrefused | hok
    · exact hrefused
    · have hrefused := hroom.2 (Nat.lt_of_not_le hopen)
      rw [hrename limit room hok] at hrefused
      exact absurd hrefused (by simp)

/-- An open parenthesis takes in an expression up to the end. -/
theorem run_factor_parenthesis (hcall : meaning.NeverRefuses) (limit room : Nat)
    (h : (sum meaning (unlimited meaning)).run input = .ok (x, [])) :
    (factor meaning limit (room + 1)).run (.mark '(' :: input) =
      if mostOpenIn meaning input ≤ room then .ok (x, [])
      else .error (.tooDeeplyNested limit) := by
  rw [run_factor_succ, opened_of_base (by simp) (by simp), base,
    run_sum_of_room hcall limit room h]
  by_cases hopen : mostOpenIn meaning input ≤ room
  · rw [if_pos hopen]
    rfl
  · rw [if_neg hopen]

end Reader

/-! ## Openings as tokens -/

/-- The literal one. -/
def Literal.one : Literal := ⟨['1'], ⟨1, 0⟩, rfl⟩

/-- The name of a function in front of a parenthesis is a token of its own. -/
theorem Token.lex_name_opening (f : ScalarFunction) (text : Text) :
    lex (f.name ++ '(' :: text) = name f.name :: mark '(' :: lex text := by
  have hproper : (name f.name).IsProper := by
    cases f with
    | log10 => exact .inl rfl
    | _ => exact .inr ⟨by decide, List.all_eq_true.1 (by decide)⟩
  have hstops : (name f.name).StopsBefore ('(' :: text) := by
    refine .inr ⟨fun c hc => by rw [← Option.some.inj hc]; decide, ?_⟩
    intro hlog
    cases f <;> exact absurd hlog (by decide)
  have hlex : lex (f.name ++ '(' :: text) = name f.name :: lex ('(' :: text) :=
    lex_spelling hproper hstops
  rw [hlex, lex_mark _ (by decide)]

/-- The opening of the reciprocal is the literal one and a division by what is in the
parenthesis. -/
theorem Token.lex_reciprocal_opening (text : Text) :
    lex (Operation.reciprocal.opening ++ text) =
      number Literal.one.run :: mark '/' :: mark '(' :: lex text := by
  have hone : lex (Literal.one.run ++ '/' :: '(' :: text) =
      number Literal.one.run :: lex ('/' :: '(' :: text) :=
    lex_spelling Literal.one.isProper fun c hc => by rw [← Option.some.inj hc]; decide
  exact hone.trans (by rw [lex_mark _ (by decide), lex_mark _ (by decide)])

/-! ## Opened operations -/

/-- An opened function is applied to the whole expression behind it, with two factors open
around those of the expression. -/
theorem evaluate_function_append (f : ScalarFunction) {text : Text} {x : Float}
    (h : evaluateUnlimited text = .ok x) :
    evaluate ((Operation.function f).opening ++ text) =
      if mostOpen text + 2 ≤ nestingLimit then f.apply x
      else .error (.tooDeeplyNested nestingLimit) := by
  have hlex : Token.lex ((Operation.function f).opening ++ text) =
      .name f.name :: .mark '(' :: Token.lex text := by
    rw [← Token.lex_name_opening]
    simp [Operation.opening, Operation.identifier]
  have hargument := Reader.run_factor_parenthesis Meaning.neverRefuses_number 512 510
    (Reader.eq_ok_of_complete h)
  have hroom : mostOpen text + 2 ≤ 512 ↔ mostOpenIn Meaning.number (Token.lex text) ≤ 510 :=
    Nat.add_le_add_iff_right (n := 2)
  have hcall : Meaning.number.call f.name x = f.apply x := by
    simp [Meaning.number, Meaning.callNumber]
  simp only [nestingLimit, hroom]
  rw [evaluate, readAs, hlex, readTokens, nestingLimit, Reader.sum_eq_chain, Reader.run_chain,
    Reader.product, Reader.run_chain, Reader.run_factor_succ,
    Reader.opened_of_base (by simp) (by simp), Reader.base, hargument]
  by_cases hopen : mostOpenIn Meaning.number (Token.lex text) ≤ 510
  · rw [if_pos hopen, if_pos hopen]
    dsimp only
    rw [hcall]
    cases f.apply x with
    | error cause => rfl
    | ok y => simp [Reader.raise, Reader.continueWith, Reader.complete]
  · rw [if_neg hopen, if_neg hopen]
    rfl

/-- An opened reciprocal divides one by the whole expression behind it, with one factor open
around those of the expression. -/
theorem evaluate_reciprocal_append {text : Text} {x : Float}
    (h : evaluateUnlimited text = .ok x) :
    evaluate (Operation.reciprocal.opening ++ text) =
      if mostOpen text + 1 ≤ nestingLimit then .ok (1 / x)
      else .error (.tooDeeplyNested nestingLimit) := by
  have hdivisor := Reader.run_factor_parenthesis Meaning.neverRefuses_number 512 511
    (Reader.eq_ok_of_complete h)
  have hroom : mostOpen text + 1 ≤ 512 ↔ mostOpenIn Meaning.number (Token.lex text) ≤ 511 :=
    Nat.add_le_add_iff_right (n := 1)
  have hone : Literal.one.value = 1 := by decide +kernel
  have hjoin : Reader.joinBy Meaning.number Operator.multiplicative? (.mark '/') =
      some (Meaning.number.binary .div) := rfl
  simp only [nestingLimit, hroom]
  rw [evaluate, readAs, Token.lex_reciprocal_opening, readTokens, nestingLimit,
    Reader.sum_eq_chain, Reader.run_chain, Reader.product, Reader.run_chain,
    Reader.run_factor_number (Literal.ofRun?_run _), Reader.raise_of_stop (by simp)]
  dsimp only
  rw [Reader.continueWith_of_join hjoin, hdivisor]
  by_cases hopen : mostOpenIn Meaning.number (Token.lex text) ≤ 511
  · rw [if_pos hopen, if_pos hopen]
    dsimp only
    rw [Reader.continueWith_of_stop (by simp)]
    dsimp only
    rw [Reader.continueWith_of_stop (by simp)]
    simp [Reader.complete, Meaning.number, Operator.apply, hone]
  · rw [if_neg hopen, if_neg hopen]
    rfl

/-- The text that opens an operation means the operation.  In front of an expression with a
value, that of a function gives what the function makes of the value, be it another value
or a fault of its domain, and that of the reciprocal divides one by it.  The expression is
taken in as a whole, and refused only where it leaves no room for the factors of the
opening, two for a function and one for the reciprocal. -/
theorem evaluate_opening_append {text : Text} {x : Float} (h : evaluate text = .ok x) :
    (∀ f : ScalarFunction,
        evaluate ((Operation.function f).opening ++ text) =
            (if mostOpen text + 2 ≤ nestingLimit then f.apply x
              else .error (.tooDeeplyNested nestingLimit)) ∧
          ∀ cause, f.apply x = .error cause → ∃ fault, cause = .domain fault) ∧
      evaluate (Operation.reciprocal.opening ++ text) =
        (if mostOpen text + 1 ≤ nestingLimit then .ok (1 / x)
          else .error (.tooDeeplyNested nestingLimit)) := by
  have hunlimited : evaluateUnlimited text = .ok x := by
    rcases readTokens_refused_or_eq Meaning.neverRefuses_number nestingLimit (Token.lex text)
      with hrefused | hsame
    · exact absurd (hrefused.symm.trans h) (by simp)
    · exact hsame.symm.trans h
  exact ⟨fun f => ⟨evaluate_function_append f hunlimited,
    fun _ => ScalarFunction.exists_fault_of_apply⟩, evaluate_reciprocal_append hunlimited⟩

/-- The logarithm to the base ten takes in the digits behind it, though its name ends in
digits. -/
theorem evaluate_opening_append_digits :
    let x := Literal.value ⟨['2', '5'], ⟨25, 0⟩, rfl⟩
    evaluate "25".toList = .ok x ∧
      evaluate "log10(25".toList = ScalarFunction.log10.apply x ∧
      evaluate "1/(25".toList = .ok (1 / x) := by
  intro x
  have hread {α : Type} (meaning : Meaning α) : readAs meaning nestingLimit "25".toList =
      .ok (meaning.literal ⟨['2', '5'], ⟨25, 0⟩, rfl⟩) :=
    readAs_of_descend rfl
  have hvalue : evaluate "25".toList = .ok x := hread Meaning.number
  have hopen : mostOpen "25".toList ≤ 3 :=
    Nat.le_trans (mostOpenIn_le_length Meaning.neverRefuses_number _)
      (Nat.succ_le_succ (Token.length_lex_le "25".toList))
  obtain ⟨hfunction, hreciprocal⟩ := evaluate_opening_append hvalue
  refine ⟨hvalue, (hfunction .log10).1.trans (if_pos ?_), hreciprocal.trans (if_pos ?_)⟩
  · exact Nat.le_trans (Nat.add_le_add_right hopen 2) (by decide)
  · exact Nat.le_trans (Nat.add_le_add_right hopen 1) (by decide)

end PocketCalculator
