import PocketCalculator.Proofs.Nesting
import PocketCalculator.Proofs.Printing
import PocketCalculator.Proofs.Signs

/-!
# Zeros in front of an expression

A zero in front of a digit, or left out in front of a dot, does not change what an
expression evaluates to.  A zero in front of a plus or minus sign makes a sum of what
would be a signed factor without it: both evaluate alike, except that the signed factor
needs room for one more.

Main results:

- Theorem {lit}`Reader.continueWith_related`: a chain preserves what its operators
  preserve of their left operands.
- Theorems {lit}`evaluate_of_zero_digit` and {lit}`evaluate_zero_dot`: zeros that belong
  to a number.
- Theorem {lit}`evaluate_of_zero_sign`: a zero in front of a sign.
- Theorem {lit}`evaluate_mark`: what cannot begin an expression.
-/

namespace PocketCalculator

namespace Reader

variable {α : Type}

/-! ## Related chains -/

/-- A chain preserves any relation that its operators preserve of their left operands. -/
theorem continueWith_related {join? : Token → Option (α → α → α)} {operand : Reader α}
    {R : α → α → Prop}
    (hjoin : ∀ token join, join? token = some join →
      ∀ x y z, R x y → R (join x z) (join y z))
    {left left' x : α} {input rest : List Token} (h : R left left')
    (hread : continueWith join? operand left input = .ok (x, rest)) :
    ∃ x', continueWith join? operand left' input = .ok (x', rest) ∧ R x x' := by
  fun_induction continueWith join? operand left input generalizing left' with
  | case1 left =>
    obtain ⟨rfl, rfl⟩ : left = x ∧ [] = rest := by simpa using hread
    exact ⟨left', by rw [continueWith], h⟩
  | case2 left token input hnone =>
    obtain ⟨rfl, rfl⟩ : left = x ∧ token :: input = rest := by simpa using hread
    exact ⟨left', by rw [continueWith, hnone], h⟩
  | case3 => exact absurd hread (by simp)
  | case4 left token input join hsome right after hright hlt ih =>
    rw [continueWith_of_join hsome, hright]
    exact ih (hjoin token join hsome left left' right h) hread

/-- Chains of products carry a change of sign outward. -/
theorem continueWith_sign (sign : Float → Float) {operand : Reader Float} {x y : Float}
    {input rest : List Token}
    (hsign : ∀ operator, Expr.operatorBinding operator = .product →
      ∀ x y, Operator.apply operator (sign x) y = sign (Operator.apply operator x y))
    (hread : continueWith (joinBy Meaning.number Operator.multiplicative?) operand x input =
      .ok (y, rest)) :
    continueWith (joinBy Meaning.number Operator.multiplicative?) operand (sign x) input =
      .ok (sign y, rest) := by
  have hjoin : ∀ token join, joinBy Meaning.number Operator.multiplicative? token = some join →
      ∀ x y z, y = sign x → join y z = sign (join x z) := by
    rintro token join hjoin x y z rfl
    obtain ⟨c, operator, -, hoperator, rfl⟩ := exists_of_joinBy hjoin
    exact hsign operator (Operator.multiplicative?_eq_some_iff.1 hoperator).2 x z
  obtain ⟨y', hread', rfl⟩ :=
    continueWith_related (R := fun x y => y = sign x) hjoin (rfl : sign x = sign x) hread
  exact hread'

/-- Chains of sums that begin alike end alike. -/
theorem continueWith_alike {operand : Reader Float} {x x' y : Float}
    {input rest : List Token} (h : Signs.Alike x x')
    (hread : continueWith (joinBy Meaning.number Operator.additive?) operand x input =
      .ok (y, rest)) :
    ∃ y', continueWith (joinBy Meaning.number Operator.additive?) operand x' input =
      .ok (y', rest) ∧ Signs.Alike y y' := by
  refine continueWith_related (R := Signs.Alike) ?_ h hread
  intro token join hjoin x y z hxy
  obtain ⟨c, operator, -, hoperator, rfl⟩ := exists_of_joinBy hjoin
  exact hxy.apply (Operator.additive?_eq_some_iff.1 hoperator).2 z

/-! ## Numbers and signs at the front -/

variable {meaning : Meaning α} {limit room : Nat}

/-- The sign that an operator of sums is in front of a factor. -/
def signOf (meaning : Meaning α) : Operator → α → α
  | .sub => meaning.minus
  | _ => meaning.plus

/-- A sign commutes with the operators of products. -/
theorem signOf_apply {operator operator' : Operator}
    (h : Expr.operatorBinding operator' = .product) (x y : Float) :
    operator'.apply (signOf Meaning.number operator x) y =
      signOf Meaning.number operator (operator'.apply x y) := by
  cases operator with
  | sub => exact Signs.apply_neg h x y
  | add => rfl
  | mul => rfl
  | div => rfl
  | rem => rfl

/-- Adding to zero or subtracting from it is alike to a sign. -/
theorem alike_signOf {operator : Operator} (h : Expr.operatorBinding operator = .sum)
    {zero : Float} (hzero : Signs.IsZero zero) (x : Float) :
    Signs.Alike (operator.apply zero x) (signOf Meaning.number operator x) := by
  cases operator with
  | add => exact (Signs.alike_apply_zero hzero x).1
  | sub => exact (Signs.alike_apply_zero hzero x).2
  | mul => exact absurd h (by decide)
  | div => exact absurd h (by decide)
  | rem => exact absurd h (by decide)

/-- A factor that begins with the symbol of a sum is signed. -/
theorem run_factor_sign {operator : Operator} (h : Expr.operatorBinding operator = .sum)
    (input : List Token) :
    (factor meaning limit (room + 1)).run (.mark operator.symbol :: input) =
      signed (signOf meaning operator) (factor meaning limit room) input := by
  cases operator with
  | add => rfl
  | sub => rfl
  | mul => exact absurd h (by decide)
  | div => exact absurd h (by decide)
  | rem => exact absurd h (by decide)

/-- A sum that begins with a number and the symbol of a sum goes on with a product. -/
theorem run_sum_number {run : Text} {l : Literal} {operator : Operator}
    (hrun : Literal.ofRun? run = some l) (hsum : Expr.operatorBinding operator = .sum)
    (input : List Token) :
    (sum meaning (factor meaning limit (room + 1))).run
        (.number run :: .mark operator.symbol :: input) =
      match (product meaning (factor meaning limit (room + 1))).run input with
      | .error cause => .error cause
      | .ok (x, rest) => continueWith (joinBy meaning Operator.additive?)
          (product meaning (factor meaning limit (room + 1)))
          (meaning.binary operator (meaning.literal l) x) rest := by
  have hcaret : (Token.mark operator.symbol) ≠ .mark '^' := by
    cases operator <;> decide
  have hproduct : (product meaning (factor meaning limit (room + 1))).run
      (.number run :: .mark operator.symbol :: input) =
        .ok (meaning.literal l, .mark operator.symbol :: input) := by
    refine run_product_number hrun (by simpa using hcaret) ?_
    intro token htoken
    rw [← Option.some.inj htoken, joinBy_eq_none_iff]
    rintro c hc
    rw [← Token.mark.inj hc]
    revert hsum
    cases operator <;> decide
  rw [sum_eq_chain, run_chain, hproduct]
  exact continueWith_of_join (joinBy_mark (Operator.additive?_eq_some_iff.2 ⟨rfl, hsum⟩))

/-- Without its zero a sum that begins with a signed product evaluates alike, unless it
is refused for being too deeply nested. -/
theorem run_sum_sign {run : Text} {l : Literal} {operator : Operator} {x : Float}
    {input rest : List Token} (hrun : Literal.ofRun? run = some l)
    (hzero : Signs.IsZero l.value) (hsum : Expr.operatorBinding operator = .sum)
    (hread : (sum Meaning.number (factor Meaning.number limit (room + 1))).run
      (.number run :: .mark operator.symbol :: input) = .ok (x, rest)) :
    (sum Meaning.number (factor Meaning.number limit (room + 1))).run
        (.mark operator.symbol :: input) = .error (.tooDeeplyNested limit) ∨
      ∃ y, (sum Meaning.number (factor Meaning.number limit (room + 1))).run
          (.mark operator.symbol :: input) = .ok (y, rest) ∧ Signs.Alike x y := by
  rw [run_sum_number hrun hsum] at hread
  rw [sum_eq_chain, run_chain, product, run_chain, run_factor_sign hsum, signed]
  rcases agrees_factor Meaning.number limit room input with hrefused | hsame
  · left
    rw [hrefused]
  · right
    rw [product, run_chain, hsame] at hread
    cases hfactor : (factor Meaning.number limit room).run input with
    | error cause =>
      rw [hfactor] at hread
      exact absurd hread (by simp)
    | ok reading =>
      obtain ⟨f, after⟩ := reading
      rw [hfactor] at hread
      dsimp only at hread ⊢
      cases hproduct : continueWith (joinBy Meaning.number Operator.multiplicative?)
          (factor Meaning.number limit (room + 1)) f after with
      | error cause =>
        rw [hproduct] at hread
        exact absurd hread (by simp)
      | ok reading =>
        obtain ⟨p, after'⟩ := reading
        rw [hproduct] at hread
        have hsigned := continueWith_sign (signOf Meaning.number operator)
          (fun operator' h => signOf_apply h) hproduct
        obtain ⟨y, hy, halike⟩ := continueWith_alike (alike_signOf hsum hzero p) hread
        refine ⟨y, ?_, halike⟩
        rw [hsigned]
        exact hy

/-- What no factor begins with is unexpected. -/
theorem run_sum_mark {c : Char} (hplus : c ≠ '+') (hminus : c ≠ '-') (hopen : c ≠ '(')
    (input : List Token) :
    (sum meaning (factor meaning limit (room + 1))).run (.mark c :: input) =
      .error (.unexpected (some c)) := by
  have hbase : base meaning (factor meaning limit room) (.mark c :: input) =
      .error (.unexpected (some c)) := by
    unfold base
    split
    · next h => exact absurd (Token.mark.inj (List.cons.inj h).1) hopen
    · next h => exact absurd (List.cons.inj h).1 (by simp)
    · next h => exact absurd (List.cons.inj h).1 (by simp)
    · rfl
  rw [sum_eq_chain, run_chain, product, run_chain, run_factor_succ,
    opened_of_base (by simpa using hplus) (by simpa using hminus), hbase]

end Reader

/-! ## Numbers with zeros in front -/

/-- Numbers that stand for the same numeral evaluate alike. -/
theorem readTokens_number {run run' : Text} {decimal : Decimal}
    (h : Decimal.ofPlain? run = some decimal) (h' : Decimal.ofPlain? run' = some decimal)
    (input : List Token) :
    readTokens Meaning.number nestingLimit (.number run :: input) =
      readTokens Meaning.number nestingLimit (.number run' :: input) := by
  have hrun : Literal.ofRun? run = some ⟨run, decimal, h⟩ :=
    Literal.ofRun?_run ⟨run, decimal, h⟩
  have hrun' : Literal.ofRun? run' = some ⟨run', decimal, h'⟩ :=
    Literal.ofRun?_run ⟨run', decimal, h'⟩
  simp only [readTokens, nestingLimit, Reader.sum_eq_chain, Reader.product, Reader.run_chain,
    Reader.run_factor_number hrun, Reader.run_factor_number hrun']
  rfl

/-- A run at the front of what evaluates is a numeral. -/
theorem exists_decimal_of_readTokens {run : Text} {input : List Token} {x : Float}
    (h : readTokens Meaning.number nestingLimit (.number run :: input) = .ok x) :
    ∃ decimal, Decimal.ofPlain? run = some decimal := by
  cases hrun : Literal.ofRun? run with
  | some l => exact ⟨l.decimal, (Literal.run_of_ofRun? hrun) ▸ l.reads⟩
  | none =>
    have hbase (inner : Reader Float) :
        Reader.base Meaning.number inner (.number run :: input) =
          .error (.malformedNumber run) := by
      rw [Reader.base, hrun]
    rw [readTokens, nestingLimit, Reader.sum_eq_chain, Reader.run_chain, Reader.product,
      Reader.run_chain, Reader.run_factor_succ, Reader.opened_of_base (by simp) (by simp),
      hbase] at h
    exact absurd h (by simp [Reader.complete])

/-- A zero in front of another digit can be left out. -/
theorem evaluate_of_zero_digit {c : Char} {text : Text} {x : Float} (hc : isDigit c = true)
    (h : evaluate ('0' :: c :: text) = .ok x) : evaluate (c :: text) = .ok x := by
  have hrun := isRunCharacter_of_isDigit hc
  rw [evaluate, readAs, Token.lex_run _ (by decide), List.takeWhile_cons_of_pos hrun,
    List.dropWhile_cons_of_pos hrun] at h
  rw [evaluate, readAs, Token.lex_run _ hrun]
  obtain ⟨decimal, hdecimal⟩ := exists_decimal_of_readTokens h
  rw [readTokens_number (Decimal.ofPlain?_of_zero_cons hc hdecimal) hdecimal]
  exact h

/-- In front of a dot a zero can be added. -/
theorem evaluate_zero_dot {text : Text} {x : Float} (h : evaluate ('.' :: text) = .ok x) :
    evaluate ('0' :: '.' :: text) = .ok x := by
  have hdot : isRunCharacter '.' = true := by decide
  rw [evaluate, readAs, Token.lex_run _ hdot] at h
  rw [evaluate, readAs, Token.lex_run _ (by decide), List.takeWhile_cons_of_pos hdot,
    List.dropWhile_cons_of_pos hdot]
  obtain ⟨decimal, hdecimal⟩ := exists_decimal_of_readTokens h
  rw [readTokens_number (Decimal.ofPlain?_zero_cons hdecimal) hdecimal]
  exact h

/-! ## A zero in front of another character -/

/-- The literal zero. -/
def Literal.zero : Literal := ⟨['0'], ⟨0, 0⟩, rfl⟩

/-- The literal zero has the value zero. -/
theorem Literal.isZero_value : Signs.IsZero zero.value := by
  refine ⟨.positive, ?_⟩
  rw [value, Decimal.toFloat, if_pos (.inl rfl)]
  rfl

/-- Before a character that stands alone, a zero is a number by itself. -/
theorem Token.lex_zero_mark {c : Char} (text : Text) (hc : (mark c).IsProper) :
    lex ('0' :: c :: text) = number Literal.zero.run :: mark c :: lex text := by
  rw [lex_run _ (by decide), List.takeWhile_cons_of_neg (by rw [hc.2.1]; decide),
    List.dropWhile_cons_of_neg (by rw [hc.2.1]; decide), lex_mark text hc]
  rfl

/-- Without the zero in front of its sign a list of tokens evaluates alike, unless it is
refused for being too deeply nested. -/
theorem readTokens_sign {operator : Operator} {limit : Nat} {input : List Token} {x : Float}
    (hsum : Expr.operatorBinding operator = .sum)
    (h : readTokens Meaning.number (limit + 1)
      (.number Literal.zero.run :: .mark operator.symbol :: input) = .ok x) :
    readTokens Meaning.number (limit + 1) (.mark operator.symbol :: input) =
        .error (.tooDeeplyNested (limit + 1)) ∨
      ∃ y, readTokens Meaning.number (limit + 1) (.mark operator.symbol :: input) = .ok y ∧
        Signs.Alike x y := by
  unfold readTokens at h ⊢
  cases hread : (Reader.sum Meaning.number
      (Reader.factor Meaning.number (limit + 1) (limit + 1))).run
        (.number Literal.zero.run :: .mark operator.symbol :: input) with
  | error cause =>
    rw [hread] at h
    exact absurd h (by simp [Reader.complete])
  | ok reading =>
    obtain ⟨x', rest⟩ := reading
    rw [hread] at h
    rcases Reader.run_sum_sign (Literal.ofRun?_run _) Literal.isZero_value hsum hread with
      hrefused | ⟨y, hy, halike⟩
    · left
      rw [hrefused]
      rfl
    · right
      cases rest with
      | nil =>
        obtain rfl : x' = x := by simpa [Reader.complete] using h
        refine ⟨y, ?_, halike⟩
        rw [hy]
        rfl
      | cons token rest => exact absurd h (by simp [Reader.complete])

/-- A zero in front of a sign makes a sum of what would be a signed factor.  Without it
the text evaluates alike, unless it is too deeply nested. -/
theorem evaluate_of_zero_sign {operator : Operator} {text : Text} {x : Float}
    (hsum : Expr.operatorBinding operator = .sum)
    (h : evaluate ('0' :: operator.symbol :: text) = .ok x) :
    evaluate (operator.symbol :: text) = .error (.tooDeeplyNested nestingLimit) ∨
      ∃ y, evaluate (operator.symbol :: text) = .ok y ∧ Signs.Alike x y := by
  have hproper := Expr.isProper_symbol operator
  rw [evaluate, readAs, Token.lex_zero_mark text hproper] at h
  rw [evaluate, readAs, Token.lex_mark text hproper]
  exact readTokens_sign hsum h

/-- A zero in front of what is no operator leaves it unexpected. -/
theorem evaluate_zero_mark {c : Char} (text : Text) (hc : (Token.mark c).IsProper)
    (hfollows : c ∉ followers) :
    evaluate ('0' :: c :: text) = .error (.unexpected (some c)) := by
  rw [evaluate, readAs, Token.lex_zero_mark text hc]
  have hprints : Expr.Prints .sum (.literal Literal.zero) [.number Literal.zero.run] 1 :=
    .ofProduct (.ofFactor (.ofBase (.literal Literal.zero)))
  have hstops (d : Char) (hd : d ∈ followers) : Token.mark c ≠ .mark d := by
    intro heq
    rw [Token.mark.inj heq] at hfollows
    exact hfollows hd
  exact readTokens_of_prints_append hprints (by decide) rfl hstops

/-- What no expression begins with is unexpected. -/
theorem evaluate_mark {c : Char} (text : Text) (hc : (Token.mark c).IsProper)
    (hbegins : c ∉ ['+', '-', '(']) :
    evaluate (c :: text) = .error (.unexpected (some c)) := by
  rw [evaluate, readAs, Token.lex_mark text hc, readTokens, nestingLimit, Reader.run_sum_mark
    (fun h => hbegins (by simp [h])) (fun h => hbegins (by simp [h]))
    (fun h => hbegins (by simp [h]))]
  rfl

end PocketCalculator
