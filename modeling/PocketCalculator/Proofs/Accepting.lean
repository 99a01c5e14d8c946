import PocketCalculator.Proofs.DescentPieces
import PocketCalculator.Proofs.Printing

/-!
# What reading accepts

A text that evaluates is a printed tree, up to spaces, parentheses that are not
needed and closing parentheses that are missing at its end.  Whatever a reader
takes off the front of the tokens, it has either printed it completely, or closing
parentheses are missing and nothing is left, or a parenthesis is missing in the
middle.  In the last case the next token is one that no part of the grammar can use,
so that the whole text is refused.

Main definitions:

- {lit}`Reader.Accepted` says which tree has been read.
- {lit}`Reader.Stuck` says that nothing can use the next token.

Main results:

- Theorem {lit}`Reader.accepted_or_stuck_factor`: the step from a limit to the next.
- Theorem {lit}`printed_of_evaluate`: whatever evaluates is the printed form of a tree,
  and its value is the meaning of the tree.
-/

namespace PocketCalculator

namespace Reader

open PocketCalculator.Expr (Prints Binding)

variable {α : Type} {meaning : Meaning α} {limit room : Nat}

/-- What has been read off the front of the tokens is the printed form of a tree with
the value that has been read.  If closing parentheses are missing from it, then
nothing is left. -/
def Accepted (meaning : Meaning α) (room : Nat) (least : Binding) (input rest : List Token)
    (x : α) : Prop :=
  ∃ e tokens count missing, Prints least e tokens count ∧ count ≤ room ∧
    e.denote meaning = .ok x ∧
    input ++ List.replicate missing (.mark ')') = tokens ++ rest ∧
    (missing = 0 ∨ rest = [])

/-- The next token is neither an operator nor a caret nor a closing parenthesis. -/
def Stuck (rest : List Token) : Prop :=
  ∃ token more, rest = token :: more ∧
    ∀ c ∈ ['^', '*', '/', '%', '+', '-', ')'], token ≠ .mark c

/-- What is accepted in front of a further token is complete. -/
theorem Accepted.complete {least : Binding} {input more : List Token} {token : Token} {x : α}
    (h : Accepted meaning room least input (token :: more) x) :
    ∃ e tokens count, Prints least e tokens count ∧ count ≤ room ∧
      e.denote meaning = .ok x ∧ input = tokens ++ token :: more := by
  obtain ⟨e, tokens, count, missing, hprints, hcount, hvalue, hinput, rfl | hrest⟩ := h
  · rw [List.replicate_zero, List.append_nil] at hinput
    exact ⟨e, tokens, count, hprints, hcount, hvalue, hinput⟩
  · exact absurd hrest (by simp)

/-- Where something is stuck, no given mark is next. -/
theorem Stuck.ne_mark {c : Char} {more : List Token} (h : Stuck (.mark c :: more))
    (hc : c ∈ ['^', '*', '/', '%', '+', '-', ')']) : False := by
  obtain ⟨token, after, hrest, hstuck⟩ := h
  exact hstuck c hc (List.cons.inj hrest).1.symm

/-- A looser place accepts the same. -/
theorem Accepted.map {least other : Binding} {input rest : List Token} {x : α}
    (h : Accepted meaning room least input rest x)
    (hprints : ∀ {e tokens count}, Prints least e tokens count → Prints other e tokens count) :
    Accepted meaning room other input rest x := by
  obtain ⟨e, tokens, count, missing, hleast, hrest⟩ := h
  exact ⟨e, tokens, count, missing, hprints hleast, hrest⟩

/-! ## Chains -/

/-- An operator and an accepted operand after an accepted one are accepted. -/
theorem Accepted.binary {operator : Operator} {input middle rest : List Token} {x y : α}
    (hleft : Accepted meaning room (Expr.operatorBinding operator) input
      (.mark operator.symbol :: middle) x)
    (hright : Accepted meaning room (Expr.rightBinding operator) middle rest y) :
    Accepted meaning room (Expr.operatorBinding operator) input rest
      (meaning.binary operator x y) := by
  obtain ⟨e, tokens, count, hprints, hcount, hx, rfl⟩ := hleft.complete
  obtain ⟨f, tokens', count', missing, hprints', hcount', hy, hmiddle, hmissing⟩ := hright
  refine ⟨.binary operator e f, _, _, missing, .binary operator hprints hprints',
    Nat.max_le.2 ⟨hcount, hcount'⟩, ?_, ?_, hmissing⟩
  · rw [Expr.denote, hx]
    dsimp only
    rw [hy]
  · rw [List.append_assoc, List.cons_append, hmiddle, List.append_assoc, List.cons_append]

/-- A chain accepts what its operands accept, each as a whole before the next operator. -/
theorem accepted_or_stuck_chain {least operandLeast : Binding}
    {operator? : Char → Option Operator} {operand : Reader α}
    (hoperators : ∀ {c operator}, operator? c = some operator → c = operator.symbol ∧
      Expr.operatorBinding operator = least ∧ Expr.rightBinding operator = operandLeast)
    (hoperand : ∀ {input rest x}, operand.run input = .ok (x, rest) →
      Accepted meaning room operandLeast input rest x ∨ Stuck rest)
    (hprints : ∀ {e tokens count}, Prints operandLeast e tokens count →
      Prints least e tokens count)
    {input rest : List Token} {x : α}
    (h : (chain (joinBy meaning operator?) operand).run input = .ok (x, rest)) :
    Accepted meaning room least input rest x ∨ Stuck rest := by
  have hcontinue {left : α} {middle : List Token}
      (hleft : Accepted meaning room least input middle left ∨ Stuck middle)
      (hrun : continueWith (joinBy meaning operator?) operand left middle = .ok (x, rest)) :
      Accepted meaning room least input rest x ∨ Stuck rest := by
    fun_induction continueWith (joinBy meaning operator?) operand left middle with
    | case1 left =>
      obtain ⟨rfl, rfl⟩ : left = x ∧ [] = rest := by simpa using hrun
      exact hleft
    | case2 left token middle hjoin =>
      obtain ⟨rfl, rfl⟩ : left = x ∧ token :: middle = rest := by simpa using hrun
      exact hleft
    | case3 => exact absurd hrun (by simp)
    | case4 left token middle join hjoin right after found _ ih =>
      obtain ⟨c, operator, rfl, hoperator, rfl⟩ := exists_of_joinBy hjoin
      obtain ⟨rfl, rfl, rfl⟩ := hoperators hoperator
      refine ih ?_ hrun
      rcases hleft with hleft | hstuck
      · rcases hoperand found with hright | hstuck
        · exact .inl (hleft.binary hright)
        · exact .inr hstuck
      · exact (hstuck.ne_mark (by cases operator <;> decide)).elim
  rw [run_chain] at h
  split at h
  · exact absurd h (by simp)
  next left middle hleft =>
  refine hcontinue ?_ h
  rcases hoperand hleft with haccepted | hstuck
  · exact .inl (haccepted.map hprints)
  · exact .inr hstuck

/-- A sum accepts what its factors accept. -/
theorem accepted_or_stuck_sum {inner : Reader α}
    (hinner : ∀ {input rest x}, inner.run input = .ok (x, rest) →
      Accepted meaning room .factor input rest x ∨ Stuck rest)
    {input rest : List Token} {x : α} (h : (sum meaning inner).run input = .ok (x, rest)) :
    Accepted meaning room .sum input rest x ∨ Stuck rest := by
  have hadditive {c : Char} {operator : Operator}
      (hc : Operator.additive? c = some operator) :
      c = operator.symbol ∧ Expr.operatorBinding operator = .sum ∧
        Expr.rightBinding operator = .product := by
    obtain ⟨hsymbol, hsum⟩ := Operator.additive?_eq_some_iff.1 hc
    rcases operator.levels with ⟨-, hright⟩ | ⟨hproduct, -⟩
    · exact ⟨hsymbol, hsum, hright⟩
    · rw [hsum] at hproduct
      exact absurd hproduct (by decide)
  have hmultiplicative {c : Char} {operator : Operator}
      (hc : Operator.multiplicative? c = some operator) :
      c = operator.symbol ∧ Expr.operatorBinding operator = .product ∧
        Expr.rightBinding operator = .factor := by
    obtain ⟨hsymbol, hproduct⟩ := Operator.multiplicative?_eq_some_iff.1 hc
    rcases operator.levels with ⟨hsum, -⟩ | ⟨-, hright⟩
    · rw [hproduct] at hsum
      exact absurd hsum (by decide)
    · exact ⟨hsymbol, hproduct, hright⟩
  refine accepted_or_stuck_chain hadditive ?_ .ofProduct h
  exact fun hproduct => accepted_or_stuck_chain hmultiplicative hinner .ofFactor hproduct

/-! ## Factors -/

/-- A sum in parentheses is accepted, also if the closing one is missing at the end; if
it is missing before something else, reading is stuck there. -/
theorem accepted_or_stuck_dropClosing {inner : Reader α} {more middle : List Token} {x : α}
    (havoids : inner.RestAvoids ['^'])
    (hinner : ∀ {input rest x}, inner.run input = .ok (x, rest) →
      Accepted meaning room .factor input rest x ∨ Stuck rest)
    (h : (sum meaning inner).run more = .ok (x, middle)) :
    Accepted meaning (room + 1) .base (.mark '(' :: more) (dropClosing middle) x ∨
      Stuck (dropClosing middle) := by
  rcases accepted_or_stuck_sum hinner h with haccepted | hstuck
  · cases middle with
    | nil =>
      obtain ⟨e, tokens, count, missing, hprints, hcount, hvalue, hinput, -⟩ := haccepted
      refine .inl ⟨e, _, _, missing + 1, .parentheses hprints, by omega, hvalue, ?_, .inr rfl⟩
      rw [List.append_nil] at hinput
      rw [List.replicate_succ', ← List.append_assoc, List.cons_append, hinput,
        Expr.parenthesized]
      exact (List.append_nil _).symm
    | cons token after =>
      obtain ⟨e, tokens, count, hprints, hcount, hvalue, hmore⟩ := haccepted.complete
      by_cases hclosing : token = .mark ')'
      · subst hclosing
        refine .inl ⟨e, _, _, 0, .parentheses hprints, by omega, hvalue, ?_, .inl rfl⟩
        rw [hmore]
        simp [Expr.parenthesized, dropClosing]
      · have hdrop : dropClosing (token :: after) = token :: after := by
          unfold dropClosing
          split
          · next heq => exact absurd (List.cons.inj heq).1 hclosing
          · rfl
        rw [hdrop]
        refine .inr ⟨token, after, rfl, ?_⟩
        intro c hc heq
        have hstops : c ∈ ['^', '*', '/', '%', '+', '-'] ∨ c = ')' := by
          simpa [or_assoc] using hc
        rcases hstops with hstop | rfl
        · exact restAvoids_sum havoids h c hstop (congrArg some heq)
        · exact hclosing heq
  · have hdrop : dropClosing middle = middle := by
      unfold dropClosing
      split
      · exact (hstuck.ne_mark (by decide)).elim
      · rfl
    rw [hdrop]
    exact .inr hstuck

/-- A base accepts what the factors inside it accept. -/
theorem accepted_or_stuck_base {inner : Reader α} {input rest : List Token} {x : α}
    (havoids : inner.RestAvoids ['^'])
    (hinner : ∀ {input rest x}, inner.run input = .ok (x, rest) →
      Accepted meaning room .factor input rest x ∨ Stuck rest)
    (h : base meaning inner input = .ok (x, rest)) :
    (Accepted meaning (room + 1) .base input rest x ∨ Stuck rest) ∨
      Accepted meaning (room + 1) .factor input rest x ∧ rest.head? ≠ some (.mark '^') := by
  rcases base_cases h with ⟨more, middle, rfl, hsum, rfl⟩ | ⟨l, rfl, rfl⟩ |
    ⟨name, more, z, rfl, hrun, hcall⟩
  · exact .inl (accepted_or_stuck_dropClosing havoids hinner hsum)
  · exact .inl (.inl ⟨.literal l, _, _, 0, .literal l, Nat.succ_pos _, rfl, by simp, .inl rfl⟩)
  · rcases hinner hrun with haccepted | hstuck
    · obtain ⟨e, tokens, count, missing, hprints, hcount, hz, hinput, hmissing⟩ := haccepted
      refine .inr ⟨⟨.call name e, _, _, missing, .call name hprints, by omega, ?_, ?_,
        hmissing⟩, havoids hrun '^' (by decide)⟩
      · rw [Expr.denote, hz]
        exact hcall
      · rw [List.cons_append, hinput, List.cons_append]
    · exact .inl (.inr hstuck)

/-- What a factor has read is a printed tree, or nothing can use the next token. -/
theorem accepted_or_stuck_factor (room : Nat) {input rest : List Token} {y : α}
    (h : (factor meaning limit room).run input = .ok (y, rest)) :
    Accepted meaning room .factor input rest y ∨ Stuck rest := by
  induction room generalizing input rest y with
  | zero => exact absurd h (by simp)
  | succ room ih =>
    rw [run_factor_succ] at h
    rcases opened_cases h with ⟨more, x, rfl, hrun, rfl⟩ | ⟨more, x, rfl, hrun, rfl⟩ |
      ⟨x, middle, hbase, hraise⟩
    · rcases ih hrun with haccepted | hstuck
      · obtain ⟨e, tokens, count, missing, hprints, hcount, hx, hinput, hmissing⟩ := haccepted
        refine .inl ⟨.plus e, _, _, missing, .plus hprints, by omega, ?_, ?_, hmissing⟩
        · rw [Expr.denote, hx]
        · rw [List.cons_append, hinput, List.cons_append]
      · exact .inr hstuck
    · rcases ih hrun with haccepted | hstuck
      · obtain ⟨e, tokens, count, missing, hprints, hcount, hx, hinput, hmissing⟩ := haccepted
        refine .inl ⟨.minus e, _, _, missing, .minus hprints, by omega, ?_, ?_, hmissing⟩
        · rw [Expr.denote, hx]
        · rw [List.cons_append, hinput, List.cons_append]
      · exact .inr hstuck
    rcases accepted_or_stuck_base (restAvoids_factor limit room) ih hbase with hbase | hcall
    · rcases raise_cases hraise with ⟨more, z, rfl, hrun, rfl⟩ | ⟨rfl, rfl, -⟩
      · rcases hbase with hbase | hstuck
        · obtain ⟨e, tokens, count, hprints, hcount, hx, rfl⟩ := hbase.complete
          rcases ih hrun with haccepted | hstuck
          · obtain ⟨f, tokens', count', missing, hprints', hcount', hz, hinput, hmissing⟩ :=
              haccepted
            refine .inl ⟨.power e f, _, _, missing, .power hprints hprints', by omega, ?_, ?_,
              hmissing⟩
            · rw [Expr.denote, hx]
              dsimp only
              rw [hz]
            · rw [List.append_assoc, List.cons_append, hinput, List.append_assoc,
                List.cons_append]
          · exact .inr hstuck
        · exact (hstuck.ne_mark (by decide)).elim
      · rcases hbase with hbase | hstuck
        · exact .inl (hbase.map .ofBase)
        · exact .inr hstuck
    · obtain ⟨haccepted, hcaret⟩ := hcall
      rcases raise_cases hraise with ⟨more, z, rfl, -, -⟩ | ⟨rfl, rfl, -⟩
      · exact absurd rfl hcaret
      · exact .inl haccepted

end Reader

/-! ## Whole expressions -/

/-- A tree that has a value calls only functions. -/
theorem Expr.exists_function_of_denote {e : Expr} {x : Float}
    (h : e.denote Meaning.number = .ok x) :
    ∀ name ∈ e.names, ∃ f : ScalarFunction, f.name = name := by
  induction e generalizing x with
  | literal l => exact fun name hname => absurd hname List.not_mem_nil
  | plus e ih =>
    rw [denote] at h
    split at h
    · exact absurd h (by simp)
    · next he => exact ih he
  | minus e ih =>
    rw [denote] at h
    split at h
    · exact absurd h (by simp)
    · next he => exact ih he
  | binary operator left right ihLeft ihRight =>
    rw [denote] at h
    split at h
    · exact absurd h (by simp)
    next hleft =>
    split at h
    · exact absurd h (by simp)
    next hright =>
    intro name hname
    rcases List.mem_append.1 hname with hname | hname
    · exact ihLeft hleft name hname
    · exact ihRight hright name hname
  | power base exponent ihBase ihExponent =>
    rw [denote] at h
    split at h
    · exact absurd h (by simp)
    next hbase =>
    split at h
    · exact absurd h (by simp)
    next hexponent =>
    intro name hname
    rcases List.mem_append.1 hname with hname | hname
    · exact ihBase hbase name hname
    · exact ihExponent hexponent name hname
  | call called argument ih =>
    rw [denote] at h
    split at h
    · exact absurd h (by simp)
    next hargument =>
    intro name hname
    rcases List.mem_cons.1 hname with rfl | hname
    · simp only [Meaning.number, Meaning.callNumber] at h
      split at h
      · exact absurd h (by simp)
      · next f hf => exact ⟨f, ScalarFunction.name_of_ofName? hf⟩
    · exact ih hargument name hname

/-- Tokens with a value are, with the closing parentheses that are missing, a printed tree
with this value. -/
theorem exists_prints_of_readTokens {α : Type} {meaning : Meaning α} {limit : Nat}
    {input : List Token} {x : α} (h : readTokens meaning limit input = .ok x) :
    (Reader.sum meaning (Reader.factor meaning limit limit)).run input = .ok (x, []) ∧
      ∃ e count missing,
        Expr.Prints .sum e (input ++ List.replicate missing (.mark ')')) count ∧
          count ≤ limit ∧ e.denote meaning = .ok x := by
  have hrun : (Reader.sum meaning (Reader.factor meaning limit limit)).run input =
      .ok (x, []) :=
    Reader.eq_ok_of_complete h
  refine ⟨hrun, ?_⟩
  rcases Reader.accepted_or_stuck_sum (Reader.accepted_or_stuck_factor limit) hrun
    with haccepted | ⟨_, _, hrest, -⟩
  · obtain ⟨e, tokens, count, missing, hprints, hcount, hvalue, htokens, -⟩ := haccepted
    rw [List.append_nil] at htokens
    exact ⟨e, count, missing, by rwa [htokens], hcount, hvalue⟩
  · exact absurd hrest (by simp)

/-- Nothing but printed trees evaluates.  A text with a value becomes, by adding closing
parentheses at its very end, the text of a tree: its tokens with any number of spaces
between them are a printed form of the tree, in which nothing but parentheses can be
more than the tree needs, at most as many factors are open at once as the limit allows,
and the value is the meaning of the tree, which calls only functions. -/
theorem printed_of_evaluate {text : Text} {x : Float} (h : evaluate text = .ok x) :
    ∃ e tokens count missing, Token.Written tokens (text ++ List.replicate missing ')') ∧
      Expr.Prints .sum e tokens count ∧ Expr.bare tokens = Expr.bare e.tokens ∧
      count ≤ nestingLimit ∧
      (∀ name ∈ e.names, ∃ f : ScalarFunction, f.name = name) ∧
      e.denote Meaning.number = .ok x := by
  rw [evaluate, readAs, readTokens] at h
  obtain ⟨rest, hrun, rfl⟩ : ∃ rest,
      (Reader.sum Meaning.number (Reader.factor Meaning.number nestingLimit nestingLimit)).run
        (Token.lex text) = .ok (x, rest) ∧ rest = [] := by
    unfold Reader.complete at h
    split at h
    · exact absurd h (by simp)
    · next y hrun => exact ⟨[], by rw [hrun, Except.ok.inj h], rfl⟩
    · exact absurd h (by simp)
  rcases Reader.accepted_or_stuck_sum (Reader.accepted_or_stuck_factor nestingLimit) hrun
    with haccepted | ⟨_, _, hrest, -⟩
  · obtain ⟨e, tokens, count, missing, hprints, hcount, hvalue, htokens, -⟩ := haccepted
    rw [List.append_nil] at htokens
    refine ⟨e, tokens, count, missing, ?_, hprints, Expr.bare_of_prints hprints, hcount,
      Expr.exists_function_of_denote hvalue, hvalue⟩
    rw [← htokens]
    exact (Token.written_lex text).closed missing
  · exact absurd hrest (by simp)

/-- A number in a parenthesis that nothing closes evaluates, and is a printed tree. -/
theorem printed_of_evaluate_unclosed :
    evaluate "-(7".toList = .ok (-Literal.value ⟨['7'], ⟨7, 0⟩, rfl⟩) ∧
      ∃ e tokens count missing,
        Token.Written tokens ("-(7".toList ++ List.replicate missing ')') ∧
        Expr.Prints .sum e tokens count ∧ Expr.bare tokens = Expr.bare e.tokens ∧
        count ≤ nestingLimit ∧ (∀ name ∈ e.names, ∃ f : ScalarFunction, f.name = name) ∧
        e.denote Meaning.number = .ok (-Literal.value ⟨['7'], ⟨7, 0⟩, rfl⟩) := by
  have hread {α : Type} (meaning : Meaning α) : readAs meaning nestingLimit "-(7".toList =
      .ok (meaning.minus (meaning.literal ⟨['7'], ⟨7, 0⟩, rfl⟩)) :=
    readAs_of_descend rfl
  have hvalue : evaluate "-(7".toList = .ok (-Literal.value ⟨['7'], ⟨7, 0⟩, rfl⟩) :=
    hread Meaning.number
  exact ⟨hvalue, printed_of_evaluate hvalue⟩

end PocketCalculator
