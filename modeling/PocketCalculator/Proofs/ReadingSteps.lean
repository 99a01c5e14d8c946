import PocketCalculator.Expression.Tree

/-!
# Steps of reading

What one step of reading does: how a chain goes on, what a success of each part of
the grammar says about the tokens read, and what may stand where reading has stopped.

Main definitions:

- {lit}`Reader.product` is the inner one of the two chains of a sum.
- {lit}`Reader.RestAvoids` says that the rest after a success never begins with one of
  some characters.

Main results:

- Theorems {lit}`Reader.continueWith_of_stop` and {lit}`Reader.continueWith_of_join`
  unfold one step of a chain.
- Theorems {lit}`Reader.opened_cases`, {lit}`Reader.base_cases` and
  {lit}`Reader.raise_cases` list the ways in which a factor is read.
- Theorems {lit}`Reader.restAvoids_factor`, {lit}`Reader.restAvoids_product` and
  {lit}`Reader.restAvoids_sum`: what has been read cannot be continued.
-/

namespace PocketCalculator

/-! ## Operators of a level -/

namespace Operator

/-- A character chains sums exactly if it is the symbol of an operator of sums. -/
theorem additive?_eq_some_iff {c : Char} {operator : Operator} :
    additive? c = some operator ↔
      c = operator.symbol ∧ Expr.operatorBinding operator = .sum := by
  unfold additive?
  constructor
  · intro h
    split at h
    · next hc =>
      obtain rfl := Option.some.inj h
      exact ⟨hc, rfl⟩
    split at h
    · next hc =>
      obtain rfl := Option.some.inj h
      exact ⟨hc, rfl⟩
    · exact absurd h (by simp)
  · rintro ⟨rfl, hsum⟩
    cases operator with
    | add => rfl
    | sub => rfl
    | mul => exact absurd hsum (by decide)
    | div => exact absurd hsum (by decide)
    | rem => exact absurd hsum (by decide)

/-- A character chains products exactly if it is the symbol of an operator of
products. -/
theorem multiplicative?_eq_some_iff {c : Char} {operator : Operator} :
    multiplicative? c = some operator ↔
      c = operator.symbol ∧ Expr.operatorBinding operator = .product := by
  unfold multiplicative?
  constructor
  · intro h
    split at h
    · next hc =>
      obtain rfl := Option.some.inj h
      exact ⟨hc, rfl⟩
    split at h
    · next hc =>
      obtain rfl := Option.some.inj h
      exact ⟨hc, rfl⟩
    split at h
    · next hc =>
      obtain rfl := Option.some.inj h
      exact ⟨hc, rfl⟩
    · exact absurd h (by simp)
  · rintro ⟨rfl, hproduct⟩
    cases operator with
    | add => exact absurd hproduct (by decide)
    | sub => exact absurd hproduct (by decide)
    | mul => rfl
    | div => rfl
    | rem => rfl

/-- An operator chains sums or products, and its right operand binds more tightly. -/
theorem levels (operator : Operator) :
    (Expr.operatorBinding operator = .sum ∧ Expr.rightBinding operator = .product) ∨
      (Expr.operatorBinding operator = .product ∧
        Expr.rightBinding operator = .factor) := by
  cases operator with
  | add => exact .inl ⟨rfl, rfl⟩
  | sub => exact .inl ⟨rfl, rfl⟩
  | mul => exact .inr ⟨rfl, rfl⟩
  | div => exact .inr ⟨rfl, rfl⟩
  | rem => exact .inr ⟨rfl, rfl⟩

end Operator

namespace Reader

variable {α : Type} {meaning : Meaning α}

/-- Reads a product whose factors are read by a given reader. -/
def product (meaning : Meaning α) (factor : Reader α) : Reader α :=
  chain (joinBy meaning Operator.multiplicative?) factor

/-- A sum is a chain of products. -/
theorem sum_eq_chain (meaning : Meaning α) (factor : Reader α) :
    sum meaning factor = chain (joinBy meaning Operator.additive?) (product meaning factor) :=
  rfl

/-! ## One step of a chain -/

section Steps

variable {join? : Token → Option (α → α → α)} {operand : Reader α}

/-- A chain starts with an operand. -/
theorem run_chain (join? : Token → Option (α → α → α)) (operand : Reader α)
    (input : List Token) :
    (chain join? operand).run input =
      match operand.run input with
      | .error cause => .error cause
      | .ok (left, rest) => continueWith join? operand left rest := rfl

/-- A chain stops where no operator follows. -/
theorem continueWith_of_stop {left : α} {input : List Token}
    (h : ∀ token, input.head? = some token → join? token = none) :
    continueWith join? operand left input = .ok (left, input) := by
  cases input with
  | nil => rw [continueWith]
  | cons token input =>
    rw [continueWith, h token rfl]

/-- After an operator a chain goes on with an operand. -/
theorem continueWith_of_join {left : α} {token : Token} {input : List Token}
    {join : α → α → α} (h : join? token = some join) :
    continueWith join? operand left (token :: input) =
      match operand.run input with
      | .error cause => .error cause
      | .ok (right, rest) => continueWith join? operand (join left right) rest := by
  rw [continueWith, h]
  dsimp only
  split
  · next hrun => rw [hrun]
  · next hrun => rw [hrun]

/-- What follows a chain does not join anything to it. -/
theorem head?_of_continueWith {left x : α} {input rest : List Token}
    (h : continueWith join? operand left input = .ok (x, rest)) :
    ∀ token, rest.head? = some token → join? token = none := by
  fun_induction continueWith join? operand left input with
  | case1 left =>
    obtain ⟨rfl, rfl⟩ : left = x ∧ [] = rest := by simpa using h
    exact fun token htoken => absurd htoken (by simp)
  | case2 left token input hjoin =>
    obtain ⟨rfl, rfl⟩ : left = x ∧ token :: input = rest := by simpa using h
    intro other hother
    obtain rfl := Option.some.inj hother
    exact hjoin
  | case3 => exact absurd h (by simp)
  | case4 left token input join _ right after found _ ih => exact ih h

end Steps

/-- A mark joins what its operator says. -/
theorem joinBy_mark {operator? : Char → Option Operator} {c : Char} {operator : Operator}
    (h : operator? c = some operator) :
    joinBy meaning operator? (.mark c) = some (meaning.binary operator) := by
  rw [joinBy, h]
  rfl

/-- Only the mark of an operator joins. -/
theorem exists_of_joinBy {operator? : Char → Option Operator} {token : Token}
    {join : α → α → α} (h : joinBy meaning operator? token = some join) :
    ∃ c operator, token = .mark c ∧ operator? c = some operator ∧
      join = meaning.binary operator := by
  cases token with
  | number run => exact absurd h (by simp [joinBy])
  | name letters => exact absurd h (by simp [joinBy])
  | mark c =>
    obtain ⟨operator, hoperator, rfl⟩ := Option.map_eq_some_iff.1 h
    exact ⟨c, operator, rfl, hoperator, rfl⟩

/-- A mark joins nothing if it is no operator. -/
theorem joinBy_eq_none_iff {operator? : Char → Option Operator} {token : Token} :
    joinBy meaning operator? token = none ↔ ∀ c, token = .mark c → operator? c = none := by
  cases token with
  | number run => simp [joinBy]
  | name letters => simp [joinBy]
  | mark c => simp [joinBy]

/-! ## The ways to read a factor -/

section Cases

variable {inner : Reader α} {input rest : List Token} {x y : α}

/-- A factor is a signed factor, or a base with or without an exponent. -/
theorem opened_cases (h : opened meaning inner input = .ok (y, rest)) :
    (∃ more x, input = .mark '+' :: more ∧ inner.run more = .ok (x, rest) ∧
        y = meaning.plus x) ∨
      (∃ more x, input = .mark '-' :: more ∧ inner.run more = .ok (x, rest) ∧
        y = meaning.minus x) ∨
      ∃ x middle, base meaning inner input = .ok (x, middle) ∧
        raise meaning inner x middle = .ok (y, rest) := by
  have hsigned {sign : α → α} {more : List Token}
      (h : signed sign inner more = .ok (y, rest)) :
      ∃ x, inner.run more = .ok (x, rest) ∧ y = sign x := by
    unfold signed at h
    split at h
    · exact absurd h (by simp)
    · next x after hrun =>
      obtain ⟨rfl, rfl⟩ : sign x = y ∧ after = rest := by simpa using h
      exact ⟨x, hrun, rfl⟩
  unfold opened at h
  split at h
  · next more =>
    obtain ⟨x, hrun, hx⟩ := hsigned h
    exact .inl ⟨more, x, rfl, hrun, hx⟩
  · next more =>
    obtain ⟨x, hrun, hx⟩ := hsigned h
    exact .inr (.inl ⟨more, x, rfl, hrun, hx⟩)
  · split at h
    · exact absurd h (by simp)
    · next x middle hbase => exact .inr (.inr ⟨x, middle, hbase, h⟩)

/-- A base is a sum in parentheses, a literal, or the call of a name. -/
theorem base_cases (h : base meaning inner input = .ok (x, rest)) :
    (∃ more middle, input = .mark '(' :: more ∧
        (sum meaning inner).run more = .ok (x, middle) ∧ rest = dropClosing middle) ∨
      (∃ l : Literal, input = .number l.run :: rest ∧ x = meaning.literal l) ∨
      ∃ name more z, input = .name name :: more ∧ inner.run more = .ok (z, rest) ∧
        meaning.call name z = .ok x := by
  unfold base at h
  split at h
  · next more =>
    split at h
    · exact absurd h (by simp)
    · next z middle hrun =>
      obtain ⟨rfl, rfl⟩ : z = x ∧ dropClosing middle = rest := by simpa using h
      exact .inl ⟨more, middle, rfl, hrun, rfl⟩
  · next run more =>
    split at h
    · exact absurd h (by simp)
    · next l hl =>
      obtain ⟨rfl, rfl⟩ : meaning.literal l = x ∧ more = rest := by simpa using h
      obtain rfl := Literal.run_of_ofRun? hl
      exact .inr (.inl ⟨l, rfl, rfl⟩)
  · next name more =>
    split at h
    · exact absurd h (by simp)
    · next z after hrun =>
      split at h
      · exact absurd h (by simp)
      · next value hcall =>
        obtain ⟨rfl, rfl⟩ : value = x ∧ after = rest := by simpa using h
        exact .inr (.inr ⟨name, more, z, rfl, hrun, hcall⟩)
  · exact absurd h (by simp)

/-- A base is raised to an exponent exactly if a caret follows. -/
theorem raise_cases (h : raise meaning inner x input = .ok (y, rest)) :
    (∃ more z, input = .mark '^' :: more ∧ inner.run more = .ok (z, rest) ∧
        y = meaning.power x z) ∨
      rest = input ∧ y = x ∧ input.head? ≠ some (.mark '^') := by
  unfold raise at h
  split at h
  · next more =>
    split at h
    · exact absurd h (by simp)
    · next z after hrun =>
      obtain ⟨rfl, rfl⟩ : meaning.power x z = y ∧ after = rest := by simpa using h
      exact .inl ⟨more, z, rfl, hrun, rfl⟩
  · next hcaret =>
    obtain ⟨rfl, rfl⟩ : x = y ∧ input = rest := by simpa using h
    refine .inr ⟨rfl, rfl, ?_⟩
    intro hhead
    cases input with
    | nil => exact absurd hhead (by simp)
    | cons token input =>
      obtain rfl := Option.some.inj hhead
      exact hcaret input rfl

/-- A factor that begins with no sign is a base and perhaps an exponent. -/
theorem opened_of_base (hplus : input.head? ≠ some (.mark '+'))
    (hminus : input.head? ≠ some (.mark '-')) :
    opened meaning inner input =
      match base meaning inner input with
      | .error cause => .error cause
      | .ok (x, rest) => raise meaning inner x rest := by
  unfold opened
  split
  · exact absurd rfl hplus
  · exact absurd rfl hminus
  · rfl

/-- Without a caret there is no exponent. -/
theorem raise_of_stop (h : input.head? ≠ some (.mark '^')) :
    raise meaning inner x input = .ok (x, input) := by
  unfold raise
  split
  · exact absurd rfl h
  · rfl

/-- Only a closing parenthesis is dropped. -/
theorem dropClosing_of_ne {token : Token} (h : token ≠ .mark ')') (more : List Token) :
    dropClosing (token :: more) = token :: more := by
  unfold dropClosing
  split
  · next heq => exact absurd (List.cons.inj heq).1 h
  · rfl

/-- A factor that begins with a number is its literal, perhaps with an exponent. -/
theorem run_factor_number {limit room : Nat} {run : Text} {l : Literal}
    (h : Literal.ofRun? run = some l) (input : List Token) :
    (factor meaning limit (room + 1)).run (.number run :: input) =
      raise meaning (factor meaning limit room) (meaning.literal l) input := by
  have hbase : base meaning (factor meaning limit room) (.number run :: input) =
      .ok (meaning.literal l, input) := by
    rw [base, h]
  rw [run_factor_succ, opened_of_base (by simp) (by simp), hbase]

/-- A product is a number where no exponent and no operator of products follows it. -/
theorem run_product_number {limit room : Nat} {run : Text} {l : Literal}
    (h : Literal.ofRun? run = some l) (hcaret : input.head? ≠ some (.mark '^'))
    (hstop : ∀ token, input.head? = some token →
      joinBy meaning Operator.multiplicative? token = none) :
    (product meaning (factor meaning limit (room + 1))).run (.number run :: input) =
      .ok (meaning.literal l, input) := by
  rw [product, run_chain, run_factor_number h, raise_of_stop hcaret]
  exact continueWith_of_stop hstop

/-- What is complete has nothing left. -/
theorem eq_ok_of_complete {reading : Reading α} (h : complete reading = .ok x) :
    reading = .ok (x, []) := by
  unfold complete at h
  split at h
  · exact absurd h (by simp)
  · rw [Except.ok.inj h]
  · exact absurd h (by simp)

end Cases

/-! ## What may follow -/

/-- The rest after a success never begins with one of some characters. -/
def RestAvoids (reader : Reader α) (stops : List Char) : Prop :=
  ∀ {input rest : List Token} {x : α}, reader.run input = .ok (x, rest) →
    ∀ c ∈ stops, rest.head? ≠ some (.mark c)

/-- A factor takes every exponent that follows it. -/
theorem restAvoids_factor (limit room : Nat) :
    (factor meaning limit room).RestAvoids ['^'] := by
  induction room with
  | zero => exact fun h => absurd h (by simp)
  | succ room ih =>
    intro input rest y h
    rw [run_factor_succ] at h
    rcases opened_cases h with
      ⟨_, _, -, hrun, -⟩ | ⟨_, _, -, hrun, -⟩ | ⟨x, middle, -, hraise⟩
    · exact ih hrun
    · exact ih hrun
    rcases raise_cases hraise with ⟨_, _, -, hrun, -⟩ | ⟨rfl, -, hcaret⟩
    · exact ih hrun
    · intro c hc
      rw [List.mem_singleton.1 hc]
      exact hcaret

/-- A chain takes every operator that follows it, and leaves its last operand as its
operands are left. -/
theorem restAvoids_chain {operator? : Char → Option Operator} {operand : Reader α}
    {stops : List Char} (h : operand.RestAvoids stops) {symbols : List Char}
    (hsymbols : ∀ c ∈ symbols, operator? c ≠ none) :
    (chain (joinBy meaning operator?) operand).RestAvoids (stops ++ symbols) := by
  have hcontinue {left x : α} {input rest : List Token}
      (hinput : ∀ c ∈ stops, input.head? ≠ some (.mark c))
      (hrun : continueWith (joinBy meaning operator?) operand left input = .ok (x, rest)) :
      ∀ c ∈ stops, rest.head? ≠ some (.mark c) := by
    fun_induction continueWith (joinBy meaning operator?) operand left input with
    | case1 left =>
      obtain ⟨-, rfl⟩ : left = x ∧ [] = rest := by simpa using hrun
      exact hinput
    | case2 left token input hjoin =>
      obtain ⟨-, rfl⟩ : left = x ∧ token :: input = rest := by simpa using hrun
      exact hinput
    | case3 => exact absurd hrun (by simp)
    | case4 left token input join _ right after found _ ih => exact ih (h found) hrun
  intro input rest x hrun c hc
  rw [run_chain] at hrun
  split at hrun
  · exact absurd hrun (by simp)
  next left middle hleft =>
  rcases List.mem_append.1 hc with hc | hc
  · exact hcontinue (h hleft) hrun c hc
  · intro hhead
    have hjoin := joinBy_eq_none_iff.1 (head?_of_continueWith hrun _ hhead)
    exact hsymbols c hc (hjoin c rfl)

/-- A product takes every operator of products that follows it. -/
theorem restAvoids_product {inner : Reader α} (h : inner.RestAvoids ['^']) :
    (product meaning inner).RestAvoids ['^', '*', '/', '%'] :=
  restAvoids_chain h (by simp [Operator.multiplicative?])

/-- A sum takes every operator that follows it. -/
theorem restAvoids_sum {inner : Reader α} (h : inner.RestAvoids ['^']) :
    (sum meaning inner).RestAvoids ['^', '*', '/', '%', '+', '-'] :=
  restAvoids_chain (restAvoids_product h) (by simp [Operator.additive?])

end Reader

end PocketCalculator
