import PocketCalculator.Expression.Meaning
import PocketCalculator.Expression.Token

/-!
# Reading an expression

An expression is read from its tokens by this grammar, in which chains associate
to the left and the closing parenthesis may be missing.

```text
sum     ::=  product (('+' | '-') product)*
product ::=  factor (('*' | '/' | '%') factor)*
factor  ::=  ('+' | '-') factor  |  base ('^' factor)?
base    ::=  '(' sum ')'?  |  number  |  name factor
```

A factor is open while one of its parts is being read, and the number of
factors open at once is limited.  Reading stops at the first failure.

Main definitions:

- {lit}`Reader` is a way to read a value off the front of a list of tokens.
- {lit}`Reader.chain` reads operands joined by operators.
- {lit}`Reader.factor` and {lit}`Reader.sum` read by the grammar above.
- {lit}`readAs` reads a whole text with a given meaning.

Main results:

- {lit}`Reader.run_factor_zero` and {lit}`Reader.run_factor_succ` unfold a factor by
  the number of factors that may still be opened.
-/

namespace PocketCalculator

/-- What reading a value leaves: the value and the remaining tokens. -/
abbrev Reading (α : Type) := Except Cause (α × List Token)

/-- A way to read a value off the front of a list of tokens.  Success uses up
at least one token. -/
structure Reader (α : Type) where
  /-- Reads a value. -/
  run : List Token → Reading α
  shorter : ∀ {input rest : List Token} {x : α},
    run input = .ok (x, rest) → rest.length < input.length

namespace Reader

variable {α : Type}

/-! ## Chains -/

/-- Joins a value with each operator and operand after it, from left to right. -/
def continueWith (join? : Token → Option (α → α → α)) (operand : Reader α) (left : α) :
    List Token → Reading α
  | [] => .ok (left, [])
  | token :: input =>
    match join? token with
    | none => .ok (left, token :: input)
    | some join =>
      match found : operand.run input with
      | .error cause => .error cause
      | .ok (right, rest) =>
        have : rest.length < input.length := operand.shorter found
        continueWith join? operand (join left right) rest
termination_by input => input.length

/-- Continuing a chain never gives tokens back. -/
theorem length_of_continueWith {join? : Token → Option (α → α → α)} {operand : Reader α}
    {left x : α} {input rest : List Token}
    (h : continueWith join? operand left input = .ok (x, rest)) :
    rest.length ≤ input.length := by
  fun_induction continueWith join? operand left input with
  | case1 => simp_all
  | case2 => simp_all
  | case3 => simp at h
  | case4 left token input join _ right after found _ ih =>
    have := operand.shorter found
    have := ih h
    simp only [List.length_cons]
    omega

/-- Reads operands joined by operators, from left to right. -/
def chain (join? : Token → Option (α → α → α)) (operand : Reader α) : Reader α where
  run input :=
    match operand.run input with
    | .error cause => .error cause
    | .ok (left, rest) => continueWith join? operand left rest
  shorter {input rest x} h := by
    split at h
    · simp at h
    · next found =>
      have := operand.shorter found
      have := length_of_continueWith h
      omega

/-- How a token joins two operands, given the operators that it may stand for. -/
def joinBy (meaning : Meaning α) (operator? : Char → Option Operator) :
    Token → Option (α → α → α)
  | .mark c => (operator? c).map meaning.binary
  | .number _ => none
  | .name _ => none

/-- Reads a sum whose factors are read by a given reader. -/
def sum (meaning : Meaning α) (factor : Reader α) : Reader α :=
  chain (joinBy meaning Operator.additive?)
    (chain (joinBy meaning Operator.multiplicative?) factor)

/-! ## Factors -/

/-- The failure at the front of the remaining tokens. -/
def unexpected : List Token → Cause
  | [] => .unexpected none
  | token :: _ => .unexpected token.first?

/-- Drops a closing parenthesis, if there is one. -/
def dropClosing : List Token → List Token
  | .mark ')' :: rest => rest
  | rest => rest

/-- Reads the base of a power. -/
def base (meaning : Meaning α) (inner : Reader α) : List Token → Reading α
  | .mark '(' :: input =>
    match (sum meaning inner).run input with
    | .error cause => .error cause
    | .ok (x, rest) => .ok (x, dropClosing rest)
  | .number run :: input =>
    match Literal.ofRun? run with
    | none => .error (.malformedNumber run)
    | some literal => .ok (meaning.literal literal, input)
  | .name letters :: input =>
    match inner.run input with
    | .error cause => .error cause
    | .ok (x, rest) =>
      match meaning.call letters x with
      | .error cause => .error cause
      | .ok y => .ok (y, rest)
  | input => .error (unexpected input)

/-- Reads the exponent of a base, if there is one. -/
def raise (meaning : Meaning α) (inner : Reader α) (x : α) : List Token → Reading α
  | .mark '^' :: input =>
    match inner.run input with
    | .error cause => .error cause
    | .ok (y, rest) => .ok (meaning.power x y, rest)
  | rest => .ok (x, rest)

/-- Applies a sign to the value that a reader finds. -/
def signed (sign : α → α) (inner : Reader α) (input : List Token) : Reading α :=
  match inner.run input with
  | .error cause => .error cause
  | .ok (x, rest) => .ok (sign x, rest)

/-- Reads one factor, the factors inside it with another reader. -/
def opened (meaning : Meaning α) (inner : Reader α) : List Token → Reading α
  | .mark '+' :: input => signed meaning.plus inner input
  | .mark '-' :: input => signed meaning.minus inner input
  | input =>
    match base meaning inner input with
    | .error cause => .error cause
    | .ok (x, rest) => raise meaning inner x rest

/-! ## Progress -/

/-- Dropping a closing parenthesis never adds tokens. -/
theorem length_dropClosing_le (input : List Token) :
    (dropClosing input).length ≤ input.length := by
  unfold dropClosing
  split
  · simp
  · exact Nat.le_refl _

/-- A base uses up a token. -/
theorem length_of_base {meaning : Meaning α} {inner : Reader α} {input rest : List Token}
    {x : α} (h : base meaning inner input = .ok (x, rest)) : rest.length < input.length := by
  unfold base at h
  split at h
  · split at h
    · simp at h
    · next after found =>
      have := (sum meaning inner).shorter found
      simp only [Except.ok.injEq, Prod.mk.injEq] at h
      obtain ⟨rfl, rfl⟩ := h
      have := length_dropClosing_le after
      simp only [List.length_cons]
      omega
  · split at h
    · simp at h
    · simp only [Except.ok.injEq, Prod.mk.injEq] at h
      simp [h.2]
  · split at h
    · simp at h
    · next found =>
      have := inner.shorter found
      split at h
      · simp at h
      · simp only [Except.ok.injEq, Prod.mk.injEq] at h
        obtain ⟨rfl, rfl⟩ := h
        simp only [List.length_cons]
        omega
  · simp at h

/-- An exponent, if there is one, gives no tokens back. -/
theorem length_of_raise {meaning : Meaning α} {inner : Reader α} {input rest : List Token}
    {x y : α} (h : raise meaning inner x input = .ok (y, rest)) :
    rest.length ≤ input.length := by
  unfold raise at h
  split at h
  · split at h
    · simp at h
    · next found =>
      have := inner.shorter found
      simp only [Except.ok.injEq, Prod.mk.injEq] at h
      obtain ⟨rfl, rfl⟩ := h
      simp only [List.length_cons]
      omega
  · simp only [Except.ok.injEq, Prod.mk.injEq] at h
    simp [h.2]

/-- A signed factor uses up a token. -/
theorem length_of_signed {sign : α → α} {inner : Reader α} {input rest : List Token} {x : α}
    (h : signed sign inner input = .ok (x, rest)) : rest.length < input.length := by
  unfold signed at h
  split at h
  · simp at h
  · next found =>
    have := inner.shorter found
    simp only [Except.ok.injEq, Prod.mk.injEq] at h
    obtain ⟨rfl, rfl⟩ := h
    exact this

/-- An opened factor uses up a token. -/
theorem length_of_opened {meaning : Meaning α} {inner : Reader α} {input rest : List Token}
    {x : α} (h : opened meaning inner input = .ok (x, rest)) :
    rest.length < input.length := by
  unfold opened at h
  split at h
  · exact Nat.lt_succ_of_lt (length_of_signed h)
  · exact Nat.lt_succ_of_lt (length_of_signed h)
  · split at h
    · simp at h
    · next found =>
      have := length_of_base found
      have := length_of_raise h
      omega

/-! ## Nesting -/

/-- Reads one factor when a given number of factors may still be opened.  The
limit that a refusal names is the one that reading began with. -/
def factor (meaning : Meaning α) (limit : Nat) : Nat → Reader α
  | 0 =>
    { run _ := .error (.tooDeeplyNested limit)
      shorter h := by simp at h }
  | room + 1 =>
    { run := opened meaning (factor meaning limit room)
      shorter := length_of_opened }

/-- With no room left every factor is refused, whatever it is. -/
@[simp] theorem run_factor_zero (meaning : Meaning α) (limit : Nat) (input : List Token) :
    (factor meaning limit 0).run input = .error (.tooDeeplyNested limit) := rfl

/-- With room left a factor is opened, and its parts have room for one less. -/
theorem run_factor_succ (meaning : Meaning α) (limit room : Nat) (input : List Token) :
    (factor meaning limit (room + 1)).run input =
      opened meaning (factor meaning limit room) input := rfl

/-- Accepts a value that no token follows. -/
def complete : Reading α → Except Cause α
  | .error cause => .error cause
  | .ok (x, []) => .ok x
  | .ok (_, token :: rest) => .error (unexpected (token :: rest))

end Reader

/-! ## Whole texts -/

/-- Reads a list of tokens as one expression with at most {lit}`limit` factors open at
once. -/
def readTokens {α : Type} (meaning : Meaning α) (limit : Nat) (input : List Token) :
    Except Cause α :=
  Reader.complete ((Reader.sum meaning (Reader.factor meaning limit limit)).run input)

/-- Reads a text as one expression with at most {lit}`limit` factors open at once. -/
def readAs {α : Type} (meaning : Meaning α) (limit : Nat) (text : Text) : Except Cause α :=
  readTokens meaning limit (Token.lex text)

/-- How many factors of an expression may be open at once. -/
def nestingLimit : Nat := 512

/-- The value of an expression. -/
def evaluate (text : Text) : Except Cause Float :=
  readAs Meaning.number nestingLimit text

end PocketCalculator
