import PocketCalculator.Proofs.Tracking

/-!
# What an outcome is grounded in

Reading takes tokens from the front, so what a success leaves is an end of its input, and
what a failure blames is a token of it.  Each open factor has used up a token before a factor
inside it is opened, so a refusal for nesting counts tokens as well.

Main definitions:

- {lit}`Reader.followed` is one reading after another.
- {lit}`Reader.Blames` says what in the input a failure of reading blames.
- {lit}`Reader.Grounded` extends this to successes.

Main results:

- Theorem {lit}`Reader.Grounded.andThen`: two readings one after the other are grounded if
  both are.
- Theorem {lit}`Reader.grounded_factor`: factors are grounded.
- Theorem {lit}`blames_of_readTokens`: a failure of reading blames something in its input.
-/

namespace PocketCalculator

namespace Reader

variable {α : Type} {meaning : Meaning α} {limit room : Nat} {input : List Token}

/-! ## One reading after another -/

/-- What comes of an outcome if it is a success. -/
def followed (outcome : Reading α) (next : α → List Token → Reading α) : Reading α :=
  match outcome with
  | .error cause => .error cause
  | .ok (x, rest) => next x rest

/-- A call is made of its argument. -/
theorem base_name {inner : Reader α} (letters : Text) (input : List Token) :
    base meaning inner (.name letters :: input) =
      followed (inner.run input) fun x rest => (meaning.call letters x).map (·, rest) := by
  rw [base]
  cases inner.run input with
  | error other => rfl
  | ok reading =>
    dsimp only [followed]
    cases meaning.call letters reading.1 <;> rfl

/-- Dropping a closing parenthesis leaves an end of the tokens. -/
theorem dropClosing_suffix (input : List Token) : dropClosing input <:+ input := by
  unfold dropClosing
  split
  · exact List.suffix_cons _ _
  · exact List.suffix_rfl

/-! ## Grounded outcomes -/

/-- What a failure of reading blames, when it has room for a given number of factors: the
end of the input, a token of it, or the number of its tokens. -/
inductive Blames (meaning : Meaning α) (limit room : Nat) (input : List Token) : Cause → Prop
  /-- Where the end is unexpected, nothing is blamed. -/
  | ending : Blames meaning limit room input (.unexpected none)
  /-- An unexpected token. -/
  | token {token : Token} (hmem : token ∈ input) :
      Blames meaning limit room input (.unexpected token.first?)
  /-- A run of digits and dots that is no literal. -/
  | run {run : Text} (hmem : .number run ∈ input) (hrun : Literal.ofRun? run = none) :
      Blames meaning limit room input (.malformedNumber run)
  /-- A name whose call fails. -/
  | call {name : Text} {x : α} {cause : Cause} (hmem : .name name ∈ input)
      (hcall : meaning.call name x = .error cause) : Blames meaning limit room input cause
  /-- Room is used up by tokens. -/
  | nesting (hroom : room ≤ input.length) :
      Blames meaning limit room input (.tooDeeplyNested limit)

/-- An outcome of reading that its input accounts for: a success leaves an end of the input,
and a failure blames something in it. -/
def Grounded (meaning : Meaning α) (limit room : Nat) (input : List Token) : Reading α → Prop
  | .ok (_, rest) => rest <:+ input
  | .error cause => Blames meaning limit room input cause

variable {outcome : Reading α}

/-- What the end of an input accounts for, the whole input does. -/
theorem Grounded.of_suffix {rest : List Token} (h : Grounded meaning limit room rest outcome)
    (hsuffix : rest <:+ input) : Grounded meaning limit room input outcome := by
  cases outcome with
  | ok reading => exact List.IsSuffix.trans h hsuffix
  | error cause =>
    cases h with
    | ending => exact .ending
    | token hmem => exact .token (hsuffix.mem hmem)
    | run hmem hrun => exact .run (hsuffix.mem hmem) hrun
    | call hmem hcall => exact .call (hsuffix.mem hmem) hcall
    | nesting hroom => exact .nesting (Nat.le_trans hroom hsuffix.length_le)

/-- A token in front makes up for the room of one factor. -/
theorem Grounded.cons (h : Grounded meaning limit room input outcome) (token : Token) :
    Grounded meaning limit (room + 1) (token :: input) outcome := by
  cases outcome with
  | ok reading => exact List.IsSuffix.trans h (List.suffix_cons token input)
  | error cause =>
    cases h with
    | ending => exact .ending
    | token hmem => exact .token (List.mem_cons_of_mem token hmem)
    | run hmem hrun => exact .run (List.mem_cons_of_mem token hmem) hrun
    | call hmem hcall => exact .call (List.mem_cons_of_mem token hmem) hcall
    | nesting hroom => exact .nesting (Nat.succ_le_succ hroom)

/-- What follows a grounded outcome is grounded if it is behind every success. -/
theorem Grounded.andThen (h : Grounded meaning limit room input outcome)
    (next : α → List Token → Reading α)
    (hnext : ∀ x rest, rest <:+ input → Grounded meaning limit room input (next x rest)) :
    Grounded meaning limit room input (followed outcome next) := by
  cases outcome with
  | ok reading => exact hnext reading.1 reading.2 h
  | error cause => exact h

/-- What is made of the value of a grounded outcome is grounded. -/
theorem Grounded.map (h : Grounded meaning limit room input outcome) (f : α → α) :
    Grounded meaning limit room input (followed outcome fun x rest => .ok (f x, rest)) :=
  h.andThen _ fun _ _ hsuffix => hsuffix

/-! ### Chains -/

section Chains

variable {operand : Reader α} {join? : Token → Option (α → α → α)}
  (hoperand : ∀ input, Grounded meaning limit room input (operand.run input))

include hoperand

/-- Chains of grounded operands go on as grounded. -/
theorem grounded_continueWith (left : α) (input : List Token) :
    Grounded meaning limit room input (continueWith join? operand left input) := by
  fun_induction continueWith join? operand left input with
  | case1 left => exact List.suffix_rfl
  | case2 left token input hjoin => exact List.suffix_rfl
  | case3 left token input join hjoin cause hfails =>
    have hblames := hoperand input
    rw [hfails] at hblames
    exact hblames.of_suffix (List.suffix_cons token input)
  | case4 left token input join hjoin right rest hreads _ ih =>
    have hrest := hoperand input
    rw [hreads] at hrest
    exact ih.of_suffix (List.IsSuffix.trans hrest (List.suffix_cons token input))

/-- Chains of grounded operands are grounded. -/
theorem grounded_chain (input : List Token) :
    Grounded meaning limit room input ((chain join? operand).run input) :=
  (hoperand input).andThen _ fun left rest hsuffix =>
    (grounded_continueWith hoperand left rest).of_suffix hsuffix

end Chains

/-! ### Factors -/

section Factors

variable {inner : Reader α}
  (hinner : ∀ input, Grounded meaning limit room input (inner.run input))

include hinner

/-- Sums of grounded factors are grounded. -/
theorem grounded_sum (input : List Token) :
    Grounded meaning limit room input ((sum meaning inner).run input) :=
  grounded_chain (grounded_chain hinner) input

/-- Bases with grounded factors inside are grounded. -/
theorem grounded_base (input : List Token) :
    Grounded meaning limit (room + 1) input (base meaning inner input) := by
  cases input with
  | nil => exact .ending
  | cons token more =>
    cases token with
    | number run =>
      rw [base]
      cases hrun : Literal.ofRun? run with
      | none => exact .run List.mem_cons_self hrun
      | some l => exact List.suffix_cons _ more
    | name letters =>
      rw [base_name]
      refine ((hinner more).cons (.name letters)).andThen _ fun x rest hsuffix => ?_
      cases hcall : meaning.call letters x with
      | ok y => exact hsuffix
      | error cause => exact .call List.mem_cons_self hcall
    | mark c =>
      by_cases hopening : c = '('
      · subst hopening
        exact ((grounded_sum hinner more).cons (.mark '(')).andThen
          (fun x rest => .ok (x, dropClosing rest))
          fun x rest hsuffix => List.IsSuffix.trans (dropClosing_suffix rest) hsuffix
      · have hmem : Token.mark c ∈ Token.mark c :: more := List.mem_cons_self
        rw [base_of_mark hopening]
        exact .token hmem

/-- Exponents with grounded factors are grounded. -/
theorem grounded_raise (x : α) (input : List Token) :
    Grounded meaning limit (room + 1) input (raise meaning inner x input) := by
  unfold raise
  split
  · next more => exact ((hinner more).cons (.mark '^')).map (meaning.power x)
  · exact List.suffix_rfl

/-- Signs in front of grounded factors are grounded, and the sign makes up for their room. -/
theorem grounded_signed (sign : α → α) (token : Token) (input : List Token) :
    Grounded meaning limit (room + 1) (token :: input) (signed sign inner input) :=
  ((hinner input).cons token).map sign

/-- Opened factors with grounded factors inside are grounded. -/
theorem grounded_opened (input : List Token) :
    Grounded meaning limit (room + 1) input (opened meaning inner input) := by
  unfold opened
  split
  · next more => exact grounded_signed hinner meaning.plus (.mark '+') more
  · next more => exact grounded_signed hinner meaning.minus (.mark '-') more
  · exact (grounded_base hinner input).andThen _
      fun x rest hsuffix => (grounded_raise hinner x rest).of_suffix hsuffix

end Factors

/-- Factors are grounded, and each of them needs a token for the room that it takes. -/
theorem grounded_factor (meaning : Meaning α) (limit room : Nat) (input : List Token) :
    Grounded meaning limit room input ((factor meaning limit room).run input) := by
  induction room generalizing input with
  | zero => exact .nesting (Nat.zero_le _)
  | succ room ih => exact grounded_opened ih input

/-- A failure of a grounded outcome blames something in the input. -/
theorem Grounded.blames {cause : Cause} (h : Grounded meaning limit room input outcome)
    (hfails : outcome = .error cause) : Blames meaning limit room input cause := by
  subst hfails
  exact h

end Reader

/-- Where an expression cannot be read, something in its tokens is blamed. -/
theorem blames_of_readTokens {α : Type} {meaning : Meaning α} {limit : Nat} {input : List Token}
    {cause : Cause} (h : readTokens meaning limit input = .error cause) :
    Reader.Blames meaning limit limit input cause := by
  have hgrounded := Reader.grounded_sum (Reader.grounded_factor meaning limit limit) input
  unfold readTokens Reader.complete at h
  split at h
  · next other hfails =>
    obtain rfl := Except.error.inj h
    exact hgrounded.blames hfails
  · exact absurd h (by simp)
  · next x token rest hreads =>
    obtain rfl : Cause.unexpected token.first? = cause := Except.error.inj h
    rw [hreads] at hgrounded
    exact .token (hgrounded.mem List.mem_cons_self)

end PocketCalculator
