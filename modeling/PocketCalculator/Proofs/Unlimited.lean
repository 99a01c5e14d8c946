import PocketCalculator.Proofs.Grounding
import PocketCalculator.Proofs.Nesting

/-!
# Reading without a limit

The same descent without any limit on open factors.  A factor uses up a token before one
of its parts is opened, so that room for one factor more than there are tokens never runs
out: reading with that much room obeys the recursion in which no room is counted.

Main definitions:

- {lit}`Reader.unlimited` reads one factor without a limit.
- {lit}`evaluateUnlimited` is the value of an expression without a limit.

Main results:

- Theorem {lit}`Reader.run_unlimited`: the parts of an unlimited factor are unlimited.
- Theorem {lit}`Reader.agrees_unlimited`: a limited factor that is not refused reads the same
  without a limit.
- Theorem {lit}`readTokens_eq_readUnlimited`: a limit beyond the number of tokens is none.
-/

namespace PocketCalculator

/-- A function fails only outside its domain: a square root below zero, and a logarithm at
zero and below. -/
theorem ScalarFunction.cause_of_apply {f : ScalarFunction} {x : Float} {cause : Cause}
    (h : f.apply x = .error cause) :
    f = .sqrt ∧ cause = .domain .negativeSquareRoot ∨
      (f = .ln ∨ f = .log10) ∧ cause = .domain .nonPositiveLogarithm := by
  have hguarded (outside : Prop) [Decidable outside] (fault : DomainFault) (y : Float)
      (h : (if outside then .error (.domain fault) else .ok y) = Except.error cause) :
      cause = .domain fault := by
    split at h
    · exact (Except.error.inj h).symm
    · exact absurd h (by simp)
  cases f with
  | sqrt => exact .inl ⟨rfl, hguarded _ _ _ h⟩
  | log10 => exact .inr ⟨.inr rfl, hguarded _ _ _ h⟩
  | ln => exact .inr ⟨.inl rfl, hguarded _ _ _ h⟩
  | _ => exact absurd h (by simp [apply])

/-- The failure of a function is a fault of its domain. -/
theorem ScalarFunction.exists_fault_of_apply {f : ScalarFunction} {x : Float} {cause : Cause}
    (h : f.apply x = .error cause) : ∃ fault, cause = .domain fault := by
  rcases cause_of_apply h with ⟨-, rfl⟩ | ⟨-, rfl⟩
  · exact ⟨_, rfl⟩
  · exact ⟨_, rfl⟩

/-- The calls of a meaning are never refused for nesting, which is the business of reading. -/
def Meaning.NeverRefuses {α : Type} (meaning : Meaning α) : Prop :=
  ∀ name x limit, meaning.call name x ≠ .error (.tooDeeplyNested limit)

/-- A call with doubles fails by a name that belongs to no function, or by the argument of
the function that the name belongs to. -/
theorem Meaning.call_number_error_cases {name : Text} {x : Float} {cause : Cause}
    (h : Meaning.number.call name x = .error cause) :
    (∀ f : ScalarFunction, f.name ≠ name) ∧ cause = .unknownFunction name ∨
      ∃ f : ScalarFunction, f.name = name ∧ f.apply x = .error cause := by
  simp only [Meaning.number, Meaning.callNumber] at h
  split at h
  · next hnone =>
    refine .inl ⟨?_, (Except.error.inj h).symm⟩
    rintro f rfl
    exact absurd (ScalarFunction.ofName?_name f) (by simp [hnone])
  · next f hf => exact .inr ⟨f, ScalarFunction.name_of_ofName? hf, h⟩

/-- A call with doubles fails by its name or by its argument. -/
theorem Meaning.cause_of_call_number {name : Text} {x : Float} {cause : Cause}
    (h : Meaning.number.call name x = .error cause) :
    cause = .unknownFunction name ∨ ∃ fault, cause = .domain fault := by
  rcases call_number_error_cases h with ⟨-, hcause⟩ | ⟨f, -, hfails⟩
  · exact .inl hcause
  · exact .inr (ScalarFunction.exists_fault_of_apply hfails)

/-- Computing with doubles is never refused for nesting. -/
theorem Meaning.neverRefuses_number : Meaning.number.NeverRefuses := by
  intro name x limit h
  rcases cause_of_call_number h with hname | ⟨fault, hfault⟩
  · exact absurd hname (by simp)
  · exact absurd hfault (by simp)

namespace Reader

variable {α : Type} {meaning : Meaning α} {input : List Token}

/-! ## Enough room -/

/-- A refusal for nesting blames at least as many tokens as there is room for factors. -/
theorem Blames.room_le (hcall : meaning.NeverRefuses) {limit room limit' : Nat}
    (h : Blames meaning limit room input (.tooDeeplyNested limit')) : room ≤ input.length := by
  cases h with
  | call _ hfails => exact absurd hfails (hcall _ _ _)
  | nesting hroom => exact hroom

/-- With room for more factors than there are tokens no factor is refused: each open factor
has used up a token before the next one inside it is opened. -/
theorem run_factor_ne_refused (hcall : meaning.NeverRefuses) {limit room : Nat}
    (h : input.length < room) (limit' : Nat) :
    (factor meaning limit room).run input ≠ .error (.tooDeeplyNested limit') := by
  intro hrefused
  have hblames := (grounded_factor meaning limit room input).blames hrefused
  exact absurd (hblames.room_le hcall) (Nat.not_le.2 h)

/-- Reads one factor without a limit on open factors. -/
def unlimited (meaning : Meaning α) : Reader α where
  run input := (factor meaning 0 (input.length + 1)).run input
  shorter h := (factor meaning 0 _).shorter h

/-- Without a limit nothing is refused for nesting. -/
theorem run_unlimited_ne_refused (hcall : meaning.NeverRefuses) (input : List Token)
    (limit : Nat) : (unlimited meaning).run input ≠ .error (.tooDeeplyNested limit) :=
  run_factor_ne_refused hcall (Nat.lt_succ_self _) limit

/-- A limited factor that is not refused reads the same without a limit. -/
theorem agrees_unlimited (hcall : meaning.NeverRefuses) (limit room : Nat) :
    Agrees (.tooDeeplyNested limit) (factor meaning limit room) (unlimited meaning) := by
  intro input
  have hroom := agrees_factor_of_le meaning limit 0
    (Nat.le_max_left room (input.length + 1)) input
  have hunlimited := agrees_factor_of_le meaning 0 0
    (Nat.le_max_right room (input.length + 1)) input
  rcases hroom with hrefused | hsame
  · exact .inl hrefused
  rcases hunlimited with hrefused | hsame'
  · exact absurd hrefused (run_unlimited_ne_refused hcall input 0)
  · exact .inr (hsame'.symm.trans hsame)

/-- The recursion without a limit: a factor is opened, and its parts are unlimited too. -/
theorem run_unlimited (hcall : meaning.NeverRefuses) (input : List Token) :
    (unlimited meaning).run input = opened meaning (unlimited meaning) input := by
  rcases agrees_opened (agrees_unlimited hcall 0 input.length) input with hrefused | hsame
  · exact absurd hrefused (run_unlimited_ne_refused hcall input 0)
  · exact hsame.symm

/-- A factor without a limit is grounded, whatever the room. -/
theorem grounded_unlimited (hcall : meaning.NeverRefuses) (limit room : Nat)
    (input : List Token) :
    Grounded meaning limit room input ((unlimited meaning).run input) := by
  have hgrounded := grounded_factor meaning 0 (input.length + 1) input
  have hrefused := run_unlimited_ne_refused hcall input
  rw [unlimited] at hrefused ⊢
  dsimp only at hrefused ⊢
  cases houtcome : (factor meaning 0 (input.length + 1)).run input with
  | ok reading =>
    rw [houtcome] at hgrounded
    exact hgrounded
  | error cause =>
    cases hgrounded.blames houtcome with
    | ending => exact .ending
    | token hmem => exact .token hmem
    | run hmem hrun => exact .run hmem hrun
    | call hmem hfails => exact .call hmem hfails
    | nesting _ => exact absurd houtcome (hrefused 0)

/-- Without a limit no sum is refused for nesting. -/
theorem run_sum_unlimited_ne_refused (hcall : meaning.NeverRefuses) (input : List Token)
    (limit : Nat) :
    (sum meaning (unlimited meaning)).run input ≠ .error (.tooDeeplyNested limit) := by
  intro hrefused
  have hgrounded := grounded_sum (grounded_unlimited hcall limit (input.length + 1)) input
  exact absurd ((hgrounded.blames hrefused).room_le hcall) (Nat.not_succ_le_self _)

end Reader

/-! ## Whole expressions -/

/-- Reads a list of tokens as one expression without a limit on open factors. -/
def readUnlimited {α : Type} (meaning : Meaning α) (input : List Token) : Except Cause α :=
  Reader.complete ((Reader.sum meaning (Reader.unlimited meaning)).run input)

/-- The value of an expression without a limit on open factors. -/
def evaluateUnlimited (text : Text) : Except Cause Float :=
  readUnlimited Meaning.number (Token.lex text)

section Whole

variable {α : Type} {meaning : Meaning α}

/-- Completing an outcome refuses nothing for nesting. -/
theorem Reader.complete_eq_refused_iff {reading : Reading α} {limit : Nat} :
    Reader.complete reading = .error (.tooDeeplyNested limit) ↔
      reading = .error (.tooDeeplyNested limit) := by
  unfold Reader.complete
  split <;> simp [Reader.unexpected]

/-- Without a limit no expression is refused for nesting. -/
theorem readUnlimited_ne_refused (hcall : meaning.NeverRefuses) (input : List Token)
    (limit : Nat) : readUnlimited meaning input ≠ .error (.tooDeeplyNested limit) := by
  rw [readUnlimited, ne_eq, Reader.complete_eq_refused_iff]
  exact Reader.run_sum_unlimited_ne_refused hcall input limit

/-- An expression that is not refused reads the same without a limit. -/
theorem readTokens_refused_or_eq (hcall : meaning.NeverRefuses) (limit : Nat)
    (input : List Token) :
    readTokens meaning limit input = .error (.tooDeeplyNested limit) ∨
      readTokens meaning limit input = readUnlimited meaning input := by
  have hagrees := Reader.agrees_sum meaning (Reader.agrees_unlimited hcall limit limit)
  rcases hagrees input with hrefused | hsame
  · exact .inl (Reader.complete_eq_refused_iff.2 hrefused)
  · exact .inr (by rw [readTokens, readUnlimited, hsame])

/-- A limit beyond the number of tokens is none. -/
theorem readTokens_eq_readUnlimited (hcall : meaning.NeverRefuses) {limit : Nat}
    {input : List Token} (h : input.length < limit) :
    readTokens meaning limit input = readUnlimited meaning input := by
  rcases readTokens_refused_or_eq hcall limit input with hrefused | hsame
  · exact absurd ((blames_of_readTokens hrefused).room_le hcall) (Nat.not_le.2 h)
  · exact hsame

/-- A short expression evaluates as without a limit. -/
theorem evaluate_eq_of_length {text : Text} (h : text.length < nestingLimit) :
    evaluate text = evaluateUnlimited text :=
  readTokens_eq_readUnlimited Meaning.neverRefuses_number
    (Nat.lt_of_le_of_lt (Token.length_lex_le text) h)

end Whole

end PocketCalculator
