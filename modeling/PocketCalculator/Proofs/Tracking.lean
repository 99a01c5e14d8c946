import PocketCalculator.Proofs.ReadingSteps

/-!
# Reading related inputs

Two readers run over two inputs that differ a little: in what follows them, in
parentheses, or not at all.  If their factors keep to a relation between inputs, then so
does everything that the grammar builds from factors: both find the same value and leave
related rests, or both fail alike, or the first one fails in a way that is given up.

Main definitions:

- {lit}`Reader.Tracks` relates the outcome of one reading to the outcome of another, and
  {lit}`Reader.Parallel` says that one reader tracks another.
- {lit}`Reader.Respected` describes the relations that no step of the grammar breaks.

Main results:

- Theorem {lit}`Reader.parallel_sum`: sums run in parallel if their factors do.
- Theorem {lit}`Reader.tracks_opened`: so do factors if the factors inside them do.
-/

namespace PocketCalculator

namespace Reader

variable {α : Type}

/-- The second outcome tracks the first one: it has the same value and a related rest, or
the same failure.  Nothing is said where the first one fails with a lost cause. -/
inductive Tracks (R : List Token → List Token → Prop) (lost : Cause → Prop) :
    Reading α → Reading α → Prop
  | ok {x : α} {rest rest' : List Token} (related : R rest rest') :
      Tracks R lost (.ok (x, rest)) (.ok (x, rest'))
  | error (cause : Cause) : Tracks R lost (.error cause) (.error cause)
  | lost {cause : Cause} (h : lost cause) (other : Reading α) :
      Tracks R lost (.error cause) other

/-- Two readers run in parallel: from inputs related in one way, the second reader tracks
the first one to rests related in another. -/
def Parallel (start R : List Token → List Token → Prop) (lost : Cause → Prop)
    (reader reader' : Reader α) : Prop :=
  ∀ {input input' : List Token}, start input input' →
    Tracks R lost (reader.run input) (reader'.run input')

/-- Nothing but closing parentheses is next. -/
def AtClosing (input : List Token) : Prop :=
  ∀ token, input.head? = some token → token = .mark ')'

/-- A relation between inputs that the steps of the grammar respect.  Related inputs begin
with the same token, and what comes after it is related again, or related as an exponent
if the token is a caret.  Otherwise nothing begins there, and both fail alike or in a way
that is given up.  A closing parenthesis may be dropped from both. -/
structure Respected (R exponent : List Token → List Token → Prop) (lost : Cause → Prop) :
    Prop where
  step : ∀ {input input' : List Token}, R input input' →
    (∃ token more more', input = token :: more ∧ input' = token :: more' ∧
      (token ≠ .mark '^' → R more more') ∧ (token = .mark '^' → exponent more more')) ∨
    AtClosing input ∧ AtClosing input' ∧
      (unexpected input = unexpected input' ∨ lost (unexpected input))
  closing : ∀ {input input' : List Token}, R input input' →
    R (dropClosing input) (dropClosing input')

variable {meaning : Meaning α} {R exponent : List Token → List Token → Prop}
  {lost : Cause → Prop} {input input' : List Token}

/-! ## Chains -/

section Chains

variable {join? : Token → Option (α → α → α)} {operand operand' : Reader α}

/-- A chain stops at a closing parenthesis and at the end. -/
theorem continueWith_of_atClosing (hclosing : join? (.mark ')') = none)
    (h : AtClosing input) (left : α) :
    continueWith join? operand left input = .ok (left, input) := by
  apply continueWith_of_stop
  intro token htoken
  rw [h token htoken]
  exact hclosing

/-- Where a chain goes on with an operator, a related chain goes on with it as well. -/
theorem Respected.of_join (hR : Respected R exponent lost) (hcaret : join? (.mark '^') = none)
    (hclosing : join? (.mark ')') = none) {token : Token} {join : α → α → α}
    (hjoin : join? token = some join) (h : R (token :: input) input') :
    ∃ more, input' = token :: more ∧ R input more := by
  rcases hR.step h with ⟨other, more, more', hinput, rfl, hmore, -⟩ | ⟨hend, -, -⟩
  · obtain ⟨rfl, rfl⟩ := List.cons.inj hinput
    refine ⟨more', rfl, hmore ?_⟩
    rintro rfl
    rw [hcaret] at hjoin
    exact absurd hjoin (by simp)
  · rw [hend token rfl, hclosing] at hjoin
    exact absurd hjoin (by simp)

/-- Chains go on in the same way behind operands that track. -/
theorem tracks_continueWith (hR : Respected R exponent lost)
    (hcaret : join? (.mark '^') = none) (hclosing : join? (.mark ')') = none)
    (hoperand : Parallel R R lost operand operand') (left : α) (h : R input input') :
    Tracks R lost (continueWith join? operand left input)
      (continueWith join? operand' left input') := by
  fun_induction continueWith join? operand left input generalizing input' with
  | case1 left =>
    rcases hR.step h with ⟨token, more, more', hnil, -, -, -⟩ | ⟨-, hend, -⟩
    · exact absurd hnil (by simp)
    · rw [continueWith_of_atClosing hclosing hend]
      exact .ok h
  | case2 left token input hjoin =>
    have hstop : continueWith join? operand' left input' = .ok (left, input') := by
      rcases hR.step h with ⟨other, more, more', hinput, rfl, -, -⟩ | ⟨-, hend, -⟩
      · obtain ⟨rfl, rfl⟩ := List.cons.inj hinput
        rw [continueWith, hjoin]
      · exact continueWith_of_atClosing hclosing hend left
    rw [hstop]
    exact .ok h
  | case3 left token input join hjoin cause hfails =>
    obtain ⟨more, rfl, hmore⟩ := hR.of_join hcaret hclosing hjoin h
    have htracks := hoperand hmore
    rw [continueWith_of_join hjoin]
    rw [hfails] at htracks
    generalize operand'.run more = other at htracks
    cases htracks with
    | error => exact .error cause
    | lost hlost => exact .lost hlost _
  | case4 left token input join hjoin right rest hreads _ ih =>
    obtain ⟨more, rfl, hmore⟩ := hR.of_join hcaret hclosing hjoin h
    have htracks := hoperand hmore
    rw [continueWith_of_join hjoin]
    rw [hreads] at htracks
    generalize operand'.run more = other at htracks
    cases htracks with
    | ok hrest => exact ih hrest

/-- Chains of tracking operands track. -/
theorem parallel_chain (hR : Respected R exponent lost)
    (hcaret : join? (.mark '^') = none) (hclosing : join? (.mark ')') = none)
    (hoperand : Parallel R R lost operand operand') :
    Parallel R R lost (chain join? operand) (chain join? operand') := by
  intro input input' h
  rw [run_chain, run_chain]
  have htracks := hoperand h
  generalize operand.run input = first at htracks
  generalize operand'.run input' = second at htracks
  cases htracks with
  | ok hrest => exact tracks_continueWith hR hcaret hclosing hoperand _ hrest
  | error cause => exact .error cause
  | lost hlost => exact .lost hlost _

end Chains

/-! ## Factors -/

section Factors

variable {inner inner' : Reader α}

/-- Sums of tracking factors track. -/
theorem parallel_sum (meaning : Meaning α) (hR : Respected R exponent lost)
    (hinner : Parallel R R lost inner inner') :
    Parallel R R lost (sum meaning inner) (sum meaning inner') :=
  parallel_chain hR rfl rfl (parallel_chain hR rfl rfl hinner)

/-- Signs in front of tracking factors track. -/
theorem tracks_signed (hinner : Tracks R lost (inner.run input) (inner'.run input'))
    (sign : α → α) : Tracks R lost (signed sign inner input) (signed sign inner' input') := by
  unfold signed
  generalize inner.run input = first at hinner
  generalize inner'.run input' = second at hinner
  cases hinner with
  | ok hrest => exact .ok hrest
  | error cause => exact .error cause
  | lost hlost => exact .lost hlost _

/-- Exponents with tracking factors track. -/
theorem tracks_raise (hR : Respected R exponent lost)
    (hexponent : Parallel exponent R lost inner inner') (x : α) (h : R input input') :
    Tracks R lost (raise meaning inner x input) (raise meaning inner' x input') := by
  have hatClosing {input : List Token} (hend : AtClosing input) :
      input.head? ≠ some (.mark '^') := by
    intro hhead
    exact absurd (hend _ hhead) (by decide)
  rcases hR.step h with ⟨token, more, more', rfl, rfl, -, hmore⟩ | ⟨hend, hend', -⟩
  · by_cases hcaret : token = .mark '^'
    · have htracks := hexponent (hmore hcaret)
      rw [hcaret, raise, raise]
      generalize inner.run more = first at htracks
      generalize inner'.run more' = second at htracks
      cases htracks with
      | ok hrest => exact .ok hrest
      | error cause => exact .error cause
      | lost hlost => exact .lost hlost _
    · rw [raise_of_stop (by simpa using hcaret), raise_of_stop (by simpa using hcaret)]
      exact .ok h
  · rw [raise_of_stop (hatClosing hend), raise_of_stop (hatClosing hend')]
    exact .ok h

/-- A mark that opens no parenthesis is no base. -/
theorem base_of_mark {c : Char} (hopening : c ≠ '(') (more : List Token) :
    base meaning inner (.mark c :: more) = .error (.unexpected (some c)) := by
  unfold base
  split
  · next heq => exact absurd (Token.mark.inj (List.cons.inj heq).1) hopening
  · next heq => exact absurd (List.cons.inj heq).1 (by simp)
  · next heq => exact absurd (List.cons.inj heq).1 (by simp)
  · rfl

/-- A base does not begin where nothing but a closing parenthesis is next. -/
theorem base_of_atClosing (h : AtClosing input) :
    base meaning inner input = .error (unexpected input) := by
  cases input with
  | nil => rfl
  | cons token more =>
    rw [h token rfl]
    exact base_of_mark (by decide) more

/-- Bases with tracking factors track. -/
theorem tracks_base (meaning : Meaning α) (hR : Respected R exponent lost)
    (hinner : Parallel R R lost inner inner') (h : R input input') :
    Tracks R lost (base meaning inner input) (base meaning inner' input') := by
  rcases hR.step h with ⟨token, more, more', rfl, rfl, hmore, -⟩ | ⟨hend, hend', hfail⟩
  · cases token with
    | number run =>
      rw [base, base]
      cases Literal.ofRun? run with
      | none => exact .error _
      | some literal => exact .ok (hmore (by simp))
    | name letters =>
      have htracks := hinner (hmore (by simp))
      rw [base, base]
      generalize inner.run more = first at htracks
      generalize inner'.run more' = second at htracks
      cases htracks with
      | error cause => exact .error cause
      | lost hlost => exact .lost hlost _
      | @ok x rest rest' hrest =>
        dsimp only
        cases meaning.call letters x with
        | error cause => exact .error cause
        | ok y => exact .ok hrest
    | mark c =>
      by_cases hopening : c = '('
      · subst hopening
        have htracks := parallel_sum meaning hR hinner (hmore (by decide))
        rw [base, base]
        generalize (sum meaning inner).run more = first at htracks
        generalize (sum meaning inner').run more' = second at htracks
        cases htracks with
        | ok hrest => exact .ok (hR.closing hrest)
        | error cause => exact .error cause
        | lost hlost => exact .lost hlost _
      · rw [base_of_mark hopening, base_of_mark hopening]
        exact .error _
  · rw [base_of_atClosing hend, base_of_atClosing hend']
    rcases hfail with hsame | hlost
    · rw [hsame]
      exact .error _
    · exact .lost hlost _

/-- Opened factors with tracking factors inside track. -/
theorem tracks_opened (hR : Respected R exponent lost)
    (hinner : Parallel R R lost inner inner')
    (hexponent : Parallel exponent R lost inner inner') (h : R input input') :
    Tracks R lost (opened meaning inner input) (opened meaning inner' input') := by
  have hbase (hplus : input.head? ≠ some (.mark '+')) (hminus : input.head? ≠ some (.mark '-'))
      (hplus' : input'.head? ≠ some (.mark '+')) (hminus' : input'.head? ≠ some (.mark '-')) :
      Tracks R lost (opened meaning inner input) (opened meaning inner' input') := by
    rw [opened_of_base hplus hminus, opened_of_base hplus' hminus']
    have htracks := tracks_base meaning hR hinner h
    generalize base meaning inner input = first at htracks
    generalize base meaning inner' input' = second at htracks
    cases htracks with
    | ok hrest => exact tracks_raise hR hexponent _ hrest
    | error cause => exact .error cause
    | lost hlost => exact .lost hlost _
  rcases hR.step h with ⟨token, more, more', rfl, rfl, hmore, -⟩ | ⟨hend, hend', -⟩
  · by_cases hplus : token = .mark '+'
    · subst hplus
      exact tracks_signed (hinner (hmore (by decide))) _
    by_cases hminus : token = .mark '-'
    · subst hminus
      exact tracks_signed (hinner (hmore (by decide))) _
    · apply hbase <;> simpa using by assumption
  · have hnone {c : Char} (hc : c ≠ ')') {input : List Token} (hend : AtClosing input) :
        input.head? ≠ some (.mark c) := by
      intro hhead
      exact hc (Token.mark.inj (hend _ hhead))
    exact hbase (hnone (by decide) hend) (hnone (by decide) hend) (hnone (by decide) hend')
      (hnone (by decide) hend')

end Factors

end Reader

end PocketCalculator
