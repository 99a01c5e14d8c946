import PocketCalculator.Proofs.Unlimited

/-!
# The parts of a factor

A factor opens the factor behind its sign, or the factors of its base and of its exponent.
They are listed here in the order of reading, up to the first failure.  What comes of the
factor is settled by what comes of them: it is refused if one of them is, and it is the same
without a limit if each of them is.

Main definitions:

- {lit}`Reader.parts` lists where the factors directly inside a factor are opened.
- {lit}`Reader.sumSites` lists where a sum opens its factors.
- {lit}`Reader.Settles` says that the factors at some sites decide between two outcomes.

Main results:

- Theorem {lit}`Reader.length_of_mem_parts`: a part is opened behind the first token.
- Theorem {lit}`Reader.settles_opened`: the parts of a factor settle its outcome.
- Theorem {lit}`Reader.run_factor_succ_refused_iff`: a limited factor is refused exactly if
  one of its parts is.
-/

namespace PocketCalculator

namespace Reader

variable {α : Type}

/-! ## The parts of a factor -/

section Sites

variable (join? : Token → Option (α → α → α)) (operand : Reader α)
  (sites : List Token → List (List Token))

/-- Where a chain that goes on opens factors, when each operand opens those of its
{lit}`sites`. -/
def continueSites : List Token → List (List Token)
  | [] => []
  | token :: input =>
    match join? token with
    | none => []
    | some _ =>
      match found : operand.run input with
      | .error _ => sites input
      | .ok (_, rest) =>
        have : rest.length < input.length := operand.shorter found
        sites input ++ continueSites rest
termination_by input => input.length

/-- Where a chain opens factors. -/
def chainSites (input : List Token) : List (List Token) :=
  match operand.run input with
  | .error _ => sites input
  | .ok (_, rest) => sites input ++ continueSites join? operand sites rest

end Sites

section Parts

variable (meaning : Meaning α) (inner : Reader α)

/-- Where a sum opens its factors: one after another, each where the last one has been read
and an operator follows. -/
def sumSites : List Token → List (List Token) :=
  chainSites (joinBy meaning Operator.additive?) (product meaning inner)
    (chainSites (joinBy meaning Operator.multiplicative?) inner fun site => [site])

/-- Where a base opens factors: those of the sum in its parentheses, or its argument. -/
def baseParts : List Token → List (List Token)
  | .mark '(' :: input => sumSites meaning inner input
  | .name _ :: input => [input]
  | _ => []

/-- Where an exponent is opened. -/
def raiseParts : List Token → List (List Token)
  | .mark '^' :: input => [input]
  | _ => []

/-- Where the factors directly inside a factor are opened: the one behind a sign, or those
of a base and an exponent. -/
def parts : List Token → List (List Token)
  | .mark '+' :: input => [input]
  | .mark '-' :: input => [input]
  | input =>
    match base meaning inner input with
    | .error _ => baseParts meaning inner input
    | .ok (_, rest) => baseParts meaning inner input ++ raiseParts rest

end Parts

/-! ### Parts come later -/

section Shorter

variable {join? : Token → Option (α → α → α)} {operand : Reader α}
  {sites : List Token → List (List Token)} {input site : List Token}

theorem length_of_mem_continueSites
    (hsites : ∀ {input site}, site ∈ sites input → site.length ≤ input.length)
    (h : site ∈ continueSites join? operand sites input) : site.length < input.length := by
  fun_induction continueSites join? operand sites input with
  | case1 => exact absurd h List.not_mem_nil
  | case2 => exact absurd h List.not_mem_nil
  | case3 => exact Nat.lt_succ_of_le (hsites h)
  | case4 token input join _ x rest _ hlt ih =>
    rcases List.mem_append.1 h with h | h
    · exact Nat.lt_succ_of_le (hsites h)
    · exact Nat.lt_succ_of_lt (Nat.lt_trans (ih h) hlt)

theorem length_of_mem_chainSites
    (hsites : ∀ {input site}, site ∈ sites input → site.length ≤ input.length)
    (h : site ∈ chainSites join? operand sites input) : site.length ≤ input.length := by
  unfold chainSites at h
  split at h
  · exact hsites h
  · next x rest hreads =>
    rcases List.mem_append.1 h with h | h
    · exact hsites h
    · have hsite := length_of_mem_continueSites hsites h
      have hrest := operand.shorter hreads
      omega

variable {meaning : Meaning α} {inner : Reader α}

theorem length_of_mem_sumSites (h : site ∈ sumSites meaning inner input) :
    site.length ≤ input.length := by
  refine length_of_mem_chainSites (fun h => length_of_mem_chainSites ?_ h) h
  intro input site hsite
  exact Nat.le_of_eq (congrArg List.length (List.mem_singleton.1 hsite))

theorem length_of_mem_baseParts (h : site ∈ baseParts meaning inner input) :
    site.length < input.length := by
  unfold baseParts at h
  split at h
  · exact Nat.lt_succ_of_le (length_of_mem_sumSites h)
  · rw [List.mem_singleton.1 h]
    exact Nat.lt_succ_self _
  · exact absurd h List.not_mem_nil

theorem length_of_mem_raiseParts (h : site ∈ raiseParts input) :
    site.length < input.length := by
  unfold raiseParts at h
  split at h
  · rw [List.mem_singleton.1 h]
    exact Nat.lt_succ_self _
  · exact absurd h List.not_mem_nil

/-- A part is opened behind the first token of its factor. -/
theorem length_of_mem_parts (h : site ∈ parts meaning inner input) :
    site.length < input.length := by
  unfold parts at h
  split at h
  · rw [List.mem_singleton.1 h]
    exact Nat.lt_succ_self _
  · rw [List.mem_singleton.1 h]
    exact Nat.lt_succ_self _
  · split at h
    · exact length_of_mem_baseParts h
    · next x rest hreads =>
      rcases List.mem_append.1 h with h | h
      · exact length_of_mem_baseParts h
      · exact Nat.lt_trans (length_of_mem_raiseParts h) (length_of_base hreads)

end Shorter

/-! ### Parts decide -/

section Settles

/-- The sites of an outcome and of what comes of it. -/
def sitesThen (sites : List (List Token)) (outcome : Reading α)
    (later : List Token → List (List Token)) : List (List Token) :=
  match outcome with
  | .error _ => sites
  | .ok (_, rest) => sites ++ later rest

/-- Factors read at some sites settle an outcome: either one of them fails with a given
cause, and so does the outcome, or all of them agree with another reader, and so does the
outcome. -/
def Settles (cause : Cause) (inner more : Reader α) (sites : List (List Token))
    (first second : Reading α) : Prop :=
  ((∃ site ∈ sites, inner.run site = .error cause) ∧ first = .error cause) ∨
    (∀ site ∈ sites, inner.run site = more.run site) ∧ first = second

variable {cause : Cause} {inner more : Reader α} {sites : List (List Token)}
  {first second : Reading α}

/-- An outcome that needs no factor is settled. -/
theorem settles_nil (outcome : Reading α) : Settles cause inner more [] outcome outcome :=
  .inr ⟨by simp, rfl⟩

/-- One factor of a reader that agrees settles its own outcome. -/
theorem Agrees.settles (h : Agrees cause inner more) (input : List Token) :
    Settles cause inner more [input] (inner.run input) (more.run input) := by
  rcases h input with hrefused | hsame
  · exact .inl ⟨⟨input, List.mem_singleton_self input, hrefused⟩, hrefused⟩
  · refine .inr ⟨fun site hsite => ?_, hsame.symm⟩
    rw [List.mem_singleton.1 hsite, hsame]

/-- A settled outcome and what comes of it are settled by the sites of both. -/
theorem Settles.andThen (h : Settles cause inner more sites first second)
    (later : List Token → List (List Token)) (next next' : α → List Token → Reading α)
    (hnext : ∀ x rest, second = .ok (x, rest) →
      Settles cause inner more (later rest) (next x rest) (next' x rest)) :
    Settles cause inner more (sitesThen sites second later) (followed first next)
      (followed second next') := by
  rcases h with ⟨⟨site, hsite, hrefused⟩, rfl⟩ | ⟨hsame, rfl⟩
  · refine .inl ⟨⟨site, ?_, hrefused⟩, rfl⟩
    cases second with
    | error other => exact hsite
    | ok reading => exact List.mem_append_left _ hsite
  cases first with
  | error other => exact .inr ⟨hsame, rfl⟩
  | ok reading =>
    obtain ⟨x, rest⟩ := reading
    rcases hnext x rest rfl with ⟨⟨site, hsite, hrefused⟩, hfails⟩ | ⟨hlater, heq⟩
    · exact .inl ⟨⟨site, List.mem_append_right _ hsite, hrefused⟩, hfails⟩
    · refine .inr ⟨fun site hsite => ?_, heq⟩
      rcases List.mem_append.1 hsite with hsite | hsite
      · exact hsame site hsite
      · exact hlater site hsite

/-- What is made of a settled outcome without another factor is settled. -/
theorem Settles.map (h : Settles cause inner more sites first second)
    (next : α → List Token → Reading α) :
    Settles cause inner more sites (followed first next) (followed second next) := by
  rcases h with ⟨hrefused, rfl⟩ | ⟨hsame, rfl⟩
  · exact .inl ⟨hrefused, rfl⟩
  · exact .inr ⟨hsame, rfl⟩

section Chains

variable {join? : Token → Option (α → α → α)} {operand operand' : Reader α}
  {operandSites : List Token → List (List Token)}

/-- A chain that goes on is settled by the factors of its operands. -/
theorem settles_continueWith
    (hoperand : ∀ input, Settles cause inner more (operandSites input) (operand.run input)
      (operand'.run input)) (left : α) (input : List Token) :
    Settles cause inner more (continueSites join? operand' operandSites input)
      (continueWith join? operand left input) (continueWith join? operand' left input) := by
  fun_induction continueSites join? operand' operandSites input generalizing left with
  | case1 =>
    rw [continueWith, continueWith]
    exact settles_nil _
  | case2 token input hjoin =>
    rw [continueWith, continueWith, hjoin]
    exact settles_nil _
  | case3 token input join hjoin other hfails =>
    rw [continueWith_of_join hjoin, continueWith_of_join hjoin]
    have hsettles := (hoperand input).andThen (fun _ => [])
      (fun x => continueWith join? operand (join left x))
      (fun x => continueWith join? operand' (join left x))
      (by simp [hfails])
    rw [hfails] at hsettles ⊢
    exact hsettles
  | case4 token input join hjoin x rest hreads _ ih =>
    rw [continueWith_of_join hjoin, continueWith_of_join hjoin]
    have hsettles := (hoperand input).andThen (continueSites join? operand' operandSites)
      (fun x => continueWith join? operand (join left x))
      (fun x => continueWith join? operand' (join left x))
      (by
        intro y after hreads'
        obtain ⟨rfl, rfl⟩ : x = y ∧ rest = after := by simpa using hreads.symm.trans hreads'
        exact ih _)
    rw [hreads] at hsettles ⊢
    exact hsettles

/-- A chain is settled by the factors of its operands. -/
theorem settles_chain
    (hoperand : ∀ input, Settles cause inner more (operandSites input) (operand.run input)
      (operand'.run input)) (input : List Token) :
    Settles cause inner more (chainSites join? operand' operandSites input)
      ((chain join? operand).run input) ((chain join? operand').run input) :=
  (hoperand input).andThen _ _ _ fun x rest _ => settles_continueWith hoperand x rest

end Chains

variable {meaning : Meaning α}

/-- A sum is settled by its factors. -/
theorem settles_sum (h : Agrees cause inner more) (input : List Token) :
    Settles cause inner more (sumSites meaning more input) ((sum meaning inner).run input)
      ((sum meaning more).run input) :=
  settles_chain (settles_chain h.settles) input

/-- A base is settled by the factors inside it. -/
theorem settles_base (h : Agrees cause inner more) (input : List Token) :
    Settles cause inner more (baseParts meaning more input) (base meaning inner input)
      (base meaning more input) := by
  unfold baseParts
  split
  · next after =>
    exact (settles_sum h after).map fun x rest => .ok (x, dropClosing rest)
  · next letters after =>
    rw [base_name, base_name]
    exact (h.settles after).map _
  · next hopening hname =>
    have hsame : base meaning inner input = base meaning more input := by
      unfold base
      split
      · exact absurd rfl (hopening _)
      · rfl
      · exact absurd rfl (hname _ _)
      · rfl
    rw [hsame]
    exact settles_nil _

/-- An exponent is settled by its factor. -/
theorem settles_raise (h : Agrees cause inner more) (x : α) (input : List Token) :
    Settles cause inner more (raiseParts input) (raise meaning inner x input)
      (raise meaning more x input) := by
  unfold raiseParts
  split
  · next after => exact (h.settles after).map fun y rest => .ok (meaning.power x y, rest)
  · next hcaret =>
    have hend : input.head? ≠ some (.mark '^') := by
      simpa [List.head?_eq_some_iff] using hcaret
    rw [raise_of_stop hend, raise_of_stop hend]
    exact settles_nil _

/-- An opened factor is settled by its parts. -/
theorem settles_opened (h : Agrees cause inner more) (input : List Token) :
    Settles cause inner more (parts meaning more input) (opened meaning inner input)
      (opened meaning more input) := by
  unfold parts
  split
  · next after => exact (h.settles after).map fun x rest => .ok (meaning.plus x, rest)
  · next after => exact (h.settles after).map fun x rest => .ok (meaning.minus x, rest)
  · next hplus hminus =>
    have hplus' : input.head? ≠ some (.mark '+') := by
      simpa [List.head?_eq_some_iff] using hplus
    have hminus' : input.head? ≠ some (.mark '-') := by
      simpa [List.head?_eq_some_iff] using hminus
    rw [opened_of_base hplus' hminus', opened_of_base hplus' hminus']
    exact (settles_base h input).andThen _ _ _ fun x rest _ => settles_raise h x rest

end Settles

section Refusals

variable {meaning : Meaning α} {limit room : Nat}

/-- A settled outcome is refused exactly if one of the factors is, where the other outcome
and the other factors never are. -/
theorem Settles.refused_iff {cause : Cause} {inner more : Reader α}
    {sites : List (List Token)} {first second : Reading α}
    (h : Settles cause inner more sites first second)
    (hmore : ∀ input, more.run input ≠ .error cause) (hsecond : second ≠ .error cause) :
    first = .error cause ↔ ∃ site ∈ sites, inner.run site = .error cause := by
  rcases h with ⟨hrefused, hfirst⟩ | ⟨hsame, rfl⟩
  · exact ⟨fun _ => hrefused, fun _ => hfirst⟩
  · constructor
    · exact fun h => absurd h hsecond
    · rintro ⟨site, hsite, hrefused⟩
      rw [hsame site hsite] at hrefused
      exact absurd hrefused (hmore site)

/-- An opened factor is refused exactly if one of its parts is. -/
theorem run_factor_succ_refused_iff (hcall : meaning.NeverRefuses) (input : List Token) :
    (factor meaning limit (room + 1)).run input = .error (.tooDeeplyNested limit) ↔
      ∃ site ∈ parts meaning (unlimited meaning) input,
        (factor meaning limit room).run site = .error (.tooDeeplyNested limit) := by
  refine (settles_opened (agrees_unlimited hcall limit room) input).refused_iff
    (fun site => run_unlimited_ne_refused hcall site limit) ?_
  rw [← run_unlimited hcall]
  exact run_unlimited_ne_refused hcall input limit

/-- A sum is refused exactly if one of its factors is. -/
theorem run_sum_refused_iff (hcall : meaning.NeverRefuses) (input : List Token) :
    (sum meaning (factor meaning limit room)).run input = .error (.tooDeeplyNested limit) ↔
      ∃ site ∈ sumSites meaning (unlimited meaning) input,
        (factor meaning limit room).run site = .error (.tooDeeplyNested limit) :=
  (settles_sum (agrees_unlimited hcall limit room) input).refused_iff
    (fun site => run_unlimited_ne_refused hcall site limit)
    (run_sum_unlimited_ne_refused hcall input limit)

end Refusals

end Reader

end PocketCalculator
