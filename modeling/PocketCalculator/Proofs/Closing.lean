import PocketCalculator.Proofs.Accepting
import PocketCalculator.Proofs.Nesting

/-!
# Closing parentheses at the end

An expression may leave parentheses open at its very end.  One closing parenthesis more is
taken by the innermost group that is still open, and changes nothing else; where no group
is open it is left over, and so is every other one after it.  A printed tree closes what it
opens, so the number of groups that are open is the number of closing parentheses that the
text lacks.

Main definitions:

- {lit}`Reader.Extended` relates what is left of two inputs, one of which ends in a closing
  parenthesis more.

Main results:

- Theorem {lit}`Expr.count_closing_of_prints`: a printed tree closes what it opens.
- Theorem {lit}`Token.count_of_written`: a text has its marks as often as its tokens.
- Theorem {lit}`Reader.run_sum_append_closing`: what one closing parenthesis more does.
- Theorem {lit}`evaluate_append_closing`: how many of them an expression takes.
-/

namespace PocketCalculator

/-! ## Counting parentheses -/

/-- A printed tree closes what it opens. -/
theorem Expr.count_closing_of_prints {least : Binding} {e : Expr} {tokens : List Token}
    {count : Nat} (h : Prints least e tokens count) :
    tokens.count (.mark ')') = tokens.count (.mark '(') := by
  induction h with
  | literal l => rfl
  | parentheses inner ih => simp [parenthesized, ih]
  | plus operand ih => simpa [List.count_cons] using ih
  | minus operand ih => simpa [List.count_cons] using ih
  | power base exponent ihBase ihExponent => simp [ihBase, ihExponent]
  | call name argument ih => simpa [List.count_cons] using ih
  | binary operator left right ihLeft ihRight =>
    cases operator <;> simp [Operator.symbol, ihLeft, ihRight]
  | ofBase inner ih => exact ih
  | ofFactor inner ih => exact ih
  | ofProduct inner ih => exact ih

namespace Token

/-- A mark stands in a token only if it is the token. -/
theorem count_spelling {token : Token} {c : Char} (hproper : token.IsProper)
    (hmark : (mark c).IsProper) : token.spelling.count c = [token].count (mark c) := by
  obtain ⟨-, hrun, hletter⟩ := hmark
  cases token with
  | mark d => by_cases hsame : d = c <;> simp [hsame]
  | number run =>
    have hnot : c ∉ run := by
      intro hmem
      rw [hproper.2 c hmem] at hrun
      exact Bool.noConfusion hrun
    simp [List.count_eq_zero_of_not_mem hnot]
  | name letters =>
    have hnot : c ∉ letters := by
      intro hmem
      rcases hproper with rfl | ⟨-, hletters⟩
      · have hten : ∀ d ∈ "log10".toList, (isSmallLetter d || isRunCharacter d) = true :=
          List.all_eq_true.1 (by decide)
        simpa [hrun, hletter] using hten c hmem
      · rw [hletters c hmem] at hletter
        exact Bool.noConfusion hletter
    simp [List.count_eq_zero_of_not_mem hnot]

/-- A text has a mark as often as its tokens. -/
theorem count_of_written {tokens : List Token} {text : Text} {c : Char}
    (hproper : ∀ token ∈ tokens, token.IsProper) (hmark : (mark c).IsProper)
    (h : Written tokens text) : text.count c = tokens.count (mark c) := by
  have hspaces (spaces : Nat) : (List.replicate spaces ' ').count c = 0 := by
    simp [List.count_replicate, hmark.1.symm]
  induction h with
  | nil spaces => exact hspaces spaces
  | @cons spaces token tokens text apart rest ih =>
    rw [List.count_append, List.count_append, hspaces, Nat.zero_add,
      count_spelling (hproper token List.mem_cons_self) hmark,
      ih fun t ht => hproper t (List.mem_cons_of_mem token ht), ← List.count_append,
      List.singleton_append]

end Token

/-! ## One closing parenthesis more -/

namespace Reader

variable {α : Type} {meaning : Meaning α} {limit room : Nat} {input rest : List Token} {x : α}

/-- The second input ends in a closing parenthesis more, unless that one has been taken and
nothing is left of either. -/
def Extended (input input' : List Token) : Prop :=
  input' = input ++ [.mark ')'] ∨ input = [] ∧ input' = []

/-- No step of the grammar breaks the relation.  Where one input is used up the other may
have its closing parenthesis left, and nothing can begin at either. -/
theorem respected_extended : Respected Extended Extended fun _ => True where
  step {input input'} h := by
    rcases h with rfl | ⟨rfl, rfl⟩
    · cases input with
      | nil => exact .inr ⟨by simp [AtClosing], by simp [AtClosing], .inr trivial⟩
      | cons token more =>
        exact .inl ⟨token, more, more ++ [.mark ')'], rfl, rfl, fun _ => .inl rfl,
          fun _ => .inl rfl⟩
    · exact .inr ⟨by simp [AtClosing], by simp [AtClosing], .inl rfl⟩
  closing {input input'} h := by
    rcases h with rfl | ⟨rfl, rfl⟩
    · cases input with
      | nil => exact .inr ⟨rfl, rfl⟩
      | cons token more =>
        by_cases hclosing : token = .mark ')'
        · subst hclosing
          exact .inl rfl
        · rw [List.cons_append, dropClosing_of_ne hclosing, dropClosing_of_ne hclosing]
          exact .inl rfl
    · exact .inr ⟨rfl, rfl⟩

/-- A factor reads on in the same way in front of a closing parenthesis more. -/
theorem parallel_factor_extended (meaning : Meaning α) (limit room : Nat) :
    Parallel Extended Extended (fun _ => True) (factor meaning limit room)
      (factor meaning limit room) := by
  induction room with
  | zero => exact fun _ => .error _
  | succ room ih => exact fun h => tracks_opened respected_extended ih ih h

/-- One closing parenthesis more is left over at the end, or it is taken there. -/
theorem run_sum_append_closing
    (h : (sum meaning (factor meaning limit room)).run input = .ok (x, rest)) :
    (sum meaning (factor meaning limit room)).run (input ++ [.mark ')']) =
        .ok (x, rest ++ [.mark ')']) ∨
      rest = [] ∧
        (sum meaning (factor meaning limit room)).run (input ++ [.mark ')']) = .ok (x, []) := by
  have htracks : Tracks Extended (fun _ => True)
      ((sum meaning (factor meaning limit room)).run input)
      ((sum meaning (factor meaning limit room)).run (input ++ [.mark ')'])) :=
    parallel_sum meaning respected_extended (parallel_factor_extended meaning limit room)
      (.inl rfl)
  rw [h] at htracks
  generalize (sum meaning (factor meaning limit room)).run (input ++ [.mark ')']) = outcome
    at htracks
  cases htracks with
  | ok hrest =>
    rcases hrest with rfl | ⟨rfl, rfl⟩
    · exact .inl rfl
    · exact .inr ⟨rfl, rfl⟩

/-- However many closing parentheses are added, only such are left over. -/
theorem exists_run_sum_append_replicate
    (h : (sum meaning (factor meaning limit room)).run input = .ok (x, [])) (count : Nat) :
    ∃ left, (sum meaning (factor meaning limit room)).run
      (input ++ List.replicate count (.mark ')')) =
        .ok (x, List.replicate left (.mark ')')) := by
  induction count with
  | zero => exact ⟨0, by simpa using h⟩
  | succ count ih =>
    obtain ⟨left, hleft⟩ := ih
    rw [List.replicate_succ', ← List.append_assoc]
    rcases run_sum_append_closing hleft with hkept | ⟨-, htaken⟩
    · exact ⟨left + 1, by rw [hkept, List.replicate_succ']⟩
    · exact ⟨0, htaken⟩

/-- If many closing parentheses are all taken, so are fewer: one that is left over would
still be left over in front of the others. -/
theorem run_sum_append_replicate_of_le
    (h : (sum meaning (factor meaning limit room)).run input = .ok (x, [])) {missing : Nat}
    {y : α}
    (hmissing : (sum meaning (factor meaning limit room)).run
      (input ++ List.replicate missing (.mark ')')) = .ok (y, []))
    {count : Nat} (hcount : count ≤ missing) :
    (sum meaning (factor meaning limit room)).run
      (input ++ List.replicate count (.mark ')')) = .ok (x, []) := by
  induction missing generalizing y with
  | zero =>
    obtain rfl : count = 0 := Nat.le_zero.1 hcount
    simpa using h
  | succ missing ih =>
    obtain ⟨left, hleft⟩ := exists_run_sum_append_replicate h missing
    rw [List.replicate_succ', ← List.append_assoc] at hmissing
    rcases run_sum_append_closing hleft with hkept | ⟨hnone, htaken⟩
    · rw [hmissing] at hkept
      exact absurd hkept (by simp)
    · rw [hnone] at hleft
      rcases Nat.lt_or_eq_of_le hcount with hlt | rfl
      · exact ih hleft (Nat.le_of_lt_succ hlt)
      · rw [List.replicate_succ', ← List.append_assoc, htaken]

end Reader

/-! ## Whole expressions -/

/-- Closing parentheses added to tokens with a value are all taken as long as no more are
closed than opened, and the first one beyond is unexpected. -/
theorem readTokens_append_closing {α : Type} {meaning : Meaning α} {limit : Nat}
    {input : List Token} {x : α} (h : readTokens meaning limit input = .ok x) :
    input.count (.mark ')') ≤ input.count (.mark '(') ∧
      ∀ count,
        (count ≤ input.count (.mark '(') - input.count (.mark ')') →
          readTokens meaning limit (input ++ List.replicate count (.mark ')')) = .ok x) ∧
        (input.count (.mark '(') - input.count (.mark ')') < count →
          readTokens meaning limit (input ++ List.replicate count (.mark ')')) =
            .error (.unexpected (some ')'))) := by
  obtain ⟨hrun, e, opening, missing, hprints, hopen, hvalue⟩ := exists_prints_of_readTokens h
  have hbalance := Expr.count_closing_of_prints hprints
  simp only [List.count_append, List.count_replicate] at hbalance
  have hmissing : input.count (.mark ')') + missing = input.count (.mark '(') := by
    simpa using hbalance
  have hclosed : (Reader.sum meaning (Reader.factor meaning limit limit)).run
      (input ++ List.replicate missing (.mark ')')) = .ok (x, []) := by
    have hread : readTokens meaning limit (input ++ List.replicate missing (.mark ')')) =
        e.denote meaning := readTokens_of_prints hprints hopen
    rw [hvalue] at hread
    exact (exists_prints_of_readTokens hread).1
  refine ⟨by omega, fun count => ⟨fun hcount => ?_, fun hcount => ?_⟩⟩
  · rw [readTokens, Reader.run_sum_append_replicate_of_le hrun hclosed (by omega)]
    rfl
  · obtain ⟨more, rfl⟩ : ∃ more, count = missing + (more + 1) :=
      ⟨count - missing - 1, by omega⟩
    rw [← List.replicate_append_replicate, ← List.append_assoc, List.replicate_succ]
    exact readTokens_of_prints_append hprints hopen hvalue (by simp [followers])

/-- Missing closing parentheses are tolerated exactly at the end.  An expression with a
value closes no more parentheses than it opens.  It keeps its value if as many closing
parentheses as are missing, or fewer, are added to its text; with more of them the first
one that is too many is unexpected. -/
theorem evaluate_append_closing {text : Text} {x : Float} (h : evaluate text = .ok x) :
    text.count ')' ≤ text.count '(' ∧
      ∀ count,
        (count ≤ text.count '(' - text.count ')' →
          evaluate (text ++ List.replicate count ')') = .ok x) ∧
        (text.count '(' - text.count ')' < count →
          evaluate (text ++ List.replicate count ')') =
            .error (.unexpected (some ')'))) := by
  have hproper : ∀ token ∈ Token.lex text, token.IsProper :=
    fun token => Token.isProper_of_mem_lex
  have hcount {c : Char} (hc : (Token.mark c).IsProper) :
      text.count c = (Token.lex text).count (.mark c) :=
    Token.count_of_written hproper hc (Token.written_lex text)
  have hclosing : (Token.mark ')').IsProper := by decide
  have hlex (count : Nat) : Token.lex (text ++ List.replicate count ')') =
      Token.lex text ++ List.replicate count (.mark ')') := by
    refine Token.lex_of_written (fun token htoken => ?_) ((Token.written_lex text).closed count)
    rcases List.mem_append.1 htoken with htoken | htoken
    · exact hproper token htoken
    · rw [List.eq_of_mem_replicate htoken]
      exact hclosing
  rw [hcount hclosing, hcount (by decide)]
  simp only [evaluate, readAs, hlex]
  exact readTokens_append_closing h

/-- Two open parentheses can be closed once or twice, but not three times. -/
theorem evaluate_append_closing_twice_open :
    evaluate "((7".toList = .ok (Literal.value ⟨['7'], ⟨7, 0⟩, rfl⟩) ∧
      evaluate "((7)".toList = .ok (Literal.value ⟨['7'], ⟨7, 0⟩, rfl⟩) ∧
      evaluate "((7))".toList = .ok (Literal.value ⟨['7'], ⟨7, 0⟩, rfl⟩) ∧
      evaluate "((7)))".toList = .error (.unexpected (some ')')) := by
  have hread {α : Type} (meaning : Meaning α) : readAs meaning nestingLimit "((7".toList =
      .ok (meaning.literal ⟨['7'], ⟨7, 0⟩, rfl⟩) :=
    readAs_of_descend rfl
  have hvalue : evaluate "((7".toList = .ok (Literal.value ⟨['7'], ⟨7, 0⟩, rfl⟩) :=
    hread Meaning.number
  have hclosing := (evaluate_append_closing hvalue).2
  exact ⟨hvalue, (hclosing 1).1 (by decide), (hclosing 2).1 (by decide),
    (hclosing 3).2 (by decide)⟩

end PocketCalculator
