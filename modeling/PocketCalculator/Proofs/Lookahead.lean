import PocketCalculator.Proofs.DescentPieces
import PocketCalculator.Proofs.Numerals
import PocketCalculator.Proofs.Parts
import PocketCalculator.Proofs.TextCuts

/-!
# How far reading looks ahead

Reading depends on the tokens that it has taken and on the next mark, and on nothing behind
them.  So a mark that is unexpected stays so whatever comes after it, and where an expression
ends too early, a number at its end is taken as the factor that is missing.

Main definitions:

- {lit}`Reader.nextMark?` is the mark that is next.
- {lit}`Reader.Local` says what an outcome of reading depends on.

Main results:

- Theorem {lit}`Reader.Local.andThen`: two readings one after the other are local if both are.
- Theorem {lit}`Reader.local_factor`: factors are local, and so is all that is built of them.
- Theorem {lit}`evaluate_unexpected`: an unexpected character is the leftmost one, and an
  unexpected end can be mended.
-/

namespace PocketCalculator

/-- The character of a mark. -/
def Token.mark? : Token → Option Char
  | .mark c => some c
  | .number _ => none
  | .name _ => none

namespace Meaning

/-- The calls of a meaning find nothing unexpected, which is the business of reading. -/
def FindsNothing {α : Type} (meaning : Meaning α) : Prop :=
  ∀ name x found, meaning.call name x ≠ .error (.unexpected found)

/-- Computing with doubles finds nothing unexpected. -/
theorem findsNothing_number : Meaning.number.FindsNothing := by
  intro name x found h
  rcases cause_of_call_number h with hname | ⟨fault, hfault⟩
  · exact absurd hname (by simp)
  · exact absurd hfault (by simp)

end Meaning

namespace Reader

variable {α : Type} {meaning : Meaning α} {input : List Token}

/-! ## The next mark -/

/-- The mark that is next, if one is. -/
def nextMark? (input : List Token) : Option Char := input.head?.bind Token.mark?

@[simp] theorem nextMark?_nil : nextMark? [] = none := rfl

@[simp] theorem nextMark?_cons (token : Token) (more : List Token) :
    nextMark? (token :: more) = token.mark? := rfl

/-- A mark is next exactly if the next token is this mark. -/
theorem nextMark?_eq_some_iff {c : Char} :
    nextMark? input = some c ↔ ∃ more, input = .mark c :: more := by
  cases input with
  | nil => simp
  | cons token more => cases token <;> simp [Token.mark?]

/-- A mark that is not next is not the next token. -/
theorem head?_ne_of_nextMark? {c : Char} (h : nextMark? input ≠ some c) :
    input.head? ≠ some (.mark c) := by
  intro hhead
  apply h
  rw [nextMark?, hhead]
  rfl

/-- Behind the same tokens the same mark is next if it is where they end. -/
theorem nextMark?_append {rest rest' : List Token} (h : nextMark? rest' = nextMark? rest)
    (front : List Token) : nextMark? (front ++ rest') = nextMark? (front ++ rest) := by
  cases front with
  | nil => exact h
  | cons token front => rfl

/-- A number at the end is not the next mark. -/
theorem nextMark?_append_number (input : List Token) (run : Text) :
    nextMark? (input ++ [.number run]) = nextMark? input := by
  cases input with
  | nil => rfl
  | cons token more => rfl

/-! ## Local outcomes -/

/-- An outcome that nothing can follow: a value with nothing left, or the failure of a call. -/
def Closed (meaning : Meaning α) (outcome : Reading α) : Prop :=
  (∃ x, outcome = .ok (x, [])) ∨
    ∃ name x cause, meaning.call name x = .error cause ∧ outcome = .error cause

/-- What the outcome of reading an input depends on. -/
inductive Local (meaning : Meaning α) (read : List Token → Reading α) (input : List Token) : Prop
  /-- A success depends on what has been read, which ends in no name, and on the next mark. -/
  | ok (x : α) (front rest : List Token) (hinput : input = front ++ rest)
      (hlast : ∀ letters, front.getLast? ≠ some (.name letters))
      (h : ∀ rest', nextMark? rest' = nextMark? rest → read (front ++ rest') = .ok (x, rest'))
  /-- An unexpected mark depends on what has been read in front of it. -/
  | mark (c : Char) (front more : List Token) (hinput : input = front ++ .mark c :: more)
      (h : ∀ more', read (front ++ .mark c :: more') = .error (.unexpected (some c)))
  /-- Where the end is unexpected, no number is last, and one more is taken. -/
  | ending (h : read input = .error (.unexpected none))
      (hlast : ∀ run, input.getLast? ≠ some (.number run))
      (hnumber : ∀ l : Literal, Closed meaning (read (input ++ [.number l.run])))
  /-- Nothing is said of other failures. -/
  | other {cause : Cause} (h : read input = .error cause)
      (hcause : ∀ found, cause ≠ .unexpected found)

/-! ### One reading after another -/

section Compose

variable {read read' inner : List Token → Reading α}
  {token : Token} {more : List Token}

/-- What takes no token and only looks at the next mark is local. -/
theorem Local.of_stop (x : α)
    (h : ∀ rest, nextMark? rest = nextMark? input → read rest = .ok (x, rest)) :
    Local meaning read input :=
  .ok x [] input rfl (by simp) h

/-- A reading behind a first token is local with it, unless it takes nothing behind a name. -/
theorem Local.cons (h : Local meaning inner more)
    (hread : ∀ more, read (token :: more) = inner more)
    (hnumber : ∀ run, token ≠ .number run)
    (hname : ∀ letters x, token = .name letters → inner more ≠ .ok (x, more)) :
    Local meaning read (token :: more) := by
  cases h with
  | ok x front rest hinput hlast h =>
    refine .ok x (token :: front) rest (by rw [hinput, List.cons_append]) ?_ ?_
    · intro letters hl
      cases front with
      | nil =>
        obtain rfl := Option.some.inj hl
        rw [List.nil_append] at hinput
        exact hname letters x rfl (hinput ▸ h rest rfl)
      | cons second front => exact hlast letters hl
    · intro rest' hmark
      rw [List.cons_append, hread]
      exact h rest' hmark
  | mark c front others hinput h =>
    refine .mark c (token :: front) others (by rw [hinput, List.cons_append]) ?_
    intro more'
    rw [List.cons_append, hread]
    exact h more'
  | ending h hlast hnext =>
    refine .ending (by rw [hread, h]) ?_ ?_
    · intro run hl
      cases more with
      | nil => exact hnumber run (Option.some.inj hl)
      | cons second more => exact hlast run hl
    · intro l
      rw [List.cons_append, hread]
      exact hnext l
  | other h hcause => exact .other (by rw [hread, h]) hcause

/-- A reading that does the same as another wherever the same mark is next is as local. -/
theorem Local.congr (h : Local meaning read input)
    (hsame : ∀ input', nextMark? input' = nextMark? input → read' input' = read input') :
    Local meaning read' input := by
  cases h with
  | ok x front rest hinput hlast h =>
    refine .ok x front rest hinput hlast fun rest' hmark => ?_
    rw [hsame, h rest' hmark]
    rw [hinput, nextMark?_append hmark]
  | mark c front others hinput h =>
    refine .mark c front others hinput fun more' => ?_
    rw [hsame, h more']
    rw [hinput]
    exact nextMark?_append (by rfl) front
  | ending h hlast hnext =>
    refine .ending (by rw [hsame input rfl, h]) hlast fun l => ?_
    rw [hsame _ (nextMark?_append_number input l.run)]
    exact hnext l
  | other h hcause => exact .other (by rw [hsame input rfl, h]) hcause

/-- Two readings one after the other are local if both are, and if the second one comes to
an end where nothing is left for it. -/
theorem Local.andThen (hcall : meaning.FindsNothing) (h : Local meaning read input)
    (next : α → List Token → Reading α)
    (hnext : ∀ x rest, read input = .ok (x, rest) → Local meaning (next x) rest)
    (hend : ∀ x, Closed meaning (next x [])) :
    Local meaning (fun input => followed (read input) next) input := by
  cases h with
  | ok x front rest hinput hlast h =>
    subst hinput
    have hfollowed (rest' : List Token) (hmark : nextMark? rest' = nextMark? rest) :
        followed (read (front ++ rest')) next = next x rest' := by
      rw [h rest' hmark]
      rfl
    cases hnext x rest (h rest rfl) with
    | ok y front' rest' hinput' hlast' h' =>
      subst hinput'
      refine .ok y (front ++ front') rest' (List.append_assoc _ _ _).symm ?_ ?_
      · intro letters hl
        rw [List.getLast?_append] at hl
        cases hfront' : front'.getLast? with
        | none => exact hlast letters (by simpa [hfront'] using hl)
        | some last => exact hlast' letters (by simpa [hfront'] using hl)
      · intro rest hmark
        rw [List.append_assoc, hfollowed _ (nextMark?_append hmark front'), h' rest hmark]
    | mark c front' more hinput' h' =>
      subst hinput'
      refine .mark c (front ++ front') more (List.append_assoc _ _ _).symm ?_
      intro more'
      rw [List.append_assoc, hfollowed _ (nextMark?_append (by rfl) front'), h' more']
    | ending h' hlast' hnumber =>
      refine .ending (by rw [hfollowed rest rfl, h']) ?_ ?_
      · intro run hl
        cases rest with
        | nil =>
          rcases hend x with ⟨y, hy⟩ | ⟨name, y, cause, hfails, hy⟩
          · rw [h'] at hy
            contradiction
          · obtain rfl : Cause.unexpected none = cause := Except.error.inj (h'.symm.trans hy)
            exact hcall name y none hfails
        | cons token rest =>
          rw [List.getLast?_append, List.getLast?_cons, Option.some_or, ← List.getLast?_cons] at hl
          exact hlast' run hl
      · intro l
        rw [List.append_assoc, hfollowed _ (nextMark?_append_number rest l.run)]
        exact hnumber l
    | other h' hcause => exact .other (by rw [hfollowed rest rfl, h']) hcause
  | mark c front more hinput h =>
    refine .mark c front more hinput fun more' => ?_
    rw [h more']
    rfl
  | ending h hlast hnumber =>
    refine .ending (by rw [h]; rfl) hlast fun l => ?_
    rcases hnumber l with ⟨x, hx⟩ | ⟨name, x, cause, hfails, hx⟩
    · rw [hx]
      exact hend x
    · rw [hx]
      exact .inr ⟨name, x, cause, hfails, rfl⟩
  | other h hcause => exact .other (by rw [h]; rfl) hcause

end Compose

/-! ### Chains -/

section Chains

variable {operator? : Char → Option Operator} {operand : Reader α}

/-- A chain that stops is local. -/
theorem local_continueWith_of_stop (left : α)
    (h : ∀ token, input.head? = some token → joinBy meaning operator? token = none) :
    Local meaning (continueWith (joinBy meaning operator?) operand left) input := by
  refine .of_stop left fun rest hmark => continueWith_of_stop fun token hhead => ?_
  rw [joinBy_eq_none_iff]
  rintro c rfl
  obtain ⟨more, rfl⟩ := List.head?_eq_some_iff.1 hhead
  obtain ⟨others, rfl⟩ := nextMark?_eq_some_iff.1 hmark.symm
  exact joinBy_eq_none_iff.1 (h (.mark c) rfl) c rfl

variable (hcall : meaning.FindsNothing) (hoperand : ∀ input, Local meaning operand.run input)

include hcall hoperand

/-- Chains of local operands go on as local. -/
theorem local_continueWith (left : α) (input : List Token) :
    Local meaning (continueWith (joinBy meaning operator?) operand left) input := by
  have hjoined {token : Token} {join : α → α → α} {more : List Token} (left : α)
      (hjoin : joinBy meaning operator? token = some join)
      (hnext : ∀ right rest, operand.run more = .ok (right, rest) →
        Local meaning (continueWith (joinBy meaning operator?) operand (join left right)) rest) :
      Local meaning (continueWith (joinBy meaning operator?) operand left) (token :: more) := by
    obtain ⟨c, operator, rfl, -⟩ := exists_of_joinBy hjoin
    have hend (right : α) : Closed meaning
        (continueWith (joinBy meaning operator?) operand (join left right) []) :=
      .inl ⟨join left right, continueWith_of_stop (by simp)⟩
    exact .cons ((hoperand more).andThen hcall _ hnext hend)
      (fun more => continueWith_of_join hjoin) (by simp) (by simp)
  fun_induction continueWith (joinBy meaning operator?) operand left input with
  | case1 left => exact local_continueWith_of_stop left (by simp)
  | case2 left token input hjoin =>
    refine local_continueWith_of_stop left fun other hhead => ?_
    obtain rfl := Option.some.inj hhead
    exact hjoin
  | case3 left token input join hjoin cause hfails =>
    refine hjoined left hjoin fun right rest hreads => ?_
    rw [hfails] at hreads
    contradiction
  | case4 left token input join hjoin right rest hreads _ ih =>
    refine hjoined left hjoin fun other after hreads' => ?_
    rw [hreads] at hreads'
    obtain ⟨rfl, rfl⟩ := Prod.mk.inj (Except.ok.inj hreads')
    exact ih

/-- Chains of local operands are local. -/
theorem local_chain (input : List Token) :
    Local meaning (chain (joinBy meaning operator?) operand).run input :=
  (hoperand input).andThen hcall _ (fun left rest _ => local_continueWith hcall hoperand left rest)
    fun left => .inl ⟨left, continueWith_of_stop (by simp)⟩

end Chains

/-! ### Factors -/

section Factors

/-- What is made of a local reading without another token is local. -/
theorem Local.map (hcall : meaning.FindsNothing) {read : List Token → Reading α}
    (h : Local meaning read input) (f : α → α) :
    Local meaning (fun input => followed (read input) fun x rest => .ok (f x, rest)) input :=
  h.andThen hcall _ (fun x _ _ => .of_stop (f x) fun _ _ => rfl) fun x => .inl ⟨f x, rfl⟩

/-- A closing parenthesis is dropped on sight. -/
theorem local_dropClosing (x : α) (input : List Token) :
    Local meaning (fun rest => .ok (x, dropClosing rest)) input := by
  by_cases hclosing : nextMark? input = some ')'
  · obtain ⟨more, rfl⟩ := nextMark?_eq_some_iff.1 hclosing
    exact .ok x [.mark ')'] more rfl (by simp) fun rest _ => rfl
  · refine .of_stop x fun rest hmark => ?_
    have hkept : dropClosing rest = rest := by
      cases rest with
      | nil => rfl
      | cons token rest =>
        apply dropClosing_of_ne
        rintro rfl
        exact hclosing hmark.symm
    rw [hkept]

/-- A literal is a base. -/
theorem base_literal {inner : Reader α} (l : Literal) (more : List Token) :
    base meaning inner (.number l.run :: more) = .ok (meaning.literal l, more) := by
  rw [base, Literal.ofRun?_run]

variable {inner : Reader α} (hcall : meaning.FindsNothing)
  (hinner : ∀ input, Local meaning inner.run input)

include hcall hinner

/-- Sums of local factors are local. -/
theorem local_sum (input : List Token) :
    Local meaning (sum meaning inner).run input :=
  local_chain hcall (local_chain hcall hinner) input

/-- Signs in front of local factors are local. -/
theorem local_signed (sign : α → α) (input : List Token) :
    Local meaning (signed sign inner) input :=
  (hinner input).map hcall sign

/-- Calls with local arguments are local. -/
theorem local_call (letters : Text) (input : List Token) :
    Local meaning
      (fun input => followed (inner.run input) fun x rest => (meaning.call letters x).map (·, rest))
      input := by
  refine (hinner input).andThen hcall _ (fun x rest _ => ?_) fun x => ?_
  · cases hvalue : meaning.call letters x with
    | ok y => exact .of_stop y fun rest _ => rfl
    | error cause =>
      have hcause : ∀ found, cause ≠ .unexpected found := by
        rintro found rfl
        exact hcall letters x found hvalue
      exact .other rfl hcause
  · cases hvalue : meaning.call letters x with
    | ok y => exact .inl ⟨y, rfl⟩
    | error cause => exact .inr ⟨letters, x, cause, hvalue, rfl⟩

/-- Bases with local factors are local. -/
theorem local_base (input : List Token) :
    Local meaning (base meaning inner) input := by
  cases input with
  | nil =>
    exact .ending rfl (by simp) fun l => .inl ⟨meaning.literal l, base_literal l []⟩
  | cons token more =>
    cases token with
    | number run =>
      cases hread : Literal.ofRun? run with
      | none => exact .other (by rw [base, hread]) (by simp)
      | some l =>
        obtain rfl := Literal.run_of_ofRun? hread
        exact .ok (meaning.literal l) [.number l.run] more rfl (by simp)
          fun rest _ => base_literal l rest
    | name letters =>
      refine .cons (local_call hcall hinner letters more) (base_name letters) (by simp) ?_
      intro _ x _ hnothing
      rw [← base_name] at hnothing
      rcases base_cases hnothing with ⟨_, _, hhead, -⟩ | ⟨_, hhead, -⟩ | ⟨_, _, z, hhead, hreads, -⟩
      · exact absurd (List.cons.inj hhead).1 (by simp)
      · exact absurd (List.cons.inj hhead).1 (by simp)
      · obtain ⟨-, rfl⟩ := List.cons.inj hhead
        exact absurd (inner.shorter hreads) (Nat.lt_irrefl _)
    | mark c =>
      by_cases hopening : c = '('
      · subst hopening
        refine .cons ((local_sum hcall hinner more).andThen hcall
          (fun x rest => .ok (x, dropClosing rest)) (fun x rest _ => local_dropClosing x rest)
          fun x => .inl ⟨x, rfl⟩) (fun more => rfl) (by simp) (by simp)
      · exact .mark c [] more rfl fun more => base_of_mark hopening more

/-- Exponents with local factors are local. -/
theorem local_raise (x : α) (input : List Token) :
    Local meaning (raise meaning inner x) input := by
  by_cases hcaret : nextMark? input = some '^'
  · obtain ⟨more, rfl⟩ := nextMark?_eq_some_iff.1 hcaret
    exact .cons ((hinner more).map hcall (meaning.power x)) (fun more => rfl) (by simp) (by simp)
  · refine .of_stop x fun rest hmark => raise_of_stop (head?_ne_of_nextMark? ?_)
    rw [hmark]
    exact hcaret

/-- Opened factors with local factors inside are local. -/
theorem local_opened (input : List Token) :
    Local meaning (opened meaning inner) input := by
  by_cases hplus : nextMark? input = some '+'
  · obtain ⟨more, rfl⟩ := nextMark?_eq_some_iff.1 hplus
    exact .cons (local_signed hcall hinner meaning.plus more) (fun more => rfl) (by simp) (by simp)
  by_cases hminus : nextMark? input = some '-'
  · obtain ⟨more, rfl⟩ := nextMark?_eq_some_iff.1 hminus
    exact .cons (local_signed hcall hinner meaning.minus more) (fun more => rfl) (by simp) (by simp)
  have hpower := (local_base hcall hinner input).andThen hcall (raise meaning inner)
    (fun x rest _ => local_raise hcall hinner x rest) fun x => .inl ⟨x, rfl⟩
  refine hpower.congr fun input' hmark => ?_
  rw [← hmark] at hplus hminus
  exact opened_of_base (head?_ne_of_nextMark? hplus) (head?_ne_of_nextMark? hminus)

end Factors

/-- Factors are local, however many may be open. -/
theorem local_factor (hcall : meaning.FindsNothing) (limit room : Nat) (input : List Token) :
    Local meaning (factor meaning limit room).run input := by
  induction room generalizing input with
  | zero => exact .other (run_factor_zero meaning limit input) (by simp)
  | succ room ih => exact local_opened hcall ih input

end Reader

/-! ## Whole expressions -/

section Whole

variable {α : Type} {meaning : Meaning α} {limit : Nat} {input : List Token}

/-- An unexpected token is unexpected behind the tokens in front of it, whatever comes after
it, and so is every other one that begins in the same way and is no other mark.  The tokens
in front of it end in no name if it is not a mark. -/
theorem readTokens_unexpected (hcall : meaning.FindsNothing) {c : Char}
    (h : readTokens meaning limit input = .error (.unexpected (some c))) :
    ∃ front token more, input = front ++ token :: more ∧ token.first? = some c ∧
      (token.mark? = none → ∀ letters, front.getLast? ≠ some (.name letters)) ∧
      ∀ other others, other.first? = some c → other.mark? = token.mark? →
        readTokens meaning limit (front ++ other :: others) = .error (.unexpected (some c)) := by
  have hlocal := Reader.local_sum hcall (Reader.local_factor hcall limit limit) input
  cases hlocal with
  | ok x front rest hinput hlast hreads =>
    subst hinput
    rw [readTokens, hreads rest rfl] at h
    cases rest with
    | nil => exact absurd h (by simp [Reader.complete])
    | cons token more =>
      obtain hfirst : token.first? = some c := Cause.unexpected.inj (Except.error.inj h)
      refine ⟨front, token, more, rfl, hfirst, fun _ => hlast, ?_⟩
      intro other others hother hmark
      rw [readTokens, hreads (other :: others) hmark, Reader.complete, Reader.unexpected, hother]
  | mark d front more hinput hfails =>
    subst hinput
    rw [readTokens, hfails more] at h
    obtain rfl : d = c := Option.some.inj (Cause.unexpected.inj (Except.error.inj h))
    refine ⟨front, .mark d, more, rfl, rfl, by simp [Token.mark?], ?_⟩
    intro other others _ hmark
    cases other with
    | number run => exact absurd hmark (by simp [Token.mark?])
    | name letters => exact absurd hmark (by simp [Token.mark?])
    | mark e =>
      obtain rfl : e = d := Option.some.inj hmark
      rw [readTokens, hfails others]
      rfl
  | ending hfails _ _ =>
    rw [readTokens, hfails] at h
    exact absurd h (by simp [Reader.complete])
  | other hfails hcause =>
    rw [readTokens, hfails] at h
    exact absurd (Except.error.inj h) (hcause (some c))

/-- Where the end is unexpected, no number is last, and a number at the end gives the
expression a value or the failure of a call. -/
theorem readTokens_append_number (hcall : meaning.FindsNothing)
    (hfirst : ∀ token ∈ input, token.first? ≠ none)
    (h : readTokens meaning limit input = .error (.unexpected none)) :
    (∀ run, input.getLast? ≠ some (.number run)) ∧ ∀ l : Literal,
      (∃ x, readTokens meaning limit (input ++ [.number l.run]) = .ok x) ∨
        ∃ name x cause, meaning.call name x = .error cause ∧
          readTokens meaning limit (input ++ [.number l.run]) = .error cause := by
  have hlocal := Reader.local_sum hcall (Reader.local_factor hcall limit limit) input
  cases hlocal with
  | ok x front rest hinput _ hreads =>
    subst hinput
    rw [readTokens, hreads rest rfl] at h
    cases rest with
    | nil => exact absurd h (by simp [Reader.complete])
    | cons token more =>
      have hnone : token.first? = none := Cause.unexpected.inj (Except.error.inj h)
      exact absurd hnone (hfirst token (by simp))
  | mark d front more hinput hfails =>
    subst hinput
    rw [readTokens, hfails more] at h
    exact absurd h (by simp [Reader.complete])
  | ending _ hlast hnumber =>
    refine ⟨hlast, fun l => ?_⟩
    rw [readTokens]
    rcases hnumber l with ⟨x, hx⟩ | ⟨name, x, cause, hfails, hx⟩
    · exact .inl ⟨x, by rw [hx, Reader.complete]⟩
    · exact .inr ⟨name, x, cause, hfails, by rw [hx, Reader.complete]⟩
  | other hfails hcause =>
    rw [readTokens, hfails] at h
    exact absurd (Except.error.inj h) (hcause none)

end Whole

namespace Token

/-- A text may be cut in front of each of its tokens, and what is read of the first part is
what is read in front of the token. -/
theorem exists_append_of_lex {text : Text} {before after : List Token} {token : Token}
    (h : lex text = before ++ token :: after) :
    ∃ front rest, text = front ++ (token.spelling ++ rest) ∧ lex front = before ∧
      ∀ last, (scan front).getLast? = some last → last.StopsBefore (token.spelling ++ rest) := by
  obtain ⟨tokens, others, hscan, hbefore, hothers⟩ := List.filter_eq_append_iff.1 h
  obtain ⟨spaces, more, rfl, hspaces, -, -⟩ := List.filter_eq_cons_iff.1 hothers
  rw [← List.append_assoc] at hscan
  obtain ⟨hfront, -, hlast⟩ := scan_split hscan
  refine ⟨(tokens ++ spaces).flatMap spelling, more.flatMap spelling, ?_, ?_, ?_⟩
  · calc text = (scan text).flatMap spelling := (flatMap_spelling_scan text).symm
      _ = _ := by rw [hscan, List.flatMap_append, List.flatMap_cons]
  · rw [lex, hfront, List.filter_append, hbefore, List.filter_eq_nil_iff.2 hspaces,
      List.append_nil]
  · rw [hfront]
    exact hlast

/-- A first character tells the kind of its token, and the character of a mark. -/
theorem mark?_next {token : Token} {c : Char} (hproper : token.IsProper)
    (hfirst : token.first? = some c) (text : Text) :
    (next c text).1.first? = some c ∧ (next c text).1.mark? = token.mark? := by
  cases token with
  | number run =>
    have hc : isRunCharacter c = true := hproper.2 c (List.mem_of_mem_head? hfirst)
    rw [next, if_pos hc]
    exact ⟨rfl, rfl⟩
  | name letters =>
    have hc : isSmallLetter c = true := by
      rcases hproper with rfl | ⟨-, hletters⟩
      · obtain rfl : 'l' = c := Option.some.inj hfirst
        decide
      · exact hletters c (List.mem_of_mem_head? hfirst)
    rw [next, if_neg (by simp [isRunCharacter_of_isSmallLetter hc]), if_pos hc]
    unfold named
    split
    · next hlog _ =>
      obtain rfl := (List.cons.inj hlog).1
      exact ⟨rfl, rfl⟩
    · exact ⟨rfl, rfl⟩
  | mark d =>
    obtain rfl : d = c := Option.some.inj hfirst
    obtain ⟨-, hrun, hletter⟩ := hproper
    rw [next, if_neg (by simp [hrun]), if_neg (by simp [hletter])]
    exact ⟨rfl, rfl⟩

/-- The digit one is a number of its own behind a text that ends in no number. -/
theorem lex_append_one {text : Text} (h : ∀ run, (lex text).getLast? ≠ some (number run)) :
    lex (text ++ ['1']) = lex text ++ [number ['1']] := by
  have hone : lex ['1'] = [number ['1']] := Literal.lex_run ⟨['1'], ⟨1, 0⟩, rfl⟩
  rw [← hone]
  apply lex_append_of_stops
  intro token hlast
  cases token with
  | number run => exact absurd (getLast?_lex hlast (by simp)) (h run)
  | mark c => trivial
  | name letters =>
    by_cases hlog : letters = "log10".toList
    · exact .inl hlog
    refine .inr ⟨?_, fun _ => by decide⟩
    rintro d ⟨⟩
    rfl

end Token

/-- What is unexpected in a text is so in every text with the same characters up to it. -/
theorem exists_append_of_evaluate_unexpected {text : Text} {c : Char}
    (h : evaluate text = .error (.unexpected (some c))) :
    ∃ front more, text = front ++ c :: more ∧ c ≠ ' ' ∧
      ∀ others, evaluate (front ++ c :: others) = .error (.unexpected (some c)) := by
  obtain ⟨before, token, after, hlex, hfirst, hname, hothers⟩ :=
    readTokens_unexpected Meaning.findsNothing_number h
  obtain ⟨front, rest, htext, hfront, hstops⟩ := Token.exists_append_of_lex hlex
  have hmem : token ∈ Token.lex text := by simp [hlex]
  have hproper : token.IsProper := Token.isProper_of_mem_lex hmem
  obtain ⟨d, more, hspelling, hspace, hnumber, -⟩ := Token.first_of_isProper hproper
  obtain rfl : d = c := by simpa [Token.first?, hspelling] using hfirst
  rw [hspelling, List.cons_append] at htext hstops
  refine ⟨front, more ++ rest, htext, hspace, fun others => ?_⟩
  have hcut : ∀ last, (Token.scan front).getLast? = some last → last.StopsBefore (d :: others) := by
    intro last hlast
    have hbefore := hstops last hlast
    cases last with
    | number run => exact hbefore
    | mark e => trivial
    | name letters =>
      rcases hbefore with hlog | ⟨hboundary, -⟩
      · exact .inl hlog
      refine .inr ⟨hboundary, fun _ hten => ?_⟩
      obtain rfl : '1' = d := (List.cons_prefix_cons.1 hten).1
      have hend := Token.getLast?_lex hlast (by simp)
      rw [hfront] at hend
      refine hname ?_ letters hend
      rw [hnumber (by decide)]
      rfl
  obtain ⟨hsame, hkind⟩ := Token.mark?_next hproper hfirst others
  rw [evaluate, readAs, Token.lex_append_of_stops hcut, hfront, Token.lex_cons hspace]
  exact hothers _ _ hsame hkind

/-- Where the end of a text is unexpected, the digit one at the end gives it a value or the
failure of a function. -/
theorem evaluate_append_one {text : Text} (h : evaluate text = .error (.unexpected none)) :
    (∃ x, evaluate (text ++ ['1']) = .ok x) ∨
      (∃ fault, evaluate (text ++ ['1']) = .error (.domain fault)) ∨
      ∃ name, evaluate (text ++ ['1']) = .error (.unknownFunction name) := by
  have hfirst : ∀ token ∈ Token.lex text, token.first? ≠ none := by
    intro token hmem
    obtain ⟨c, more, hspelling, -⟩ := Token.first_of_isProper (Token.isProper_of_mem_lex hmem)
    simp [Token.first?, hspelling]
  obtain ⟨hlast, hnumber⟩ := readTokens_append_number Meaning.findsNothing_number hfirst h
  rw [evaluate, readAs, Token.lex_append_one hlast]
  rcases hnumber ⟨['1'], ⟨1, 0⟩, rfl⟩ with hvalue | ⟨name, x, cause, hfails, hcause⟩
  · exact .inl hvalue
  · rcases Meaning.cause_of_call_number hfails with rfl | ⟨fault, rfl⟩
    · exact .inr (.inr ⟨name, hcause⟩)
    · exact .inr (.inl ⟨fault, hcause⟩)

/-- An unexpected character is the leftmost one, and an unexpected end can be mended.  Where
a character is unexpected, it is no space, and it stays unexpected whatever comes after it.
Where the end is unexpected, the digit one at the end gives the expression a value, or the
failure of a function: an argument outside its domain, or a name that is unknown. -/
theorem evaluate_unexpected (text : Text) :
    (∀ c, evaluate text = .error (.unexpected (some c)) →
        ∃ front more, text = front ++ c :: more ∧ c ≠ ' ' ∧
          ∀ others, evaluate (front ++ c :: others) = .error (.unexpected (some c))) ∧
      (evaluate text = .error (.unexpected none) →
        (∃ x, evaluate (text ++ ['1']) = .ok x) ∨
          (∃ fault, evaluate (text ++ ['1']) = .error (.domain fault)) ∨
          ∃ name, evaluate (text ++ ['1']) = .error (.unknownFunction name)) :=
  ⟨fun _ => exists_append_of_evaluate_unexpected, evaluate_append_one⟩

/-- Nothing that follows an empty parenthesis makes it a factor, and a last name lacks no
more than its argument. -/
theorem evaluate_unexpected_parenthesis :
    (∀ others, evaluate ("()".toList ++ others) = .error (.unexpected (some ')'))) ∧
      ((∃ x, evaluate "-log1".toList = .ok x) ∨
        (∃ fault, evaluate "-log1".toList = .error (.domain fault)) ∨
        ∃ name, evaluate "-log1".toList = .error (.unknownFunction name)) := by
  have hempty : evaluate "()7".toList = .error (.unexpected (some ')')) :=
    readAs_of_descend rfl
  have hmissing : evaluate "-log".toList = .error (.unexpected none) := readAs_of_descend rfl
  constructor
  · obtain ⟨front, more, htext, -, hothers⟩ :=
      (evaluate_unexpected "()7".toList).1 ')' hempty
    obtain ⟨_, rfl, rfl, -⟩ : ∃ others, front = '(' :: others ∧ others = [] ∧ more = ['7'] := by
      simpa [List.cons_eq_append_iff] using htext
    exact hothers
  · exact (evaluate_unexpected "-log".toList).2 hmissing

end PocketCalculator
