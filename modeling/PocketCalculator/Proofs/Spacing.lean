import PocketCalculator.Expression.Token

/-!
# Spaces between tokens

A list of tokens is written by spelling its tokens one after the other with any
number of spaces around them.  Two neighbours that would run together need at
least one space: two numbers, two names, and the name {lit}`log` before a number
that begins with {lit}`10`.  The name {lit}`log10` ends in a digit and needs none.

Main definitions:

- {lit}`Token.IsProper` describes the tokens that a text can fall into.
- {lit}`Token.Written` relates tokens to the texts that spell them.

Main results:

- Theorem {lit}`Token.lex_of_written`: a text that spells proper tokens falls into
  exactly these tokens.
- Theorems {lit}`Token.written_lex` and {lit}`Token.isProper_of_mem_lex`: every text
  spells the tokens that it falls into, and these are proper.
-/

namespace PocketCalculator

/-! ## Classes of characters -/

/-- Digits and dots are no letters. -/
theorem isSmallLetter_of_isRunCharacter {c : Char} (h : isRunCharacter c = true) :
    isSmallLetter c = false := by
  simp only [isRunCharacter, isDigit, isSmallLetter, Bool.or_eq_true, Bool.and_eq_true,
    Bool.and_eq_false_iff, decide_eq_true_eq, decide_eq_false_iff_not, beq_iff_eq,
    Char.le_def, UInt32.le_iff_toNat_le] at h ⊢
  rcases h with h | rfl
  · have hnine : ('9' : Char).val.toNat = 57 := rfl
    have ha : ('a' : Char).val.toNat = 97 := rfl
    left
    omega
  · decide

/-- Letters are neither digits nor dots. -/
theorem isRunCharacter_of_isSmallLetter {c : Char} (h : isSmallLetter c = true) :
    isRunCharacter c = false := by
  cases hrun : isRunCharacter c with
  | false => rfl
  | true =>
    rw [isSmallLetter_of_isRunCharacter hrun] at h
    exact absurd h Bool.false_ne_true

namespace Token

/-! ## Proper tokens -/

/-- A token that a text can fall into: a run is not empty and has only digits and
dots, a name is {lit}`log10` or has only letters, and nothing else stands alone
but what belongs to neither and is no space. -/
def IsProper : Token → Prop
  | number run => run ≠ [] ∧ ∀ c ∈ run, isRunCharacter c = true
  | name letters =>
    letters = "log10".toList ∨ letters ≠ [] ∧ ∀ c ∈ letters, isSmallLetter c = true
  | mark c => c ≠ ' ' ∧ isRunCharacter c = false ∧ isSmallLetter c = false

instance : DecidablePred IsProper
  | number run =>
    decidable_of_iff (run ≠ [] ∧ run.all isRunCharacter = true) (by simp [IsProper])
  | name letters =>
    decidable_of_iff (letters = "log10".toList ∨ letters ≠ [] ∧ letters.all isSmallLetter = true)
      (by simp [IsProper])
  | mark c =>
    inferInstanceAs (Decidable (c ≠ ' ' ∧ isRunCharacter c = false ∧ isSmallLetter c = false))

/-- A proper token has a first character, which is no space and tells its kind. -/
theorem first_of_isProper {token : Token} (h : token.IsProper) :
    ∃ c more, token.spelling = c :: more ∧ c ≠ ' ' ∧
      (isRunCharacter c = true → token = number (c :: more)) ∧
      (isSmallLetter c = true → token = name (c :: more)) := by
  cases token with
  | number run =>
    obtain ⟨hne, hrun⟩ := h
    obtain ⟨c, more, rfl⟩ := List.exists_cons_of_ne_nil hne
    have hc : isRunCharacter c = true := hrun c List.mem_cons_self
    refine ⟨c, more, rfl, ?_, fun _ => rfl, ?_⟩
    · rintro rfl
      exact absurd hc (by decide)
    · intro hletter
      rw [isSmallLetter_of_isRunCharacter hc] at hletter
      exact absurd hletter Bool.false_ne_true
  | name letters =>
    have hname : ∃ c more, letters = c :: more ∧ isSmallLetter c = true := by
      rcases h with rfl | ⟨hne, hletters⟩
      · exact ⟨'l', "og10".toList, rfl, by decide⟩
      · obtain ⟨c, more, rfl⟩ := List.exists_cons_of_ne_nil hne
        exact ⟨c, more, rfl, hletters c List.mem_cons_self⟩
    obtain ⟨c, more, rfl, hc⟩ := hname
    refine ⟨c, more, rfl, ?_, ?_, fun _ => rfl⟩
    · rintro rfl
      exact absurd hc (by decide)
    · intro hrun
      rw [isRunCharacter_of_isSmallLetter hc] at hrun
      exact absurd hrun Bool.false_ne_true
  | mark c =>
    obtain ⟨hspace, hrun, hletter⟩ := h
    refine ⟨c, [], rfl, hspace, ?_, ?_⟩
    · intro h
      rw [hrun] at h
      exact absurd h Bool.false_ne_true
    · intro h
      rw [hletter] at h
      exact absurd h Bool.false_ne_true

/-! ## Where a token ends -/

/-- Whether a token stops where a given text goes on: its run or its letters cannot
be continued, and the letters {lit}`log` do not meet {lit}`10`. -/
def StopsBefore (text : Text) : Token → Prop
  | number _ => ∀ c, text.head? = some c → isRunCharacter c = false
  | name letters => letters = "log10".toList ∨
      (∀ c, text.head? = some c → isSmallLetter c = false) ∧
        (letters = "log".toList → ¬ "10".toList <+: text)
  | mark _ => True

/-- Every token stops before a space and before the end. -/
theorem stopsBefore_of_space {token : Token} {text : Text}
    (h : ∀ c, text.head? = some c → c = ' ') : token.StopsBefore text := by
  cases token with
  | number run =>
    intro c hc
    rw [h c hc]
    decide
  | name letters =>
    refine Or.inr ⟨?_, ?_⟩
    · intro c hc
      rw [h c hc]
      decide
    · rintro - ⟨more, rfl⟩
      exact absurd (h '1' rfl) (by decide)
  | mark c => trivial

/-- Letters that do not meet {lit}`10` after {lit}`log` are a name as they stand. -/
theorem named_eq {letters text : Text}
    (h : letters = "log".toList → ¬ "10".toList <+: text) :
    named letters text = (name letters, text) := by
  unfold named
  split
  · next rest => exact absurd ⟨rest, rfl⟩ (h rfl)
  · rfl

/-- The first token of a text is a proper one that stops before the rest. -/
theorem next_of_stopsBefore {token : Token} {c : Char} {more text : Text}
    (hproper : token.IsProper) (hspelling : token.spelling = c :: more)
    (hstops : token.StopsBefore text) : next c (more ++ text) = (token, text) := by
  cases token with
  | number run =>
    obtain rfl : run = c :: more := hspelling
    have hrun : ∀ d ∈ more, isRunCharacter d = true :=
      fun d hd => hproper.2 d (List.mem_cons_of_mem c hd)
    have hc : isRunCharacter c = true := hproper.2 c List.mem_cons_self
    rw [next, if_pos hc, Text.takeWhile_append_of_boundary hrun hstops,
      Text.dropWhile_append_of_boundary hrun hstops]
  | mark d =>
    obtain ⟨rfl, rfl⟩ : d = c ∧ [] = more := by simpa using hspelling
    obtain ⟨-, hrun, hletter⟩ := hproper
    simp [next, hrun, hletter]
  | name letters =>
    obtain rfl : letters = c :: more := hspelling
    by_cases hlog : c :: more = "log10".toList
    · obtain ⟨rfl, rfl⟩ : c = 'l' ∧ more = "og10".toList := by simpa using hlog
      rfl
    · have hletters := (hproper.resolve_left hlog).2
      have hmore : ∀ d ∈ more, isSmallLetter d = true :=
        fun d hd => hletters d (List.mem_cons_of_mem c hd)
      have hc : isSmallLetter c = true := hletters c List.mem_cons_self
      obtain ⟨hboundary, hten⟩ := hstops.resolve_left hlog
      rw [next, if_neg (by rw [isRunCharacter_of_isSmallLetter hc]; decide), if_pos hc,
        Text.takeWhile_append_of_boundary hmore hboundary,
        Text.dropWhile_append_of_boundary hmore hboundary, named_eq hten]

/-- What follows a proper token when a text is cut. -/
theorem stopsBefore_next (c : Char) (text : Text) :
    (next c text).1.StopsBefore (next c text).2 := by
  have hboundary (p : Char → Bool) :
      ∀ d, (text.dropWhile p).head? = some d → p d = false := by
    intro d hd
    have hnot := List.head?_dropWhile_not p text
    rw [hd] at hnot
    simpa using hnot
  unfold next
  split
  · exact hboundary isRunCharacter
  split
  · unfold named
    split
    · exact Or.inl rfl
    · next hnotTen =>
      refine Or.inr ⟨hboundary isSmallLetter, ?_⟩
      rintro hlog ⟨rest, hrest⟩
      exact hnotTen rest hlog hrest.symm
  · trivial

/-- The first token of a text is proper, unless it is a space. -/
theorem isProper_next {c : Char} {text : Text} (h : (next c text).1 ≠ mark ' ') :
    (next c text).1.IsProper := by
  have hinside {p : Char → Bool} (hc : p c = true) :
      ∀ d ∈ c :: text.takeWhile p, p d = true := by
    intro d hd
    rcases List.mem_cons.1 hd with rfl | hd
    · exact hc
    · exact List.all_eq_true.1 List.all_takeWhile d hd
  unfold next at h ⊢
  split
  · next hrun => exact ⟨List.cons_ne_nil _ _, hinside hrun⟩
  split
  · next hletter =>
    unfold named
    split
    · exact Or.inl rfl
    · exact Or.inr ⟨List.cons_ne_nil _ _, hinside hletter⟩
  · next hrun hletter =>
    rw [if_neg hrun, if_neg hletter] at h
    refine ⟨?_, by simpa using hrun, by simpa using hletter⟩
    rintro rfl
    exact h rfl

/-! ## Spelling tokens -/

/-- Whether two neighbours would run together with no space between them. -/
def runTogether : Token → Token → Bool
  | number _, number _ => true
  | name letters, name _ => letters ≠ "log10".toList
  | name letters, number run => letters = "log".toList && "10".toList.isPrefixOf run
  | _, _ => false

/-- The texts that spell a list of tokens, with any number of spaces before, between
and after them, and at least one where neighbours would run together. -/
inductive Written : List Token → Text → Prop
  | nil (spaces : Nat) : Written [] (List.replicate spaces ' ')
  | cons (spaces : Nat) (token : Token) {tokens : List Token} {text : Text}
      (apart : ∀ neighbour, tokens.head? = some neighbour →
        token.runTogether neighbour = true → text.head? = some ' ')
      (rest : Written tokens text) :
      Written (token :: tokens) (List.replicate spaces ' ' ++ token.spelling ++ text)

/-- Neighbours that do not run together may touch. -/
theorem Written.touching (spaces : Nat) {token neighbour : Token} {tokens : List Token}
    {text : Text} (hfree : token.runTogether neighbour = false)
    (rest : Written (neighbour :: tokens) text) :
    Written (token :: neighbour :: tokens)
      (List.replicate spaces ' ' ++ token.spelling ++ text) := by
  refine Written.cons spaces token ?_ rest
  intro other hother htogether
  obtain rfl := Option.some.inj hother
  rw [hfree] at htogether
  exact absurd htogether Bool.false_ne_true

/-- Spaces in front of a text fall away. -/
theorem lex_spaces (spaces : Nat) (text : Text) :
    lex (List.replicate spaces ' ' ++ text) = lex text := by
  induction spaces with
  | zero => rfl
  | succ spaces ih =>
    have hnext : next ' ' (List.replicate spaces ' ' ++ text) =
        (mark ' ', List.replicate spaces ' ' ++ text) := rfl
    rw [List.replicate_succ, List.cons_append, ← ih, lex, scan_cons, hnext]
    rfl

/-- A proper token that stops before the rest of a text is its first token. -/
theorem scan_spelling {token : Token} {text : Text} (hproper : token.IsProper)
    (hstops : token.StopsBefore text) : scan (token.spelling ++ text) = token :: scan text := by
  obtain ⟨c, more, hspelling, -⟩ := first_of_isProper hproper
  rw [hspelling, List.cons_append, scan_cons, next_of_stopsBefore hproper hspelling hstops]

/-- A proper token that stops before the rest of a text is the first one read. -/
theorem lex_spelling {token : Token} {text : Text} (hproper : token.IsProper)
    (hstops : token.StopsBefore text) : lex (token.spelling ++ text) = token :: lex text := by
  have hspace : token ≠ mark ' ' := by
    rintro rfl
    exact hproper.1 rfl
  rw [lex, scan_spelling hproper hstops]
  simp [lex, hspace]

/-- A token stops before a neighbour that it does not run together with. -/
theorem stopsBefore_neighbour {token neighbour : Token} {text : Text}
    (hproper : neighbour.IsProper) (hstops : neighbour.StopsBefore text)
    (hfree : token.runTogether neighbour = false) :
    token.StopsBefore (neighbour.spelling ++ text) := by
  obtain ⟨c, more, hspelling, -, hrun, hletter⟩ := first_of_isProper hproper
  rw [hspelling]
  cases token with
  | mark d => trivial
  | number run =>
    intro d hd
    obtain rfl : c = d := Option.some.inj hd
    cases hc : isRunCharacter c with
    | false => rfl
    | true =>
      rw [hrun hc] at hfree
      exact absurd hfree Bool.noConfusion
  | name letters =>
    by_cases hlog : letters = "log10".toList
    · exact Or.inl hlog
    refine Or.inr ⟨?_, ?_⟩
    · intro d hd
      obtain rfl : c = d := Option.some.inj hd
      cases hc : isSmallLetter c with
      | false => rfl
      | true =>
        rw [hletter hc] at hfree
        exact absurd hlog (by simpa [runTogether] using hfree)
    · rintro rfl hten
      obtain ⟨rfl, hzero⟩ : '1' = c ∧ ['0'] <+: more ++ text := List.cons_prefix_cons.1 hten
      rw [hrun (by decide)] at hstops hfree
      cases more with
      | nil =>
        obtain ⟨rest, rfl⟩ := hzero
        exact absurd (hstops '0' rfl) (by decide)
      | cons d more =>
        obtain ⟨rfl, -⟩ : '0' = d ∧ [] <+: more ++ text := List.cons_prefix_cons.1 hzero
        exact absurd hfree (by simp [runTogether, List.isPrefixOf])

/-- In a spelled list every token stops before what follows. -/
theorem stopsBefore_of_written {tokens : List Token} {text : Text}
    (hproper : ∀ token ∈ tokens, token.IsProper) (h : Written tokens text) :
    ∀ token : Token,
      (∀ neighbour, tokens.head? = some neighbour →
        token.runTogether neighbour = true → text.head? = some ' ') →
      token.StopsBefore text := by
  induction h with
  | nil spaces =>
    intro token _
    apply stopsBefore_of_space
    intro c hc
    exact List.eq_of_mem_replicate (List.mem_of_mem_head? hc)
  | @cons spaces neighbour tokens text apart rest ih =>
    intro token hapart
    have hneighbour := ih (fun t ht => hproper t (List.mem_cons_of_mem _ ht)) neighbour apart
    have hfirst := hproper neighbour List.mem_cons_self
    cases spaces with
    | succ spaces =>
      apply stopsBefore_of_space
      intro d hd
      exact (Option.some.inj hd).symm
    | zero =>
      have hfree : token.runTogether neighbour = false := by
        obtain ⟨c, more, hspelling, hspace, -⟩ := first_of_isProper hfirst
        cases htogether : token.runTogether neighbour with
        | false => rfl
        | true =>
          have hblank := hapart neighbour rfl htogether
          rw [hspelling] at hblank
          exact absurd (Option.some.inj hblank) hspace
      exact stopsBefore_neighbour hfirst hneighbour hfree

/-- A text that spells proper tokens falls into exactly these tokens. -/
theorem lex_of_written {tokens : List Token} {text : Text}
    (hproper : ∀ token ∈ tokens, token.IsProper) (h : Written tokens text) :
    lex text = tokens := by
  induction h with
  | nil spaces => rw [← List.append_nil (List.replicate spaces ' '), lex_spaces, lex_nil]
  | cons spaces token apart rest ih =>
    have hrest := fun t ht => hproper t (List.mem_cons_of_mem _ ht)
    rw [List.append_assoc, lex_spaces,
      lex_spelling (hproper token List.mem_cons_self)
        (stopsBefore_of_written hrest rest token apart), ih hrest]

/-! ## The tokens of any text -/

/-- More spaces may stand in front. -/
theorem Written.spaced {tokens : List Token} {text : Text} (h : Written tokens text)
    (more : Nat) : Written tokens (List.replicate more ' ' ++ text) := by
  cases h with
  | nil spaces =>
    rw [List.replicate_append_replicate]
    exact Written.nil (more + spaces)
  | cons spaces token apart rest =>
    rw [← List.append_assoc, ← List.append_assoc, List.replicate_append_replicate]
    exact Written.cons (more + spaces) token apart rest

/-- A text that does not begin with a space begins with its first token. -/
theorem lex_cons {c : Char} (hc : c ≠ ' ') (text : Text) :
    lex (c :: text) = (next c text).1 :: lex (next c text).2 := by
  have hspace : (next c text).1 ≠ mark ' ' := by
    intro hmark
    have hspelling := spelling_next c text
    rw [hmark] at hspelling
    exact hc (List.cons.inj hspelling).1.symm
  rw [lex, scan_cons, List.filter_cons_of_pos (by simpa using hspace), lex]

/-- The first token of a text that does not begin with a space. -/
theorem head?_lex {c : Char} {text : Text} (hc : c ≠ ' ') {token : Token}
    (h : (lex (c :: text)).head? = some token) : token = (next c text).1 := by
  rw [lex_cons hc] at h
  exact (Option.some.inj h).symm

/-- A token that stops before a text does not run together with the first token of it,
unless a space comes between. -/
theorem apart_of_stopsBefore {token : Token} {text : Text} (hstops : token.StopsBefore text)
    {neighbour : Token} (hneighbour : (lex text).head? = some neighbour)
    (htogether : token.runTogether neighbour = true) : text.head? = some ' ' := by
  cases text with
  | nil => exact absurd hneighbour (by simp)
  | cons c text =>
    by_cases hc : c = ' '
    · rw [hc]
      rfl
    exfalso
    have hnext := head?_lex hc hneighbour
    have hspelling := spelling_next c text
    rw [← hnext] at hspelling
    have hproper : neighbour.IsProper := by
      rw [hnext]
      apply isProper_next
      rw [← hnext]
      rintro rfl
      exact hc (List.cons.inj hspelling).1.symm
    obtain ⟨d, more, hfirst, -, -, -⟩ := first_of_isProper hproper
    obtain rfl : d = c := by
      rw [hfirst] at hspelling
      exact (List.cons.inj hspelling).1
    cases neighbour with
    | mark e => cases token <;> exact absurd htogether (by simp [runTogether])
    | number run =>
      obtain rfl : run = d :: more := hfirst
      cases token with
      | mark e => exact absurd htogether (by simp [runTogether])
      | number run =>
        have hrun := hproper.2 d List.mem_cons_self
        rw [hstops d rfl] at hrun
        exact absurd hrun Bool.false_ne_true
      | name letters =>
        simp only [runTogether, Bool.and_eq_true, decide_eq_true_eq,
          List.isPrefixOf_iff_prefix] at htogether
        obtain ⟨rfl, hten⟩ := htogether
        have hstops := (hstops.resolve_left (by decide)).2 rfl
        rw [← hspelling] at hstops
        exact hstops (hten.trans (List.prefix_append _ _))
    | name letters =>
      cases token with
      | mark e => exact absurd htogether (by simp [runTogether])
      | number run => exact absurd htogether (by simp [runTogether])
      | name before =>
        have hlog : before ≠ "log10".toList := by simpa [runTogether] using htogether
        have hletter := (hstops.resolve_left hlog).1 d rfl
        obtain rfl : letters = d :: more := hfirst
        rcases hproper with hten | ⟨-, hletters⟩
        · obtain ⟨rfl, -⟩ : d = 'l' ∧ more = "og10".toList := by simpa using hten
          exact absurd hletter (by decide)
        · rw [hletters d List.mem_cons_self] at hletter
          exact absurd hletter Bool.noConfusion

/-- Every text spells the tokens that it falls into, so none of its characters is lost
or read twice. -/
theorem written_lex (text : Text) : Written (lex text) text := by
  fun_induction scan text with
  | case1 =>
    rw [lex_nil]
    exact Written.nil 0
  | case2 c text ih =>
    by_cases hspace : (next c text).1 = mark ' '
    · have hspelling := spelling_next c text
      rw [hspace] at hspelling
      have hlex : lex (c :: text) = lex (next c text).2 := by
        rw [lex, scan_cons, List.filter_cons_of_neg (by simp [hspace]), lex]
      rw [hlex, ← hspelling]
      exact ih.spaced 1
    · have hlex : lex (c :: text) = (next c text).1 :: lex (next c text).2 := by
        rw [lex, scan_cons, List.filter_cons_of_pos (by simpa using hspace), lex]
      rw [hlex, ← spelling_next c text]
      exact Written.cons 0 _ (fun _ => apart_of_stopsBefore (stopsBefore_next c text)) ih

/-- The tokens that a text falls into are proper. -/
theorem isProper_of_mem_lex {token : Token} {text : Text} (h : token ∈ lex text) :
    token.IsProper := by
  obtain ⟨hscan, hspace⟩ := List.mem_filter.1 h
  have hspace : token ≠ mark ' ' := by simpa using hspace
  clear h
  fun_induction scan text with
  | case1 => exact absurd hscan List.not_mem_nil
  | case2 c text ih =>
    rcases List.mem_cons.1 hscan with rfl | hscan
    · exact isProper_next hspace
    · exact ih hscan

/-! ## The first token of a text -/

/-- A text that begins with a digit or a dot begins with a whole run of them. -/
theorem lex_run {c : Char} (text : Text) (hc : isRunCharacter c = true) :
    lex (c :: text) =
      number (c :: text.takeWhile isRunCharacter) :: lex (text.dropWhile isRunCharacter) := by
  rw [lex, scan_cons, next, if_pos hc, List.filter_cons_of_pos (by simp), lex]

/-- A character that stands alone is a token of its own. -/
theorem lex_mark {c : Char} (text : Text) (hc : (mark c).IsProper) :
    lex (c :: text) = mark c :: lex text :=
  lex_spelling hc trivial

/-! ## Closing parentheses at the end -/

/-- Closing parentheses may be added at the end. -/
theorem Written.closed {tokens : List Token} {text : Text} (h : Written tokens text)
    (count : Nat) :
    Written (tokens ++ List.replicate count (mark ')')) (text ++ List.replicate count ')') := by
  induction h with
  | nil spaces =>
    refine Written.spaced ?_ spaces
    induction count with
    | zero => exact Written.nil 0
    | succ count ih =>
      refine Written.cons 0 (mark ')') ?_ ih
      intro neighbour _ htogether
      exact absurd htogether (by simp [runTogether])
  | @cons spaces token tokens text apart rest ih =>
    rw [List.append_assoc]
    refine Written.cons spaces token ?_ ih
    intro neighbour hneighbour htogether
    cases tokens with
    | nil =>
      obtain rfl : mark ')' = neighbour := by
        have hmem := List.mem_of_mem_head? hneighbour
        exact (List.eq_of_mem_replicate hmem).symm
      cases token <;> exact absurd htogether (by simp [runTogether])
    | cons first others =>
      rw [List.head?_append, apart neighbour hneighbour htogether]
      rfl

end Token

end PocketCalculator
