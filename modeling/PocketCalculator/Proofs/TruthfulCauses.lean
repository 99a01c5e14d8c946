import PocketCalculator.Proofs.DescentPieces
import PocketCalculator.Proofs.LastRun
import PocketCalculator.Proofs.TextCuts
import PocketCalculator.Proofs.Unlimited

/-!
# What a cause says about its expression

A failure of an evaluation blames a token of the expression, and a token is a stretch of its
text.  So every cause of such a failure tells something about the text that is true: the
unexpected character is in it, the malformed number and the unknown name are stretches that
no more characters of their kind follow, a function outside its domain is named in it, and
what is nested too deeply is long enough for that.  The other causes belong to other keys.

Main definitions:

- {lit}`Text.Stretch` is a stretch of characters of one class that ends where the class ends.
- {lit}`Cause.TellsOf` is what a cause says about the text of its expression.

Main results:

- Theorem {lit}`Token.exists_stops_of_mem_lex`: where a token stands in its text.
- Theorem {lit}`Token.stretch_of_number` and {lit}`Token.stretch_of_name`: runs and names are
  stretches.
- Theorem {lit}`tellsOf_of_evaluate`: the causes of an evaluation tell the truth.
-/

namespace PocketCalculator

/-! ## Stretches of a text -/

/-- A stretch of characters of a class stands in a text between what is in front of it and
the rest, and no character of the class follows it there. -/
structure Text.Stretch (class? : Char → Bool) (text front stretch rest : Text) : Prop where
  parts : text = front ++ (stretch ++ rest)
  nonempty : stretch ≠ []
  inside : ∀ c ∈ stretch, class? c = true
  stops : ∀ c, rest.head? = some c → class? c = false

namespace Token

/-- A token stands in its text and stops before what follows, and the one in front of it
stops before it. -/
theorem exists_stops_of_mem_lex {text : Text} {token : Token} (h : token ∈ lex text) :
    ∃ front rest, text = front ++ (token.spelling ++ rest) ∧ token.StopsBefore rest ∧
      ∀ last, (scan front).getLast? = some last →
        last.StopsBefore (token.spelling ++ rest) := by
  obtain ⟨before, after, hscan⟩ := List.append_of_mem (List.mem_filter.1 h).1
  have htext : text = before.flatMap spelling ++ (token.spelling ++ after.flatMap spelling) := by
    rw [← List.flatMap_cons, ← List.flatMap_append, ← hscan, flatMap_spelling_scan]
  obtain ⟨hbefore, -, hlast⟩ := scan_split hscan
  rw [List.append_cons] at hscan
  obtain ⟨-, -, htoken⟩ := scan_split hscan
  refine ⟨_, _, htext, htoken token List.getLast?_concat, ?_⟩
  rw [hbefore]
  exact hlast

/-- The spelling of a token stands in the text. -/
theorem spelling_isInfix_text {text : Text} {token : Token} (h : token ∈ lex text) :
    token.spelling <:+: text := by
  obtain ⟨front, rest, htext, -⟩ := exists_stops_of_mem_lex h
  exact ⟨front, rest, by rw [htext, List.append_assoc]⟩

/-- A run is a stretch of digits and dots. -/
theorem stretch_of_number {text run : Text} (h : number run ∈ lex text) :
    ∃ front rest, Text.Stretch isRunCharacter text front run rest := by
  obtain ⟨hne, hinside⟩ : (number run).IsProper := isProper_of_mem_lex h
  obtain ⟨front, rest, htext, hstops, -⟩ := exists_stops_of_mem_lex h
  exact ⟨front, rest, htext, hne, hinside, hstops⟩

/-- No letter stands directly in front of a letter where a name begins. -/
theorem isSmallLetter_of_stops {front text : Text} {c d : Char}
    (h : ∀ last, (scan front).getLast? = some last → last.StopsBefore text)
    (hd : text.head? = some d) (hletter : isSmallLetter d = true)
    (hc : front.getLast? = some c) : isSmallLetter c = false := by
  cases hlast : (scan front).getLast? with
  | none =>
    rw [← flatMap_spelling_scan front, List.getLast?_eq_none_iff.1 hlast] at hc
    exact absurd hc (by simp)
  | some last =>
    rw [← getLast?_spelling_of_scan hlast] at hc
    rcases isProper_of_mem_scan (List.mem_of_getLast? hlast) with rfl | hproper
    · obtain rfl : ' ' = c := Option.some.inj hc
      rfl
    rw [← Bool.not_eq_true]
    intro hend
    obtain ⟨letters, rfl, hlog⟩ := exists_name_of_getLast? hproper hc hend
    have hstops := ((h _ hlast).resolve_left hlog).1 d hd
    rw [hletter] at hstops
    exact absurd hstops.symm Bool.false_ne_true

/-- A name without digits is a stretch of small letters, and no letter stands in front of
it. -/
theorem stretch_of_name {text letters : Text} (h : name letters ∈ lex text)
    (hlog : letters ≠ "log10".toList) :
    ∃ front rest, Text.Stretch isSmallLetter text front letters rest ∧
      ∀ c, front.getLast? = some c → isSmallLetter c = false := by
  have hproper : (name letters).IsProper := isProper_of_mem_lex h
  obtain ⟨hne, hinside⟩ := hproper.resolve_left hlog
  obtain ⟨front, rest, htext, hstops, hfront⟩ := exists_stops_of_mem_lex h
  have hboundary := (Or.resolve_left hstops hlog).1
  refine ⟨front, rest, ⟨htext, hne, hinside, hboundary⟩, fun c hc => ?_⟩
  obtain ⟨d, more, rfl⟩ := List.exists_cons_of_ne_nil hne
  exact isSmallLetter_of_stops hfront rfl (hinside d List.mem_cons_self) hc

end Token

/-! ## Causes -/

/-- A run of digits and dots that is no literal has no digit, or more than one dot. -/
theorem Literal.no_digit_or_dots {run : Text} (hrun : ∀ c ∈ run, isRunCharacter c = true)
    (hnone : Literal.ofRun? run = none) :
    (∀ c ∈ run, isDigit c = false) ∨ 2 ≤ run.count '.' := by
  rw [Literal.ofRun?_eq_none_iff] at hnone
  by_cases hdigit : ∃ c ∈ run, isDigit c = true
  · right
    by_contra hdots
    have hnumeral : IsNumeral run := ⟨hdigit, by omega⟩
    have hsome := (Decimal.ofPlain?_eq_some_iff hrun).2 ⟨hnumeral, rfl⟩
    rw [hnone] at hsome
    contradiction
  · left
    simpa using hdigit

/-- What a cause says about the text of an expression.  An unexpected character is in it, and
is no space.  A malformed number is a stretch of digits and dots of it, with no digit or with
two dots at least.  An unknown name is a stretch of letters of it, maximal on both sides.  An
argument is outside the domain of a function that is named in it.  And factors can be nested
too deeply only if it has a character for each of them.  No other cause says anything about an
expression. -/
def Cause.TellsOf (text : Text) : Cause → Prop
  | .unexpected none => True
  | .unexpected (some c) => c ∈ text ∧ c ≠ ' '
  | .malformedNumber run =>
    (∃ front rest, Text.Stretch isRunCharacter text front run rest) ∧
      ((∀ c ∈ run, isDigit c = false) ∨ 2 ≤ run.count '.')
  | .unknownFunction name =>
    (∃ front rest, Text.Stretch isSmallLetter text front name rest ∧
      ∀ c, front.getLast? = some c → isSmallLetter c = false) ∧
      ∀ f : ScalarFunction, f.name ≠ name
  | .domain fault =>
    fault.message = "sqrt of negative".toList ∧ "sqrt".toList <:+: text ∨
      fault.message = "log of non-positive".toList ∧
        ("ln".toList <:+: text ∨ "log10".toList <:+: text)
  | .tooDeeplyNested limit => limit = 512 ∧ 512 ≤ text.length
  | .factorialTooLarge _ => False
  | .notFinite => False
  | .notANumber _ => False

/-- The failure of a function tells the truth where the function is named. -/
theorem ScalarFunction.tellsOf_of_apply {f : ScalarFunction} {x : Float} {cause : Cause}
    (h : f.apply x = .error cause) {text : Text} (hname : f.name <:+: text) :
    cause.TellsOf text := by
  rcases cause_of_apply h with ⟨rfl, rfl⟩ | ⟨rfl | rfl, rfl⟩
  · exact .inl ⟨rfl, hname⟩
  · exact .inr ⟨rfl, .inl hname⟩
  · exact .inr ⟨rfl, .inr hname⟩

/-- The causes of an evaluation tell the truth about the text. -/
theorem tellsOf_of_evaluate {text : Text} {cause : Cause} (h : evaluate text = .error cause) :
    cause.TellsOf text := by
  cases blames_of_readTokens h with
  | ending => trivial
  | @token token hmem =>
    obtain ⟨c, more, hspelling, hspace, -⟩ :=
      Token.first_of_isProper (Token.isProper_of_mem_lex hmem)
    have hstands := Token.spelling_isInfix_text hmem
    rw [Token.first?, hspelling]
    rw [hspelling] at hstands
    exact ⟨hstands.subset List.mem_cons_self, hspace⟩
  | run hmem hrun =>
    have hproper : (Token.number _).IsProper := Token.isProper_of_mem_lex hmem
    exact ⟨Token.stretch_of_number hmem, Literal.no_digit_or_dots hproper.2 hrun⟩
  | @call name x _ hmem hcall =>
    rcases Meaning.call_number_error_cases hcall with ⟨hunknown, rfl⟩ | ⟨f, rfl, hfails⟩
    · exact ⟨Token.stretch_of_name hmem (hunknown .log10).symm, hunknown⟩
    · exact ScalarFunction.tellsOf_of_apply hfails (Token.spelling_isInfix_text hmem)
  | nesting hroom => exact ⟨rfl, Nat.le_trans hroom (Token.length_lex_le text)⟩

/-- A malformed number may begin directly behind the digits of {lit}`log10`. -/
theorem tellsOf_of_evaluate_behind_log10 :
    evaluate "log10.5.5".toList = .error (.malformedNumber ".5.5".toList) ∧
      (∃ front rest, Text.Stretch isRunCharacter "log10.5.5".toList front ".5.5".toList rest) ∧
      ((∀ c ∈ ".5.5".toList, isDigit c = false) ∨ 2 ≤ ".5.5".toList.count '.') := by
  have hfails : evaluate "log10.5.5".toList = .error (.malformedNumber ".5.5".toList) :=
    readAs_of_descend rfl
  exact ⟨hfails, tellsOf_of_evaluate hfails⟩

end PocketCalculator
