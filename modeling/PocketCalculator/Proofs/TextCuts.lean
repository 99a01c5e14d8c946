import PocketCalculator.Expression.Reader
import PocketCalculator.Proofs.Spacing

/-!
# Cutting a text between two tokens

A text may be cut where its first part ends in a token that stops before the second part:
then the tokens of the whole are those of the two parts, one after the other, and nowhere
else does a cut leave the tokens as they are.  The characters around a position tell where
that is.  What could run together are digits and dots with each other, small letters with
each other, and the name {lit}`log` with a {lit}`10` behind it.  At all other positions a
text falls into the same tokens with spaces as without.

Main definitions:

- {lit}`Token.EndsInLog` says that the name {lit}`log` ends a text.
- {lit}`Token.Separated` says that the characters around a position cannot run together.

Main results:

- Theorem {lit}`Token.scan_append_iff`: where a text may be cut.
- Theorem {lit}`Token.scan_split`: the tokens of a text may be cut anywhere.
- Theorem {lit}`Token.Separated.stopsBefore`: what cannot run together may be cut.
- Theorem {lit}`evaluate_insert_spaces`: spaces between tokens never matter.
-/

namespace PocketCalculator

namespace Token

/-! ## What a token stops before -/

/-- What a token stops before may be shortened. -/
theorem StopsBefore.of_append {token : Token} {text more : Text}
    (h : token.StopsBefore (text ++ more)) : token.StopsBefore text := by
  cases text with
  | nil => exact stopsBefore_of_space (by simp)
  | cons c text =>
    cases token with
    | number run => exact h
    | mark d => exact h
    | name letters =>
      rcases h with hlog | ⟨hboundary, hten⟩
      · exact .inl hlog
      · refine .inr ⟨hboundary, fun hlog hprefix => hten hlog ?_⟩
        exact hprefix.trans (List.prefix_append _ _)

/-- A proper token stops before a text that begins with neither a digit nor a dot, if the
token does not end in a letter or the text does not begin with one. -/
theorem stopsBefore_of_boundary {token : Token} {text : Text} (hproper : token.IsProper)
    (hrun : ∀ c, text.head? = some c → isRunCharacter c = false)
    (hletter : (∀ d, token.spelling.getLast? = some d → isSmallLetter d = false) ∨
      ∀ c, text.head? = some c → isSmallLetter c = false) : token.StopsBefore text := by
  cases token with
  | number run => exact hrun
  | mark c => trivial
  | name letters =>
    by_cases hlog : letters = "log10".toList
    · exact .inl hlog
    refine .inr ⟨?_, ?_⟩
    · rcases hletter with hlast | hfirst
      · obtain ⟨hne, hletters⟩ := hproper.resolve_left hlog
        have hend := hletters _ (List.getLast_mem hne)
        rw [hlast _ (List.getLast?_eq_some_getLast hne)] at hend
        exact absurd hend Bool.false_ne_true
      · exact hfirst
    · rintro - ⟨more, rfl⟩
      exact absurd (hrun '1' rfl) (by decide)

/-- The first token of a text is the first one of every text that it is spelled in and that
it stops in. -/
theorem scan_spelling_next {c : Char} {text more : Text} (h : (next c text).1.StopsBefore more) :
    scan ((next c text).1.spelling ++ more) = (next c text).1 :: scan more := by
  by_cases hspace : (next c text).1 = mark ' '
  · rw [hspace, spelling_mark, List.singleton_append, scan_cons]
    rfl
  · exact scan_spelling (isProper_next hspace) h

/-! ## Where a text may be cut -/

/-- The last token of a text ends it. -/
theorem exists_append_of_getLast? {text : Text} {token : Token}
    (h : (scan text).getLast? = some token) :
    ∃ start, scan text = start ++ [token] ∧ text = start.flatMap spelling ++ token.spelling := by
  obtain ⟨start, hstart⟩ := List.getLast?_eq_some_iff.1 h
  refine ⟨start, hstart, ?_⟩
  calc text = (scan text).flatMap spelling := (flatMap_spelling_scan text).symm
    _ = start.flatMap spelling ++ token.spelling := by simp [hstart]

/-- A token stops before a longer text as well, if it ends the shorter one or the last token
of the shorter one stops before what is added. -/
theorem StopsBefore.append {token : Token} {rest text : Text} (h : token.StopsBefore rest)
    (hends : rest = [] → token.StopsBefore text)
    (hlast : ∀ last, (scan rest).getLast? = some last → last.StopsBefore text) :
    token.StopsBefore (rest ++ text) := by
  cases rest with
  | nil => exact hends rfl
  | cons c rest =>
    cases token with
    | number run => exact h
    | mark d => exact h
    | name letters =>
      rcases h with hlog | ⟨hboundary, hten⟩
      · exact .inl hlog
      refine .inr ⟨hboundary, fun hlog hprefix => ?_⟩
      obtain ⟨rfl, hzero⟩ : '1' = c ∧ ['0'] <+: rest ++ text := List.cons_prefix_cons.1 hprefix
      cases rest with
      | nil =>
        obtain ⟨more, rfl⟩ := hzero
        have hone : scan ['1'] = [number ['1']] := by
          simp [scan_cons, next, isRunCharacter, isDigit]
        have hzero : isRunCharacter '0' = false := hlast (number ['1']) (by simp [hone]) '0' rfl
        exact absurd hzero (by decide)
      | cons d rest =>
        obtain ⟨rfl, -⟩ : '0' = d ∧ [] <+: rest ++ text := List.cons_prefix_cons.1 hzero
        exact hten hlog ⟨rest, rfl⟩

/-- A text may be cut behind a token that stops there. -/
theorem scan_append {front text : Text}
    (h : ∀ token, (scan front).getLast? = some token → token.StopsBefore text) :
    scan (front ++ text) = scan front ++ scan text := by
  fun_induction scan front with
  | case1 => rfl
  | case2 c front ih =>
    have hrest : ∀ token, (scan (next c front).2).getLast? = some token →
        token.StopsBefore text := by
      intro token hlast
      apply h
      rw [List.getLast?_cons, hlast]
      rfl
    have hends : (next c front).2 = [] → (next c front).1.StopsBefore text := by
      intro hnil
      apply h
      rw [hnil, scan_nil]
      rfl
    have hstops := (stopsBefore_next c front).append hends hrest
    rw [← spelling_next c front, List.append_assoc, scan_spelling_next hstops, ih hrest]
    rfl

/-- The tokens of a text may be cut anywhere: both parts fall into the tokens that were
theirs, and the last one in front stops before what follows. -/
theorem scan_split {text : Text} {before after : List Token} (h : scan text = before ++ after) :
    scan (before.flatMap spelling) = before ∧ scan (after.flatMap spelling) = after ∧
      ∀ token, before.getLast? = some token → token.StopsBefore (after.flatMap spelling) := by
  induction before generalizing text with
  | nil =>
    rw [List.nil_append] at h
    refine ⟨scan_nil, ?_, by simp⟩
    rw [← h, flatMap_spelling_scan]
  | cons token before ih =>
    cases text with
    | nil => exact absurd h (by simp)
    | cons c text =>
      rw [scan_cons, List.cons_append] at h
      obtain ⟨rfl, hrest⟩ := List.cons.inj h
      obtain ⟨hbefore, hafter, hlast⟩ := ih hrest
      have htext : (next c text).2 = before.flatMap spelling ++ after.flatMap spelling := by
        rw [← flatMap_spelling_scan (next c text).2, hrest, List.flatMap_append]
      have hstops := stopsBefore_next c text
      rw [htext] at hstops
      refine ⟨?_, hafter, ?_⟩
      · rw [List.flatMap_cons, scan_spelling_next hstops.of_append, hbefore]
      · intro last hl
        cases before with
        | nil =>
          obtain rfl := Option.some.inj hl
          exact hstops
        | cons second before => exact hlast last hl

/-- A text may be cut exactly where its last token in front stops before what follows. -/
theorem scan_append_iff {front text : Text} :
    scan (front ++ text) = scan front ++ scan text ↔
      ∀ token, (scan front).getLast? = some token → token.StopsBefore text := by
  constructor
  · intro h
    have hlast := (scan_split h).2.2
    rwa [flatMap_spelling_scan] at hlast
  · exact scan_append

/-- Where a text may be cut, what is read of it may be cut as well. -/
theorem lex_append_of_stops {front text : Text}
    (h : ∀ token, (scan front).getLast? = some token → token.StopsBefore text) :
    lex (front ++ text) = lex front ++ lex text := by
  rw [lex, scan_append h, List.filter_append]
  rfl

/-- The tokens of a text are spaces and proper tokens. -/
theorem isProper_of_mem_scan {text : Text} {token : Token} (h : token ∈ scan text) :
    token = mark ' ' ∨ token.IsProper := by
  by_cases hspace : token = mark ' '
  · exact .inl hspace
  · have hmem : token ∈ lex text := List.mem_filter.2 ⟨h, by simpa using hspace⟩
    exact .inr (isProper_of_mem_lex hmem)

/-- The last character of a text is the last one of its last token. -/
theorem getLast?_spelling_of_scan {text : Text} {token : Token}
    (h : (scan text).getLast? = some token) : token.spelling.getLast? = text.getLast? := by
  obtain ⟨start, -, htext⟩ := exists_append_of_getLast? h
  have hne : token.spelling ≠ [] := by
    rcases isProper_of_mem_scan (List.mem_of_getLast? h) with rfl | hproper
    · simp
    · obtain ⟨c, more, hspelling, -⟩ := first_of_isProper hproper
      simp [hspelling]
  rw [htext, List.getLast?_append, List.getLast?_eq_some_getLast hne, Option.some_or]

/-- The last token of a text is the last one that is read, unless it is a space. -/
theorem getLast?_lex {text : Text} {token : Token} (h : (scan text).getLast? = some token)
    (hspace : token ≠ mark ' ') : (lex text).getLast? = some token := by
  obtain ⟨start, hscan, -⟩ := exists_append_of_getLast? h
  rw [lex, hscan, List.filter_append, List.filter_cons_of_pos (by simpa using hspace),
    List.filter_nil, List.getLast?_concat]

/-- Only a name ends in a letter, and {lit}`log10` does not. -/
theorem exists_name_of_getLast? {token : Token} {c : Char} (hproper : token.IsProper)
    (hlast : token.spelling.getLast? = some c) (hc : isSmallLetter c = true) :
    ∃ letters, token = name letters ∧ letters ≠ "log10".toList := by
  have hmem : c ∈ token.spelling := List.mem_of_getLast? hlast
  cases token with
  | number run =>
    have hrun := hproper.2 c hmem
    rw [isRunCharacter_of_isSmallLetter hc] at hrun
    contradiction
  | mark d =>
    obtain rfl : c = d := List.mem_singleton.1 hmem
    rw [hproper.2.2] at hc
    contradiction
  | name letters =>
    refine ⟨letters, rfl, ?_⟩
    rintro rfl
    obtain rfl : '0' = c := Option.some.inj hlast
    exact absurd hc (by decide)

/-- A text may be cut where the second part begins with neither a digit nor a dot, and not
with a letter behind a letter. -/
theorem scan_append_of_boundary {front text : Text}
    (hrun : ∀ c, text.head? = some c → isRunCharacter c = false)
    (hletter : (∀ d, front.getLast? = some d → isSmallLetter d = false) ∨
      ∀ c, text.head? = some c → isSmallLetter c = false) :
    scan (front ++ text) = scan front ++ scan text := by
  apply scan_append
  intro token hlast
  rcases isProper_of_mem_scan (List.mem_of_getLast? hlast) with rfl | hproper
  · trivial
  · rw [← getLast?_spelling_of_scan hlast] at hletter
    exact stopsBefore_of_boundary hproper hrun hletter

/-- What is read of such a text may be cut as well. -/
theorem lex_append {front text : Text}
    (hrun : ∀ c, text.head? = some c → isRunCharacter c = false)
    (hletter : (∀ d, front.getLast? = some d → isSmallLetter d = false) ∨
      ∀ c, text.head? = some c → isSmallLetter c = false) :
    lex (front ++ text) = lex front ++ lex text :=
  lex_append_of_stops (scan_append_iff.1 (scan_append_of_boundary hrun hletter))

/-! ## Positions told by characters -/

/-- A text ends in the name {lit}`log`: in these three letters, and not in more. -/
def EndsInLog (text : Text) : Prop :=
  ∃ start, text = start ++ "log".toList ∧
    ∀ c, start.getLast? = some c → isSmallLetter c = false

/-- The characters around the position between two parts of a text cannot run together: it
is not between two digits or dots, not between two small letters, and not behind the name
{lit}`log` where {lit}`10` follows. -/
structure Separated (front text : Text) : Prop where
  run : ∀ c d, front.getLast? = some c → text.head? = some d →
    ¬ (isRunCharacter c = true ∧ isRunCharacter d = true)
  letter : ∀ c d, front.getLast? = some c → text.head? = some d →
    ¬ (isSmallLetter c = true ∧ isSmallLetter d = true)
  log : ¬ (EndsInLog front ∧ "10".toList <+: text)

/-- A text ends in the name {lit}`log` exactly if this name is its last token: a letter in
front would belong to the name. -/
theorem endsInLog_iff {text : Text} :
    EndsInLog text ↔ (scan text).getLast? = some (name "log".toList) := by
  constructor
  · rintro ⟨start, rfl, hstart⟩
    have hlog : scan "log".toList = [name "log".toList] := by
      simp [scan_cons, next, isRunCharacter, isDigit, isSmallLetter, named]
    have hrun : ∀ c, "log".toList.head? = some c → isRunCharacter c = false := by
      intro c hc
      obtain rfl : 'l' = c := Option.some.inj hc
      rfl
    rw [scan_append_of_boundary hrun (.inl hstart), hlog, List.getLast?_concat]
  · intro h
    obtain ⟨tokens, hscan, htext⟩ := exists_append_of_getLast? h
    obtain ⟨hstart, -, hstops⟩ := scan_split hscan
    refine ⟨tokens.flatMap spelling, htext, ?_⟩
    intro c hc
    cases hlast : tokens.getLast? with
    | none =>
      rw [List.getLast?_eq_none_iff.1 hlast] at hc
      exact absurd hc (by simp)
    | some token =>
      have hbefore := hstops token hlast
      rw [← hstart] at hlast
      rw [← getLast?_spelling_of_scan hlast] at hc
      rcases isProper_of_mem_scan (List.mem_of_getLast? hlast) with rfl | hproper
      · obtain rfl : ' ' = c := Option.some.inj hc
        rfl
      · rw [Bool.eq_false_iff]
        intro hletter
        obtain ⟨letters, rfl, hname⟩ := exists_name_of_getLast? hproper hc hletter
        have hl : isSmallLetter 'l' = false := (hbefore.resolve_left hname).1 'l' rfl
        exact absurd hl (by decide)

/-- Where the characters around a position cannot run together, the token in front of it
stops there. -/
theorem Separated.stopsBefore {front text : Text} (h : Separated front text) {token : Token}
    (hlast : (scan front).getLast? = some token) : token.StopsBefore text := by
  have hend := getLast?_spelling_of_scan hlast
  rcases isProper_of_mem_scan (List.mem_of_getLast? hlast) with rfl | hproper
  · trivial
  cases token with
  | mark c => trivial
  | number run =>
    obtain ⟨hne, hrun⟩ := hproper
    rw [spelling_number, List.getLast?_eq_some_getLast hne] at hend
    intro d hd
    rw [Bool.eq_false_iff]
    intro hnext
    exact h.run _ d hend.symm hd ⟨hrun _ (List.getLast_mem hne), hnext⟩
  | name letters =>
    by_cases hlog : letters = "log10".toList
    · exact .inl hlog
    obtain ⟨hne, hletters⟩ := hproper.resolve_left hlog
    rw [spelling_name, List.getLast?_eq_some_getLast hne] at hend
    refine .inr ⟨?_, ?_⟩
    · intro d hd
      rw [Bool.eq_false_iff]
      intro hnext
      exact h.letter _ d hend.symm hd ⟨hletters _ (List.getLast_mem hne), hnext⟩
    · rintro rfl hten
      exact h.log ⟨endsInLog_iff.2 hlast, hten⟩

end Token

/-! ## Spaces -/

/-- Spaces between tokens never matter.  Any number of them may be inserted where the
characters of a text cannot run together: the value stays the same, and so does the
failure. -/
theorem evaluate_insert_spaces {front text : Text} (h : Token.Separated front text)
    (count : Nat) :
    evaluate (front ++ List.replicate count ' ' ++ text) = evaluate (front ++ text) := by
  have hspaces : ∀ token, (Token.scan front).getLast? = some token →
      token.StopsBefore (List.replicate count ' ' ++ text) := by
    intro token hlast
    cases count with
    | zero => exact h.stopsBefore hlast
    | succ count =>
      apply Token.stopsBefore_of_space
      intro c hc
      exact (Option.some.inj hc).symm
  have hlex : Token.lex (front ++ List.replicate count ' ' ++ text) =
      Token.lex (front ++ text) := by
    calc Token.lex (front ++ List.replicate count ' ' ++ text)
        = Token.lex front ++ Token.lex (List.replicate count ' ' ++ text) := by
          rw [List.append_assoc, Token.lex_append_of_stops hspaces]
      _ = Token.lex front ++ Token.lex text := by rw [Token.lex_spaces]
      _ = Token.lex (front ++ text) :=
          (Token.lex_append_of_stops fun _ hlast => h.stopsBefore hlast).symm
  rw [evaluate, evaluate, readAs, readAs, hlex]

/-- The letters {lit}`log` take no {lit}`10` where the number after them is {lit}`1.`, nor
where another letter is in front of them. -/
theorem evaluate_insert_spaces_log :
    Token.Separated "xlog10+log".toList "1.".toList ∧
      evaluate "xlog10+log   1.".toList = evaluate "xlog10+log1.".toList := by
  have hseparated : Token.Separated "xlog10+log".toList "1.".toList := by
    constructor
    · intro c d hc hd
      obtain rfl : 'g' = c := Option.some.inj hc
      simp [isRunCharacter, isDigit]
    · intro c d hc hd
      obtain rfl : '1' = d := Option.some.inj hd
      simp [isSmallLetter]
    · rintro ⟨-, hten⟩
      exact absurd hten (by decide)
  exact ⟨hseparated, evaluate_insert_spaces hseparated 3⟩

end PocketCalculator
