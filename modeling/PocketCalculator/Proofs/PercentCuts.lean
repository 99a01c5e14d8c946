import PocketCalculator.Proofs.LastRun
import PocketCalculator.Proofs.Rereading
import PocketCalculator.Proofs.TextCuts

/-!
# Where the percent key cuts an expression

The percent key cuts an expression in front of its last run of digits and dots.  An
expression is read in tokens, and a run is a token of its own unless it begins with the
{lit}`10` of the name {lit}`log10`.  There, and nowhere else, the key cuts a name in two.

Main results:

- Theorem {lit}`Token.scan_append_iff_endsInLog`: behind no digit and no letter a text may be
  cut, except inside of {lit}`log10`.
- Theorem {lit}`Token.scan_of_inside_name`: the tokens of an expression whose last run begins
  in a name.
- Theorem {lit}`press_percent_tokens`: the percent key cuts in front of a number exactly if
  the last run does not begin in a name.
-/

namespace PocketCalculator

/-! ## The first character of a result -/

/-- A result begins with no small letter. -/
theorem Display.isSmallLetter_of_head?_ofFloat {x : Float} {c : Char}
    (h : (ofFloat x).head? = some c) : isSmallLetter c = false := by
  cases hfinite : (Exact.ofFloat x).isFinite with
  | false =>
    rw [ofFloat_of_not_finite hfinite] at h
    obtain rfl : 'E' = c := Option.some.inj h
    decide
  | true =>
    have hliteral {negative : Bool} {l : Literal} {rest : Text}
        (htext : ofFloat x = sign negative ++ (l.run ++ rest)) : isSmallLetter c = false := by
      obtain ⟨hne, hrun⟩ := l.isProper
      obtain ⟨d, more, hcons⟩ := List.exists_cons_of_ne_nil hne
      rw [htext, hcons] at h
      cases negative with
      | true =>
        obtain rfl : '-' = c := Option.some.inj h
        decide
      | false =>
        obtain rfl : d = c := Option.some.inj h
        exact isSmallLetter_of_isRunCharacter (hrun d (by rw [hcons]; exact List.mem_cons_self))
    obtain ⟨negative, l, ⟨htext, -⟩ | ⟨exponent, htext⟩⟩ := ofFloat_cases hfinite
    · rw [← List.append_nil l.run] at htext
      exact hliteral htext
    · exact hliteral htext

namespace Token

/-! ## Cuts in front of a run -/

/-- Behind no digit and no dot, and in front of no letter, a text may be cut exactly where
this does not cut the name {lit}`log10`. -/
theorem scan_append_iff_endsInLog {front text : Text}
    (hrun : ∀ c, front.getLast? = some c → isRunCharacter c = false)
    (hletter : ∀ c, text.head? = some c → isSmallLetter c = false) :
    scan (front ++ text) = scan front ++ scan text ↔
      ¬ (EndsInLog front ∧ "10".toList <+: text) := by
  rw [scan_append_iff]
  constructor
  · rintro hstops ⟨hlog, hten⟩
    rcases hstops _ (endsInLog_iff.1 hlog) with hname | ⟨-, hname⟩
    · exact absurd hname (by decide)
    · exact hname rfl hten
  · intro hlog token hlast
    have hseparated : Separated front text := by
      refine ⟨fun c d hc _ htogether => ?_, fun c d _ hd htogether => ?_, hlog⟩
      · rw [hrun c hc] at htogether
        exact absurd htogether.1 Bool.false_ne_true
      · rw [hletter d hd] at htogether
        exact absurd htogether.2 Bool.false_ne_true
    exact hseparated.stopsBefore hlast

end Token

namespace LastRun

open Token

variable {text before run tail : Text}

/-- The last run is a proper number. -/
theorem isProper (h : LastRun text before run tail) : (number run).IsProper :=
  And.intro h.nonempty h.inside

/-- A token that begins with the last run is the last run. -/
theorem scan_run (h : LastRun text before run tail) :
    scan (run ++ tail) = number run :: scan tail :=
  scan_spelling h.isProper fun c hc => h.outside c (List.mem_of_mem_head? hc)

/-- The last run begins with {lit}`10` exactly if the text does from there on. -/
theorem ten_prefix_iff (h : LastRun text before run tail) :
    "10".toList <+: run ++ tail ↔ "10".toList <+: run := by
  constructor
  · rintro ⟨more, hmore⟩
    rcases List.append_eq_append_iff.1 hmore with ⟨rest, hrun, -⟩ | ⟨rest, hten, htail⟩
    · exact ⟨rest, hrun.symm⟩
    · cases rest with
      | nil => exact ⟨[], by rw [hten, List.append_nil, List.append_nil]⟩
      | cons c rest =>
        have hmem : c ∈ "10".toList := by
          rw [hten]
          simp
        have hdigits : ∀ c ∈ "10".toList, isRunCharacter c = true :=
          List.all_eq_true.1 (by decide)
        have hc := h.outside c (by rw [htail]; exact List.mem_cons_self)
        exact absurd ((hdigits c hmem).symm.trans hc) Bool.noConfusion
  · intro hten
    exact hten.trans (List.prefix_append run tail)

/-- The last run is a number, and the text may be cut in front of it, unless it begins in a
name. -/
theorem exists_scan_iff (h : LastRun text before run tail) :
    (∃ left right, scan text = left ++ number run :: right ∧ left.flatMap spelling = before) ↔
      ¬ (EndsInLog before ∧ "10".toList <+: run) := by
  have hletter : ∀ c, (run ++ tail).head? = some c → isSmallLetter c = false := by
    intro c hc
    obtain ⟨d, more, rfl⟩ := List.exists_cons_of_ne_nil h.nonempty
    obtain rfl : d = c := Option.some.inj hc
    exact isSmallLetter_of_isRunCharacter (h.inside d List.mem_cons_self)
  rw [← h.ten_prefix_iff, ← scan_append_iff_endsInLog h.maximal hletter, h.scan_run,
    ← List.append_assoc, ← h.parts]
  constructor
  · rintro ⟨left, right, hscan, rfl⟩
    obtain ⟨hleft, hright, -⟩ := scan_split hscan
    have htail : right.flatMap spelling = tail := by
      have htext := flatMap_spelling_scan text
      rw [hscan, h.parts, List.flatMap_append, List.flatMap_cons, List.append_assoc] at htext
      exact List.append_cancel_left (List.append_cancel_left htext)
    rw [List.flatMap_cons, spelling_number, htail, h.scan_run] at hright
    rw [hscan, hleft, hright]
  · intro hscan
    exact ⟨scan before, scan tail, hscan, flatMap_spelling_scan before⟩

/-- Where the last run begins in a name, the name is {lit}`log10`, and its digits are the
first ones of the run. -/
theorem scan_of_inside_name (h : LastRun text before run tail) (hlog : EndsInLog before)
    (hten : "10".toList <+: run) :
    ∃ start, before = start ++ "log".toList ∧
      scan text = scan start ++ name "log10".toList :: scan (run.drop 2 ++ tail) := by
  obtain ⟨start, rfl, hstart⟩ := hlog
  obtain ⟨more, rfl⟩ := hten
  refine ⟨start, rfl, ?_⟩
  have htext : text = start ++ ((name "log10".toList).spelling ++ (more ++ tail)) := by
    rw [h.parts]
    simp
  have hname : (name "log10".toList).IsProper := .inl rfl
  rw [htext, scan_append_of_boundary (fun c hc => ?_) (.inl hstart),
    scan_spelling hname (.inl rfl)]
  · rfl
  · obtain rfl : 'l' = c := Option.some.inj hc
    decide

end LastRun

/-! ## The percent key -/

/-- The percent key cuts in front of a number, and leaves the names in front of it whole,
exactly if the last run does not begin in a name.  Otherwise the name is {lit}`log10`, and
what is left of it is {lit}`log`.  In both cases what is left keeps its tokens exactly if it
does not meet a result that begins with {lit}`10` behind {lit}`log`.  Without a last number
the percent sign is a token more. -/
theorem press_percent_tokens (entry : Entry) :
    let pressed := entry.press (.symbol ['%'])
    (∀ before run tail, LastRun entry.expression before run tail → IsNumeral run →
      ∃ shown, pressed.expression = before ++ shown ∧
        shown = Display.ofFloat ((Decimal.ofRun run).toFloat / 100) ∧
        ((∃ left right, Token.scan entry.expression = left ++ .number run :: right ∧
            left.flatMap Token.spelling = before) ↔
          ¬ (Token.EndsInLog before ∧ "10".toList <+: run)) ∧
        (Token.EndsInLog before ∧ "10".toList <+: run →
          ∃ start, before = start ++ "log".toList ∧
            Token.scan entry.expression = Token.scan start ++
              .name "log10".toList :: Token.scan (run.drop 2 ++ tail)) ∧
        (Token.scan pressed.expression = Token.scan before ++ Token.scan shown ↔
          ¬ (Token.EndsInLog before ∧ "10".toList <+: shown))) ∧
      ((∀ before run tail, LastRun entry.expression before run tail → ¬ IsNumeral run) →
        pressed.expression = entry.expression ++ ['%'] ∧
          Token.scan pressed.expression = Token.scan entry.expression ++ [.mark '%']) := by
  intro pressed
  constructor
  · intro before run tail hlast hnumeral
    have hpercent : pressed.expression = _ := hlast.percent_of_isNumeral hnumeral
    refine ⟨_, hpercent, rfl, hlast.exists_scan_iff, ?_, ?_⟩
    · rintro ⟨hlog, hten⟩
      exact hlast.scan_of_inside_name hlog hten
    · rw [hpercent]
      exact Token.scan_append_iff_endsInLog hlast.maximal
        fun _ => Display.isSmallLetter_of_head?_ofFloat
  · intro hnone
    have hpercent : pressed.expression = entry.expression ++ ['%'] :=
      percent_of_no_number hnone
    have hmark : Token.scan ['%'] = [.mark '%'] := by
      simp +decide [Token.scan_cons, Token.next]
    have hsign {p : Char → Bool} (hp : p '%' = false) (c : Char) (hc : ['%'].head? = some c) :
        p c = false := by
      obtain rfl : '%' = c := Option.some.inj hc
      exact hp
    refine ⟨hpercent, ?_⟩
    rw [hpercent, Token.scan_append_of_boundary (hsign rfl) (.inr (hsign rfl)), hmark]

/-- In front of the argument of {lit}`log10`, the name and its parenthesis are left whole. -/
theorem press_percent_tokens_argument :
    let entry := Entry.new.showing "log10(25)".toList
    (∃ left right, Token.scan entry.expression = left ++ .number "25".toList :: right ∧
        left.flatMap Token.spelling = "log10(".toList) ∧
      (entry.press (.symbol ['%'])).expression = "log10(0.25".toList := by
  intro entry
  have hlast : LastRun entry.expression "log10(".toList "25".toList ")".toList :=
    .of_splitAtLastRun (by decide +kernel) (by decide)
  have hnumeral : IsNumeral "25".toList := ⟨⟨'2', by decide⟩, by decide⟩
  obtain ⟨shown, hpressed, hshown, hcut, -, -⟩ :=
    (press_percent_tokens entry).1 _ _ _ hlast hnumeral
  constructor
  · apply hcut.2
    rintro ⟨-, hten⟩
    exact absurd hten (by decide)
  · rw [hpressed, hshown]
    decide +kernel

/-- The percent key behind {lit}`log10` cuts the name, which is no number, and divides its
digits. -/
theorem percent_cuts_log10 :
    let entry := Entry.new.press (.operation (.function .log10))
    entry.expression = "log10(".toList ∧
      Token.scan entry.expression = [.name "log10".toList, .mark '('] ∧
      (entry.press (.symbol ['%'])).expression = "log0.1".toList ∧
      ¬ ∃ left run right, Token.scan entry.expression = left ++ .number run :: right := by
  intro entry
  have hscreen : entry.expression = "log10(".toList := by decide +kernel
  have hscan : Token.scan entry.expression = [.name "log10".toList, .mark '('] := by
    rw [hscreen]
    simp +decide [Token.scan_cons, Token.next, Token.named]
  refine ⟨hscreen, hscan, by decide +kernel, ?_⟩
  rintro ⟨left, run, right, hnumber⟩
  have hmem : Token.number run ∈ Token.scan entry.expression := by simp [hnumber]
  rw [hscan] at hmem
  simp at hmem

end PocketCalculator
