import PocketCalculator.Proofs.DescentPieces
import PocketCalculator.Proofs.OpenFactors
import PocketCalculator.Proofs.Printing

/-!
# The moments of an evaluation

An expression is evaluated by a descent whose loops need no more rounds than there are
characters, and one more to end.  The record of the descent shows that the cursor keeps to
the text and makes progress, and what may follow a piece that has been read.  The second
part is why a caret never belongs to a call, only to the argument of the call.

Main results:

- Theorem {lit}`descend_evaluate_progress`: at every moment the cursor is in the text, and
  each piece moves it forward.
- Theorem {lit}`descend_evaluate_follow`: what is next behind a piece could not have been
  taken up by it.
-/

namespace PocketCalculator

/-! ## Progress -/

/-- With more rounds for each loop than there are characters, the evaluation of a text ends.
At every moment of it the cursor is not past the end, and what is next is the character at
its position, so nothing exactly at the end.  The cursor never goes back and leaves no
position out.  A number or a name is cut out behind the position where it begins, and every
factor, product and sum that is read moves the cursor forward. -/
theorem descend_evaluate_progress {text : Text} {rounds : Nat}
    (hrounds : text.length < rounds) :
    ∃ final, descend Meaning.number nestingLimit rounds text = some (evaluate text, final) ∧
      (∀ moment ∈ final.trace,
        moment.cursor.text = text ∧ moment.cursor.position ≤ text.length ∧
        moment.cursor.current = text[moment.cursor.position]? ∧
        (moment.cursor.current = none ↔ moment.cursor.position = text.length) ∧
        (∀ start, moment.event = .cut start → start < moment.cursor.position) ∧
        ∀ piece start, moment.event = .read piece start → start < moment.cursor.position) ∧
      final.trace.Pairwise (fun earlier later =>
        earlier.cursor.position ≤ later.cursor.position) ∧
      (∀ position ≤ final.cursor.position, ∃ moment ∈ final.trace,
        moment.cursor.position = position) ∧
      final.trace.countP (·.event = .moved) = final.cursor.position ∧
      final.cursor.position ≤ text.length := by
  obtain ⟨final, hdescend, hsound, -⟩ := exists_descend Meaning.number nestingLimit hrounds
  refine ⟨final, hdescend, fun moment hmem => ?_, hsound.ordered, hsound.visited,
    hsound.counted, hsound.stands.position_le⟩
  obtain ⟨hstands, hfits⟩ := hsound.moments moment hmem
  refine ⟨hstands.text_eq, hstands.position_le, hstands.current_eq,
    hstands.current_eq_none_iff, fun start hevent => ?_, fun piece start hevent => ?_⟩
  · rw [hevent] at hfits
    exact hfits
  · rw [hevent] at hfits
    exact hfits.1

/-- The name {lit}`log10` is cut out in two parts, and its argument is missing at the end of
the text. -/
theorem descend_evaluate_progress_log10 :
    evaluate "log10(".toList = .error (.unexpected none) ∧
      ∃ final, descend Meaning.number nestingLimit 7 "log10(".toList =
          some (.error (.unexpected none), final) ∧
        final.trace.countP (·.event = .moved) = 6 ∧
        ∃ moment ∈ final.trace, moment.event = .cut 0 ∧ moment.cursor.position = 3 := by
  obtain ⟨final, hdescend, -, -, -, hcounted, -⟩ :=
    descend_evaluate_progress (show "log10(".toList.length < 7 by decide)
  have hrun : (descend Meaning.number nestingLimit 7 "log10(".toList).map
      (fun run => (run.1, run.2.cursor.position,
        run.2.trace.map fun moment => (moment.cursor.position, moment.event))) =
      some (.error (.unexpected none), 6,
        [(0, .started), (1, .moved), (2, .moved), (3, .moved), (3, .cut 0), (3, .looked),
          (4, .moved), (5, .moved), (6, .moved)]) := by
    rfl
  rw [hdescend, Option.map_some, Option.some.injEq, Prod.mk.injEq, Prod.mk.injEq] at hrun
  obtain ⟨hvalue, hposition, htrace⟩ := hrun
  have hcut : (3, Event.cut 0) ∈
      final.trace.map fun moment => (moment.cursor.position, moment.event) := by
    rw [htrace]
    decide
  obtain ⟨moment, hmem, hmoment⟩ := List.mem_map.1 hcut
  rw [Prod.mk.injEq] at hmoment
  dsimp only at hvalue
  rw [hvalue] at hdescend
  exact ⟨hvalue, final, hdescend, hcounted.trans hposition, moment, hmem, hmoment.2, hmoment.1⟩

/-! ## Carets behind calls -/

/-- What prints a tree evaluates to its meaning if there is no limit on open factors. -/
theorem evaluateUnlimited_of_prints {e : Expr} {tokens : List Token} {count : Nat}
    {text : Text} (h : Expr.Prints .sum e tokens count)
    (hnames : ∀ name ∈ e.names, (Token.name name).IsProper)
    (htext : Token.Written tokens text) :
    evaluateUnlimited text = e.denote Meaning.number := by
  have hlimit : tokens.length < max count (tokens.length + 1) :=
    Nat.lt_of_lt_of_le (Nat.lt_succ_self _) (Nat.le_max_right _ _)
  rw [evaluateUnlimited, Token.lex_of_written (Expr.isProper_of_prints h hnames) htext,
    ← readTokens_eq_readUnlimited Meaning.neverRefuses_number hlimit]
  exact readTokens_of_prints h (Nat.le_max_left _ _)

/-- A limit on open factors changes nothing but refusals. -/
theorem evaluate_refused_or_eq (text : Text) :
    evaluate text = .error (.tooDeeplyNested nestingLimit) ∨
      evaluate text = evaluateUnlimited text :=
  readTokens_refused_or_eq Meaning.neverRefuses_number nestingLimit (Token.lex text)

/-! ## What follows a piece -/

/-- A cursor stays where a parenthesis is left open. -/
theorem Descent.State.IsSound.cursor_of_leftOpen {text : Text} {depth : Nat} {s : State}
    (h : s.IsSound text depth) {before after : List Moment} {cursor : Cursor}
    (htrace : s.trace = before ++ ⟨cursor, .leftOpen⟩ :: after) :
    s.cursor = cursor ∧ ∀ later ∈ after, later.cursor = cursor := by
  have hmem : (Moment.mk cursor .leftOpen) ∈ s.trace := by simp [htrace]
  have hcursor : cursor = s.cursor := h.settled _ hmem rfl
  refine ⟨hcursor.symm, fun later hlater => ?_⟩
  have hlater' : later ∈ s.trace := by simp [htrace, hlater]
  have hordered := h.ordered
  rw [htrace, List.pairwise_append] at hordered
  have hle := (List.pairwise_cons.1 hordered.2.1).1 later hlater
  have hreached := h.reached later hlater'
  rw [← hcursor] at hreached
  exact (h.moments later hlater').1.eq_of_position_eq (h.moments _ hmem).1
    (Nat.le_antisymm hreached hle)

/-- Behind a factor that has been read neither a space nor a caret is next, behind a product
no operator of products either, and behind a sum no operator at all.  So the caret is never
taken behind a call, and where a parenthesis is left open the cursor stays for good.  A
caret behind a call with a sum in parentheses therefore raises the sum: the call of the
power means the same, however the two are spaced, and they evaluate alike unless one of
them is refused because of its nesting. -/
theorem descend_evaluate_follow :
    (∀ {text rounds}, text.length < rounds →
      ∃ final, descend Meaning.number nestingLimit rounds text = some (evaluate text, final) ∧
      (∀ moment ∈ final.trace, ∀ piece start, moment.event = .read piece start →
        moment.cursor.current ≠ some ' ' ∧
          ∀ c ∈ piece.absorbed, moment.cursor.current ≠ some c) ∧
      (∀ moment ∈ final.trace, moment.event ≠ .raised .call) ∧
      ∀ before cursor after, final.trace = before ++ ⟨cursor, .leftOpen⟩ :: after →
        (∀ c ∈ continuing, cursor.current ≠ some c) ∧
          final.cursor = cursor ∧ ∀ later ∈ after, later.cursor = cursor) ∧
    ∀ {e e' : Expr} {tokens tokens' : List Token} {count count' : Nat} {name text text' : Text},
      Expr.Prints .sum e tokens count → Expr.Prints .factor e' tokens' count' →
      (∀ other ∈ (Expr.call name (.power e e')).names, (Token.name other).IsProper) →
      Token.Written (.name name :: (Expr.parenthesized tokens ++ .mark '^' :: tokens')) text →
      Token.Written (.name name ::
        Expr.parenthesized (Expr.parenthesized tokens ++ .mark '^' :: tokens')) text' →
      evaluateUnlimited text = (Expr.call name (.power e e')).denote Meaning.number ∧
        evaluateUnlimited text' = (Expr.call name (.power e e')).denote Meaning.number ∧
        (evaluate text = .error (.tooDeeplyNested nestingLimit) ∨
          evaluate text' = .error (.tooDeeplyNested nestingLimit) ∨
          evaluate text = evaluate text') := by
  constructor
  · intro text rounds hrounds
    obtain ⟨final, hdescend, hsound, -⟩ := exists_descend Meaning.number nestingLimit hrounds
    have hfits (moment : Moment) (hmem : moment ∈ final.trace) :=
      (hsound.moments moment hmem).2
    refine ⟨final, hdescend, fun moment hmem piece start hevent => ?_,
      fun moment hmem hevent => ?_, fun before cursor after htrace => ?_⟩
    · have hread := hfits moment hmem
      rw [hevent] at hread
      exact hread.2
    · have hraised := hfits moment hmem
      rw [hevent] at hraised
      exact hraised rfl
    · exact ⟨hfits ⟨cursor, .leftOpen⟩ (by simp [htrace]), hsound.cursor_of_leftOpen htrace⟩
  · intro e e' tokens tokens' count count' name text text' hbase hexponent hnames htext htext'
    have hpower := Expr.Prints.power (.parentheses hbase) hexponent
    have hcall := Expr.Prints.call name hpower
    have hcall' := Expr.Prints.call name
      (.ofBase (.parentheses (.ofProduct (.ofFactor hpower))))
    have hvalue := evaluateUnlimited_of_prints (.ofProduct (.ofFactor hcall)) hnames htext
    have hvalue' := evaluateUnlimited_of_prints (.ofProduct (.ofFactor hcall')) hnames htext'
    refine ⟨hvalue, hvalue', ?_⟩
    rcases evaluate_refused_or_eq text with hrefused | hsame
    · exact .inl hrefused
    rcases evaluate_refused_or_eq text' with hrefused | hsame'
    · exact .inr (.inl hrefused)
    · exact .inr (.inr (by rw [hsame, hsame', hvalue, hvalue']))

/-- The sine of a number in parentheses with an exponent is the sine of the power. -/
theorem descend_evaluate_follow_sine :
    let three : Expr := .literal ⟨['3'], ⟨3, 0⟩, rfl⟩
    let two : Expr := .literal ⟨['2'], ⟨2, 0⟩, rfl⟩
    Expr.Prints .sum three [.number ['3']] 1 ∧ Expr.Prints .factor two [.number ['2']] 1 ∧
      evaluateUnlimited "sin(3)^2".toList =
        (Expr.call "sin".toList (.power three two)).denote Meaning.number ∧
      evaluate "sin(3)^2".toList = evaluate "sin((3)^2)".toList ∧
      ∃ final, descend Meaning.number nestingLimit 9 "sin(3)^2".toList =
          some (evaluate "sin(3)^2".toList, final) ∧
        ∀ moment ∈ final.trace, moment.event ≠ .raised .call := by
  intro three two
  have hthree : Expr.Prints .sum three [.number ['3']] 1 :=
    .ofProduct (.ofFactor (.ofBase (.literal _)))
  have htwo : Expr.Prints .factor two [.number ['2']] 1 := .ofBase (.literal _)
  have hnames : ∀ other ∈ (Expr.call "sin".toList (.power three two)).names,
      (Token.name other).IsProper := by
    intro other hother
    rw [List.mem_singleton.1 hother]
    exact .inr ⟨by decide, List.all_eq_true.1 (by decide)⟩
  have htext : Token.Written (.name "sin".toList ::
      (Expr.parenthesized [.number ['3']] ++ .mark '^' :: [.number ['2']]))
      "sin(3)^2".toList :=
    .touching 0 rfl (.touching 0 rfl (.touching 0 rfl (.touching 0 rfl (.touching 0 rfl
      (.cons 0 _ (by simp) (.nil 0))))))
  have htext' : Token.Written (.name "sin".toList ::
      Expr.parenthesized (Expr.parenthesized [.number ['3']] ++ .mark '^' :: [.number ['2']]))
      "sin((3)^2)".toList :=
    .touching 0 rfl (.touching 0 rfl (.touching 0 rfl (.touching 0 rfl (.touching 0 rfl
      (.touching 0 rfl (.touching 0 rfl (.cons 0 _ (by simp) (.nil 0))))))))
  obtain ⟨hpieces, hcalls⟩ := descend_evaluate_follow
  obtain ⟨hvalue, hvalue', -⟩ := hcalls hthree htwo hnames htext htext'
  obtain ⟨final, hdescend, -, hraised, -⟩ := hpieces (show "sin(3)^2".toList.length < 9 by decide)
  have hshort : evaluate "sin(3)^2".toList = evaluateUnlimited "sin(3)^2".toList :=
    evaluate_eq_of_length (by decide)
  have hshort' : evaluate "sin((3)^2)".toList = evaluateUnlimited "sin((3)^2)".toList :=
    evaluate_eq_of_length (by decide)
  exact ⟨hthree, htwo, hvalue, by rw [hshort, hshort', hvalue, hvalue'], final, hdescend,
    hraised⟩

end PocketCalculator
