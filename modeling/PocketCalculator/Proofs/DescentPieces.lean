import PocketCalculator.Proofs.DescentSteps
import PocketCalculator.Proofs.Grounding

/-!
# Pieces of a descent

The descent reads what the reader of tokens reads.  Each program of the grammar carries out
a reader: from a sound state it ends with the value or the cause that the reader finds on
the tokens ahead, and after a success the tokens that the reader leaves are ahead.  So what
is known of the rest that a reader leaves is known of the cursor.

Main definitions:

- {lit}`Descent.Matches` compares what a program leaves with what a reader finds.
- {lit}`Descent.CarriesOut` says that a program carries out a reader.

Main results:

- Theorem {lit}`Descent.Ends.andThen`: programs that match their readers may be put one
  after the other.
- Theorem {lit}`Descent.Ends.recorded`: a piece may be recorded where its reader stops.
- Theorem {lit}`Descent.carriesOut_chain`: a chain is carried out if its operands are.
- Theorem {lit}`Descent.carriesOut_factor`: a factor is carried out, and
  {lit}`Descent.ends_factor_openFactors`: it restores the count of open factors.
- Theorem {lit}`exists_descend`: with more rounds than there are characters a descent ends,
  in a sound state and with the value or the failure that reading the text has.
- Theorem {lit}`readAs_of_descend`: a text is read by its descent.
- Theorem {lit}`read_of_descend_ok`: a descent that succeeds has recorded the whole text as a
  sum.
-/

namespace PocketCalculator

/-! ## Levels -/

namespace ChainLevel

/-- The operator of a level that a character stands for. -/
def operator? : ChainLevel → Char → Option Operator
  | sum => Operator.additive?
  | product => Operator.multiplicative?

theorem operator?_eq_some_iff {level : ChainLevel} {c : Char} {operator : Operator} :
    level.operator? c = some operator ↔ operator ∈ level.operators ∧ c = operator.symbol := by
  cases level with
  | sum =>
    rw [operator?, Operator.additive?_eq_some_iff, and_comm]
    refine and_congr_left fun _ => ?_
    cases operator <;> decide
  | product =>
    rw [operator?, Operator.multiplicative?_eq_some_iff, and_comm]
    refine and_congr_left fun _ => ?_
    cases operator <;> decide

theorem operators_ne_nil (level : ChainLevel) : level.operators ≠ [] := by
  cases level <;> decide

end ChainLevel

namespace Descent

variable {text : Text} {depth rounds start : Nat} {s : State} {c : Char} {α : Type}
  {meaning : Meaning α} {limit : Nat} {level : ChainLevel}

/-! ## Programs and readers -/

section Matching

variable {β γ : Type} {value : β → α} {known : β → State → Prop} {value' : γ → α}
  {known' : γ → State → Prop} {reading : Reading α}

/-- What a program leaves that matches what a reader finds on the tokens ahead: the same
value or failure, with as many open factors as before, and after a success a later place,
where the rest of the tokens is ahead.  The program may give more than the value, and more
may be known of what it leaves. -/
inductive Matches (text : Text) (depth start : Nat) (value : β → α) (known : β → State → Prop)
    (reading : Reading α) : Except Cause β → State → Prop
  | ok {y : β} {after : State} (reads : reading = .ok (value y, after.cursor.tokens))
      (sound : after.IsSound text depth) (moved : start < after.cursor.position)
      (knows : known y after) : Matches text depth start value known reading (.ok y) after
  | error {cause : Cause} {after : State} (reads : reading = .error cause)
      (sound : after.IsSound text depth) :
      Matches text depth start value known reading (.error cause) after

/-- Success and failure leave as many open factors as there were. -/
theorem Matches.sound {outcome : Except Cause β} {after : State}
    (h : Matches text depth start value known reading outcome after) :
    after.IsSound text depth := by
  cases h with
  | ok reads sound moved knows => exact sound
  | error reads sound => exact sound

/-- What is done after a program matches what is read after its reading, if it does so after
every success. -/
theorem Ends.andThen {program : Descent β} {next : β → Descent γ} {start' : Nat}
    (h : program.Ends s (Matches text depth start value known reading))
    (then' : α → List Token → Reading α)
    (hnext : ∀ y after, reading = .ok (value y, after.cursor.tokens) →
      after.IsSound text depth → start < after.cursor.position → known y after →
      (next y).Ends after
        (Matches text depth start' value' known' (then' (value y) after.cursor.tokens))) :
    (program >>= next).Ends s
      (Matches text depth start' value' known' (Reader.followed reading then')) := by
  refine h.bind ?_ ?_
  · rintro y after ⟨hreads, hsound, hmoved, hknown⟩
    have hend := hnext y after hreads hsound hmoved hknown
    rw [hreads]
    exact hend
  · rintro cause after (_ | ⟨hreads, hsound⟩)
    rw [hreads]
    exact .error rfl hsound

end Matching

/-- What a piece leaves that matches a reader: behind it no space is next. -/
abbrev MatchesPiece (text : Text) (depth start : Nat) (reading : Reading α) :
    Except Cause α → State → Prop :=
  Matches text depth start (fun x => x) (fun _ after => after.cursor.current ≠ some ' ') reading

/-- What a piece leaves that also records its success. -/
abbrev MatchesRead (text : Text) (depth : Nat) (piece : Expr.Binding) (start : Nat)
    (reading : Reading α) : Except Cause α → State → Prop :=
  Matches text depth start (fun x => x) (fun _ after => after.cursor.current ≠ some ' ' ∧
    ⟨after.cursor, .read piece start⟩ ∈ after.trace) reading

/-- What a base leaves that matches a reader.  No caret is ahead of a call, whose argument
has taken it. -/
abbrev MatchesBase (text : Text) (depth start : Nat) (reading : Reading α) :
    Except Cause (α × BaseKind) → State → Prop :=
  Matches text depth start Prod.fst
    (fun y after => y.2 = .call → after.cursor.tokens.head? ≠ some (.mark '^')) reading

/-- A piece may be recorded as read if the tokens behind it do not go on with it. -/
theorem Ends.recorded {program : Descent α} {reading : Reading α} {piece : Expr.Binding}
    (h : program.Ends s (MatchesPiece text depth start reading))
    (habsorbed : ∀ x rest, reading = .ok (x, rest) →
      ∀ c ∈ piece.absorbed, rest.head? ≠ some (.mark c)) :
    (program >>= fun x => note (.read piece start) >>= fun _ => pure x).Ends s
      (MatchesRead text depth piece start reading) := by
  refine h.bind ?_ ?_
  · rintro x after ⟨hreads, hsound, hmoved, hspace⟩
    have hfits : (Event.read piece start).Fits after.cursor :=
      hsound.stands.fits_read hmoved hspace (habsorbed x _ hreads)
    apply ends_note_bind
    exact ends_pure (.ok hreads (hsound.noting hfits (by simp)) hmoved
      ⟨hspace, List.mem_append_right _ (List.mem_singleton_self _)⟩)
  · rintro cause after (_ | ⟨hreads, hsound⟩)
    exact .error hreads hsound

/-- A program carries out a reader of a piece if it leaves what the reader finds, with as
many open factors as before, wherever it starts from a position on, and if it records every
success. -/
def CarriesOut (text : Text) (depth origin : Nat) (piece : Expr.Binding) (program : Descent α)
    (reader : Reader α) : Prop :=
  ∀ s : State, s.IsSound text depth → s.IsLive → origin ≤ s.cursor.position →
    program.Ends s
      (MatchesRead text depth piece s.cursor.position (reader.run s.cursor.tokens))

/-! ## Chains -/

section Chains

variable {origin : Nat} {piece : Expr.Binding} {operand : Descent α} {reader : Reader α}
  (hrounds : text.length < rounds) (hoperand : CarriesOut text depth origin piece operand reader)

include hrounds hoperand

/-- A chain goes on as its reader does.  It ends because every operand moves the cursor. -/
theorem ends_continueUpTo {left : Nat} (h : s.IsSound text depth)
    (hleft : text.length - s.cursor.position < left) (hstart : start < s.cursor.position)
    (hfrom : origin ≤ s.cursor.position) (x : α) :
    (continueUpTo rounds meaning level operand left x).Ends s (MatchesPiece text depth start
      (Reader.continueWith (Reader.joinBy meaning level.operator?) reader x
        s.cursor.tokens)) := by
  induction left generalizing s x with
  | zero => exact absurd hleft (Nat.not_lt_zero _)
  | succ left ih =>
    rw [continueUpTo]
    refine (yields_eatOperator hrounds h level.operators).bind ?_
    rintro _ after (⟨hmem, hsound, hlive, hmoved, htokens⟩ |
      ⟨hsound, hposition, htokens, hspace, hnext, -⟩)
    · next operator =>
      have hjoin : Reader.joinBy meaning level.operator? (.mark operator.symbol) =
          some (meaning.binary operator) :=
        Reader.joinBy_mark (ChainLevel.operator?_eq_some_iff.2 ⟨hmem, rfl⟩)
      rw [htokens, Reader.continueWith_of_join hjoin]
      refine (hoperand after hsound hlive (by omega)).andThen _
        fun y final _ hsound' hmoved' _ => ?_
      have hle := hsound'.stands.position_le
      exact ih hsound' (by omega) (by omega) (by omega) _
    · have hspace := hspace level.operators_ne_nil
      have hstop (token : Token) (htoken : s.cursor.tokens.head? = some token) :
          Reader.joinBy meaning level.operator? token = none := by
        rw [Reader.joinBy_eq_none_iff]
        rintro c rfl
        cases hoperator : level.operator? c with
        | none => rfl
        | some operator =>
          obtain ⟨hmem, rfl⟩ := ChainLevel.operator?_eq_some_iff.1 hoperator
          rw [← htokens] at htoken
          exact absurd (hsound.stands.current_of_head? hspace htoken) (hnext operator hmem)
      rw [Reader.continueWith_of_stop hstop, ← htokens]
      exact ends_pure (.ok rfl hsound (Nat.lt_of_lt_of_le hstart hposition) hspace)

/-- A chain carries out its reader if its operands carry out theirs. -/
theorem carriesOut_chain
    (havoids : (Reader.chain (Reader.joinBy meaning level.operator?) reader).RestAvoids
      level.binding.absorbed) :
    CarriesOut text depth origin level.binding (chain rounds meaning level operand)
      (Reader.chain (Reader.joinBy meaning level.operator?) reader) := by
  intro s h hlive hfrom
  rw [chain]
  apply ends_cursor_bind
  refine (hoperand s h hlive hfrom).andThen _ fun first middle hfirst hsound hmoved _ => ?_
  refine (ends_continueUpTo hrounds hoperand hsound (by omega) hmoved (by omega)
    first).recorded fun x rest hreads => ?_
  have hrun : (Reader.chain (Reader.joinBy meaning level.operator?) reader).run
      s.cursor.tokens = .ok (x, rest) := by
    rw [Reader.run_chain, hfirst]
    exact hreads
  exact havoids hrun

end Chains

/-! ## Bases and factors -/

section Factors

variable {origin : Nat} {program : Descent α} {inner : Reader α}
  (hrounds : text.length < rounds)
  (hinner : CarriesOut text depth origin .factor program inner)
  (havoids : inner.RestAvoids ['^'])

include hinner

/-- A factor behind a sign is read as the reader reads it. -/
theorem ends_signed (sign : α → α) (h : s.IsSound text depth) (hlive : s.IsLive)
    (hfrom : origin ≤ s.cursor.position) (hstart : start ≤ s.cursor.position) :
    (program >>= fun x => pure (sign x)).Ends s
      (MatchesPiece text depth start (Reader.signed sign inner s.cursor.tokens)) := by
  refine (hinner s h hlive hfrom).andThen _ fun x after _ hsound hmoved hknown => ?_
  exact ends_pure (.ok rfl hsound (Nat.lt_of_le_of_lt hstart hmoved) hknown.1)

include hrounds

/-- A base and its exponent are read as the reader reads them.  The caret is never taken
behind a call. -/
theorem ends_raise {x : α} {kind : BaseKind} (h : s.IsSound text depth)
    (hfrom : origin ≤ s.cursor.position) (hstart : start < s.cursor.position)
    (hcall : kind = .call → s.cursor.tokens.head? ≠ some (.mark '^')) :
    (raise rounds meaning program x kind).Ends s
      (MatchesPiece text depth start (Reader.raise meaning inner x s.cursor.tokens)) := by
  rw [raise]
  refine (yields_eat hrounds h (by decide) (.inr (by decide))).bind ?_
  rintro _ after (⟨hsound, hlive, hmoved, htokens⟩ |
    ⟨hsound, -, hposition, htokens, hspace, hcaret, -⟩)
  · have hkind : kind ≠ .call := by
      rintro rfl
      rw [htokens] at hcall
      exact hcall rfl rfl
    rw [if_pos rfl, htokens]
    apply ends_note_bind
    exact ends_signed hinner (meaning.power x) (hsound.noting hkind (by simp))
      (hlive.noting (by simp)) (Nat.le_trans hfrom (Nat.le_of_lt hmoved))
      (Nat.le_of_lt (Nat.lt_trans hstart hmoved))
  · have hstop : after.cursor.tokens.head? ≠ some (.mark '^') :=
      fun hhead => hcaret (hsound.stands.current_of_head? hspace hhead)
    rw [if_neg Bool.false_ne_true, ← htokens, Reader.raise_of_stop hstop]
    exact ends_pure (.ok rfl hsound (Nat.lt_of_lt_of_le hstart hposition) hspace)

include havoids

theorem carriesOut_sum :
    CarriesOut text depth origin .sum (sum rounds meaning program) (Reader.sum meaning inner) :=
  carriesOut_chain hrounds
    (carriesOut_chain hrounds hinner (Reader.restAvoids_product havoids))
    (Reader.restAvoids_sum havoids)

/-- A base is read as the reader reads it.  The factors inside it begin behind its first
character. -/
theorem ends_base (h : s.IsSound text depth) (hlive : s.IsLive)
    (hfrom : origin ≤ s.cursor.position + 1) (hspace : s.cursor.current ≠ some ' ') :
    (base rounds meaning program).Ends s (MatchesBase text depth s.cursor.position
      (Reader.base meaning inner s.cursor.tokens)) := by
  rw [base]
  apply ends_cursor_bind
  refine (yields_eat hrounds h (by decide) (.inl hlive)).bind ?_
  rintro _ after (⟨hsound, hlive', hmoved, htokens⟩ | ⟨-, -, -, -, -, hopening, hstays⟩)
  · rw [if_pos rfl, htokens, Reader.base]
    refine (carriesOut_sum hrounds hinner havoids after hsound hlive' (by omega)).andThen _
      fun x middle hreads hsound' hmoved' hknown => ?_
    have hfits : (Event.read .sum after.cursor.position).Fits middle.cursor :=
      hsound'.stands.fits_read hmoved' hknown.1 (Reader.restAvoids_sum havoids hreads)
    refine (yields_close hrounds hsound' hfits).bind ?_
    rintro _ final ⟨hsound'', hposition, hdropped⟩
    rw [← hdropped]
    exact ends_pure (.ok rfl hsound'' (by omega) (by simp))
  obtain rfl := hstays hspace
  rw [if_neg Bool.false_ne_true]
  apply ends_cursor_bind
  cases hcurrent : after.cursor.current with
  | none =>
    rw [Option.any_none, if_neg Bool.false_ne_true]
    apply ends_cursor_bind
    rw [hcurrent, Option.any_none, if_neg Bool.false_ne_true]
    apply ends_cursor_bind
    rw [hcurrent, h.stands.tokens_eq_nil hcurrent]
    exact ends_throw (.error rfl h)
  | some c =>
    rw [Option.any_some]
    split
    · next hrun =>
      refine (ends_numberFrom hrounds h hlive hcurrent hrun inner).bind ?_ ?_
      · rintro x final ⟨hsound, hmoved, hbase⟩
        exact ends_pure (.ok hbase hsound hmoved (by simp))
      · rintro cause final ⟨hsound, hmoved, hbase⟩
        exact .error hbase hsound
    next hrun =>
    apply ends_cursor_bind
    rw [hcurrent, Option.any_some]
    split
    · next hletter =>
      refine (yields_nameFrom hrounds h hlive hcurrent hletter).bind ?_
      rintro name named ⟨hsound, hlive', hmoved, htokens⟩
      rw [htokens, Reader.base]
      refine (hinner named hsound hlive' (by omega)).andThen _
        fun argument final hreads hsound' hmoved' _ => ?_
      have hcaret := havoids hreads '^' (by simp)
      cases meaning.call name argument with
      | ok x => exact ends_pure (.ok rfl hsound' (Nat.lt_trans hmoved hmoved') fun _ => hcaret)
      | error cause => exact ends_throw (.error rfl hsound')
    · next hletter =>
      have hproper : (Token.mark c).IsProper := by
        refine ⟨?_, by simpa using hrun, by simpa using hletter⟩
        rintro rfl
        exact hspace hcurrent
      have hne : c ≠ '(' := by
        rintro rfl
        exact hopening hcurrent
      apply ends_cursor_bind
      rw [hcurrent, h.stands.tokens_eq_mark hcurrent hproper, Reader.base_of_mark hne]
      exact ends_throw (.error rfl h)

/-- A factor that has been opened is read as the reader reads it. -/
theorem ends_opened (h : s.IsSound text depth) (hlive : s.IsLive)
    (hfrom : origin ≤ s.cursor.position + 1) :
    (opened rounds meaning program).Ends s (MatchesPiece text depth s.cursor.position
      (Reader.opened meaning inner s.cursor.tokens)) := by
  rw [opened]
  refine (yields_eat hrounds h (by decide) (.inl hlive)).bind ?_
  rintro _ plus (⟨hsound, hlive', hmoved, htokens⟩ |
    ⟨hsound, hlive', hposition, htokens, hspace, hplus, -⟩)
  · rw [if_pos rfl, htokens, Reader.opened]
    exact ends_signed hinner meaning.plus hsound hlive' (by omega) (Nat.le_of_lt hmoved)
  rw [if_neg Bool.false_ne_true, ← htokens]
  refine (yields_eat hrounds hsound (by decide) (.inl (hlive' hlive))).bind ?_
  rintro _ minus (⟨hsound', hlive'', hmoved, htokens'⟩ | ⟨-, -, -, -, -, hminus, hstays⟩)
  · rw [if_pos rfl, htokens', Reader.opened]
    exact ends_signed hinner meaning.minus hsound' hlive'' (by omega)
      (Nat.le_of_lt (Nat.lt_of_le_of_lt hposition hmoved))
  obtain rfl := hstays hspace
  rw [if_neg Bool.false_ne_true, Reader.opened_of_base
    (fun hhead => hplus (hsound.stands.current_of_head? hspace hhead))
    (fun hhead => hminus (hsound.stands.current_of_head? hspace hhead))]
  refine (ends_base hrounds hinner havoids hsound (hlive' hlive) (by omega) hspace).andThen _
    fun y middle _ hsound' hmoved hcall => ?_
  exact ends_raise hrounds hinner hsound' (by omega) (Nat.lt_of_le_of_lt hposition hmoved) hcall

end Factors

/-- A factor carries out the reader that has room for as many factors as may still be
opened.  Its calls end because a factor inside it begins behind its first character, and the
count of open factors is back where it was whatever becomes of the factor. -/
theorem carriesOut_factor (hrounds : text.length < rounds) (meaning : Meaning α)
    (limit : Nat) {left origin : Nat} (hleft : text.length < origin + left) :
    CarriesOut text depth origin .factor (factor rounds meaning limit left)
      (Reader.factor meaning limit (limit - depth)) := by
  induction left generalizing depth origin with
  | zero =>
    intro s h _ hfrom
    have hle := h.stands.position_le
    omega
  | succ left ih =>
    intro s h hlive hfrom
    rw [factor]
    apply ends_cursor_bind
    refine ends_enter_bind (fun hfull => ?_) fun hroom => ?_
    · rw [h.nested] at hfull
      rw [Nat.sub_eq_zero_of_le hfull]
      exact .error rfl h
    · rw [h.nested] at hroom
      have hfewer : limit - depth = limit - (depth + 1) + 1 := by omega
      have hinner : CarriesOut text (depth + 1) (s.cursor.position + 1) .factor
          (factor rounds meaning limit left)
          (Reader.factor meaning limit (limit - (depth + 1))) := ih (by omega)
      have hopened : (leaving (opened rounds meaning (factor rounds meaning limit left))).Ends
          s.entered (MatchesPiece text depth s.cursor.position
            (Reader.opened meaning (Reader.factor meaning limit (limit - (depth + 1)))
              s.cursor.tokens)) := by
        refine ends_leaving ((ends_opened hrounds hinner (Reader.restAvoids_factor limit _)
          h.entered hlive (Nat.le_refl _)).mono ?_)
        rintro _ after (⟨hreads, hsound, hmoved, hspace⟩ | ⟨hreads, hsound⟩)
        · exact .ok hreads hsound.left hmoved hspace
        · exact .error hreads hsound.left
      rw [hfewer]
      exact hopened.recorded fun _ _ hreads =>
        Reader.restAvoids_factor limit (limit - (depth + 1) + 1) hreads

/-- A factor leaves as many factors open as there were, whether it succeeds or fails. -/
theorem ends_factor_openFactors (hrounds : text.length < rounds) (meaning : Meaning α)
    (limit : Nat) {left : Nat} (h : s.IsSound text depth) (hlive : s.IsLive)
    (hleft : text.length < s.cursor.position + left) :
    (factor rounds meaning limit left).Ends s fun _ after => after.openFactors = s.openFactors :=
  (carriesOut_factor hrounds meaning limit hleft s h hlive (Nat.le_refl _)).mono
    fun _ _ hmatches => hmatches.sound.nested.trans h.nested.symm

/-! ## Whole texts -/

/-- A whole text is read as the reader of its tokens reads it.  A success ends at the end of
the text, with the record of a sum that begins with the text. -/
theorem ends_whole (hrounds : text.length < rounds) (meaning : Meaning α) (limit : Nat) :
    (whole rounds meaning limit).Ends (.start text) fun outcome after =>
      outcome = readAs meaning limit text ∧ after.IsSound text 0 ∧
        ∀ x, outcome = .ok x → after.cursor.position = text.length ∧
          ⟨after.cursor, .read .sum 0⟩ ∈ after.trace := by
  have hfactor : CarriesOut text 0 0 .factor (factor rounds meaning limit rounds)
      (Reader.factor meaning limit limit) :=
    carriesOut_factor hrounds meaning limit (by omega)
  rw [whole]
  refine (carriesOut_sum hrounds hfactor (Reader.restAvoids_factor limit limit) (.start text)
    (State.start_isSound text) (State.start_isLive text) (Nat.zero_le _)).bind ?_ ?_
  · rintro x after ⟨hreads, hsound, -, hspace, hrecorded⟩
    have hread : readAs meaning limit text = Reader.complete (.ok (x, after.cursor.tokens)) :=
      congrArg Reader.complete hreads
    have hunexpected := hsound.stands.unexpected_tokens hspace
    rw [hread]
    apply ends_cursor_bind
    cases hcurrent : after.cursor.current with
    | none =>
      have hend := hsound.stands.current_eq_none_iff.1 hcurrent
      rw [hsound.stands.text_eq, if_neg (by omega), hsound.stands.tokens_eq_nil hcurrent]
      exact ends_pure ⟨rfl, hsound, fun _ _ => ⟨hend, hrecorded⟩⟩
    | some c =>
      have hlt := hsound.stands.position_lt hcurrent
      rw [hcurrent] at hunexpected
      rw [hsound.stands.text_eq, if_pos hlt]
      cases htokens : after.cursor.tokens with
      | nil =>
        rw [htokens] at hunexpected
        exact absurd (Cause.unexpected.inj hunexpected) (by simp)
      | cons token rest =>
        rw [htokens] at hunexpected
        exact ends_throw ⟨by rw [Reader.complete, hunexpected], hsound, by simp⟩
  · rintro cause after (_ | ⟨hreads, hsound⟩)
    exact ⟨(congrArg Reader.complete hreads).symm, hsound, by simp⟩

end Descent

/-- With more rounds than there are characters a descent ends, with the value or the failure
of the text. -/
theorem exists_descend {α : Type} (meaning : Meaning α) (limit : Nat) {rounds : Nat}
    {text : Text} (hrounds : text.length < rounds) :
    ∃ final, descend meaning limit rounds text = some (readAs meaning limit text, final) ∧
      final.IsSound text 0 ∧
      ∀ x, readAs meaning limit text = .ok x → final.cursor.position = text.length ∧
        ⟨final.cursor, .read .sum 0⟩ ∈ final.trace := by
  obtain ⟨outcome, final, hrun, rfl, hsound, hread⟩ := Descent.ends_whole hrounds meaning limit
  exact ⟨final, hrun, hsound, hread⟩

/-- A descent that succeeds ends at the end of the text with no factor left open, and has
recorded the whole text as a sum. -/
theorem read_of_descend_ok {α : Type} {meaning : Meaning α} {limit rounds : Nat} {text : Text}
    {x : α} {final : Descent.State} (hrounds : text.length < rounds)
    (h : descend meaning limit rounds text = some (.ok x, final)) :
    final.cursor.position = text.length ∧ final.openFactors = 0 ∧
      ⟨final.cursor, .read .sum 0⟩ ∈ final.trace := by
  obtain ⟨final', hdescend, hsound, hread⟩ := exists_descend meaning limit hrounds
  rw [hdescend, Option.some.injEq, Prod.mk.injEq] at h
  obtain ⟨hvalue, rfl⟩ := h
  obtain ⟨hposition, hrecorded⟩ := hread x hvalue
  exact ⟨hposition, hsound.nested, hrecorded⟩

/-- What a descent gives is what reading the text gives, so a closed text may be read by
running its descent. -/
theorem map_descend {α β : Type} (meaning : Meaning α) (limit : Nat) (text : Text)
    (f : Except Cause α → β) :
    (descend meaning limit (text.length + 1) text).map (fun run => f run.1) =
      some (f (readAs meaning limit text)) := by
  obtain ⟨final, hdescend, -⟩ := exists_descend meaning limit (Nat.lt_succ_self text.length)
  rw [hdescend, Option.map_some]

theorem readAs_of_descend {α : Type} {meaning : Meaning α} {limit : Nat} {text : Text}
    {outcome : Except Cause α}
    (h : (descend meaning limit (text.length + 1) text).map Prod.fst = some outcome) :
    readAs meaning limit text = outcome :=
  Option.some.inj ((map_descend meaning limit text id).symm.trans h)

example : (descend Meaning.tree 3 5 "(1 2".toList).map (fun run => (run.1,
      run.2.trace.map fun moment => (moment.cursor.position, moment.event))) =
    some (.error (.unexpected (some '2')),
      [(0, .started), (1, .moved), (2, .moved), (2, .cut 1), (3, .moved), (3, .read .factor 1),
        (3, .read .product 1), (3, .read .sum 1), (3, .leftOpen), (3, .read .factor 0),
        (3, .read .product 0), (3, .read .sum 0)]) := by
  rfl

end PocketCalculator
