import PocketCalculator.Proofs.DescentStates
import PocketCalculator.Proofs.Grammar
import PocketCalculator.Proofs.ReadingSteps

/-!
# Steps of a descent

A program that moves a cursor is specified by what it leaves: from a sound state it ends, in
a sound state that is described by the characters or the tokens which were ahead.  Each
program that is not built from operands has one lemma.  A loop has rounds enough if it has
more of them than there are characters left.

Main definitions:

- {lit}`Descent.Ends` says that a program ends and leaves what is wanted, and
  {lit}`Descent.Yields` that it also succeeds.
- {lit}`Descent.Skipped`, {lit}`Descent.Eaten`, {lit}`Descent.FoundOperator` and
  {lit}`Descent.Cut` are what the programs leave.

Main results:

- Theorems {lit}`Descent.Ends.bind` and {lit}`Descent.Yields.bind`: programs that end may be
  put one after the other.
- Theorems {lit}`Descent.ends_enter_bind` and {lit}`Descent.ends_leaving`: a factor is opened
  if there is room, and closed whatever becomes of it.
- Theorem {lit}`Descent.yields_skipUpTo`: skipping ends within as many rounds as there are
  characters left, and one more.
- Theorems {lit}`Descent.yields_eat` and {lit}`Descent.yields_eatOperator`: a character is
  taken exactly if it is the first token ahead.
- Theorems {lit}`Descent.ends_numberFrom` and {lit}`Descent.yields_nameFrom`: numbers and
  names are cut out as the tokens that they are.
-/

namespace PocketCalculator

/-- Where no closing parenthesis is next, none is dropped. -/
theorem Reader.dropClosing_of_head? {input : List Token}
    (h : input.head? ≠ some (.mark ')')) : dropClosing input = input := by
  cases input with
  | nil => rfl
  | cons token input =>
    refine dropClosing_of_ne ?_ input
    rintro rfl
    exact h rfl

namespace Descent

variable {text : Text} {depth rounds : Nat} {s : State} {c : Char} {event : Event} {α β : Type}

/-! ## Programs that end -/

/-- A program ends, and what it leaves is as wanted. -/
def Ends (program : Descent α) (s : State) (post : Except Cause α → State → Prop) : Prop :=
  ∃ outcome after, program.run.run s = some (outcome, after) ∧ post outcome after

/-- A program ends with a value, and what it leaves is as wanted. -/
abbrev Yields (program : Descent α) (s : State) (post : α → State → Prop) : Prop :=
  program.Ends s fun outcome after => ∃ x, outcome = .ok x ∧ post x after

section Rules

variable {program : Descent α} {next : α → Descent β} {mid : Except Cause α → State → Prop}
  {post post' : Except Cause β → State → Prop}

/-- Two programs one after the other end if the second one ends wherever the first one
succeeds. -/
theorem Ends.bind (h : program.Ends s mid)
    (hok : ∀ x after, mid (.ok x) after → (next x).Ends after post)
    (herror : ∀ cause after, mid (.error cause) after → post (.error cause) after) :
    (program >>= next).Ends s post := by
  obtain ⟨outcome, after, hrun, hmid⟩ := h
  cases outcome with
  | ok x =>
    obtain ⟨outcome, final, hnext, hpost⟩ := hok x after hmid
    refine ⟨outcome, final, ?_, hpost⟩
    rw [ExceptT.run_bind, StateT.run_bind, hrun]
    exact hnext
  | error cause =>
    refine ⟨.error cause, after, ?_, herror cause after hmid⟩
    rw [ExceptT.run_bind, StateT.run_bind, hrun]
    rfl

theorem Ends.mono {program : Descent β} (h : program.Ends s post)
    (himp : ∀ outcome after, post outcome after → post' outcome after) :
    program.Ends s post' := by
  obtain ⟨outcome, after, hrun, hpost⟩ := h
  exact ⟨outcome, after, hrun, himp outcome after hpost⟩

/-- A program that succeeds leaves only the second one to be looked at. -/
theorem Yields.bind {mid : α → State → Prop} (h : program.Yields s mid)
    (hnext : ∀ x after, mid x after → (next x).Ends after post) :
    (program >>= next).Ends s post := by
  refine Ends.bind h ?_ (by simp)
  rintro x after ⟨_, ⟨⟩, hmid⟩
  exact hnext x after hmid

theorem ends_pure {x : β} (h : post (.ok x) s) : (pure x : Descent β).Ends s post :=
  ⟨.ok x, s, rfl, h⟩

theorem yields_pure {x : α} {post : α → State → Prop} (h : post x s) :
    (pure x : Descent α).Yields s post :=
  ends_pure ⟨x, rfl, h⟩

theorem ends_throw {cause : Cause} (h : post (.error cause) s) :
    (throw cause : Descent β).Ends s post :=
  ⟨.error cause, s, rfl, h⟩

theorem ends_cursor_bind {next : Cursor → Descent β} (h : (next s.cursor).Ends s post) :
    (cursor >>= next).Ends s post := h

theorem ends_note_bind {next : Unit → Descent β} (h : (next ()).Ends (s.noting event) post) :
    (note event >>= next).Ends s post := h

theorem ends_advance_bind {next : Unit → Descent β} (h : (next ()).Ends s.moved post) :
    (advance >>= next).Ends s post := h

end Rules

/-! ## Open factors -/

section OpenFactors

variable {post : Except Cause β → State → Prop}

/-- A factor is opened unless as many are open as may be. -/
theorem ends_enter_bind {limit : Nat} {next : Unit → Descent β}
    (hfull : limit ≤ s.openFactors → post (.error (.tooDeeplyNested limit)) s)
    (hroom : s.openFactors < limit → (next ()).Ends s.entered post) :
    (enter limit >>= next).Ends s post := by
  have hcases : ((if limit ≤ s.openFactors then throw (.tooDeeplyNested limit)
      else modify State.entered : Descent Unit) >>= next).Ends s post := by
    split
    · next hle => exact ⟨_, s, rfl, hfull hle⟩
    · next hroom' => exact hroom (Nat.lt_of_not_le hroom')
  exact hcases

/-- A factor is closed behind every outcome. -/
theorem ends_leaving {program : Descent β}
    (h : program.Ends s fun outcome after => post outcome after.left) :
    (leaving program).Ends s post := by
  obtain ⟨outcome, after, hrun, hpost⟩ := h
  refine ⟨outcome, after.left, ?_, hpost⟩
  unfold leaving
  simp [hrun]

end OpenFactors

/-! ## Skipping -/

/-- What skipping the characters of a class leaves. -/
structure Skipped (text : Text) (depth : Nat) (p : Char → Bool) (s after : State) : Prop where
  sound : after.IsSound text depth
  live : s.IsLive → after.IsLive
  ahead : after.cursor.ahead = s.cursor.ahead.dropWhile p
  position : after.cursor.position = s.cursor.position + (s.cursor.ahead.takeWhile p).length
  stops : ∀ c, after.cursor.current = some c → p c = false
  stays : (∀ c, s.cursor.current = some c → p c = false) → after = s

/-- Where no character of the class is next, nothing is skipped. -/
theorem Skipped.refl {p : Char → Bool} (h : s.IsSound text depth)
    (hstops : ∀ c, s.cursor.current = some c → p c = false) : Skipped text depth p s s := by
  have hnone : s.cursor.ahead.takeWhile p = [] ∧
      s.cursor.ahead.dropWhile p = s.cursor.ahead := by
    cases hahead : s.cursor.ahead with
    | nil => exact ⟨rfl, rfl⟩
    | cons c rest =>
      have hc : s.cursor.current = some c := by
        rw [← h.stands.head?_ahead, hahead]
        rfl
      simp [hstops c hc]
  exact ⟨h, id, hnone.2.symm, by rw [hnone.1]; rfl, hstops, fun _ => rfl⟩

/-- One character more is skipped in front of what is skipped. -/
theorem Skipped.step {p : Char → Bool} {after : State} (h : s.IsSound text depth)
    (hlive : s.IsLive) (hc : s.cursor.current = some c) (hp : p c = true)
    (hskipped : Skipped text depth p s.moved after) : Skipped text depth p s after := by
  have hahead := h.stands.ahead_eq hc
  have hposition : s.moved.cursor.position = s.cursor.position + 1 := h.stands.position_next hc
  refine ⟨hskipped.sound, fun _ => hskipped.live hlive.moved, ?_, ?_, hskipped.stops, ?_⟩
  · rw [hskipped.ahead, hahead, List.dropWhile_cons_of_pos hp]
    rfl
  · rw [hskipped.position, hposition, hahead, List.takeWhile_cons_of_pos hp, List.length_cons,
      Nat.add_assoc, Nat.add_comm 1]
    rfl
  · intro hstops
    rw [hstops c hc] at hp
    exact absurd hp Bool.false_ne_true

/-- Skipping ends.  Behind a parenthesis that was left open nothing may be skipped. -/
theorem yields_skipUpTo {p : Char → Bool} (h : s.IsSound text depth)
    (hrounds : text.length - s.cursor.position < rounds)
    (hlive : ∀ c, s.cursor.current = some c → p c = true → s.IsLive) :
    (skipUpTo p rounds).Yields s fun _ after => Skipped text depth p s after := by
  induction rounds generalizing s with
  | zero => exact absurd hrounds (Nat.not_lt_zero _)
  | succ rounds ih =>
    rw [skipUpTo]
    apply ends_cursor_bind
    cases hcurrent : s.cursor.current with
    | none =>
      rw [Option.any_none, if_neg Bool.false_ne_true]
      exact yields_pure (.refl h (by simp [hcurrent]))
    | some c =>
      rw [Option.any_some]
      split
      · next hp =>
        have hnow := hlive c hcurrent hp
        have hlt := h.stands.position_lt hcurrent
        have hposition : s.moved.cursor.position = s.cursor.position + 1 :=
          h.stands.position_next hcurrent
        apply ends_advance_bind
        refine (ih (h.moved hnow hcurrent) (by omega) (fun _ _ _ => hnow.moved)).mono ?_
        rintro _ after ⟨x, ⟨⟩, hskipped⟩
        exact ⟨x, rfl, hskipped.step h hnow hcurrent hp⟩
      · next hp =>
        refine yields_pure (.refl h fun d hd => ?_)
        obtain rfl : c = d := Option.some.inj (hcurrent.symm.trans hd)
        simpa using hp

/-! ## Taking a character -/

/-- What is left by an attempt to take a character. -/
inductive Eaten (text : Text) (depth : Nat) (c : Char) (s : State) : Bool → State → Prop
  | taken {after : State} (sound : after.IsSound text depth) (live : after.IsLive)
      (moved : s.cursor.position < after.cursor.position)
      (tokens : s.cursor.tokens = .mark c :: after.cursor.tokens) : Eaten text depth c s true after
  | left {after : State} (sound : after.IsSound text depth) (live : s.IsLive → after.IsLive)
      (position : s.cursor.position ≤ after.cursor.position)
      (tokens : after.cursor.tokens = s.cursor.tokens)
      (space : after.cursor.current ≠ some ' ') (next : after.cursor.current ≠ some c)
      (stays : s.cursor.current ≠ some ' ' → after = s) : Eaten text depth c s false after

/-- A mark is taken exactly if it is the first token ahead.  Behind a parenthesis that was
left open only such marks may be looked for as could go on there, for none of them is next. -/
theorem yields_eat (hrounds : text.length < rounds) (h : s.IsSound text depth)
    (hproper : (Token.mark c).IsProper) (hlive : s.IsLive ∨ c ∈ continuing) :
    (eat rounds c).Yields s (Eaten text depth c s) := by
  have hspaces (d : Char) (hd : s.cursor.current = some d) (hp : (d == ' ') = true) :
      s.IsLive := by
    rw [beq_iff_eq] at hp
    exact h.isLive hd (by rw [hp]; decide)
  unfold eat
  refine (yields_skipUpTo h (by omega) hspaces).bind fun _ after hskipped => ?_
  have htokens : after.cursor.tokens = s.cursor.tokens := by
    rw [Cursor.tokens, hskipped.ahead, Token.lex_dropWhile_space, Cursor.tokens]
  apply ends_cursor_bind
  split
  · next hc =>
    have hlive' : after.IsLive := by
      rcases hlive with hlive | hcontinuing
      · exact hskipped.live hlive
      · exact hskipped.sound.isLive hc hcontinuing
    apply ends_advance_bind
    refine yields_pure (.taken (hskipped.sound.moved hlive' hc) hlive'.moved ?_ ?_)
    · have hposition : after.moved.cursor.position = after.cursor.position + 1 :=
        hskipped.sound.stands.position_next hc
      have hskip := hskipped.position
      omega
    · rw [← htokens]
      exact hskipped.sound.stands.tokens_eq_mark hc hproper
  · next hc =>
    refine yields_pure (.left hskipped.sound hskipped.live ?_ htokens ?_ hc fun hspace => ?_)
    · rw [hskipped.position]
      exact Nat.le_add_right _ _
    · intro hspace
      exact absurd (hskipped.stops ' ' hspace) (by decide)
    · refine hskipped.stays fun d hd => ?_
      rw [beq_eq_false_iff_ne]
      rintro rfl
      exact hspace hd

/-- What is left by looking for one of several operators. -/
inductive FoundOperator (text : Text) (depth : Nat) (operators : List Operator) (s : State) :
    Option Operator → State → Prop
  | found {operator : Operator} {after : State} (mem : operator ∈ operators)
      (sound : after.IsSound text depth) (live : after.IsLive)
      (moved : s.cursor.position < after.cursor.position)
      (tokens : s.cursor.tokens = .mark operator.symbol :: after.cursor.tokens) :
      FoundOperator text depth operators s (some operator) after
  | none {after : State} (sound : after.IsSound text depth)
      (position : s.cursor.position ≤ after.cursor.position)
      (tokens : after.cursor.tokens = s.cursor.tokens)
      (space : operators ≠ [] → after.cursor.current ≠ some ' ')
      (next : ∀ operator ∈ operators, after.cursor.current ≠ some operator.symbol)
      (stays : s.cursor.current ≠ some ' ' → after = s) :
      FoundOperator text depth operators s Option.none after

/-- An operator is found exactly if it is the first token ahead. -/
theorem yields_eatOperator (hrounds : text.length < rounds) (h : s.IsSound text depth)
    (operators : List Operator) :
    (eatOperator rounds operators).Yields s (FoundOperator text depth operators s) := by
  induction operators generalizing s with
  | nil =>
    exact yields_pure (.none h (Nat.le_refl _) rfl (fun hnil => absurd rfl hnil) (by simp)
      fun _ => rfl)
  | cons operator others ih =>
    rw [eatOperator]
    refine (yields_eat hrounds h (Expr.isProper_symbol operator)
      (.inr (symbol_mem_continuing operator))).bind ?_
    rintro _ after (⟨hsound, hlive, hmoved, htokens⟩ |
      ⟨hsound, hlive, hposition, htokens, hspace, hnext, hstays⟩)
    · exact yields_pure (.found List.mem_cons_self hsound hlive hmoved htokens)
    · refine (ih hsound).mono ?_
      rintro _ final ⟨_, rfl, ⟨hmem, hsound', hlive', hmoved, htokens'⟩ |
        ⟨hsound', hposition', htokens', hspace', hnext', hstays'⟩⟩
      · exact ⟨_, rfl, .found (List.mem_cons_of_mem _ hmem) hsound' hlive'
          (Nat.lt_of_le_of_lt hposition hmoved) (htokens.symm.trans htokens')⟩
      · obtain rfl := hstays' hspace
        exact ⟨_, rfl, .none hsound' hposition htokens (fun _ => hspace)
          (List.forall_mem_cons.2 ⟨hnext, hnext'⟩) hstays⟩

/-- Behind a sum a closing parenthesis is taken if it is the first token ahead.  Otherwise
the parenthesis is left open, and the cursor stays where it is. -/
theorem yields_close {start : Nat} (hrounds : text.length < rounds) (h : s.IsSound text depth)
    (hread : (Event.read .sum start).Fits s.cursor) :
    (close rounds).Yields s fun _ after => after.IsSound text depth ∧
      s.cursor.position ≤ after.cursor.position ∧
      after.cursor.tokens = Reader.dropClosing s.cursor.tokens := by
  have hspace := hread.2.1
  unfold close
  refine (yields_eat hrounds h (by decide) (.inr (by decide))).bind ?_
  rintro _ after (⟨hsound, -, hmoved, htokens⟩ | ⟨-, -, -, -, -, hnext, hstays⟩)
  · rw [if_pos rfl, htokens]
    exact yields_pure ⟨hsound, Nat.le_of_lt hmoved, rfl⟩
  · obtain rfl := hstays hspace
    have hclosing : after.cursor.tokens.head? ≠ some (.mark ')') :=
      fun hhead => hnext (h.stands.current_of_head? hspace hhead)
    have hsound := h.noting (Event.fits_leftOpen hread hnext) (by simp)
    rw [if_neg Bool.false_ne_true]
    exact ⟨_, _, rfl, (), rfl, hsound, Nat.le_refl _,
      (Reader.dropClosing_of_head? hclosing).symm⟩

/-! ## Numbers and names -/

/-- What cutting out the characters of a class leaves. -/
structure Cut (text : Text) (depth : Nat) (p : Char → Bool) (s after : State) : Prop where
  sound : after.IsSound text depth
  live : after.IsLive
  ahead : after.cursor.ahead = s.cursor.ahead.dropWhile p
  moved : s.cursor.position < after.cursor.position

/-- A cut behind skipped characters gives the skipped characters, and at least one of
them. -/
theorem ends_skipUpTo_cut {p : Char → Bool} {next : Text → Descent β}
    {post : Except Cause β → State → Prop} (hrounds : text.length < rounds)
    (h : s.IsSound text depth) (hlive : s.IsLive) (hc : s.cursor.current = some c) (hp : p c = true)
    (hnext : ∀ after, Cut text depth p s after →
      (next (s.cursor.ahead.takeWhile p)).Ends after post) :
    (skipUpTo p rounds >>= fun _ => cut s.cursor.position >>= next).Ends s post := by
  refine (yields_skipUpTo h (by omega) fun _ _ _ => hlive).bind fun _ after hskipped => ?_
  have hmoved : s.cursor.position < after.cursor.position := by
    have hnonempty : 0 < (s.cursor.ahead.takeWhile p).length := by
      rw [h.stands.ahead_eq hc, List.takeWhile_cons_of_pos hp]
      exact Nat.succ_pos _
    rw [hskipped.position]
    omega
  have hsince : after.cursor.since s.cursor.position = s.cursor.ahead.takeWhile p := by
    have hfront : s.cursor.ahead.takeWhile p <+: s.cursor.ahead := List.takeWhile_prefix p
    rw [Cursor.since, hskipped.sound.stands.text_eq, ← h.stands.text_eq, hskipped.position,
      List.drop_take, Nat.add_sub_cancel_left]
    exact (List.prefix_iff_eq_take.1 hfront).symm
  rw [← hsince] at hnext
  exact hnext (after.noting _) ⟨hskipped.sound.noting hmoved (by simp),
    (hskipped.live hlive).noting (by simp), hskipped.ahead, hmoved⟩

/-- A number is cut out as the token that it is. -/
theorem ends_numberFrom {meaning : Meaning α} (hrounds : text.length < rounds)
    (h : s.IsSound text depth) (hlive : s.IsLive) (hc : s.cursor.current = some c)
    (hrun : isRunCharacter c = true) (inner : Reader α) :
    (numberFrom rounds meaning s.cursor.position).Ends s fun outcome after =>
      after.IsSound text depth ∧ s.cursor.position < after.cursor.position ∧
        Reader.base meaning inner s.cursor.tokens = outcome.map (·, after.cursor.tokens) := by
  unfold numberFrom
  refine ends_skipUpTo_cut hrounds h hlive hc hrun fun after hcut => ?_
  have hahead := h.stands.ahead_eq hc
  have htokens : s.cursor.tokens =
      .number (s.cursor.ahead.takeWhile isRunCharacter) :: after.cursor.tokens := by
    rw [Cursor.tokens, Cursor.tokens, hcut.ahead, hahead, Token.lex_run _ hrun,
      List.takeWhile_cons_of_pos hrun, List.dropWhile_cons_of_pos hrun]
  rw [htokens, Reader.base]
  split
  · next literal hliteral =>
    exact ends_pure ⟨hcut.sound, hcut.moved, by simp [hliteral, Except.map]⟩
  · next hnone => exact ends_throw ⟨hcut.sound, hcut.moved, by simp [hnone, Except.map]⟩

/-- The two digits of a name are passed one after the other. -/
theorem State.IsSound.passTen {rest : Text} (h : s.IsSound text depth) (hlive : s.IsLive)
    (hahead : s.cursor.ahead = '1' :: '0' :: rest) :
    s.moved.moved.IsSound text depth ∧ s.moved.moved.IsLive ∧
      s.cursor.position < s.moved.moved.cursor.position ∧
      s.moved.moved.cursor.ahead = rest := by
  have hone : s.cursor.current = some '1' := by
    rw [← h.stands.head?_ahead, hahead]
    rfl
  have hsound := h.moved hlive hone
  have hfirst : s.moved.cursor.ahead = '0' :: rest :=
    (List.cons.inj ((h.stands.ahead_eq hone).symm.trans hahead)).2
  have hzero : s.moved.cursor.current = some '0' := by
    rw [← hsound.stands.head?_ahead, hfirst]
    rfl
  have hsecond : s.moved.moved.cursor.ahead = rest :=
    (List.cons.inj ((hsound.stands.ahead_eq hzero).symm.trans hfirst)).2
  have hposition : s.moved.cursor.position = s.cursor.position + 1 :=
    h.stands.position_next hone
  have hposition' : s.moved.moved.cursor.position = s.moved.cursor.position + 1 :=
    hsound.stands.position_next hzero
  exact ⟨hsound.moved hlive.moved hzero, hlive.moved.moved, by omega, hsecond⟩

/-- A name is cut out as the token that it is. -/
theorem yields_nameFrom (hrounds : text.length < rounds) (h : s.IsSound text depth)
    (hlive : s.IsLive) (hc : s.cursor.current = some c) (hletter : isSmallLetter c = true) :
    (nameFrom rounds s.cursor.position).Yields s fun name after =>
      after.IsSound text depth ∧ after.IsLive ∧ s.cursor.position < after.cursor.position ∧
        s.cursor.tokens = .name name :: after.cursor.tokens := by
  unfold nameFrom
  refine ends_skipUpTo_cut hrounds h hlive hc hletter fun after hcut => ?_
  have hahead := h.stands.ahead_eq hc
  have hspace : c ≠ ' ' := by
    rintro rfl
    exact absurd hletter (by decide)
  have htokens : s.cursor.tokens =
      (Token.named (s.cursor.ahead.takeWhile isSmallLetter) after.cursor.ahead).1 ::
        Token.lex (Token.named (s.cursor.ahead.takeWhile isSmallLetter) after.cursor.ahead).2 := by
    rw [Cursor.tokens, hcut.ahead, hahead, Token.lex_cons hspace, Token.next,
      if_neg (by simp [isRunCharacter_of_isSmallLetter hletter]), if_pos hletter,
      List.takeWhile_cons_of_pos hletter, List.dropWhile_cons_of_pos hletter]
  rw [htokens]
  generalize s.cursor.ahead.takeWhile isSmallLetter = letters
  split
  · next hlog =>
    subst hlog
    have hlooked : (after.noting .looked).IsSound text depth := hcut.sound.noting trivial (by simp)
    have hlive' : (after.noting .looked).IsLive := hcut.live.noting (by simp)
    apply ends_note_bind
    apply ends_cursor_bind
    split
    · next hten =>
      obtain ⟨rest, hrest⟩ := hten
      have hten : after.cursor.ahead = '1' :: '0' :: rest := hrest.symm
      obtain ⟨hsound, hlive'', hmoved, hlast⟩ := hlooked.passTen hlive' hten
      apply ends_advance_bind
      apply ends_advance_bind
      refine yields_pure ⟨hsound, hlive'', Nat.lt_trans hcut.moved hmoved, ?_⟩
      rw [Cursor.tokens, hlast, hten]
      rfl
    · next hten =>
      have hplain : ¬ "10".toList <+: after.cursor.ahead := hten
      refine yields_pure ⟨hlooked, hlive', hcut.moved, ?_⟩
      rw [Token.named_eq fun _ => hplain]
      rfl
  · next hlog =>
    refine yields_pure ⟨hcut.sound, hcut.live, hcut.moved, ?_⟩
    rw [Token.named_eq fun heq => absurd heq hlog]
    rfl

end Descent

end PocketCalculator
