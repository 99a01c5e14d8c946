import PocketCalculator.Proofs.Descent
import PocketCalculator.Proofs.Spacing

/-!
# Where a cursor may be

What holds of the cursor and of the record at every moment of a descent: where the cursor
stands, what every event says about the cursor that it leaves, and what the characters
ahead are as tokens.

Main definitions:

- {lit}`Cursor.StandsIn` says that a cursor belongs to a text.
- {lit}`Cursor.tokens` are the tokens ahead of a cursor.
- {lit}`Event.Fits` is what an event says about its cursor.
- {lit}`Descent.State.IsSound` is the invariant of a descent, and
  {lit}`Descent.State.IsLive` says that no parenthesis has been left open.

Main results:

- Theorem {lit}`Cursor.StandsIn.first?_of_head?`: where no space is next, the first token
  ahead begins with the character that is next.
- Theorems {lit}`Descent.State.IsSound.noting` and {lit}`Descent.State.IsSound.moved`:
  recording a fitting event and moving on keep the invariant.
- Theorems {lit}`Descent.State.IsSound.entered` and {lit}`Descent.State.IsSound.left`:
  opening and closing a factor keep it, with another count.
- Theorem {lit}`Descent.State.IsSound.isLive`: behind a parenthesis that is left open
  nothing is next that an open piece could go on with.
-/

namespace PocketCalculator

variable {text : Text}

/-! ## Cursors in a text -/

namespace Cursor

variable {cursor : Cursor} {c : Char}

/-- A cursor that stands in a text: it is not past the end, and what is next is the character
at its position. -/
structure StandsIn (cursor : Cursor) (text : Text) : Prop where
  text_eq : cursor.text = text
  position_le : cursor.position ≤ text.length
  current_eq : cursor.current = text[cursor.position]?

theorem start_standsIn (text : Text) : (start text).StandsIn text where
  text_eq := rfl
  position_le := Nat.zero_le _
  current_eq := List.head?_eq_getElem?

namespace StandsIn

/-- What is next is the first of what has not been passed. -/
theorem head?_ahead (h : cursor.StandsIn text) : cursor.ahead.head? = cursor.current := by
  rw [ahead, h.text_eq, h.current_eq, List.head?_drop]

/-- Nothing is next exactly at the end. -/
theorem current_eq_none_iff (h : cursor.StandsIn text) :
    cursor.current = none ↔ cursor.position = text.length := by
  rw [h.current_eq, List.getElem?_eq_none_iff]
  exact ⟨fun hle => Nat.le_antisymm h.position_le hle, fun heq => Nat.le_of_eq heq.symm⟩

theorem position_lt (h : cursor.StandsIn text) (hc : cursor.current = some c) :
    cursor.position < text.length := by
  refine Nat.lt_of_le_of_ne h.position_le fun heq => ?_
  rw [h.current_eq_none_iff.2 heq] at hc
  exact absurd hc (by simp)

/-- In front of a character the next cursor is one position further. -/
theorem position_next (h : cursor.StandsIn text) (hc : cursor.current = some c) :
    cursor.next.position = cursor.position + 1 := by
  have hlt := h.position_lt hc
  rw [← h.text_eq] at hlt
  exact if_pos hlt

theorem next (h : cursor.StandsIn text) : cursor.next.StandsIn text where
  text_eq := h.text_eq
  position_le := by
    rw [Cursor.next, h.text_eq]
    dsimp only
    split
    · next hlt => exact hlt
    · exact h.position_le
  current_eq := by rw [Cursor.next, h.text_eq]

/-- What is next is passed by the next cursor. -/
theorem ahead_eq (h : cursor.StandsIn text) (hc : cursor.current = some c) :
    cursor.ahead = c :: cursor.next.ahead := by
  have hhead := h.head?_ahead
  rw [hc] at hhead
  have hnext : cursor.next.ahead = cursor.ahead.tail := by
    rw [ahead, h.position_next hc, ahead, List.tail_drop]
    rfl
  rw [hnext]
  obtain ⟨rest, hrest⟩ := List.head?_eq_some_iff.1 hhead
  rw [hrest, List.tail_cons]

/-- A cursor in a text is known by its position. -/
theorem eq_of_position_eq {other : Cursor} (h : cursor.StandsIn text)
    (hother : other.StandsIn text) (hposition : cursor.position = other.position) :
    cursor = other := by
  have htext : cursor.text = other.text := h.text_eq.trans hother.text_eq.symm
  have hcurrent : cursor.current = other.current := by
    rw [h.current_eq, hother.current_eq, hposition]
  cases cursor
  cases other
  dsimp only at htext hposition hcurrent
  rw [htext, hposition, hcurrent]

end StandsIn

end Cursor

/-! ## Tokens ahead -/

namespace Token

/-- A token begins with the character that it was cut out for. -/
theorem first?_next (c : Char) (text : Text) : (next c text).1.first? = some c := by
  unfold next
  split
  · rfl
  split
  · unfold named
    split
    · next heq _ => exact (congrArg List.head? heq).symm
    · rfl
  · rfl

/-- Spaces in front of a text are no tokens. -/
theorem lex_dropWhile_space (text : Text) : lex (text.dropWhile (· == ' ')) = lex text := by
  have hspaces : text.takeWhile (· == ' ') =
      List.replicate (text.takeWhile (· == ' ')).length ' ' := by
    refine List.eq_replicate_of_mem fun c hc => ?_
    simpa using List.all_eq_true.1 List.all_takeWhile c hc
  calc lex (text.dropWhile (· == ' '))
      = lex (text.takeWhile (· == ' ') ++ text.dropWhile (· == ' ')) := by
        rw [hspaces, lex_spaces]
    _ = lex text := by rw [List.takeWhile_append_dropWhile]

end Token

namespace Cursor

variable {cursor : Cursor} {c : Char}

/-- The tokens that have not been passed. -/
def tokens (cursor : Cursor) : List Token := Token.lex cursor.ahead

namespace StandsIn

/-- At the end there is no token ahead. -/
theorem tokens_eq_nil (h : cursor.StandsIn text) (hnone : cursor.current = none) :
    cursor.tokens = [] := by
  have hahead : cursor.ahead = [] := by
    rw [← List.head?_eq_none_iff, h.head?_ahead, hnone]
  rw [tokens, hahead, Token.lex_nil]

/-- In front of a character that is no space there is a token that begins with it. -/
theorem tokens_eq_cons (h : cursor.StandsIn text) (hc : cursor.current = some c)
    (hspace : c ≠ ' ') :
    cursor.tokens =
      (Token.next c cursor.next.ahead).1 :: Token.lex (Token.next c cursor.next.ahead).2 := by
  rw [tokens, h.ahead_eq hc, Token.lex_cons hspace]

/-- A mark that is next is the first token. -/
theorem tokens_eq_mark (h : cursor.StandsIn text) (hc : cursor.current = some c)
    (hproper : (Token.mark c).IsProper) : cursor.tokens = .mark c :: cursor.next.tokens := by
  rw [tokens, h.ahead_eq hc, Token.lex_mark _ hproper]
  rfl

/-- Where no space is next, the first token begins with what is next. -/
theorem first?_of_head? (h : cursor.StandsIn text) (hspace : cursor.current ≠ some ' ')
    {token : Token} (hhead : cursor.tokens.head? = some token) :
    token.first? = cursor.current := by
  cases hc : cursor.current with
  | none =>
    rw [h.tokens_eq_nil hc] at hhead
    exact absurd hhead (by simp)
  | some c =>
    have hne : c ≠ ' ' := by
      rintro rfl
      exact hspace hc
    rw [h.tokens_eq_cons hc hne] at hhead
    obtain rfl := Option.some.inj hhead
    exact Token.first?_next c _

/-- Where no space is next, a first token that is a mark is next. -/
theorem current_of_head? (h : cursor.StandsIn text) (hspace : cursor.current ≠ some ' ')
    (hhead : cursor.tokens.head? = some (.mark c)) : cursor.current = some c :=
  (h.first?_of_head? hspace hhead).symm

/-- Where no space is next, what is next is what is unexpected. -/
theorem unexpected_tokens (h : cursor.StandsIn text) (hspace : cursor.current ≠ some ' ') :
    Reader.unexpected cursor.tokens = .unexpected cursor.current := by
  cases htokens : cursor.tokens with
  | nil =>
    cases hc : cursor.current with
    | none => rfl
    | some c =>
      have hne : c ≠ ' ' := by
        rintro rfl
        exact hspace hc
      rw [h.tokens_eq_cons hc hne] at htokens
      exact absurd htokens (by simp)
  | cons token rest => rw [Reader.unexpected, h.first?_of_head? hspace (by rw [htokens]; rfl)]

end StandsIn

end Cursor

/-! ## Events -/

/-- The marks that a piece takes up if they follow. -/
def Expr.Binding.absorbed : Binding → List Char
  | .sum => ['^', '*', '/', '%', '+', '-']
  | .product => ['^', '*', '/', '%']
  | .factor => ['^']
  | .base => []

/-- The characters that an open piece could go on with: spaces are skipped, an exponent or an
operand is joined, and a parenthesis is closed. -/
def continuing : List Char := [' ', '^', '*', '/', '%', '+', '-', ')']

/-- What an event says about the cursor that it leaves. -/
def Event.Fits (cursor : Cursor) : Event → Prop
  | started => True
  | moved => True
  | cut start => start < cursor.position
  | looked => True
  | read piece start => start < cursor.position ∧ cursor.current ≠ some ' ' ∧
      ∀ c ∈ piece.absorbed, cursor.current ≠ some c
  | raised base => base ≠ .call
  | leftOpen => ∀ c ∈ continuing, cursor.current ≠ some c

theorem symbol_mem_continuing (operator : Operator) : operator.symbol ∈ continuing := by
  cases operator <;> decide

theorem Expr.Binding.isProper_of_mem_absorbed {piece : Binding} {c : Char}
    (hc : c ∈ piece.absorbed) : (Token.mark c).IsProper := by
  have hmarks : c ∈ ['^', '*', '/', '%', '+', '-'] := by
    have hsubset : piece.absorbed ⊆ ['^', '*', '/', '%', '+', '-'] := by
      cases piece <;> decide
    exact hsubset hc
  simp only [List.mem_cons, List.not_mem_nil, or_false] at hmarks
  rcases hmarks with rfl | rfl | rfl | rfl | rfl | rfl <;> decide

/-- A piece may be recorded as read where the tokens ahead do not go on with it. -/
theorem Cursor.StandsIn.fits_read {cursor : Cursor} {start : Nat} {piece : Expr.Binding}
    (h : cursor.StandsIn text) (hstart : start < cursor.position)
    (hspace : cursor.current ≠ some ' ')
    (habsorbed : ∀ c ∈ piece.absorbed, cursor.tokens.head? ≠ some (.mark c)) :
    (Event.read piece start).Fits cursor := by
  refine ⟨hstart, hspace, fun c hc hcurrent => habsorbed c hc ?_⟩
  rw [h.tokens_eq_mark hcurrent (Expr.Binding.isProper_of_mem_absorbed hc)]
  rfl

/-- A parenthesis may be left open behind a sum where no closing one is next. -/
theorem Event.fits_leftOpen {cursor : Cursor} {start : Nat}
    (h : (Event.read .sum start).Fits cursor) (hclosing : cursor.current ≠ some ')') :
    Event.leftOpen.Fits cursor := by
  obtain ⟨-, hspace, habsorbed⟩ := h
  have hcases : continuing ⊆ ' ' :: ')' :: Expr.Binding.sum.absorbed := by decide
  intro c hc
  rcases List.mem_cons.1 (hcases hc) with rfl | hc
  · exact hspace
  rcases List.mem_cons.1 hc with rfl | hc
  · exact hclosing
  · exact habsorbed c hc

/-! ## The invariant -/

namespace Descent.State

variable {s : State} {depth : Nat} {c : Char} {event : Event}

/-- The invariant of a descent with a number of open factors.  Positions never decrease along
the record and none is left out, a cursor stays where a parenthesis is left open, and the
position is the number of moves. -/
structure IsSound (text : Text) (depth : Nat) (s : State) : Prop where
  nested : s.openFactors = depth
  stands : s.cursor.StandsIn text
  moments : ∀ moment ∈ s.trace,
    moment.cursor.StandsIn text ∧ moment.event.Fits moment.cursor
  ordered : s.trace.Pairwise fun earlier later => earlier.cursor.position ≤ later.cursor.position
  reached : ∀ moment ∈ s.trace, moment.cursor.position ≤ s.cursor.position
  visited : ∀ position ≤ s.cursor.position, ∃ moment ∈ s.trace,
    moment.cursor.position = position
  settled : ∀ moment ∈ s.trace, moment.event = .leftOpen → moment.cursor = s.cursor
  counted : s.trace.countP (·.event = .moved) = s.cursor.position

/-- No parenthesis has been left open. -/
def IsLive (s : State) : Prop := ∀ moment ∈ s.trace, moment.event ≠ .leftOpen

theorem start_isSound (text : Text) : (start text).IsSound text 0 where
  nested := rfl
  stands := Cursor.start_standsIn text
  moments := List.forall_mem_singleton.2 ⟨Cursor.start_standsIn text, trivial⟩
  ordered := List.pairwise_singleton _ _
  reached := List.forall_mem_singleton.2 (Nat.le_refl 0)
  visited := fun _ hle => ⟨_, List.mem_singleton_self _, (Nat.le_zero.1 hle).symm⟩
  settled := List.forall_mem_singleton.2 (by simp)
  counted := rfl

theorem start_isLive (text : Text) : (start text).IsLive := List.forall_mem_singleton.2 (by simp)

/-- An event may be recorded that fits where the cursor is. -/
theorem IsSound.noting (h : s.IsSound text depth) (hfits : event.Fits s.cursor)
    (hmoved : event ≠ .moved) : (s.noting event).IsSound text depth where
  nested := h.nested
  stands := h.stands
  moments := List.forall_mem_append.2 ⟨h.moments, List.forall_mem_singleton.2 ⟨h.stands, hfits⟩⟩
  ordered := List.pairwise_append.2 ⟨h.ordered, List.pairwise_singleton _ _,
    fun earlier hearlier later hlater => by
      rw [List.mem_singleton.1 hlater]
      exact h.reached earlier hearlier⟩
  reached := List.forall_mem_append.2 ⟨h.reached,
    List.forall_mem_singleton.2 (Nat.le_refl s.cursor.position)⟩
  visited := fun position hle => by
    obtain ⟨moment, hmem, hposition⟩ := h.visited position hle
    exact ⟨moment, List.mem_append_left _ hmem, hposition⟩
  settled := List.forall_mem_append.2 ⟨h.settled, List.forall_mem_singleton.2 fun _ => rfl⟩
  counted := by
    have hcounted := h.counted
    simp [State.noting, hmoved, hcounted]

theorem IsLive.noting (h : s.IsLive) (hevent : event ≠ .leftOpen) : (s.noting event).IsLive :=
  List.forall_mem_append.2 ⟨h, List.forall_mem_singleton.2 hevent⟩

theorem IsLive.moved (h : s.IsLive) : s.moved.IsLive :=
  List.forall_mem_append.2 ⟨h, List.forall_mem_singleton.2 (by simp)⟩

/-- A parenthesis is only left open where nothing that is open can go on. -/
theorem IsSound.isLive (h : s.IsSound text depth) (hc : s.cursor.current = some c)
    (hcontinuing : c ∈ continuing) : s.IsLive := by
  intro moment hmem hevent
  have hfits := (h.moments moment hmem).2
  rw [hevent] at hfits
  have hstops := hfits c hcontinuing
  rw [h.settled moment hmem hevent] at hstops
  exact hstops hc

/-- In front of a character the cursor may move on, unless a parenthesis was left open. -/
theorem IsSound.moved (h : s.IsSound text depth) (hlive : s.IsLive)
    (hc : s.cursor.current = some c) : s.moved.IsSound text depth := by
  have hposition : s.moved.cursor.position = s.cursor.position + 1 := h.stands.position_next hc
  have hlast : s.moved.trace = s.trace ++ [⟨s.moved.cursor, .moved⟩] := rfl
  have hreached : ∀ moment ∈ s.trace, moment.cursor.position ≤ s.moved.cursor.position := by
    intro moment hmem
    rw [hposition]
    exact Nat.le_succ_of_le (h.reached moment hmem)
  refine
    { nested := h.nested
      stands := h.stands.next
      moments := List.forall_mem_append.2
        ⟨h.moments, List.forall_mem_singleton.2 ⟨h.stands.next, trivial⟩⟩
      ordered := List.pairwise_append.2 ⟨h.ordered, List.pairwise_singleton _ _, ?_⟩
      reached := List.forall_mem_append.2
        ⟨hreached, List.forall_mem_singleton.2 (Nat.le_refl _)⟩
      visited := ?_
      settled := fun moment hmem hevent => absurd hevent (hlive.moved moment hmem)
      counted := ?_ }
  · intro earlier hearlier later hlater
    rw [List.mem_singleton.1 hlater]
    exact hreached earlier hearlier
  · intro position hle
    rcases Nat.lt_or_eq_of_le hle with hlt | rfl
    · rw [hposition] at hlt
      obtain ⟨moment, hmem, hfound⟩ := h.visited position (Nat.le_of_lt_succ hlt)
      exact ⟨moment, List.mem_append_left _ hmem, hfound⟩
    · exact ⟨_, List.mem_append_right _ (List.mem_singleton_self _), rfl⟩
  · rw [hlast, List.countP_append, h.counted, hposition]
    rfl

/-- A factor may be opened. -/
theorem IsSound.entered (h : s.IsSound text depth) : s.entered.IsSound text (depth + 1) :=
  { h with nested := congrArg (· + 1) h.nested }

/-- An open factor may be closed. -/
theorem IsSound.left (h : s.IsSound text (depth + 1)) : s.left.IsSound text depth :=
  { h with nested := congrArg (· - 1) h.nested }

end Descent.State

end PocketCalculator
