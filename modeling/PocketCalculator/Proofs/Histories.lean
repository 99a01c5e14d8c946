import PocketCalculator.Proofs.KeyResults
import PocketCalculator.Proofs.LastRun
import PocketCalculator.Proofs.Rereading

/-!
# Histories of keys

Keys reach the calculator in two ways: they are pressed, which forgets the last failure
first, or they take effect directly.  A history mixes both.  What a key leaves on the
screen depends on the screen before it alone, so a property of screens that every key
keeps holds after every history.

Main definitions:

- {lit}`Stroke` is a key and the way in which it reaches the calculator.
- {lit}`Leaves` relates the screen before a key to the screens after it.

Main results:

- Theorem {lit}`Entry.leaves_apply`: what the keys leave on the screen.
- Theorem {lit}`Entry.playAll_induction`: what every key keeps holds after every history.
- Theorem {lit}`Entry.expression_playAll_deletions`: enough deletions leave the placeholder.
- Theorem {lit}`screen_never_empty`: the screen is never empty.
-/

namespace PocketCalculator

/-! ## Histories -/

/-- A key, and whether it takes effect directly, without forgetting the last failure. -/
structure Stroke where
  key : Key
  direct : Bool
deriving DecidableEq, Repr

namespace Entry

/-- The effect of a stroke. -/
def play (entry : Entry) (stroke : Stroke) : Entry :=
  if stroke.direct then entry.apply stroke.key else entry.press stroke.key

/-- The effect of strokes one after the other. -/
def playAll (entry : Entry) (strokes : List Stroke) : Entry := strokes.foldl play entry

@[simp] theorem playAll_nil (entry : Entry) : entry.playAll [] = entry := rfl

@[simp] theorem playAll_cons (entry : Entry) (stroke : Stroke) (strokes : List Stroke) :
    entry.playAll (stroke :: strokes) = (entry.play stroke).playAll strokes := rfl

theorem playAll_append (entry : Entry) (strokes more : List Stroke) :
    entry.playAll (strokes ++ more) = (entry.playAll strokes).playAll more :=
  List.foldl_append

/-- Pressing keys is a history without direct strokes. -/
theorem pressAll_eq_playAll (entry : Entry) (keys : List Key) :
    entry.pressAll keys = entry.playAll (keys.map (⟨·, false⟩)) := by
  induction keys generalizing entry with
  | nil => rfl
  | cons key keys ih => exact ih (entry.press key)

/-- The screen is the same in whichever way a key reaches the calculator. -/
theorem expression_play (entry : Entry) (stroke : Stroke) :
    (entry.play stroke).expression = (entry.apply stroke.key).expression := by
  unfold play
  split
  · rfl
  · rw [apply_eq_press, expression_remembering]

end Entry

/-! ## What a key leaves on the screen -/

/-- Whether a key can carry out a calculation. -/
def Key.calculates : Key → Bool
  | .equals => true
  | .operation _ => true
  | _ => false

/-- What a key can leave on the screen that showed a text before: what it makes of the text
by typing, opening an operation, clearing or deleting, the same text, or the text of a
result or of an error. -/
inductive Leaves (before : Text) : Key → Text → Prop where
  | typed (symbol : Text) : Leaves before (.symbol symbol) (afterSymbol before symbol)
  | opened (operation : Operation) {effective : Operation}
      (h : effective = operation ∨ effective = operation.inverted) :
      Leaves before (.operation operation) (afterInsertion before effective.opening)
  | result {key : Key} (h : key.calculates = true) (x : Float) :
      Leaves before key (Display.ofFloat x)
  | failure {key : Key} (h : key.calculates = true) : Leaves before key Display.errorText
  | idle : Leaves before .equals before
  | inverted : Leaves before .invert before
  | cleared : Leaves before (.clear .all) placeholder
  | deleted : Leaves before (.clear .last) (Entry.afterDeletion before)

/-- The text of a calculation is the text of its result. -/
theorem exists_of_outcome_ok {calculation : Except Cause Float} {text : Text}
    (h : outcome calculation = .ok text) : ∃ x, text = Display.ofFloat x := by
  cases calculation with
  | error cause => exact absurd h (by simp [outcome])
  | ok x => exact ⟨x, (resultText_eq_ok_iff.1 h).2.symm⟩

/-- The text of a factorial is the text of a number. -/
theorem exists_of_factorialOf_ok {expression text : Text}
    (h : factorialOf expression = .ok text) : ∃ x, text = Display.ofFloat x := by
  unfold factorialOf at h
  split at h
  · exact absurd h (by simp)
  split at h
  · exact absurd h (by simp)
  · exact ⟨_, (Except.ok.inj h).symm⟩

namespace Entry

variable {entry : Entry}

/-- A calculation leaves the text of its result or of an error. -/
theorem leaves_settle {before : Text} {key : Key} {calculation : Except Cause Text}
    (hkey : key.calculates = true)
    (h : ∀ text, calculation = .ok text → ∃ x, text = Display.ofFloat x) :
    Leaves before key (entry.settle calculation).expression := by
  cases calculation with
  | error cause => exact .failure hkey
  | ok text =>
    obtain ⟨x, rfl⟩ := h text rfl
    exact .result hkey x

/-- A function that is applied or opened leaves its result, an error or its opening. -/
theorem leaves_applyOrOpen {operation effective : Operation}
    (h : effective = operation ∨ effective = operation.inverted)
    (compute : Float → Except Cause Float) :
    Leaves entry.expression (.operation operation)
      (entry.applyOrOpen effective compute).expression := by
  unfold applyOrOpen
  split
  · exact leaves_settle rfl fun _ => exists_of_outcome_ok
  · exact .opened operation h

/-- What the keys leave on the screen. -/
theorem leaves_apply (entry : Entry) (key : Key) :
    Leaves entry.expression key (entry.apply key).expression := by
  cases key with
  | symbol text => exact .typed text
  | invert => exact .inverted
  | equals =>
    rw [apply, equals]
    split
    · exact .idle
    · exact leaves_settle rfl fun _ => exists_of_outcome_ok
  | clear clearing =>
    cases clearing with
    | all => exact .cleared
    | last => exact .deleted
  | operation operation =>
    have hmode : entry.effective operation = operation ∨
        entry.effective operation = operation.inverted := by
      unfold effective
      split
      · exact .inr rfl
      · exact .inl rfl
    rw [apply, operate]
    cases heffective : entry.effective operation with
    | factorial => exact leaves_settle rfl fun _ => exists_of_factorialOf_ok
    | reciprocal => exact leaves_applyOrOpen (heffective ▸ hmode) reciprocal
    | function f => exact leaves_applyOrOpen (heffective ▸ hmode) f.apply
    | other identifier => exact .opened operation (heffective ▸ hmode)

/-- What the keys of a history keep on the screen holds after the history. -/
theorem playAll_induction (P : Text → Prop) (allowed : Key → Prop)
    (step : ∀ {before key after}, allowed key → Leaves before key after → P before → P after)
    {strokes : List Stroke} (hstrokes : ∀ stroke ∈ strokes, allowed stroke.key)
    (hentry : P entry.expression) : P (entry.playAll strokes).expression := by
  induction strokes generalizing entry with
  | nil => exact hentry
  | cons stroke strokes ih =>
    obtain ⟨hstroke, hrest⟩ := List.forall_mem_cons.1 hstrokes
    refine ih hrest ?_
    rw [expression_play]
    exact step hstroke (entry.leaves_apply stroke.key) hentry

end Entry

/-! ## The screen is never empty -/

/-- Every result has a text. -/
theorem Display.ofFloat_ne_nil (x : Float) : ofFloat x ≠ [] := by
  cases hfinite : (Exact.ofFloat x).isFinite with
  | false =>
    rw [ofFloat_of_not_finite hfinite]
    exact List.cons_ne_nil _ _
  | true =>
    intro hempty
    have hidle := isIdle_ofFloat hfinite
    rw [hempty] at hidle
    exact absurd hidle (by decide)

/-- An operation is opened with a parenthesis at least. -/
theorem Operation.opening_ne_nil (operation : Operation) : operation.opening ≠ [] := by
  cases operation with
  | reciprocal => exact List.cons_ne_nil _ _
  | _ => exact List.append_ne_nil_of_right_ne_nil _ (List.cons_ne_nil _ _)

/-- A percentage leaves a number or the percent sign. -/
theorem percent_ne_nil (expression : Text) : percent expression ≠ [] := by
  rcases percent_cases expression with ⟨_, _, _, -, -, hpercent⟩ | ⟨-, hpercent⟩
  · rw [hpercent]
    exact List.append_ne_nil_of_right_ne_nil _ (Display.ofFloat_ne_nil _)
  · rw [hpercent]
    exact List.append_ne_nil_of_right_ne_nil _ (List.cons_ne_nil _ _)

/-- No symbol makes a text empty. -/
theorem afterSymbol_ne_nil {expression : Text} (h : expression ≠ []) (symbol : Text) :
    afterSymbol expression symbol ≠ [] := by
  cases symbol with
  | nil => exact h
  | cons first more =>
    rw [afterSymbol]
    split
    · exact percent_ne_nil expression
    split
    · exact List.cons_ne_nil _ _
    · exact List.append_ne_nil_of_left_ne_nil h _

/-- The last character that is left is the placeholder. -/
theorem Entry.afterDeletion_ne_nil (expression : Text) : afterDeletion expression ≠ [] := by
  unfold afterDeletion
  split
  · exact List.cons_ne_nil _ _
  · next hlong =>
    intro hempty
    have hlength := congrArg List.length hempty
    rw [List.length_dropLast, List.length_nil] at hlength
    omega

/-- No key empties the screen. -/
theorem Leaves.ne_nil {before after : Text} {key : Key} (h : Leaves before key after)
    (hbefore : before ≠ []) : after ≠ [] := by
  cases h with
  | typed symbol => exact afterSymbol_ne_nil hbefore symbol
  | @opened operation effective _ =>
    unfold afterInsertion
    split
    · exact effective.opening_ne_nil
    · exact List.append_ne_nil_of_left_ne_nil hbefore _
  | result _ x => exact Display.ofFloat_ne_nil x
  | failure _ => exact List.cons_ne_nil _ _
  | idle => exact hbefore
  | inverted => exact hbefore
  | cleared => exact List.cons_ne_nil _ _
  | deleted => exact Entry.afterDeletion_ne_nil before

/-! ## Deletions -/

namespace Entry

/-- A deletion leaves the placeholder, or a text with one character less. -/
theorem afterDeletion_cases (expression : Text) :
    afterDeletion expression = placeholder ∨
      (afterDeletion expression).length + 1 = expression.length := by
  unfold afterDeletion
  split
  · exact .inl rfl
  · next hlong =>
    right
    rw [List.length_dropLast]
    omega

/-- Nothing can be deleted from the placeholder. -/
theorem expression_playAll_placeholder {deletions : List Stroke} {entry : Entry}
    (hkeys : ∀ stroke ∈ deletions, stroke.key = .clear .last)
    (hentry : entry.expression = placeholder) :
    (entry.playAll deletions).expression = placeholder := by
  refine playAll_induction (· = placeholder) (· = .clear .last) ?_ hkeys hentry
  rintro before key after rfl hleaves rfl
  cases hleaves with
  | deleted => rfl
  | result h x => exact absurd h Bool.false_ne_true
  | failure h => exact absurd h Bool.false_ne_true

/-- As many deletions as a text has characters leave the placeholder, and so do more. -/
theorem expression_playAll_deletions {deletions : List Stroke} {entry : Entry}
    (hkeys : ∀ stroke ∈ deletions, stroke.key = .clear .last)
    (hne : entry.expression ≠ []) (hlength : entry.expression.length ≤ deletions.length) :
    (entry.playAll deletions).expression = placeholder := by
  induction deletions generalizing entry with
  | nil => exact absurd (List.length_eq_zero_iff.1 (Nat.le_zero.1 hlength)) hne
  | cons stroke deletions ih =>
    obtain ⟨hstroke, hrest⟩ := List.forall_mem_cons.1 hkeys
    have hscreen : (entry.play stroke).expression = afterDeletion entry.expression := by
      rw [expression_play, hstroke]
      rfl
    rw [List.length_cons] at hlength
    rw [playAll_cons]
    rcases afterDeletion_cases entry.expression with hplaceholder | hshorter
    · exact expression_playAll_placeholder hrest (hscreen.trans hplaceholder)
    · refine ih hrest ?_ ?_
      · rw [hscreen]
        exact afterDeletion_ne_nil _
      · rw [hscreen]
        omega

end Entry

/-- The screen is never empty, whatever symbols and operations a history holds and however
its keys reach the calculator.  As many deletions as the screen has characters bring the
placeholder back, and more of them keep it. -/
theorem screen_never_empty (strokes : List Stroke) :
    let entry := Entry.new.playAll strokes
    entry.expression ≠ [] ∧
      ∀ deletions : List Stroke, (∀ stroke ∈ deletions, stroke.key = .clear .last) →
        entry.expression.length ≤ deletions.length →
        (entry.playAll deletions).expression = placeholder := by
  intro entry
  have hne : entry.expression ≠ [] := by
    have hnew : Entry.new.expression ≠ [] := List.cons_ne_nil _ _
    exact Entry.playAll_induction (· ≠ []) (fun _ => True)
      (fun _ hleaves => hleaves.ne_nil) (fun _ _ => trivial) hnew
  exact ⟨hne, fun deletions hkeys => Entry.expression_playAll_deletions hkeys hne⟩

/-- The screen with a failure, a letter of another script behind it and an operation without
an identifier shows the placeholder again after as many deletions as it has characters and
one more. -/
theorem screen_never_empty_after_failure :
    let strokes : List Stroke := [⟨.symbol "×".toList, false⟩, ⟨.operation .factorial, true⟩,
      ⟨.symbol [], true⟩, ⟨.symbol "é".toList, false⟩, ⟨.operation (.other []), true⟩]
    let deletions : List Stroke := [⟨.clear .last, false⟩, ⟨.clear .last, true⟩,
      ⟨.clear .last, true⟩, ⟨.clear .last, false⟩, ⟨.clear .last, true⟩,
      ⟨.clear .last, true⟩, ⟨.clear .last, false⟩, ⟨.clear .last, true⟩]
    let entry := Entry.new.playAll strokes
    entry.expression = "Erroré(".toList ∧ entry.expression ≠ [] ∧
      (entry.playAll deletions).expression = placeholder := by
  intro strokes deletions entry
  have hscreen : entry.expression = "Erroré(".toList := by decide +kernel
  obtain ⟨hne, hdeletions⟩ := screen_never_empty strokes
  exact ⟨hscreen, hne, hdeletions deletions (by decide) (by rw [hscreen]; decide)⟩

end PocketCalculator
