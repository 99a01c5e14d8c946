import PocketCalculator.Entry.State

/-!
# What a key computes

A key reads the screen and the mode.  From these it computes a new screen or a cause of
failure, and a new mode.  It does not read what was remembered of earlier failures, so the
memory can be told from the screens alone: it holds the failure of the key, if the key
fails, and else what it held before.

Two runs of the same keys are compared here.  One forgets the last failure before each key
and the other never does.  They show the same screens in the same modes, and what the
second one remembers is the last failure that the first one has shown.

Main definitions:

- {lit}`Key.result` is the screen that a key leaves, or the cause of its failure.
- {lit}`Key.modeAfter` is the mode that a key leaves.
- {lit}`Entry.applyAll` carries out keys without forgetting anything.

Main results:

- Theorem {lit}`Entry.apply_eq`: the effect of a key is its result in its mode.
- Theorem {lit}`Entry.apply_eq_press`: a key that takes effect directly remembers what it
  would have forgotten.
- Theorem {lit}`Entry.applyAll_take_eq`: the same for a run.
- Theorem {lit}`direct_keys_remember`: the two runs side by side.
-/

namespace PocketCalculator

/-! ## Results of keys -/

/-- What a function makes of a screen: its value where the screen is a number, and else an
opened operation. -/
def Operation.appliedOrOpened (operation : Operation) (compute : Float → Except Cause Float)
    (screen : Text) : Except Cause Text :=
  match immediate? operation screen with
  | some x => outcome (compute x)
  | none => .ok (afterInsertion screen operation.opening)

/-- What an operation makes of a screen. -/
def Operation.result (screen : Text) : Operation → Except Cause Text
  | .factorial => factorialOf screen
  | .reciprocal => appliedOrOpened .reciprocal PocketCalculator.reciprocal screen
  | .function f => appliedOrOpened (.function f) f.apply screen
  | .other identifier => .ok (afterInsertion screen (other identifier).opening)

namespace Key

/-- What a key makes of a screen in a mode. -/
def result (inverse : Bool) (screen : Text) : Key → Except Cause Text
  | .symbol text => .ok (afterSymbol screen text)
  | .operation op => (if inverse then op.inverted else op).result screen
  | .invert => .ok screen
  | .equals => if isIdle screen then .ok screen else valueOf screen
  | .clear .all => .ok placeholder
  | .clear .last => .ok (Entry.afterDeletion screen)

/-- The mode after a key. -/
def modeAfter (inverse : Bool) : Key → Bool
  | .symbol _ => inverse
  | .operation _ => inverse
  | .invert => !inverse
  | .equals => inverse
  | .clear .all => false
  | .clear .last => inverse

end Key

namespace Entry

/-- Switches to a mode. -/
def inMode (entry : Entry) (inverse : Bool) : Entry := { entry with inverse := inverse }

@[simp] theorem expression_inMode (entry : Entry) (inverse : Bool) :
    (entry.inMode inverse).expression = entry.expression := rfl

@[simp] theorem inverse_inMode (entry : Entry) (inverse : Bool) :
    (entry.inMode inverse).inverse = inverse := rfl

@[simp] theorem lastCause_inMode (entry : Entry) (inverse : Bool) :
    (entry.inMode inverse).lastCause = entry.lastCause := rfl

/-- A calculation keeps the mode. -/
theorem inMode_settle (entry : Entry) (calculation : Except Cause Text) :
    (entry.settle calculation).inMode entry.inverse = entry.settle calculation := by
  cases calculation <;> rfl

/-- A function that is applied or opened leaves its result. -/
theorem applyOrOpen_eq (entry : Entry) (operation : Operation)
    (compute : Float → Except Cause Float) :
    entry.applyOrOpen operation compute =
      entry.settle (operation.appliedOrOpened compute entry.expression) := by
  rw [applyOrOpen, Operation.appliedOrOpened]
  cases immediate? operation entry.expression <;> rfl

/-- An operation leaves the result of the one that it stands for in the present mode. -/
theorem operate_eq (entry : Entry) (operation : Operation) :
    entry.operate operation =
      entry.settle ((entry.effective operation).result entry.expression) := by
  rw [operate]
  cases entry.effective operation with
  | factorial => rfl
  | reciprocal => exact entry.applyOrOpen_eq _ _
  | function f => exact entry.applyOrOpen_eq _ _
  | other identifier => rfl

/-- The effect of a key is its result, in the mode that it leaves. -/
theorem apply_eq (entry : Entry) (key : Key) :
    entry.apply key =
      (entry.settle (key.result entry.inverse entry.expression)).inMode
        (key.modeAfter entry.inverse) := by
  cases key with
  | symbol text => rfl
  | operation op =>
    rw [apply, operate_eq]
    exact (entry.inMode_settle _).symm
  | invert => rfl
  | equals =>
    rw [apply, equals, Key.result]
    split
    · rfl
    · exact (entry.inMode_settle _).symm
  | clear clearing => cases clearing <;> rfl

/-- Pressing a key leaves its result, with no failure remembered but its own. -/
theorem press_eq (entry : Entry) (key : Key) :
    entry.press key =
      (entry.forget.settle (key.result entry.inverse entry.expression)).inMode
        (key.modeAfter entry.inverse) :=
  entry.forget.apply_eq key

/-! ## The memory of the last failure -/

/-- Remembers an earlier failure where there is no later one. -/
def remembering (entry : Entry) (earlier : Option Cause) : Entry :=
  { entry with lastCause := entry.lastCause.or earlier }

@[simp] theorem expression_remembering (entry : Entry) (earlier : Option Cause) :
    (entry.remembering earlier).expression = entry.expression := rfl

@[simp] theorem inverse_remembering (entry : Entry) (earlier : Option Cause) :
    (entry.remembering earlier).inverse = entry.inverse := rfl

@[simp] theorem lastCause_remembering (entry : Entry) (earlier : Option Cause) :
    (entry.remembering earlier).lastCause = entry.lastCause.or earlier := rfl

/-- A key forgets what is remembered before it. -/
@[simp] theorem press_remembering (entry : Entry) (earlier : Option Cause) (key : Key) :
    (entry.remembering earlier).press key = entry.press key := rfl

/-- A key that takes effect directly remembers what it would have forgotten, unless it
fails itself. -/
theorem apply_eq_press (entry : Entry) (key : Key) :
    entry.apply key = (entry.press key).remembering entry.lastCause := by
  rw [apply_eq, press_eq]
  cases key.result entry.inverse entry.expression <;> rfl

/-- Carries out keys one after the other, and forgets nothing in between. -/
def applyAll (entry : Entry) (keys : List Key) : Entry := keys.foldl apply entry

@[simp] theorem applyAll_nil (entry : Entry) : entry.applyAll [] = entry := rfl

@[simp] theorem applyAll_cons (entry : Entry) (key : Key) (keys : List Key) :
    entry.applyAll (key :: keys) = (entry.apply key).applyAll keys := rfl

theorem applyAll_append (entry : Entry) (keys more : List Key) :
    entry.applyAll (keys ++ more) = (entry.applyAll keys).applyAll more :=
  List.foldl_append

/-- The most recent of some findings is the present one, or the most recent one before. -/
theorem findSome?_range_succ {α : Type} (shown : Nat → Option α) (i : Nat) :
    (List.range (i + 1)).reverse.findSome? shown =
      (shown i).or ((List.range i).reverse.findSome? shown) := by
  rw [List.range_succ, List.reverse_append, List.findSome?_append]
  simp

/-- After keys that take effect directly all is as if they had been pressed, but for the
memory of the last failure that pressing them has shown before. -/
theorem applyAll_take_eq (entry : Entry) (keys : List Key) (i : Nat) :
    entry.applyAll (keys.take i) =
      (entry.pressAll (keys.take i)).remembering
        ((List.range i).reverse.findSome? fun j =>
          (entry.pressAll (keys.take j)).lastCause) := by
  induction i with
  | zero => simp [remembering]
  | succ i ih =>
    rw [findSome?_range_succ, List.take_add_one, applyAll_append, pressAll_append, ih]
    generalize (List.range i).reverse.findSome? _ = earlier
    generalize entry.pressAll (keys.take i) = pressed
    cases keys[i]? with
    | none =>
      simp [remembering, ← Option.or_assoc]
    | some key =>
      rw [Option.toList_some, applyAll_cons, applyAll_nil, pressAll_cons, pressAll_nil,
        apply_eq_press, press_remembering, lastCause_remembering]

end Entry

/-- Keys that are pressed and keys that take effect directly show the same screens in the
same modes.  What is remembered in the second case is the last cause that has been shown in
the first one, if there is any. -/
theorem direct_keys_remember (keys : List Key) (i : Nat) :
    let pressed (i : Nat) : Entry := Entry.new.pressAll (keys.take i)
    let direct : Entry := Entry.new.applyAll (keys.take i)
    direct.expression = (pressed i).expression ∧ direct.inverse = (pressed i).inverse ∧
      direct.lastCause =
        (List.range (i + 1)).reverse.findSome? fun j => (pressed j).lastCause := by
  intro pressed direct
  have hdirect : direct = (pressed i).remembering
      ((List.range i).reverse.findSome? fun j => (pressed j).lastCause) :=
    Entry.new.applyAll_take_eq keys i
  refine ⟨?_, ?_, ?_⟩
  · rw [hdirect, Entry.expression_remembering]
  · rw [hdirect, Entry.inverse_remembering]
  · rw [hdirect, Entry.lastCause_remembering, Entry.findSome?_range_succ]

/-- Clearing everything makes nothing forgotten unless it is pressed. -/
example :
    let keys : List Key := [.symbol ['-'], .operation .factorial, .clear .all]
    (Entry.new.pressAll keys).lastCause = none ∧
      (Entry.new.applyAll keys).lastCause = some (.notANumber ['-']) := by
  decide +kernel

end PocketCalculator
