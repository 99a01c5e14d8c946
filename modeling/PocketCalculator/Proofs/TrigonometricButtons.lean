import PocketCalculator.Proofs.ImmediateNumbers
import PocketCalculator.Proofs.KeyResults
import PocketCalculator.Window.Keypad

/-!
# What the trigonometric buttons say and do

The labels of the three trigonometric buttons follow the inverse mode, and so does what the
buttons carry out, but not by the same means: the keypad changes the label and never the key,
and the calculator changes the operation of the key.  The two meet in a function: the one
whose name is the label is the one that is carried out.

Main definitions:

- {lit}`Keypad.trigonometricFunctions` are the functions of the three buttons in a mode.

Main results:

- Theorem {lit}`Keypad.key?_name`: the key of a label and the function with this name.
- Theorem {lit}`click_trigonometric`: what a click on a trigonometric button does.
-/

namespace PocketCalculator

/-! ## Labels and functions -/

namespace Keypad

/-- The functions of the trigonometric buttons, from left to right. -/
def trigonometricFunctions (inverse : Bool) : List ScalarFunction :=
  if inverse then [.asin, .acos, .atan] else [.sin, .cos, .tan]

variable {inverse : Bool} {f : ScalarFunction}

/-- The trigonometric buttons stand beside the switch of the mode and show the names of their
functions. -/
theorem labels_trigonometric (inverse : Bool) :
    (rows inverse)[1]?.map (·.map Button.label) =
      some ("Inv".toList :: (trigonometricFunctions inverse).map ScalarFunction.name) := by
  cases inverse <;> rfl

/-- The button with the name of a trigonometric function presses the key of an operation
that stands for this function in the mode. -/
theorem key?_name (hf : f ∈ trigonometricFunctions inverse) :
    ∃ op : Operation, key? inverse f.name = some (.operation op) ∧
      (if inverse then op.inverted else op) = .function f := by
  cases inverse with
  | false =>
    rw [trigonometricFunctions, if_neg Bool.false_ne_true] at hf
    refine ⟨.function f, ?_, rfl⟩
    revert f
    decide
  | true =>
    have hall : ∀ f ∈ trigonometricFunctions true,
        ∃ g ∈ trigonometricFunctions false,
          key? true f.name = some (.operation (.function g)) ∧
            (Operation.function g).inverted = .function f := by decide
    obtain ⟨g, -, hkey, hinverted⟩ := hall f hf
    exact ⟨.function g, hkey, hinverted⟩

/-- A trigonometric function has a value everywhere, if not always a finite one. -/
theorem exists_apply (hf : f ∈ trigonometricFunctions inverse) (v : Float) :
    ∃ x, f.apply v = .ok x := by
  have hvalue : f ∈ [.asin, .acos, .atan, .sin, .cos, .tan] := by
    cases inverse with
    | false => exact List.mem_append_right [.asin, .acos, .atan] hf
    | true => exact List.mem_append_left [.sin, .cos, .tan] hf
  cases f with
  | sqrt => exact absurd hvalue (by decide)
  | log10 => exact absurd hvalue (by decide)
  | ln => exact absurd hvalue (by decide)
  | sin => exact ⟨_, rfl⟩
  | cos => exact ⟨_, rfl⟩
  | tan => exact ⟨_, rfl⟩
  | asin => exact ⟨_, rfl⟩
  | acos => exact ⟨_, rfl⟩
  | atan => exact ⟨_, rfl⟩

end Keypad

/-! ## Clicks -/

/-- A click on the label of a trigonometric function carries out the function. -/
theorem Entry.click?_name (entry : Entry) {f : ScalarFunction}
    (hf : f ∈ Keypad.trigonometricFunctions entry.inverse) :
    entry.click? f.name = some (entry.forget.settle
      ((Operation.function f).appliedOrOpened f.apply entry.expression)) := by
  obtain ⟨op, hkey, hop⟩ := Keypad.key?_name hf
  have hresult : (Key.operation op).result entry.inverse entry.expression =
      (Operation.function f).appliedOrOpened f.apply entry.expression := by
    rw [Key.result, hop, Operation.result]
  rw [click?, hkey, Option.map_some, press_eq, hresult]
  exact congrArg some (entry.forget.inMode_settle _)

/-- A trigonometric button does what its label says.  In every state the three buttons beside
the switch of the mode show the names of three functions.  A click on one of them leaves the
mode as it is.  If the screen is a number and not the placeholder, it applies the function of
this name to the number: a finite value is shown, and one that is not finite is a failure.
Otherwise it opens the function, in place of the placeholder or behind the expression. -/
theorem click_trigonometric (entry : Entry) :
    (Keypad.rows entry.inverse)[1]?.map (·.map Button.label) =
        some ("Inv".toList ::
          (Keypad.trigonometricFunctions entry.inverse).map ScalarFunction.name) ∧
      ∀ f ∈ Keypad.trigonometricFunctions entry.inverse,
        ScalarFunction.ofName? f.name = some f ∧
        ∃ after, entry.click? f.name = some after ∧ after.inverse = entry.inverse ∧
          (∀ v, entry.expression ≠ placeholder → readNumber? entry.expression = some v →
            ∃ x, f.apply v = .ok x ∧
              ((Exact.ofFloat x).isFinite = true →
                after.expression = Display.ofFloat x ∧ after.lastCause = none) ∧
              ((Exact.ofFloat x).isFinite = false →
                after.expression = Display.errorText ∧ after.lastCause = some .notFinite)) ∧
          (entry.expression = placeholder →
            after.expression = f.name ++ ['('] ∧ after.lastCause = none) ∧
          (entry.expression ≠ placeholder → readNumber? entry.expression = none →
            after.expression = entry.expression ++ f.name ++ ['('] ∧
              after.lastCause = none) := by
  refine ⟨Keypad.labels_trigonometric entry.inverse, fun f hf =>
    ⟨ScalarFunction.ofName?_name f, _, entry.click?_name hf, Entry.inverse_settle _ _,
      fun v hne hv => ?_, fun heq => ?_, fun hne hnone => ?_⟩⟩
  · obtain ⟨x, hx⟩ := Keypad.exists_apply hf v
    have hsettled : (Operation.function f).appliedOrOpened f.apply entry.expression =
        resultText x := by
      rw [Operation.appliedOrOpened, immediate?_of_entered (.inr ⟨f, rfl⟩) hne, hv]
      dsimp only
      rw [hx, outcome]
    rw [hsettled, resultText]
    refine ⟨x, hx, fun hfinite => ?_, fun hinfinite => ?_⟩
    · rw [if_pos hfinite]
      exact ⟨rfl, rfl⟩
    · rw [if_neg (by simp [hinfinite])]
      exact ⟨rfl, rfl⟩
  · have hopened : (Operation.function f).appliedOrOpened f.apply entry.expression =
        .ok (f.name ++ ['(']) := by
      rw [heq]
      rfl
    rw [hopened]
    exact ⟨rfl, rfl⟩
  · have hopened : (Operation.function f).appliedOrOpened f.apply entry.expression =
        .ok (entry.expression ++ f.name ++ ['(']) := by
      rw [Operation.appliedOrOpened, immediate?_of_entered (.inr ⟨f, rfl⟩) hne, hnone,
        afterInsertion, if_neg hne, List.append_assoc]
      rfl
    rw [hopened]
    exact ⟨rfl, rfl⟩

/-- In the inverse mode the last of the buttons opens the inverse tangent behind an operator,
and else the first one applies the sine to a number. -/
theorem click_trigonometric_both_modes :
    let inverted := Entry.new.pressAll [.invert, .symbol "2".toList, .symbol "+".toList]
    let plain := Entry.new.press (.symbol "2".toList)
    (∃ after, inverted.click? "atan".toList = some after ∧
        after.expression = "2+atan(".toList ∧ after.inverse = true) ∧
      ∃ after v x, plain.click? "sin".toList = some after ∧
        readNumber? "2".toList = some v ∧ ScalarFunction.sin.apply v = .ok x ∧
        ((Exact.ofFloat x).isFinite = true → after.expression = Display.ofFloat x) := by
  intro inverted plain
  obtain ⟨-, hinverted⟩ := click_trigonometric inverted
  obtain ⟨-, hplain⟩ := click_trigonometric plain
  obtain ⟨-, opened, hopened, hmode, -, -, hbehind⟩ := hinverted .atan (by decide)
  obtain ⟨-, applied, happlied, -, hnumber, -⟩ := hplain .sin (by decide)
  have hscreen : inverted.expression = "2+".toList := by decide +kernel
  have hscreen' : plain.expression = "2".toList := by decide +kernel
  have htext : opened.expression = "2+atan(".toList := by
    rw [(hbehind (by rw [hscreen]; decide) (by rw [hscreen]; rfl)).1, hscreen]
    rfl
  obtain ⟨v, hv⟩ : ∃ v, readNumber? "2".toList = some v := ⟨_, rfl⟩
  obtain ⟨x, hx, hfinite, -⟩ := hnumber v (by rw [hscreen']; decide) (by rw [hscreen', hv])
  exact ⟨⟨opened, hopened, htext, hmode⟩, applied, v, x, happlied, hv, hx,
    fun hx => (hfinite hx).1⟩

end PocketCalculator
