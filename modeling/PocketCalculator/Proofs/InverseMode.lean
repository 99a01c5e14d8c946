import Mathlib.Data.List.Induction
import PocketCalculator.Proofs.Histories
import PocketCalculator.Proofs.KeyResults

/-!
# Who sees the inverse mode

The mode decides between sine and its inverse, and likewise for cosine and tangent.  No
other key looks at it, so two calculators in different modes cannot be told apart by what
they show as long as these three are not pressed.  The other way round, nothing that is
shown or fails changes the mode: it counts its own switches since everything was cleared.

Main definitions:

- {lit}`Key.isTrigonometric` tells the keys that look at the mode.
- {lit}`sinceClearing` are the last keys of a history, none of which clears everything.

Main results:

- Theorem {lit}`Key.result_of_not_trigonometric`: the other keys compute the same in both
  modes.
- Theorem {lit}`Entry.inverse_playAll`: the mode is the parity of the switches.
- Theorem {lit}`inverse_mode_is_hidden`: what can be seen of the mode.
-/

namespace PocketCalculator

/-! ## Keys that look at the mode -/

/-- Whether a key carries out the operation of one of the three identifiers that the inverse
mode changes. -/
def Key.isTrigonometric : Key → Bool
  | .operation op => op.identifier ∈ ["sin".toList, "cos".toList, "tan".toList]
  | .symbol _ => false
  | .invert => false
  | .equals => false
  | .clear _ => false

/-- Under any other identifier an operation is the same in both modes. -/
theorem Operation.inverted_of_not_trigonometric {op : Operation}
    (h : (Key.operation op).isTrigonometric = false) : op.inverted = op := by
  rw [inverted_eq_self_iff]
  refine ⟨?_, ?_, ?_⟩ <;> rintro rfl <;> exact absurd h (by decide)

/-- A key that does not look at the mode computes the same in both. -/
theorem Key.result_of_not_trigonometric {key : Key} (h : key.isTrigonometric = false)
    (inverse inverse' : Bool) (screen : Text) :
    key.result inverse screen = key.result inverse' screen := by
  cases key with
  | operation op =>
    have hboth (inverse : Bool) : (if inverse then op.inverted else op) = op := by
      rw [Operation.inverted_of_not_trigonometric h, ite_self]
    rw [result, result, hboth, hboth]
  | symbol text => rfl
  | invert => rfl
  | equals => rfl
  | clear clearing => cases clearing <;> rfl

/-! ## Two runs -/

namespace Entry

variable {first second : Entry}

/-- After a key that does not look at the mode, two calculators that showed the same show
the same again and remember the same failure. -/
theorem press_same (hscreen : first.expression = second.expression) {key : Key}
    (hkey : key.isTrigonometric = false) :
    (first.press key).expression = (second.press key).expression ∧
      (first.press key).lastCause = (second.press key).lastCause := by
  have hresult : key.result first.inverse first.expression =
      key.result second.inverse second.expression := by
    rw [hscreen]
    exact Key.result_of_not_trigonometric hkey _ _ _
  rw [press_eq, press_eq, hresult]
  simp only [expression_inMode, lastCause_inMode]
  cases key.result second.inverse second.expression with
  | ok text => exact ⟨rfl, rfl⟩
  | error cause => exact ⟨rfl, rfl⟩

/-- Keys that do not look at the mode keep two screens the same. -/
theorem expression_pressAll_same {keys : List Key}
    (hkeys : ∀ key ∈ keys, key.isTrigonometric = false)
    (hscreen : first.expression = second.expression) :
    (first.pressAll keys).expression = (second.pressAll keys).expression := by
  induction keys generalizing first second with
  | nil => exact hscreen
  | cons key keys ih =>
    obtain ⟨hkey, hrest⟩ := List.forall_mem_cons.1 hkeys
    exact ih hrest (press_same hscreen hkey).1

/-- After the last of such keys the same failure is remembered. -/
theorem pressAll_same {keys : List Key} {key : Key}
    (hkeys : ∀ key' ∈ keys ++ [key], key'.isTrigonometric = false)
    (hscreen : first.expression = second.expression) :
    (first.pressAll (keys ++ [key])).expression =
        (second.pressAll (keys ++ [key])).expression ∧
      (first.pressAll (keys ++ [key])).lastCause =
        (second.pressAll (keys ++ [key])).lastCause := by
  rw [pressAll_append, pressAll_append]
  have hbefore := expression_pressAll_same
    (fun key' hmem => hkeys key' (List.mem_append_left [key] hmem)) hscreen
  exact press_same hbefore (hkeys key (by simp))

end Entry

/-! ## The count of switches -/

/-- The keys of a history after the last one that clears everything. -/
def sinceClearing (keys : List Key) : List Key :=
  (keys.reverse.takeWhile (· ≠ .clear .all)).reverse

/-- Clearing everything starts the count again, and any other key is counted in. -/
theorem sinceClearing_concat (keys : List Key) (key : Key) :
    sinceClearing (keys ++ [key]) =
      if key = .clear .all then [] else sinceClearing keys ++ [key] := by
  unfold sinceClearing
  split <;> simp_all

/-- Only a switch and clearing everything change the mode. -/
theorem Key.modeAfter_of_ne {key : Key} (hinvert : key ≠ .invert) (hclear : key ≠ .clear .all)
    (inverse : Bool) : key.modeAfter inverse = inverse := by
  cases key with
  | invert => exact absurd rfl hinvert
  | clear clearing =>
    cases clearing with
    | all => exact absurd rfl hclear
    | last => rfl
  | symbol text => rfl
  | operation op => rfl
  | equals => rfl

namespace Entry

/-- A stroke changes the mode as its key does, however it reaches the calculator. -/
theorem inverse_play (entry : Entry) (stroke : Stroke) :
    (entry.play stroke).inverse = stroke.key.modeAfter entry.inverse := by
  unfold play
  split
  · rw [apply_eq, inverse_inMode]
  · rw [press_eq, inverse_inMode]

/-- One more key changes the parity of the switches as it changes the mode. -/
theorem parity_sinceClearing_concat (keys : List Key) (key : Key) :
    ((sinceClearing (keys ++ [key])).count .invert % 2 == 1) =
      key.modeAfter ((sinceClearing keys).count .invert % 2 == 1) := by
  rw [sinceClearing_concat]
  by_cases hclear : key = .clear .all
  · subst hclear
    rfl
  rw [if_neg hclear, List.count_append]
  generalize (sinceClearing keys).count .invert = switches
  by_cases hinvert : key = .invert
  · subst hinvert
    rcases Nat.mod_two_eq_zero_or_one switches with h | h <;>
      simp [Key.modeAfter, Nat.add_mod, h]
  · rw [Key.modeAfter_of_ne hinvert hclear]
    simp [hinvert]

/-- The mode of a new calculator is the parity of the switches since everything was cleared. -/
theorem inverse_playAll (strokes : List Stroke) :
    (new.playAll strokes).inverse =
      ((sinceClearing (strokes.map Stroke.key)).count .invert % 2 == 1) := by
  induction strokes using List.reverseRecOn with
  | nil => rfl
  | append_singleton strokes stroke ih =>
    rw [playAll_append, playAll_cons, playAll_nil, inverse_play, ih, List.map_append]
    exact (parity_sinceClearing_concat _ stroke.key).symm

end Entry

/-- Only sine, cosine and tangent can see the inverse mode.  Two calculators that show the
same, whatever their modes and memories, show the same and record the same cause after every
key of a sequence in which no key carries out an operation of these identifiers.  And however
its keys reach it, the mode of a new calculator is on exactly after an odd number of switches
since everything was cleared. -/
theorem inverse_mode_is_hidden :
    (∀ (first second : Entry) (keys : List Key), first.expression = second.expression →
        (∀ key ∈ keys, key.isTrigonometric = false) → ∀ i < keys.length,
          let after (entry : Entry) : Entry := entry.pressAll (keys.take (i + 1))
          (after first).expression = (after second).expression ∧
            (after first).lastCause = (after second).lastCause) ∧
      ∀ strokes : List Stroke,
        (Entry.new.playAll strokes).inverse = true ↔
          (sinceClearing (strokes.map Stroke.key)).count .invert % 2 = 1 := by
  constructor
  · intro first second keys hscreen hkeys i hi after
    obtain ⟨key, hkey⟩ : ∃ key, keys.take (i + 1) = keys.take i ++ [key] :=
      ⟨keys[i], List.take_succ_eq_append_getElem hi⟩
    have htaken : ∀ key' ∈ keys.take i ++ [key], key'.isTrigonometric = false :=
      fun key' hmem => hkeys key' (List.mem_of_mem_take (hkey ▸ hmem))
    have hsame := Entry.pressAll_same htaken hscreen
    rwa [← hkey] at hsame
  · intro strokes
    rw [Entry.inverse_playAll, beq_iff_eq]

/-- The root of a negative number fails alike in both modes, whatever was remembered, and
the keys after it show the same again; the mode counts the one switch after clearing. -/
theorem inverse_mode_is_hidden_failing_root :
    let first : Entry := ⟨"4".toList, false, none⟩
    let second : Entry := ⟨"4".toList, true, some .notFinite⟩
    let keys : List Key := [.clear .last, .symbol ['-'], .symbol ['9'], .invert,
      .operation (.function .sqrt), .symbol ['7']]
    let strokes : List Stroke := [⟨.invert, false⟩, ⟨.clear .all, true⟩, ⟨.invert, true⟩,
      ⟨.operation (.function .sin), false⟩, ⟨.equals, false⟩]
    first.expression = second.expression ∧ (∀ key ∈ keys, key.isTrigonometric = false) ∧
      ((first.pressAll (keys.take 5)).expression = Display.errorText ∧
        (second.pressAll (keys.take 5)).expression = Display.errorText ∧
        (first.pressAll (keys.take 5)).lastCause =
          (second.pressAll (keys.take 5)).lastCause) ∧
      (Entry.new.playAll strokes).inverse = true := by
  intro first second keys strokes
  have hkeys : ∀ key ∈ keys, key.isTrigonometric = false := by decide
  have hfailed : (first.pressAll (keys.take 5)).expression = Display.errorText := by
    decide +kernel
  obtain ⟨hexpression, hcause⟩ :=
    inverse_mode_is_hidden.1 first second keys rfl hkeys 4 (by decide)
  exact ⟨rfl, hkeys, ⟨hfailed, hexpression.symm.trans hfailed, hcause⟩,
    (inverse_mode_is_hidden.2 strokes).2 (by decide)⟩

end PocketCalculator
