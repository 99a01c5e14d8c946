import PocketCalculator.Proofs.Histories
import PocketCalculator.Proofs.ScreenShape
import PocketCalculator.Proofs.Typing
import PocketCalculator.Window.Keyboard
import PocketCalculator.Window.Keypad

/-!
# Idle zeros

A zero at the front of the screen is idle if something other than a dot or a closing
parenthesis follows it.  The keys that the keypad and the keyboard can produce never put
one there: the placeholder gives way to what cannot follow it, no result begins with one,
and what is deleted or replaced at the end leaves the front as it is.

Main definitions:

- {lit}`Key.IsProduced` holds of the keys that the keypad and the keyboard can produce.
- {lit}`NoIdleZero` holds of the texts without an idle zero at the front.

Main results:

- Theorem {lit}`Key.isProduced_iff` lists the keys.
- Theorem {lit}`Leaves.noIdleZero`: these keys put no idle zero at the front.
- Theorem {lit}`leading_zero_stands_alone`: what follows a zero at the front.
-/

namespace PocketCalculator

/-! ## The keys of the window -/

/-- Holds of the keys that can be produced: those of the buttons in either mode, those of
typed characters, and those of the control keys. -/
def Key.IsProduced (key : Key) : Prop :=
  (∃ inverse, key ∈ (Keypad.buttons inverse).map Button.key) ∨
    (∃ c, Keyboard.key? c = some key) ∨ key ∈ [.equals, .clear .last, .clear .all]

/-- The scientific operations of the keypad. -/
def Keypad.operations : List Operation :=
  [.function .log10, .function .ln, .factorial, .function .sqrt, .reciprocal, .function .sin,
    .function .cos, .function .tan]

/-- The keys by what they do: typing a digit, a mark of the keypad or a percent sign,
carrying out an operation of the keypad, switching the mode, calculating and clearing. -/
def Key.isListed : Key → Bool
  | .symbol [c] => Typing.isKeypadCharacter c || c == '%'
  | .symbol _ => false
  | .operation op => op ∈ Keypad.operations
  | .invert => true
  | .equals => true
  | .clear _ => true

/-- The keys that can be produced. -/
theorem Key.isProduced_iff {key : Key} : key.IsProduced ↔ key.isListed = true := by
  constructor
  · rintro (⟨inverse, hbutton⟩ | ⟨c, htyped⟩ | hcontrol)
    · have hall : ((Keypad.buttons inverse).map Button.key).all isListed = true := by
        cases inverse <;> decide
      exact List.all_eq_true.1 hall key hbutton
    · unfold Keyboard.key? at htyped
      split at htyped
      · next hitself =>
        obtain rfl := Option.some.inj htyped
        have hmarks : ".+-()^%".toList.all (isListed <| .symbol [·]) = true := by decide
        rw [Keyboard.typesItself, Bool.or_eq_true, decide_eq_true_eq] at hitself
        rcases hitself with hdigit | hmark
        · simp [isListed, Typing.isKeypadCharacter, hdigit]
        · exact List.all_eq_true.1 hmarks c hmark
      split at htyped
      · exact Option.some.inj htyped ▸ by decide
      split at htyped
      · exact Option.some.inj htyped ▸ by decide
      split at htyped
      · exact Option.some.inj htyped ▸ by decide
      split at htyped
      · exact Option.some.inj htyped ▸ by decide
      · exact absurd htyped (by simp)
    · have hall : [Key.equals, .clear .last, .clear .all].all isListed = true := by decide
      exact List.all_eq_true.1 hall key hcontrol
  · intro hlisted
    cases key with
    | symbol text =>
      obtain ⟨c, rfl⟩ : ∃ c, text = [c] := by
        unfold isListed at hlisted
        split at hlisted <;> simp_all
      refine .inr (.inl ⟨c, ?_⟩)
      rcases Bool.or_eq_true_iff.1 hlisted with hkeypad | hpercent
      · refine Typing.keypad_induction (P := fun c => Keyboard.key? c = some (.symbol [c])) ?_
          (by decide) hkeypad
        intro c hdigit
        rw [Keyboard.key?, Keyboard.typesItself, hdigit]
        rfl
      · rw [eq_of_beq hpercent]
        rfl
    | operation op =>
      have hall : ∀ op ∈ Keypad.operations,
          Key.operation op ∈ (Keypad.buttons false).map Button.key := by decide
      exact .inl ⟨false, hall op (of_decide_eq_true hlisted)⟩
    | invert => exact .inl ⟨false, by decide⟩
    | equals => exact .inr (.inr (by decide))
    | clear clearing => cases clearing <;> exact .inr (.inr (by decide))

/-! ## Texts without an idle zero -/

/-- Holds of texts in which only a dot or a closing parenthesis follows a zero at the
front. -/
def NoIdleZero (text : Text) : Prop :=
  ∀ c more, text = '0' :: c :: more → c = '.' ∨ c = ')'

section Texts

variable {text more : Text}

/-- A text that begins with no zero has no idle one. -/
theorem noIdleZero_of_head? (h : text.head? ≠ some '0') : NoIdleZero text := by
  rintro c more rfl
  exact absurd rfl h

/-- A single character is no idle zero. -/
theorem noIdleZero_singleton (c : Char) : NoIdleZero [c] := by
  intro d more heq
  exact absurd (List.cons.inj heq).2 (List.cons_ne_nil d more).symm

/-- The front of a text without an idle zero has none. -/
theorem NoIdleZero.of_append (h : NoIdleZero (text ++ more)) : NoIdleZero text := by
  rintro c rest rfl
  exact h c (rest ++ more) rfl

/-- Behind a text other than the placeholder no zero becomes idle. -/
theorem NoIdleZero.append (h : NoIdleZero text) (hne : text ≠ placeholder)
    (hmore : NoIdleZero more) : NoIdleZero (text ++ more) := by
  cases text with
  | nil => exact hmore
  | cons first rest =>
    cases rest with
    | nil =>
      apply noIdleZero_of_head?
      intro hzero
      exact hne (congrArg ([·]) (Option.some.inj hzero))
    | cons second rest =>
      rintro c _ heq
      obtain ⟨rfl, hrest⟩ := List.cons.inj heq
      obtain ⟨rfl, -⟩ := List.cons.inj hrest
      exact h second rest rfl

end Texts

/-! ## What the keys leave -/

/-- A sign and a whole number, alone or in front of a dot, have no idle zero. -/
theorem Display.IsWhole.noIdleZero {text decimals : Text} (h : IsWhole text)
    (negative : Bool) (hdecimals : ∀ c, decimals.head? = some c → c = '.') :
    NoIdleZero (sign negative ++ (text ++ decimals)) := by
  cases negative with
  | true => exact noIdleZero_of_head? (by simp)
  | false =>
    rw [sign_false, List.nil_append]
    intro c more heq
    left
    by_cases hzero : text = ['0']
    · subst hzero
      obtain rfl : decimals = c :: more := (List.cons.inj heq).2
      exact hdecimals c rfl
    · exfalso
      obtain ⟨first, rest, rfl⟩ := List.exists_cons_of_ne_nil h.nonempty
      exact hzero (h.leading (congrArg some (List.cons.inj heq).1))

/-- No result begins with an idle zero. -/
theorem Display.noIdleZero_ofFloat (x : Float) : NoIdleZero (ofFloat x) := by
  cases hx : Exact.ofFloat x with
  | infinite negative =>
    rw [ofFloat_of_not_finite (by rw [hx]; rfl)]
    exact noIdleZero_of_head? (by decide)
  | nan =>
    rw [ofFloat_of_not_finite (by rw [hx]; rfl)]
    exact noIdleZero_of_head? (by decide)
  | finite negative units =>
    rcases isPlain_or_isScientific hx with hplain | ⟨exponent, hscientific⟩
    · generalize ofFloat x = text at hplain
      cases hplain with
      | @whole negative text h zero =>
        have hwhole : NoIdleZero (sign negative ++ (text ++ [])) :=
          h.noIdleZero negative (by simp)
        rwa [List.append_nil] at hwhole
      | fraction negative h h' => exact h.noIdleZero negative (by simp)
    · generalize ofFloat x = text at hscientific
      obtain ⟨negative, digit, nonzero, length, digits, power⟩ := hscientific
      apply noIdleZero_of_head?
      cases negative with
      | true => simp
      | false => simpa using nonzero

/-- A percentage puts no idle zero at the front: what stays in front of the last number
ends in neither a digit nor a dot, so it is not the placeholder. -/
theorem noIdleZero_percent {text : Text} (h : NoIdleZero text) : NoIdleZero (percent text) := by
  rcases percent_cases text with ⟨before, run, tail, hlast, -, hpercent⟩ | ⟨hnone, hpercent⟩
  · have hbefore : before ≠ placeholder := by
      rintro rfl
      exact absurd (hlast.maximal '0' rfl) (by decide)
    have hparts := hlast.parts
    rw [List.append_assoc] at hparts
    rw [hpercent]
    exact (hparts ▸ h).of_append.append hbefore (Display.noIdleZero_ofFloat _)
  · rw [hpercent]
    refine h.append ?_ (noIdleZero_singleton '%')
    rintro rfl
    exact hnone [] ['0'] [] (.of_splitAtLastRun (by decide) (by decide))
      ⟨⟨'0', by decide⟩, by decide⟩

/-- No symbol of the window puts an idle zero at the front. -/
theorem noIdleZero_afterSymbol {text : Text} {c : Char}
    (hc : (Typing.isKeypadCharacter c || c == '%') = true) (h : NoIdleZero text) :
    NoIdleZero (afterSymbol text [c]) := by
  by_cases hpercent : c = '%'
  · subst hpercent
    exact noIdleZero_percent h
  have hkeypad : Typing.isKeypadCharacter c = true := by simpa [hpercent] using hc
  by_cases hplaceholder : text = placeholder
  · rw [hplaceholder, Typing.afterSymbol_placeholder hkeypad]
    split
    · next hjoins =>
      rintro d more heq
      obtain ⟨rfl, -⟩ : c = d ∧ [] = more := by simpa using heq
      exact hjoins
    · exact noIdleZero_singleton c
  · rw [afterSymbol_of_ne_placeholder hplaceholder (by simpa using hpercent)]
    exact h.append hplaceholder (noIdleZero_singleton c)

/-- No operation of the keypad puts an idle zero at the front, in neither mode. -/
theorem noIdleZero_afterInsertion {text : Text} {operation effective : Operation}
    (hoperation : operation ∈ Keypad.operations)
    (heffective : effective = operation ∨ effective = operation.inverted)
    (h : NoIdleZero text) : NoIdleZero (afterInsertion text effective.opening) := by
  have hall : ∀ operation ∈ Keypad.operations, operation.opening.head? ≠ some '0' ∧
      operation.inverted.opening.head? ≠ some '0' := by decide
  have hopening : NoIdleZero effective.opening := by
    apply noIdleZero_of_head?
    rcases heffective with rfl | rfl
    · exact (hall _ hoperation).1
    · exact (hall _ hoperation).2
  unfold afterInsertion
  split
  · exact hopening
  · next hne => exact h.append hne hopening

/-- A deletion puts no idle zero at the front. -/
theorem noIdleZero_afterDeletion {text : Text} (h : NoIdleZero text) :
    NoIdleZero (Entry.afterDeletion text) := by
  unfold Entry.afterDeletion
  split
  · exact noIdleZero_singleton '0'
  · next hlong =>
    have hne : text ≠ [] := by
      rintro rfl
      exact hlong (.inr (Nat.zero_le 1))
    rw [← List.dropLast_concat_getLast hne] at h
    exact h.of_append

/-- The keys that can be produced put no idle zero at the front. -/
theorem Leaves.noIdleZero {before after : Text} {key : Key} (hkey : key.isListed = true)
    (hleaves : Leaves before key after) (h : NoIdleZero before) : NoIdleZero after := by
  cases hleaves with
  | typed symbol =>
    obtain ⟨c, rfl⟩ : ∃ c, symbol = [c] := by
      unfold Key.isListed at hkey
      split at hkey <;> simp_all
    exact noIdleZero_afterSymbol hkey h
  | opened operation heffective =>
    exact noIdleZero_afterInsertion (of_decide_eq_true hkey) heffective h
  | result _ x => exact Display.noIdleZero_ofFloat x
  | failure _ => exact noIdleZero_of_head? (by decide)
  | idle => exact h
  | inverted => exact h
  | cleared => exact noIdleZero_singleton '0'
  | deleted => exact noIdleZero_afterDeletion h

/-- After any keys that the keypad and the keyboard can produce, a zero at the front of the
screen is all that the screen shows, or a dot or a closing parenthesis follows it.  So no
digit, operator, opening parenthesis or name ever stands directly behind it. -/
theorem leading_zero_stands_alone {keys : List Key} (hkeys : ∀ key ∈ keys, key.IsProduced) :
    let screen := (Entry.new.pressAll keys).expression
    (screen.head? = some '0' →
        screen = placeholder ∨ screen[1]? = some '.' ∨ screen[1]? = some ')') ∧
      ∀ c, screen.head? = some '0' → screen[1]? = some c →
        isDigit c = false ∧ Typing.isOperator c = false ∧ c ≠ '(' ∧ isSmallLetter c = false := by
  intro screen
  have hstrokes : ∀ stroke ∈ keys.map fun key => Stroke.mk key false,
      stroke.key.isListed = true := by
    intro stroke hstroke
    obtain ⟨key, hkey, rfl⟩ := List.mem_map.1 hstroke
    exact Key.isProduced_iff.1 (hkeys key hkey)
  have hscreen : NoIdleZero screen := by
    have hnew : NoIdleZero Entry.new.expression := noIdleZero_singleton '0'
    have hplayed := Entry.playAll_induction NoIdleZero (·.isListed = true)
      (fun hkey hleaves => hleaves.noIdleZero hkey) hstrokes hnew
    rwa [← Entry.pressAll_eq_playAll] at hplayed
  clear_value screen
  rcases screen with - | ⟨first, - | ⟨second, more⟩⟩
  · exact ⟨by simp, by simp⟩
  · exact ⟨by simp [placeholder], by simp⟩
  · refine ⟨fun hzero => ?_, fun c hzero hc => ?_⟩
    · obtain rfl : first = '0' := Option.some.inj hzero
      rcases hscreen second more rfl with rfl | rfl <;> simp
    · obtain rfl : first = '0' := Option.some.inj hzero
      obtain rfl : second = c := Option.some.inj hc
      rcases hscreen second more rfl with rfl | rfl <;> decide

/-- Behind a zero and a closing parenthesis a percentage, an opened function and a deletion
leave the front as it is. -/
theorem leading_zero_stands_alone_percentage :
    let keys : List Key := [.invert, .symbol [')'], .symbol ['5'], .symbol ['%'],
      .operation (.function .sin), .clear .last]
    let screen := (Entry.new.pressAll keys).expression
    (∀ key ∈ keys, key.IsProduced) ∧ screen = "0)0.05asin".toList ∧
      (screen = placeholder ∨ screen[1]? = some '.' ∨ screen[1]? = some ')') := by
  intro keys screen
  have hkeys : ∀ key ∈ keys, key.IsProduced := by
    intro key hkey
    have hlisted : ∀ key ∈ keys, key.isListed = true := by decide
    exact Key.isProduced_iff.2 (hlisted key hkey)
  have hscreen : screen = "0)0.05asin".toList := by decide +kernel
  have hfront : screen.head? = some '0' := by
    rw [hscreen]
    rfl
  exact ⟨hkeys, hscreen, (leading_zero_stands_alone hkeys).1 hfront⟩

end PocketCalculator
