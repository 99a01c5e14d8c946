import PocketCalculator.Entry.Calculation
import PocketCalculator.Proofs.Numerals

/-!
# Numbers that a function applies to at once

A function is applied at once where the screen is a number, with three exceptions: the
placeholder, a screen with an open parenthesis, and a screen with the identifier of the
operation.  No number is written with a parenthesis or with the identifier of a function or
of the reciprocal, so only the first exception is ever met.

Main definitions:

- {lit}`foreignToNumbers` are characters that no number is written with.

Main results:

- Theorem {lit}`notMem_of_readNumber?`: what no number is written with.
- Theorem {lit}`immediate?_eq`: for a function and for the reciprocal only the placeholder
  has to be excepted.
-/

namespace PocketCalculator

/-! ## Characters of numbers -/

/-- Characters that no number is written with. -/
def foreignToNumbers : List Char := ['(', 's', 'l', 'v']

theorem forall_foreignToNumbers {p : Char → Prop} :
    (∀ c ∈ foreignToNumbers, p c) ↔ p '(' ∧ p 's' ∧ p 'l' ∧ p 'v' := by
  simp [foreignToNumbers]

/-- An exponent is written with digits and signs. -/
theorem Decimal.mem_of_exponentOf? {text : Text} {n : Int} (h : exponentOf? text = some n)
    {c : Char} (hc : c ∈ text) : isDigit c = true ∨ c = '-' ∨ c = '+' := by
  have hdigits {digits : Text} (h : ¬ (digits.isEmpty || !digits.all isDigit) = true) :
      ∀ d ∈ digits, isDigit d = true := by
    simp_all
  unfold exponentOf? at h
  dsimp only at h
  split at h
  · split at h
    · exact absurd h (by simp)
    next hall =>
    rcases List.mem_cons.1 hc with rfl | hc
    · exact .inr (.inl rfl)
    · exact .inl (hdigits hall c hc)
  · split at h
    · exact absurd h (by simp)
    next hall =>
    rcases List.mem_cons.1 hc with rfl | hc
    · exact .inr (.inr rfl)
    · exact .inl (hdigits hall c hc)
  · split at h
    · exact absurd h (by simp)
    next hall => exact .inl (hdigits hall c hc)

/-- A numeral is written with digits, dots, signs and exponent marks. -/
theorem Decimal.mem_of_ofScientific? {text : Text} {d : Decimal}
    (h : ofScientific? text = some d) {c : Char} (hc : c ∈ text) :
    isRunCharacter c = true ∨ isExponentMark c = true ∨ c = '-' ∨ c = '+' := by
  have hplain {plain : Text} {d : Decimal} (hplain : ofPlain? plain = some d) :
      ∀ e ∈ plain, isRunCharacter e = true :=
    (Literal.mk plain d hplain).isProper.2
  have hsplit := List.takeWhile_append_dropWhile (p := (!isExponentMark ·)) (l := text)
  unfold ofScientific? at h
  dsimp only at h
  rw [← hsplit] at hc
  split at h
  · next hrest =>
    rw [hrest, List.append_nil] at hc
    exact .inl (hplain h c hc)
  · next mark power hrest =>
    rw [hrest] at hc
    split at h
    · next hfront hpower =>
      rcases List.mem_append.1 hc with hc | hc
      · exact .inl (hplain hfront c hc)
      rcases List.mem_cons.1 hc with rfl | hc
      · have hmark := List.head?_dropWhile_not (!isExponentMark ·) text
        rw [hrest] at hmark
        exact .inr (.inl (by simpa using hmark))
      · rcases mem_of_exponentOf? hpower hc with hdigit | hsign
        · exact .inl (isRunCharacter_of_isDigit hdigit)
        · exact .inr (.inr hsign)
    · exact absurd h (by simp)

/-- The characters of a magnitude: none is foreign to numbers, and not both letters of the
tangent are among them. -/
theorem notMem_of_readMagnitude? {text : Text} {x : Float} (h : readMagnitude? text = some x) :
    (∀ c ∈ foreignToNumbers, c ∉ text) ∧ ¬ ('t' ∈ text ∧ 'a' ∈ text) := by
  have hlower {c : Char} (hc : c ∈ text) : c.toLower ∈ text.map Char.toLower :=
    List.mem_map_of_mem hc
  unfold readMagnitude? at h
  dsimp only at h
  split at h
  · next hname =>
    have hmem {c : Char} (hc : c ∈ text) :
        c.toLower ∈ "inf".toList ∨ c.toLower ∈ "infinity".toList := by
      rcases hname with hname | hname
      · exact .inl (hname ▸ hlower hc)
      · exact .inr (hname ▸ hlower hc)
    have hforeign : ∀ c ∈ foreignToNumbers,
        ¬ (c.toLower ∈ "inf".toList ∨ c.toLower ∈ "infinity".toList) :=
      forall_foreignToNumbers.2 (by decide)
    exact ⟨fun c hc hmem' => hforeign c hc (hmem hmem'),
      fun hboth => absurd (hmem hboth.2) (by decide)⟩
  split at h
  · next hname =>
    have hforeign : ∀ c ∈ foreignToNumbers, c.toLower ∉ "nan".toList :=
      forall_foreignToNumbers.2 (by decide)
    exact ⟨fun c hc hmem => hforeign c hc (hname ▸ hlower hmem),
      fun hboth => absurd (hname ▸ hlower hboth.1) (by decide)⟩
  · obtain ⟨d, hd, -⟩ := Option.map_eq_some_iff.1 h
    have hnumeral {c : Char} (hc : c ∈ text) := Decimal.mem_of_ofScientific? hd hc
    have hforeign : ∀ c ∈ foreignToNumbers, ¬ (isRunCharacter c = true ∨
        Decimal.isExponentMark c = true ∨ c = '-' ∨ c = '+') :=
      forall_foreignToNumbers.2 (by decide)
    exact ⟨fun c hc hmem => hforeign c hc (hnumeral hmem),
      fun hboth => absurd (hnumeral hboth.1) (by decide)⟩

/-- The same of a number, which may begin with a sign. -/
theorem notMem_of_readNumber? {text : Text} {x : Float} (h : readNumber? text = some x) :
    (∀ c ∈ foreignToNumbers, c ∉ text) ∧ ¬ ('t' ∈ text ∧ 'a' ∈ text) := by
  have hsigned {sign : Char} {magnitude : Text} {y : Float} (hsign : sign = '-' ∨ sign = '+')
      (h : readMagnitude? magnitude = some y) :
      (∀ c ∈ foreignToNumbers, c ∉ sign :: magnitude) ∧
        ¬ ('t' ∈ sign :: magnitude ∧ 'a' ∈ sign :: magnitude) := by
    obtain ⟨hforeign, hboth⟩ := notMem_of_readMagnitude? h
    have htail {c : Char} (hne : c ≠ sign) (hmem : c ∈ sign :: magnitude) : c ∈ magnitude :=
      (List.mem_cons.1 hmem).resolve_left hne
    have hne : ∀ c ∈ foreignToNumbers, c ≠ sign := by
      rcases hsign with rfl | rfl <;> exact forall_foreignToNumbers.2 (by decide)
    have hletters : 't' ≠ sign ∧ 'a' ≠ sign := by
      rcases hsign with rfl | rfl <;> decide
    exact ⟨fun c hc hmem => hforeign c hc (htail (hne c hc) hmem),
      fun hmem => hboth ⟨htail hletters.1 hmem.1, htail hletters.2 hmem.2⟩⟩
  unfold readNumber? at h
  split at h
  · obtain ⟨y, hy, -⟩ := Option.map_eq_some_iff.1 h
    exact hsigned (.inl rfl) hy
  · exact hsigned (.inr rfl) h
  · exact notMem_of_readMagnitude? h

/-! ## Exceptions -/

/-- A screen with the identifier of a function or of the reciprocal is no number. -/
theorem readNumber?_of_identifier {operation : Operation}
    (h : operation = .reciprocal ∨ ∃ f, operation = .function f) {screen : Text}
    (hscreen : operation.identifier <:+: screen) : readNumber? screen = none := by
  have hletters : 's' ∈ operation.identifier ∨ 'l' ∈ operation.identifier ∨
      'v' ∈ operation.identifier ∨ 't' ∈ operation.identifier ∧ 'a' ∈ operation.identifier := by
    rcases h with rfl | ⟨f, rfl⟩
    · decide
    · cases f <;> decide
  rw [Option.eq_none_iff_forall_ne_some]
  intro x hx
  obtain ⟨hforeign, hboth⟩ := notMem_of_readNumber? hx
  rcases hletters with hmem | hmem | hmem | ⟨ht, ha⟩
  · exact hforeign 's' (by decide) (hscreen.subset hmem)
  · exact hforeign 'l' (by decide) (hscreen.subset hmem)
  · exact hforeign 'v' (by decide) (hscreen.subset hmem)
  · exact hboth ⟨hscreen.subset ht, hscreen.subset ha⟩

/-- A function and the reciprocal apply at once to every number but the placeholder. -/
theorem immediate?_eq {operation : Operation}
    (h : operation = .reciprocal ∨ ∃ f, operation = .function f) (screen : Text) :
    immediate? operation screen = if screen = placeholder then none else readNumber? screen := by
  unfold immediate?
  by_cases hplaceholder : screen = placeholder
  · rw [if_pos (.inl hplaceholder), if_pos hplaceholder]
  rw [if_neg hplaceholder]
  split
  · next hopened =>
    rcases hopened with heq | hparenthesis | hidentifier
    · exact absurd heq hplaceholder
    · cases hnumber : readNumber? screen with
      | none => rfl
      | some x => exact absurd hparenthesis ((notMem_of_readNumber? hnumber).1 '(' (by decide))
    · exact (readNumber?_of_identifier h (Text.occursIn_iff.1 hidentifier)).symm
  · rfl

/-- A function and the reciprocal apply at once to a number that has been entered. -/
theorem immediate?_of_entered {operation : Operation}
    (h : operation = .reciprocal ∨ ∃ f, operation = .function f) {screen : Text}
    (hentered : screen ≠ placeholder) : immediate? operation screen = readNumber? screen := by
  rw [immediate?_eq h, if_neg hentered]

end PocketCalculator
