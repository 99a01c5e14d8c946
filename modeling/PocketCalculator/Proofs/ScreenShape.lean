import PocketCalculator.Proofs.Mantissa
import PocketCalculator.Proofs.PlainText

/-!
# The shape of a screen text

A finite result is a plain decimal or a number in scientific notation, and both fit the
screen.  Scientific notation begins where the shortened decimal text is too long: such a
value is at least {lit}`10 ^ 5`, so its exponent is never negative.

Main definitions:

- {lit}`Display.IsPlain` holds of plain decimals without a needless character.
- {lit}`Display.IsScientific` holds of numbers in scientific notation, with the exponent
  that they show.
- {lit}`Display.scientificBody` is the text of a mantissa and its exponent.

Main results:

- Theorem {lit}`Display.isPlain_plainBody`: the text of a count of last places is a plain
  decimal.
- Theorem {lit}`Display.le_units_of_long`: a plain decimal that is too long belongs to a
  value of at least {lit}`10 ^ 5`, and from {lit}`10 ^ 15` on every one is too long
  (theorem {lit}`Display.long_of_le_units`).
- Theorem {lit}`Display.isScientific_scientificBody`: the text of a mantissa of six digits
  is in scientific notation.
- Theorem {lit}`Display.ofFloat_finite_cases`: the two forms of a finite result.
- Theorem {lit}`Display.ofFloat_shape`: the shape of every screen text.
-/

namespace PocketCalculator.Display

/-! ## Shapes -/

/-- Digits that write a whole number: no zero stands in front of another digit. -/
structure IsWhole (text : Text) : Prop where
  nonempty : text ≠ []
  digits : ∀ c ∈ text, isDigit c = true
  leading : text.head? = some '0' → text = ['0']

/-- Digits that stand behind a dot: at most as many as the screen shows, and the last one
is no zero. -/
structure IsFraction (text : Text) : Prop where
  nonempty : text ≠ []
  short : text.length ≤ places
  digits : ∀ c ∈ text, isDigit c = true
  trailing : text.getLast? ≠ some '0'

/-- The digits of an exponent: two, or three of which the first is no zero. -/
structure IsExponent (text : Text) (exponent : Nat) : Prop where
  digits : ∀ c ∈ text, isDigit c = true
  length : text.length = 2 ∨ text.length = 3 ∧ text.head? ≠ some '0'
  value : Nat.ofDigitChars 10 text 0 = exponent

/-- A plain decimal: a sign only if it is negative, a whole number, and behind a dot only
decimals that are needed.  Zero has no sign. -/
inductive IsPlain : Text → Prop where
  | whole (negative : Bool) {text : Text} (h : IsWhole text)
      (zero : negative = true → text ≠ ['0']) : IsPlain (sign negative ++ text)
  | fraction (negative : Bool) {text decimals : Text} (h : IsWhole text)
      (h' : IsFraction decimals) : IsPlain (sign negative ++ (text ++ '.' :: decimals))

/-- Scientific notation: a sign only if it is negative, one digit that is no zero, a dot
and the other digits of the mantissa, and an exponent with a plus sign. -/
inductive IsScientific : Text → Nat → Prop where
  | intro (negative : Bool) {lead : Char} {decimals power : Text} {exponent : Nat}
      (digit : isDigit lead = true) (nonzero : lead ≠ '0')
      (length : decimals.length = mantissaPlaces) (digits : ∀ c ∈ decimals, isDigit c = true)
      (h : IsExponent power exponent) :
      IsScientific (sign negative ++ (lead :: '.' :: decimals) ++ 'e' :: '+' :: power) exponent

/-! ## Telling the shapes apart -/

/-- Neither a sign nor digits nor a dot are an exponent mark. -/
theorem mark_notMem {negative : Bool} {text : Text}
    (h : ∀ c ∈ text, isDigit c = true ∨ c = '.') : 'e' ∉ sign negative ++ text := by
  intro he
  rcases List.mem_append.1 he with hsign | htext
  · cases negative with
    | false => exact absurd hsign (by simp)
    | true => exact absurd hsign (by simp)
  · exact absurd (h 'e' htext) (by decide)

/-- The digits of a plain decimal and its dot. -/
theorem isDigit_or_dot {text decimals : Text} (h : IsWhole text) (h' : IsFraction decimals) :
    ∀ c ∈ text ++ '.' :: decimals, isDigit c = true ∨ c = '.' := by
  intro c hc
  rcases List.mem_append.1 hc with hc | hc
  · exact .inl (h.digits c hc)
  rcases List.mem_cons.1 hc with rfl | hc
  · exact .inr rfl
  · exact .inl (h'.digits c hc)

/-- A plain decimal has no exponent mark. -/
theorem IsPlain.mark_notMem {text : Text} (h : IsPlain text) : 'e' ∉ text := by
  cases h with
  | whole negative h zero => exact Display.mark_notMem fun c hc => .inl (h.digits c hc)
  | fraction negative h h' => exact Display.mark_notMem (isDigit_or_dot h h')

/-- What stands in scientific notation from the exponent mark on. -/
theorem IsScientific.dropWhile_eq {text : Text} {exponent : Nat} (h : IsScientific text exponent) :
    ∃ power, IsExponent power exponent ∧ text.dropWhile (· != 'e') = 'e' :: '+' :: power := by
  obtain ⟨negative, digit, nonzero, length, digits, hpower⟩ := h
  refine ⟨_, hpower, Text.dropWhile_append_of_boundary ?_ ?_⟩
  · have hfront : 'e' ∉ sign negative ++ (_ :: '.' :: _) := Display.mark_notMem fun c hc => by
      rcases List.mem_cons.1 hc with rfl | hc
      · exact .inl digit
      rcases List.mem_cons.1 hc with rfl | hc
      · exact .inr rfl
      · exact .inl (digits c hc)
    intro c hc
    rw [bne_iff_ne]
    rintro rfl
    exact hfront hc
  · intro c hc
    rw [← Option.some.inj hc]
    rfl

/-- Scientific notation has an exponent mark. -/
theorem IsScientific.mark_mem {text : Text} {exponent : Nat} (h : IsScientific text exponent) :
    'e' ∈ text := by
  obtain ⟨negative, digit, nonzero, length, digits, hpower⟩ := h
  exact List.mem_append_right _ List.mem_cons_self

/-- A text shows one exponent at most. -/
theorem IsScientific.exponent_unique {text : Text} {exponent exponent' : Nat}
    (h : IsScientific text exponent) (h' : IsScientific text exponent') :
    exponent = exponent' := by
  obtain ⟨power, hpower, hdrop⟩ := h.dropWhile_eq
  obtain ⟨power', hpower', hdrop'⟩ := h'.dropWhile_eq
  rw [hdrop] at hdrop'
  obtain rfl : power = power' := by simpa using hdrop'
  rw [← hpower.value, hpower'.value]

/-- Scientific notation fits the screen. -/
theorem IsScientific.length_le {text : Text} {exponent : Nat} (h : IsScientific text exponent) :
    text.length ≤ width := by
  obtain ⟨negative, digit, nonzero, length, digits, hpower⟩ := h
  have hsign : (sign negative).length ≤ 1 := by cases negative <;> decide
  have hplaces : mantissaPlaces = 5 := rfl
  have hwidth : width = 15 := rfl
  have hlength := hpower.length
  simp only [List.length_append, List.length_cons]
  omega

/-- A sign and a digit do not begin like the text of an error. -/
theorem sign_append_ne_errorText (negative : Bool) {text : Text} {c : Char}
    (hfirst : text.head? = some c) (hc : isDigit c = true) :
    sign negative ++ text ≠ errorText := by
  intro herror
  cases negative with
  | true => exact absurd (List.cons.inj herror).1 (by decide)
  | false =>
    rw [sign_false, List.nil_append] at herror
    rw [herror] at hfirst
    rw [← Option.some.inj hfirst] at hc
    exact absurd hc (by decide)

/-- A plain decimal is no error. -/
theorem IsPlain.ne_errorText {text : Text} (h : IsPlain text) : text ≠ errorText := by
  have hfirst {whole : Text} (h : IsWhole whole) :
      ∃ c more, whole = c :: more ∧ isDigit c = true := by
    obtain ⟨c, more, rfl⟩ := List.exists_cons_of_ne_nil h.nonempty
    exact ⟨c, more, rfl, h.digits c List.mem_cons_self⟩
  cases h with
  | whole negative h zero =>
    obtain ⟨c, more, rfl, hc⟩ := hfirst h
    exact sign_append_ne_errorText negative rfl hc
  | fraction negative h h' =>
    obtain ⟨c, more, rfl, hc⟩ := hfirst h
    exact sign_append_ne_errorText negative rfl hc

/-- Scientific notation is no error. -/
theorem IsScientific.ne_errorText {text : Text} {exponent : Nat}
    (h : IsScientific text exponent) : text ≠ errorText := by
  obtain ⟨negative, digit, nonzero, length, digits, hpower⟩ := h
  rw [List.append_assoc]
  exact sign_append_ne_errorText negative rfl digit

/-- Plain decimals do not write a negative zero. -/
theorem IsPlain.ne_minus_zero {text : Text} (h : IsPlain text) : text ≠ "-0".toList := by
  intro hzero
  cases h with
  | whole negative h zero =>
    cases negative with
    | true => exact zero rfl (List.cons.inj hzero).2
    | false =>
      rw [sign_false, List.nil_append] at hzero
      exact absurd (h.digits '-' (hzero ▸ List.mem_cons_self)) (by decide)
  | fraction negative h h' =>
    have hdot : '.' ∈ "-0".toList := hzero ▸ by simp
    exact absurd hdot (by decide)

/-! ## Plain decimals -/

/-- Only zero is written with a zero in front. -/
theorem head?_digits_ne {n : Nat} (h : n ≠ 0) : (digits n).head? ≠ some '0' := by
  induction n using Nat.strong_induction_on with
  | _ n ih =>
    rw [digits, Nat.toDigits_eq_if (by decide)]
    split
    · next hsmall =>
      have hdigit : ∀ d < 10, d ≠ 0 → [Nat.digitChar d].head? ≠ some '0' := by decide
      exact hdigit n hsmall h
    · next hlarge =>
      obtain ⟨c, more, hfront⟩ := List.exists_cons_of_ne_nil (digits_ne_nil (n / 10))
      have hrest := ih (n / 10) (by omega) (by omega)
      rw [hfront] at hrest
      rw [← digits, hfront]
      exact hrest

/-- The digits of a number write a whole number. -/
theorem isWhole_digits (n : Nat) : IsWhole (digits n) where
  nonempty := digits_ne_nil n
  digits c hc := isDigit_of_mem_digits hc
  leading hzero := by
    by_cases h : n = 0
    · rw [h]
      rfl
    · exact absurd hzero (head?_digits_ne h)

/-- The digits that stay of a fraction stand behind a dot. -/
theorem isFraction_fractionDigits {fraction : Nat} (hne : fraction ≠ 0)
    (hlt : fraction < 10 ^ places) : IsFraction (fractionDigits fraction) where
  nonempty := fractionDigits_ne_nil hne
  digits c hc := isDigit_of_mem_fractionDigits hc
  short := by
    obtain ⟨zeros, hpadded, -⟩ := exists_fractionDigits fraction
    have hlength : (paddedDigits places fraction).length = places :=
      length_paddedDigits (by decide) hlt
    rw [hpadded, List.length_append] at hlength
    omega
  trailing hlast := by
    obtain ⟨zeros, -, hstays⟩ := exists_fractionDigits fraction
    exact hstays '0' hlast rfl

/-- A count of last places, with a sign unless it is zero, is written as a plain decimal. -/
theorem isPlain_plainBody (negative : Bool) (count : Nat) :
    IsPlain (sign (negative && count != 0) ++ plainBody count) := by
  rw [plainBody]
  split
  · next hwhole =>
    rw [List.append_nil]
    refine .whole _ (isWhole_digits _) ?_
    intro hsigned hzero
    have hcount : count ≠ 0 := by
      rintro rfl
      simp at hsigned
    have hquotient : count / 10 ^ places ≠ 0 := by
      unfold places at *
      omega
    exact head?_digits_ne hquotient (by rw [hzero]; rfl)
  · next hfraction =>
    exact .fraction _ (isWhole_digits _)
      (isFraction_fractionDigits hfraction (Nat.mod_lt _ (by decide)))

/-- A plain decimal that is too long for the screen belongs to a value of at least
{lit}`10 ^ 5`: shorter whole parts leave room for a sign, a dot and eight decimals. -/
theorem le_units_of_long {signed : Bool} {units : Nat}
    (h : width < (sign signed ++ plainBody (lastPlaces units)).length) :
    10 ^ mantissaPlaces * Exact.one ≤ units := by
  have hsign : (sign signed).length ≤ 1 := by cases signed <;> decide
  have hplaces : places = 8 := rfl
  have hwidth : width = 15 := rfl
  have hcount : 10 ^ 13 < lastPlaces units := by
    generalize lastPlaces units = count at h
    by_contra hsmall
    rw [List.length_append, plainBody, List.length_append] at h
    split at h
    · have hwhole : (digits (count / 10 ^ places)).length ≤ 6 :=
        (Nat.length_toDigits_le_iff (by decide) (by decide)).2 (by rw [hplaces]; omega)
      rw [List.length_nil] at h
      omega
    · next hfraction =>
      have hwhole : (digits (count / 10 ^ places)).length ≤ 5 :=
        (Nat.length_toDigits_le_iff (by decide) (by decide)).2 (by rw [hplaces] at *; omega)
      have hdecimals := (isFraction_fractionDigits hfraction (Nat.mod_lt _ (by decide))).short
      rw [List.length_cons] at h
      omega
  have hround := roundHalfEven_le Exact.one_pos (units * 10 ^ places)
  rw [← lastPlaces, hplaces] at hround
  have hmore := Nat.mul_le_mul_right Exact.one hcount
  rw [Nat.succ_mul] at hmore
  have hfive : 10 ^ mantissaPlaces = 100000 := rfl
  rw [hfive]
  omega

/-- A whole part of sixteen digits leaves no room. -/
theorem long_of_le_units (negative : Bool) {units : Nat} (h : 10 ^ width * Exact.one ≤ units) :
    width < (trimmed negative units).length := by
  have hscaled : 10 ^ (width + places) * Exact.one ≤ units * 10 ^ places := by
    calc 10 ^ (width + places) * Exact.one = 10 ^ width * Exact.one * 10 ^ places := by
          rw [Nat.pow_add, Nat.mul_right_comm]
      _ ≤ units * 10 ^ places := Nat.mul_le_mul_right (10 ^ places) h
  rw [← Nat.le_div_iff_mul_le Exact.one_pos] at hscaled
  have hcount : 10 ^ (width + places) ≤ lastPlaces units :=
    Nat.le_trans hscaled (div_le_roundHalfEven _ _).1
  have hwhole : ¬ (digits (lastPlaces units / 10 ^ places)).length ≤ width := by
    rw [digits, Nat.length_toDigits_le_iff (by decide) (by decide), Nat.not_lt,
      Nat.le_div_iff_mul_le (Nat.pow_pos (by decide)), ← Nat.pow_add]
    exact hcount
  rw [trimmed_eq, plainBody, List.length_append, List.length_append]
  omega

/-! ## Scientific notation -/

/-- A digit by itself. -/
theorem digits_of_lt_ten {n : Nat} (h : n < 10) : digits n = [n.digitChar] :=
  Nat.toDigits_of_lt_base h

/-- An exponent below a thousand has two digits or three. -/
theorem isExponent_paddedDigits {n : Nat} (h : n < 1000) : IsExponent (paddedDigits 2 n) n where
  digits c hc := isDigit_of_mem_paddedDigits hc
  value := ofDigitChars_paddedDigits 2 n
  length := by
    by_cases hsmall : n < 100
    · exact .inl (length_paddedDigits (by decide) hsmall)
    · right
      have hlength : (Display.digits n).length = 2 + 1 := length_digits_eq (by omega) (by omega)
      have hpadding : paddedDigits 2 n = Display.digits n := by
        rw [paddedDigits_eq, hlength]
        rfl
      rw [hpadding]
      exact ⟨hlength, head?_digits_ne (by omega)⟩

/-- The text of a mantissa and an exponent that is not negative, without a sign. -/
def scientificBody (m k : Nat) : Text :=
  digits (m / 10 ^ mantissaPlaces) ++ '.' :: paddedDigits mantissaPlaces (m % 10 ^ mantissaPlaces) ++
    'e' :: '+' :: paddedDigits 2 k

/-- Scientific notation is a sign and the text of the mantissa and its exponent. -/
theorem scientific_eq (negative : Bool) {num den m k : Nat}
    (h : mantissa num den = (m, (k : Int))) :
    scientific negative num den = sign negative ++ scientificBody m k := by
  have hexponent : exponentText (k : Int) = '+' :: paddedDigits 2 k := by
    rw [exponentText, if_neg (by omega), Int.natAbs_natCast]
  rw [scientific, h]
  dsimp only
  rw [hexponent, scientificBody]
  simp only [List.append_assoc]

/-- A mantissa of six digits with an exponent below a thousand has the text of scientific
notation. -/
theorem isScientific_scientificBody (negative : Bool) {m k : Nat}
    (hle : 10 ^ mantissaPlaces ≤ m) (hlt : m < 10 ^ (mantissaPlaces + 1)) (hk : k < 1000) :
    IsScientific (sign negative ++ scientificBody m k) k := by
  have hlead : m / 10 ^ mantissaPlaces < 10 :=
    Nat.div_lt_of_lt_mul (by rwa [← Nat.pow_succ])
  have hpositive : m / 10 ^ mantissaPlaces ≠ 0 :=
    Nat.ne_of_gt (Nat.div_pos hle (Nat.pow_pos (by decide)))
  have hdigits := digits_of_lt_ten hlead
  have hdecimals : (paddedDigits mantissaPlaces (m % 10 ^ mantissaPlaces)).length =
      mantissaPlaces := length_paddedDigits (by decide) (Nat.mod_lt _ (by decide))
  rw [scientificBody, hdigits, ← List.append_assoc]
  refine .intro negative (isDigit_of_mem_digits (hdigits ▸ List.mem_singleton_self _)) ?_
    hdecimals (fun c hc => isDigit_of_mem_paddedDigits hc) (isExponent_paddedDigits hk)
  intro hzero
  exact head?_digits_ne hpositive (by rw [hdigits, hzero]; rfl)

/-- The largest double is 1.7976931… times {lit}`10 ^ 308`. -/
theorem largest_between : 179769 * lastStep 308 Exact.one ≤ Exact.largest ∧
    2 * Exact.beyond ≤ 359539 * lastStep 308 Exact.one := by decide +kernel

/-- The exponent of a double is at most 308. -/
theorem exponent_le {units m k : Nat} (hunits : units < Exact.beyond)
    (hle : 10 ^ mantissaPlaces ≤ m)
    (hnear : 2 * Nat.dist units (m * lastStep k Exact.one) ≤ lastStep k Exact.one) :
    k ≤ 308 := by
  by_contra hlarge
  have hbeyond := largest_between.2
  have hnext : lastStep 309 Exact.one = 10 * lastStep 308 Exact.one := lastStep_succ (by decide) _
  have hmore : lastStep 309 Exact.one ≤ lastStep k Exact.one :=
    lastStep_le (Nat.lt_of_not_le hlarge) _
  have hfirst : 10 ^ mantissaPlaces * lastStep k Exact.one ≤ m * lastStep k Exact.one :=
    Nat.mul_le_mul_right _ hle
  have hfive : 10 ^ mantissaPlaces = 100000 := rfl
  rw [hfive] at hfirst
  unfold Nat.dist at hnear
  omega

/-! ## Every screen text -/

/-- A value whose plain text is too long is shown with its mantissa and exponent. -/
theorem ofFloat_of_long {x : Float} {negative : Bool} {units m k : Nat}
    (h : Exact.ofFloat x = .finite negative units)
    (hlong : width < (trimmed negative units).length)
    (hmantissa : mantissa units Exact.one = (m, (k : Int))) :
    ofFloat x = sign negative ++ scientificBody m k := by
  rw [ofFloat, h, ofExact_finite, fitted, if_pos hlong, scientific_eq negative hmantissa]

/-- The shape of a finite result: scientific notation with an exponent from 5 to 308 where
the shortened decimal text is too long for the screen, and else the shortened decimal text. -/
theorem ofFloat_finite_cases {x : Float} {negative : Bool} {units : Nat}
    (h : Exact.ofFloat x = .finite negative units) :
    if width < (trimmed negative units).length then
      ∃ m k : Nat, mantissa units Exact.one = (m, (k : Int)) ∧ mantissaPlaces ≤ k ∧ k ≤ 308 ∧
        10 ^ mantissaPlaces ≤ m ∧ m < 10 ^ (mantissaPlaces + 1) ∧
        2 * Nat.dist units (m * lastStep k Exact.one) ≤ lastStep k Exact.one ∧
        ofFloat x = sign negative ++ scientificBody m k ∧ IsScientific (ofFloat x) k
    else ofFloat x = trimmed negative units ∧ IsPlain (ofFloat x) := by
  split
  · next hlong =>
    have hbody := hlong
    rw [trimmed_eq] at hbody
    obtain ⟨m, k, hmantissa, hk, hle, hlt, hnear⟩ :=
      exists_mantissa Exact.one_pos (le_units_of_long hbody)
    have hlast := exponent_le (Exact.units_lt_beyond h) hle hnear
    have htext := ofFloat_of_long h hlong hmantissa
    refine ⟨m, k, hmantissa, hk, hlast, hle, hlt, hnear, htext, ?_⟩
    rw [htext]
    exact isScientific_scientificBody negative hle hlt (by omega)
  · next hshort =>
    have htext : ofFloat x = trimmed negative units := by
      rw [ofFloat, h, ofExact_finite, fitted, if_neg hshort]
    refine ⟨htext, ?_⟩
    rw [htext, trimmed_eq]
    exact isPlain_plainBody negative _

/-- A finite result has one of the two shapes. -/
theorem isPlain_or_isScientific {x : Float} {negative : Bool} {units : Nat}
    (h : Exact.ofFloat x = .finite negative units) :
    IsPlain (ofFloat x) ∨ ∃ exponent, IsScientific (ofFloat x) exponent := by
  have hcases := ofFloat_finite_cases h
  split at hcases
  · obtain ⟨m, k, -, -, -, -, -, -, -, hscientific⟩ := hcases
    exact .inr ⟨k, hscientific⟩
  · exact .inl hcases.2

/-- Every screen text fits the screen.  It is the text of an error exactly for what is no
finite number.  The text of a finite number is a plain decimal or scientific notation: the
latter exactly where the shortened decimal text does not fit the screen, with an exponent
from 5 to 308, so that no exponent is written with a minus sign. -/
theorem ofFloat_shape (x : Float) :
    (ofFloat x).length ≤ width ∧
      (ofFloat x = errorText ↔ (Exact.ofFloat x).isFinite = false) ∧
      ∀ negative units, Exact.ofFloat x = .finite negative units →
        (IsPlain (ofFloat x) ∨ ∃ exponent, IsScientific (ofFloat x) exponent) ∧
        ofFloat x ≠ "-0".toList ∧
        ((∃ exponent, IsScientific (ofFloat x) exponent) ↔
          width < (trimmed negative units).length) ∧
        (∀ exponent, IsScientific (ofFloat x) exponent → 5 ≤ exponent ∧ exponent ≤ 308) ∧
        (width < (trimmed negative units).length → 0 ≤ (mantissa units Exact.one).2) := by
  cases hx : Exact.ofFloat x with
  | infinite negative =>
    rw [ofFloat_of_not_finite (by rw [hx]; rfl)]
    exact ⟨by decide, by simp, by simp⟩
  | nan =>
    rw [ofFloat_of_not_finite (by rw [hx]; rfl)]
    exact ⟨by decide, by simp, by simp⟩
  | finite negative units =>
    have hcases := ofFloat_finite_cases hx
    split at hcases
    · next hlong =>
      obtain ⟨m, k, hmantissa, hk, hlast, -, -, -, -, hscientific⟩ := hcases
      refine ⟨hscientific.length_le, by simp [hscientific.ne_errorText], ?_⟩
      rintro _ _ ⟨⟩
      refine ⟨.inr ⟨k, hscientific⟩, ?_, by simp only [hlong, iff_true]; exact ⟨k, hscientific⟩,
        ?_, ?_⟩
      · intro hzero
        exact absurd (hzero ▸ hscientific.mark_mem) (by decide)
      · intro exponent hexponent
        rw [hexponent.exponent_unique hscientific]
        exact ⟨hk, hlast⟩
      · rw [hmantissa]
        exact fun _ => Int.natCast_nonneg k
    · next hshort =>
      obtain ⟨htext, hplain⟩ := hcases
      have hnone (exponent : Nat) : ¬ IsScientific (ofFloat x) exponent :=
        fun h => hplain.mark_notMem h.mark_mem
      refine ⟨htext ▸ Nat.not_lt.1 hshort, by simp [hplain.ne_errorText], ?_⟩
      rintro _ _ ⟨⟩
      exact ⟨.inl hplain, hplain.ne_minus_zero, by simp [hnone, hshort],
        fun exponent h => absurd h (hnone exponent), fun hlong => absurd hlong hshort⟩

/-- A minus sign leaves no room for a number of fifteen digits. -/
theorem ofFloat_shape_minus_fifteen_nines :
    let x := Exact.nearest true (999999999999999 * Exact.one) 1
    Exact.ofFloat x = .finite true (999999999999999 * Exact.one) ∧
      ∃ exponent, IsScientific (ofFloat x) exponent ∧ 5 ≤ exponent ∧ exponent ≤ 308 := by
  intro x
  have hvalue := Exact.ofFloat_nearest_mul_one true (by decide : 999999999999999 < 2 ^ 53)
  have hlong : width < (trimmed true (999999999999999 * Exact.one)).length := by
    rw [trimmed_mul_one true (by decide)]
    decide
  obtain ⟨-, -, hscientific, hrange, -⟩ := (ofFloat_shape x).2.2 _ _ hvalue
  obtain ⟨exponent, hexponent⟩ := hscientific.2 hlong
  exact ⟨hvalue, exponent, hexponent, hrange exponent hexponent⟩

end PocketCalculator.Display
