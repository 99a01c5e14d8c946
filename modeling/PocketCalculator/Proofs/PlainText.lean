import Mathlib.Algebra.Group.Nat.Defs
import PocketCalculator.Display.Screen
import PocketCalculator.Number.Decimal

/-!
# The plain text of a value

The plain text of a value depends on its sign and on one natural number, the value
counted in last places.  It is the same for whole numbers and for decimals, and it
reads as a numeral for that count.

Main definitions:

- {lit}`Display.lastPlaces` counts a value in units of the last place shown.
- {lit}`Display.plainBody` is the text of such a count.

Main results:

- Theorem {lit}`Display.trimmed_eq`: the shortened decimal text is a sign and the text
  of the count.
- Theorem {lit}`Display.ofExact_finite`: whole numbers need no form of their own.
- Theorem {lit}`Display.ofPlain?_plainBody`: the text reads as a numeral for the count.
-/

namespace PocketCalculator

/-! ## Trailing characters -/

namespace Text

/-- Any number of trailing copies goes. -/
@[simp] theorem dropTrailing_append_replicate (c : Char) (text : Text) (n : Nat) :
    dropTrailing c (text ++ List.replicate n c) = dropTrailing c text := by
  induction n with
  | zero => simp
  | succ n ih =>
    rw [List.replicate_succ', ← List.append_assoc, dropTrailing_concat_self, ih]

/-- What goes are copies of one character, and what stays does not end in it. -/
theorem exists_replicate (c : Char) (text : Text) :
    ∃ n, text = dropTrailing c text ++ List.replicate n c ∧
      ∀ d, (dropTrailing c text).getLast? = some d → d ≠ c := by
  refine ⟨(text.reverse.takeWhile (· == c)).length, ?_, ?_⟩
  · have hcopies : text.reverse.takeWhile (· == c) =
        List.replicate (text.reverse.takeWhile (· == c)).length c := by
      rw [List.eq_replicate_iff]
      refine ⟨rfl, fun d hd => ?_⟩
      have hall := List.all_eq_true.1 (List.all_takeWhile (p := (· == c)) (l := text.reverse)) d hd
      exact eq_of_beq hall
    rw [dropTrailing, ← List.reverse_replicate, ← hcopies, ← List.reverse_append,
      List.takeWhile_append_dropWhile, List.reverse_reverse]
  · intro d hlast
    rw [dropTrailing, List.getLast?_reverse] at hlast
    have hhead := List.head?_dropWhile_not (· == c) text.reverse
    rw [hlast] at hhead
    simpa using hhead

/-- A text that does not end in the character is left as it is. -/
theorem dropTrailing_of_getLast? {c : Char} {text : Text}
    (h : ∀ d, text.getLast? = some d → d ≠ c) : dropTrailing c text = text := by
  obtain ⟨n, hsplit, -⟩ := exists_replicate c text
  cases n with
  | zero => rw [List.replicate_zero, List.append_nil] at hsplit; exact hsplit.symm
  | succ n =>
    rw [List.replicate_succ', ← List.append_assoc] at hsplit
    exact absurd rfl (h c (by rw [hsplit]; simp))

/-- A text ends the way its last part does. -/
theorem getLast?_append_right (front : Text) {text : Text} (h : text ≠ []) :
    (front ++ text).getLast? = text.getLast? := by
  rw [List.getLast?_append, List.getLast?_eq_some_getLast h, Option.some_or]

end Text

namespace Display

/-! ## Digits -/

/-- The digits of a number are digits. -/
theorem isDigit_of_mem_digits {n : Nat} {c : Char} (h : c ∈ digits n) : isDigit c = true :=
  Nat.isDigit_of_mem_toDigits (by decide) (by decide) h

theorem digits_ne_nil (n : Nat) : digits n ≠ [] := Nat.toDigits_ne_nil

/-- Zeros in front fill a number up to its width. -/
theorem paddedDigits_eq (width n : Nat) :
    paddedDigits width n = List.replicate (width - (digits n).length) '0' ++ digits n := rfl

theorem isDigit_of_mem_paddedDigits {width n : Nat} {c : Char} (h : c ∈ paddedDigits width n) :
    isDigit c = true := by
  rw [paddedDigits_eq] at h
  rcases List.mem_append.1 h with hzero | hdigit
  · rw [List.eq_of_mem_replicate hzero]
    decide
  · exact isDigit_of_mem_digits hdigit

/-- A number below the power of ten fills its width exactly. -/
theorem length_paddedDigits {width n : Nat} (hwidth : 0 < width) (h : n < 10 ^ width) :
    (paddedDigits width n).length = width := by
  have hlength := (Nat.length_toDigits_le_iff (by decide) hwidth).2 h
  rw [paddedDigits_eq, List.length_append, List.length_replicate]
  exact Nat.sub_add_cancel hlength

/-- Padding does not change the value. -/
theorem ofDigitChars_paddedDigits (width n : Nat) :
    Nat.ofDigitChars 10 (paddedDigits width n) 0 = n := by
  rw [paddedDigits_eq, Nat.ofDigitChars_append, Nat.ofDigitChars_replicate_zero, Nat.mul_zero]
  exact Nat.ofDigitChars_ten_toDigits

/-! ## The text of a count -/

/-- A value counted in units of the last place shown. -/
def lastPlaces (units : Nat) : Nat := roundHalfEven (units * 10 ^ places) Exact.one

/-- The digits after the dot, without the zeros that add nothing. -/
def fractionDigits (fraction : Nat) : Text := (paddedDigits places fraction).dropTrailing '0'

/-- The text of a count of last places, without a sign. -/
def plainBody (count : Nat) : Text :=
  digits (count / 10 ^ places) ++
    if count % 10 ^ places = 0 then [] else '.' :: fractionDigits (count % 10 ^ places)

/-- The padded digits after the dot are those that stay and some zeros. -/
theorem exists_fractionDigits (fraction : Nat) :
    ∃ zeros,
      paddedDigits places fraction = fractionDigits fraction ++ List.replicate zeros '0' ∧
      ∀ d, (fractionDigits fraction).getLast? = some d → d ≠ '0' :=
  Text.exists_replicate '0' _

theorem isDigit_of_mem_fractionDigits {fraction : Nat} {c : Char}
    (h : c ∈ fractionDigits fraction) : isDigit c = true := by
  obtain ⟨zeros, hsplit, -⟩ := exists_fractionDigits fraction
  have hpadded : c ∈ paddedDigits places fraction := by
    rw [hsplit]
    exact List.mem_append_left _ h
  exact isDigit_of_mem_paddedDigits hpadded

/-- A fraction that is not zero keeps a digit. -/
theorem fractionDigits_ne_nil {fraction : Nat} (h : fraction ≠ 0) :
    fractionDigits fraction ≠ [] := by
  intro hnil
  obtain ⟨zeros, hsplit, -⟩ := exists_fractionDigits fraction
  have hvalue := ofDigitChars_paddedDigits places fraction
  rw [hsplit, hnil, List.nil_append, Nat.ofDigitChars_replicate_zero, Nat.mul_zero] at hvalue
  exact h hvalue.symm

/-- The decimals of a value, shortened. -/
theorem dropTrailing_decimals (front : Text) {fraction : Nat} (h : fraction ≠ 0) :
    ((front ++ '.' :: paddedDigits places fraction).dropTrailing '0').dropTrailing '.' =
      front ++ '.' :: fractionDigits fraction := by
  obtain ⟨zeros, hsplit, hlast⟩ := exists_fractionDigits fraction
  have hends (d : Char) (hd : (front ++ '.' :: fractionDigits fraction).getLast? = some d) :
      d ∈ fractionDigits fraction ∧ d ≠ '0' := by
    have hdigits : (fractionDigits fraction).getLast? = some d := by
      rw [← hd, List.append_cons, Text.getLast?_append_right _ (fractionDigits_ne_nil h)]
    exact ⟨List.mem_of_getLast? hdigits, hlast d hdigits⟩
  rw [hsplit, ← List.cons_append, ← List.append_assoc, Text.dropTrailing_append_replicate,
    Text.dropTrailing_of_getLast? fun d hd => (hends d hd).2]
  refine Text.dropTrailing_of_getLast? fun d hd => ?_
  rintro rfl
  exact absurd (isDigit_of_mem_fractionDigits (hends _ hd).1) (by decide)

/-- A text that ends in digits loses a dot and zeros behind it. -/
theorem dropTrailing_zeros (front : Text) (n : Nat) :
    ((front ++ digits n ++ '.' :: paddedDigits places 0).dropTrailing '0').dropTrailing '.' =
      front ++ digits n := by
  have hzeros : paddedDigits places 0 = List.replicate places '0' := by decide
  rw [hzeros, List.append_cons, Text.dropTrailing_append_replicate,
    Text.dropTrailing_concat_of_ne (by decide), Text.dropTrailing_concat_self]
  refine Text.dropTrailing_of_getLast? fun d hd => ?_
  rw [Text.getLast?_append_right _ (digits_ne_nil n)] at hd
  rintro rfl
  exact absurd (isDigit_of_mem_digits (List.mem_of_getLast? hd)) (by decide)

/-- Only zero is written as a zero. -/
theorem sign_append_digits_ne (negative : Bool) {n : Nat} (h : n ≠ 0) :
    sign negative ++ digits n ≠ "-0".toList := by
  intro heq
  cases negative with
  | false =>
    have hmem : '-' ∈ digits n := by
      rw [sign_false, List.nil_append] at heq
      rw [heq]
      decide
    exact absurd (isDigit_of_mem_digits hmem) (by decide)
  | true =>
    have hdigits : digits n = digits 0 := (List.cons.inj heq).2
    have hvalue : Nat.ofDigitChars 10 (digits n) 0 = Nat.ofDigitChars 10 (digits 0) 0 := by
      rw [hdigits]
    rw [digits, digits, Nat.ofDigitChars_ten_toDigits, Nat.ofDigitChars_ten_toDigits] at hvalue
    exact h hvalue

/-- A text with the digits of a number in it is no lone sign. -/
theorem ne_lone_sign {text : Text} {n : Nat} (h : digits n ⊆ text) : text ≠ "-".toList := by
  obtain ⟨d, hd⟩ := List.exists_mem_of_ne_nil _ (digits_ne_nil n)
  rintro rfl
  obtain rfl := List.mem_singleton.1 (h hd)
  exact absurd (isDigit_of_mem_digits hd) (by decide)

/-- The shortened decimal text of a value is a sign and the text of its count; zero has
no sign, and a lone sign is never left. -/
theorem trimmed_eq (negative : Bool) (units : Nat) :
    trimmed negative units =
      sign (negative && lastPlaces units != 0) ++ plainBody (lastPlaces units) := by
  have hfixed : fixed places negative units Exact.one =
      sign negative ++ digits (lastPlaces units / 10 ^ places) ++
        '.' :: paddedDigits places (lastPlaces units % 10 ^ places) := rfl
  rw [trimmed, hfixed, plainBody]
  generalize lastPlaces units = count
  by_cases hwhole : count % 10 ^ places = 0
  · rw [hwhole, dropTrailing_zeros, if_pos rfl, List.append_nil]
    have hsplit := Nat.div_add_mod count (10 ^ places)
    rw [hwhole, Nat.add_zero] at hsplit
    by_cases hzero : count / 10 ^ places = 0
    · rw [hzero] at hsplit ⊢
      rw [← hsplit]
      cases negative <;> rfl
    · have hcount : count ≠ 0 := by
        rintro rfl
        exact hzero (Nat.zero_div _)
      have hsigned : (negative && count != 0) = negative := by simp [hcount]
      have hsign := ne_lone_sign (List.subset_append_right (sign negative)
        (digits (count / 10 ^ places)))
      rw [if_neg (not_or.2 ⟨sign_append_digits_ne negative hzero, hsign⟩), hsigned]
  · have hcount : count ≠ 0 := by
      rintro rfl
      exact hwhole (Nat.zero_mod _)
    have hdot : sign negative ++ digits (count / 10 ^ places) ++
        '.' :: fractionDigits (count % 10 ^ places) ≠ "-0".toList := by
      intro heq
      have hmem : '.' ∈ "-0".toList := heq ▸ by simp
      exact absurd hmem (by decide)
    have hsigned : (negative && count != 0) = negative := by simp [hcount]
    have hsign : sign negative ++ digits (count / 10 ^ places) ++
        '.' :: fractionDigits (count % 10 ^ places) ≠ "-".toList :=
      ne_lone_sign fun d hd => List.mem_append_left _ (List.mem_append_right _ hd)
    rw [dropTrailing_decimals _ hwhole, if_neg hwhole, if_neg (not_or.2 ⟨hdot, hsign⟩), hsigned,
      List.append_assoc]

/-! ## Whole numbers -/

/-- A whole number is a whole count of last places. -/
theorem lastPlaces_mul_one (n : Nat) : lastPlaces (n * Exact.one) = n * 10 ^ places := by
  rw [lastPlaces, Nat.mul_right_comm]
  exact roundHalfEven_mul Exact.one_pos _

/-- A whole number in digits alone is the shortened decimal text. -/
theorem whole_eq_trimmed (negative : Bool) {units : Nat} (h : isShortWhole units = true) :
    whole negative units = trimmed negative units := by
  have hmod : units % Exact.one = 0 := by
    rw [isShortWhole, Bool.and_eq_true] at h
    exact eq_of_beq h.1
  have hunits : units / Exact.one * Exact.one = units :=
    Nat.div_mul_cancel (Nat.dvd_of_mod_eq_zero hmod)
  have hcount : lastPlaces units = units / Exact.one * 10 ^ places := by
    conv => lhs; rw [← hunits]
    exact lastPlaces_mul_one _
  have hsign (n : Nat) : (n * 10 ^ places != 0) = (n != 0) := by
    rw [Bool.eq_iff_iff, bne_iff_ne, bne_iff_ne, places]
    omega
  rw [trimmed_eq, hcount, hsign, plainBody, Nat.mul_mod_left, if_pos rfl, List.append_nil,
    Nat.mul_div_cancel _ (by decide)]
  rfl

/-- Whole numbers need no form of their own. -/
theorem ofExact_finite (negative : Bool) (units : Nat) :
    ofExact (.finite negative units) = fitted negative units (trimmed negative units) := by
  rw [ofExact]
  split
  · next hwhole => rw [whole_eq_trimmed negative hwhole]
  · rfl

/-- The plain text of a whole number is its digits. -/
theorem trimmed_mul_one (negative : Bool) {n : Nat} (hne : n ≠ 0) :
    trimmed negative (n * Exact.one) = sign negative ++ digits n := by
  have hpositive : n * 10 ^ places ≠ 0 := Nat.mul_ne_zero hne (by decide)
  have hsigned : (negative && n * 10 ^ places != 0) = negative := by simp [hpositive]
  rw [trimmed_eq, lastPlaces_mul_one, hsigned, plainBody, Nat.mul_mod_left, if_pos rfl,
    List.append_nil, Nat.mul_div_cancel _ (by decide)]

/-- Zero has one text for both signs. -/
theorem ofExact_zero (negative : Bool) : ofExact (.finite negative 0) = "0".toList := by
  have hcount : lastPlaces 0 = 0 := by
    have h := lastPlaces_mul_one 0
    rwa [Nat.zero_mul, Nat.zero_mul] at h
  have htext : trimmed negative 0 = "0".toList := by
    rw [trimmed_eq, hcount, bne_self_eq_false, Bool.and_false]
    decide
  rw [ofExact_finite, htext, fitted, if_neg (by decide)]

/-! ## Reading the text -/

/-- The text of a count reads as a numeral for it. -/
theorem ofPlain?_plainBody (count : Nat) :
    ∃ coefficient decimals, decimals ≤ places ∧
      Decimal.ofPlain? (plainBody count) = some ⟨coefficient, -(decimals : Int)⟩ ∧
      coefficient * 10 ^ (places - decimals) = count := by
  have hsplit := Nat.div_add_mod count (10 ^ places)
  have hwhole : ∀ c ∈ digits (count / 10 ^ places), isDigit c = true :=
    fun c => isDigit_of_mem_digits
  rw [plainBody]
  split
  · next hmod =>
    refine ⟨count / 10 ^ places, 0, Nat.zero_le _, ?_,
      Nat.div_mul_cancel (Nat.dvd_of_mod_eq_zero hmod)⟩
    rw [List.append_nil, Decimal.ofPlain?_digits hwhole (digits_ne_nil _), digits,
      Nat.ofDigitChars_ten_toDigits]
    rfl
  · next hmod =>
    obtain ⟨zeros, hpadded, -⟩ := exists_fractionDigits (count % 10 ^ places)
    have hpaddedLength : (paddedDigits places (count % 10 ^ places)).length = places :=
      length_paddedDigits (by decide) (Nat.mod_lt _ (by decide))
    have hlength := hpaddedLength
    rw [hpadded, List.length_append, List.length_replicate] at hlength
    refine ⟨_, _, by omega, Decimal.ofPlain?_append_dot hwhole
      (fun c => isDigit_of_mem_fractionDigits) (by simp [digits_ne_nil]), ?_⟩
    calc Nat.ofDigitChars 10 (digits (count / 10 ^ places) ++
            fractionDigits (count % 10 ^ places)) 0 *
          10 ^ (places - (fractionDigits (count % 10 ^ places)).length)
        = Nat.ofDigitChars 10 (digits (count / 10 ^ places) ++
            paddedDigits places (count % 10 ^ places)) 0 := by
          rw [hpadded, ← List.append_assoc, Nat.ofDigitChars_append _ (l := _ ++ _),
            Nat.ofDigitChars_replicate_zero, Nat.mul_comm,
            show places - (fractionDigits (count % 10 ^ places)).length = zeros by omega]
      _ = count := by
          rw [Nat.ofDigitChars_append, digits, Nat.ofDigitChars_ten_toDigits,
            Nat.ofDigitChars_eq_ofDigitChars_zero, hpaddedLength, ofDigitChars_paddedDigits]
          exact hsplit

end Display

end PocketCalculator
