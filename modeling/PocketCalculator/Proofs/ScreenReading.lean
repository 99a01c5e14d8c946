import PocketCalculator.Proofs.Rereading
import PocketCalculator.Proofs.ScreenShape

/-!
# Reading the screen as a number

A screen text is a sign and a numeral, and it reads as the double nearest to this numeral.
That double is finite, and its own text reads as the same double: precision is lost when a
result is shown for the first time and never again.

For a plain text this holds because the text itself stays the same.  In scientific notation
the double may be written as a plain number, but then it is the exact value of the mantissa;
and where the mantissa is not exact, it is so near to the double that rounding finds it
again.

Main definitions:

- {lit}`Decimal.signedFloat` is the double nearest to a numeral with a sign.
- {lit}`reread?` is the number that a result shows.
- {lit}`rereadTimes?` shows and reads again any number of times.

Main results:

- Theorem {lit}`readNumber?_sign_append`: a sign and a numeral read as a signed double.
- Theorems {lit}`Display.ofScientific?_plainBody` and
  {lit}`Display.ofScientific?_scientificBody`: the numerals of the two forms.
- Theorem {lit}`Display.le_largest`: a mantissa that belongs to a double does not pass the
  largest one.
- Theorems {lit}`Display.reread?_of_small` and {lit}`Display.reread?_of_large`: the double
  read from scientific notation is shown by a text that reads as this double.
- Theorem {lit}`exists_reread?`: what a result shows is read from its own text again.
- Theorem {lit}`reread_stable`: from the first display on, nothing is lost.
-/

namespace PocketCalculator

/-! ## A sign and a numeral -/

/-- The double nearest to a numeral behind an optional minus sign. -/
def Decimal.signedFloat (negative : Bool) (d : Decimal) : Float :=
  if negative then -d.toFloat else d.toFloat

/-- A sign and a numeral read as a signed double, if the numeral begins with a digit or a
dot. -/
theorem readNumber?_sign_append (negative : Bool) {text : Text} {d : Decimal}
    (hreads : Decimal.ofScientific? text = some d)
    (hfirst : ∀ c, text.head? = some c → isRunCharacter c = true) :
    readNumber? (Display.sign negative ++ text) = some (d.signedFloat negative) := by
  have hmagnitude : readMagnitude? text = some d.toFloat := by
    rw [readMagnitude?_of_head? fun c hc => (class_of_isRunCharacter (hfirst c hc)).1, hreads,
      Option.map_some]
  cases negative with
  | true =>
    rw [Display.sign_true, List.singleton_append, readNumber?_minus, hmagnitude,
      Option.map_some, Decimal.signedFloat, if_pos rfl]
  | false =>
    rw [Display.sign_false, List.nil_append, readNumber?_of_head?, hmagnitude,
      Decimal.signedFloat, if_neg Bool.false_ne_true]
    · exact fun hminus => (class_of_isRunCharacter (hfirst _ hminus)).2.2.1 rfl
    · exact fun hplus => (class_of_isRunCharacter (hfirst _ hplus)).2.2.2 rfl

/-- A literal behind a sign reads as its signed value. -/
theorem Literal.readNumber?_sign_append (negative : Bool) (l : Literal) :
    readNumber? (Display.sign negative ++ l.run) = some (l.signedValue negative) :=
  PocketCalculator.readNumber?_sign_append negative l.ofScientific?_run fun c hc =>
    l.isProper.2 c (List.mem_of_mem_head? hc)

namespace Decimal

/-- A sign moves into the rounding. -/
theorem signedFloat_of_nearest {d : Decimal} {num : Nat}
    (h : d.toFloat = Exact.nearest false num 1) (negative : Bool) :
    d.signedFloat negative = Exact.nearest negative num 1 := by
  rw [signedFloat, h]
  cases negative <;> rfl

end Decimal

namespace Display

/-! ## The numerals of screen texts -/

/-- Digits begin with a digit. -/
theorem isRunCharacter_of_head?_digits {n : Nat} {rest : Text} {c : Char}
    (h : (digits n ++ rest).head? = some c) : isRunCharacter c = true := by
  obtain ⟨d, more, hdigits⟩ := List.exists_cons_of_ne_nil (digits_ne_nil n)
  rw [hdigits] at h
  obtain rfl : d = c := Option.some.inj h
  exact isRunCharacter_of_isDigit (isDigit_of_mem_digits (hdigits ▸ List.mem_cons_self))

/-- The text of a count of last places reads as a numeral for it. -/
theorem ofScientific?_plainBody (count : Nat) :
    ∃ coefficient decimals, decimals ≤ places ∧
      Decimal.ofScientific? (plainBody count) = some ⟨coefficient, -(decimals : Int)⟩ ∧
      coefficient * 10 ^ (places - decimals) = count := by
  obtain ⟨coefficient, decimals, hdecimals, hreads, hvalue⟩ := ofPlain?_plainBody count
  let l : Literal := ⟨plainBody count, _, hreads⟩
  exact ⟨coefficient, decimals, hdecimals, l.ofScientific?_run, hvalue⟩

/-- A whole number reads as its digits. -/
theorem ofScientific?_digits (n : Nat) : Decimal.ofScientific? (digits n) = some ⟨n, 0⟩ := by
  have hreads := Decimal.ofPlain?_digits (fun c hc => isDigit_of_mem_digits (n := n) hc)
    (digits_ne_nil n)
  rw [digits, Nat.ofDigitChars_ten_toDigits] at hreads
  let l : Literal := ⟨digits n, _, hreads⟩
  exact l.ofScientific?_run

/-- An exponent with a plus sign reads as its digits. -/
theorem exponentOf?_plus_paddedDigits (width k : Nat) :
    Decimal.exponentOf? ('+' :: paddedDigits width k) = some (k : Int) := by
  have hall : (paddedDigits width k).all isDigit = true :=
    List.all_eq_true.2 fun c hc => isDigit_of_mem_paddedDigits hc
  have hnonempty : paddedDigits width k ≠ [] := by
    rw [paddedDigits_eq]
    exact List.append_ne_nil_of_right_ne_nil _ (digits_ne_nil k)
  simp [Decimal.exponentOf?, hall, hnonempty, ofDigitChars_paddedDigits]

/-- The text of a mantissa and its exponent reads as a numeral with this coefficient. -/
theorem ofScientific?_scientificBody (m k : Nat) :
    Decimal.ofScientific? (scientificBody m k) = some ⟨m, -(mantissaPlaces : Int) + k⟩ := by
  have hwhole : ∀ c ∈ digits (m / 10 ^ mantissaPlaces), isDigit c = true :=
    fun c hc => isDigit_of_mem_digits hc
  have hfraction : ∀ c ∈ paddedDigits mantissaPlaces (m % 10 ^ mantissaPlaces),
      isDigit c = true := fun c hc => isDigit_of_mem_paddedDigits hc
  have hlength : (paddedDigits mantissaPlaces (m % 10 ^ mantissaPlaces)).length =
      mantissaPlaces := length_paddedDigits (by decide) (Nat.mod_lt _ (by decide))
  have hvalue : Nat.ofDigitChars 10 (digits (m / 10 ^ mantissaPlaces) ++
      paddedDigits mantissaPlaces (m % 10 ^ mantissaPlaces)) 0 = m := by
    rw [Nat.ofDigitChars_append, digits, Nat.ofDigitChars_ten_toDigits,
      Nat.ofDigitChars_eq_ofDigitChars_zero, hlength, ofDigitChars_paddedDigits]
    exact Nat.div_add_mod m (10 ^ mantissaPlaces)
  have hplain := Decimal.ofPlain?_append_dot hwhole hfraction (by simp [digits_ne_nil])
  rw [hvalue, hlength] at hplain
  let l : Literal := ⟨_, _, hplain⟩
  exact Decimal.ofScientific?_append (by decide) (fun c hc => (l.class_of_mem hc).2.1) hplain
    (exponentOf?_plus_paddedDigits 2 k)

/-! ## The double that is read -/

/-- A signed whole number reads as its nearest double. -/
theorem readNumber?_digits (negative : Bool) (n : Nat) :
    readNumber? (sign negative ++ digits n) =
      some (Exact.nearest negative (n * Exact.one) 1) := by
  have hnearest := Decimal.toFloat_natCast n 0
  rw [Nat.pow_zero, Nat.mul_one] at hnearest
  have hfirst (c : Char) (hc : (digits n).head? = some c) : isRunCharacter c = true := by
    rw [← List.append_nil (digits n)] at hc
    exact isRunCharacter_of_head?_digits hc
  rw [readNumber?_sign_append negative (ofScientific?_digits n) hfirst]
  exact congrArg some (Decimal.signedFloat_of_nearest hnearest negative)

variable {m k : Nat}

/-- Scientific notation reads as the double nearest to its mantissa, counted in steps of
the last place. -/
theorem readNumber?_scientificBody (negative : Bool) (hk : mantissaPlaces ≤ k) :
    readNumber? (sign negative ++ scientificBody m k) =
      some (Exact.nearest negative (m * lastStep k Exact.one) 1) := by
  have hpower : -(mantissaPlaces : Int) + k = (k - mantissaPlaces : Nat) := by omega
  have hscaled : m * 10 ^ (k - mantissaPlaces) * Exact.one = m * lastStep k Exact.one := by
    rw [lastStep, Nat.mul_assoc, Nat.mul_comm Exact.one]
  have hnearest := Decimal.toFloat_natCast m (k - mantissaPlaces)
  rw [hscaled, ← hpower] at hnearest
  have hfirst (c : Char) (hc : (scientificBody m k).head? = some c) :
      isRunCharacter c = true := by
    rw [scientificBody, List.append_assoc] at hc
    exact isRunCharacter_of_head?_digits hc
  rw [readNumber?_sign_append negative (ofScientific?_scientificBody m k) hfirst]
  exact congrArg some (Decimal.signedFloat_of_nearest hnearest negative)

/-- A mantissa that belongs to a double does not pass the largest one. -/
theorem le_largest {units : Nat} (hunits : units < Exact.beyond) (hlast : k ≤ 308)
    (hlt : m < 10 ^ (mantissaPlaces + 1))
    (hnear : 2 * Nat.dist units (m * lastStep k Exact.one) ≤ lastStep k Exact.one) :
    m * lastStep k Exact.one ≤ Exact.largest := by
  obtain ⟨htop, hbeyond⟩ := largest_between
  have hnext : lastStep 308 Exact.one = 10 * lastStep 307 Exact.one := lastStep_succ (by decide) _
  rcases Nat.lt_or_ge k 308 with hsmall | hlarge
  · calc m * lastStep k Exact.one ≤ 10 ^ (mantissaPlaces + 1) * lastStep 307 Exact.one :=
          Nat.mul_le_mul (Nat.le_of_lt hlt) (lastStep_le (Nat.le_of_lt_succ hsmall) _)
      _ = 10 ^ mantissaPlaces * lastStep 308 Exact.one := by
          rw [hnext, Nat.pow_succ, Nat.mul_assoc]
      _ ≤ 179769 * lastStep 308 Exact.one := Nat.mul_le_mul_right _ (by decide)
      _ ≤ Exact.largest := htop
  · obtain rfl : k = 308 := Nat.le_antisymm hlast hlarge
    generalize lastStep 308 Exact.one = step at *
    have hm : m ≤ 179769 := by
      by_contra hmore
      have hproduct := Nat.mul_le_mul_right step (Nat.lt_of_not_le hmore)
      unfold Nat.dist at hnear
      omega
    exact Nat.le_trans (Nat.mul_le_mul_right step hm) htop

end Display

/-! ## Reading again -/

/-- The number that a result shows. -/
def reread? (x : Float) : Option Float := readNumber? (Display.ofFloat x)

namespace Display

variable {m k : Nat} {y : Float} {negative : Bool}

/-- A mantissa below {lit}`10 ^ 15` is a whole number with fifty-three binary digits, so its
double has this value, and the text of the double, plain or not, reads as the same number. -/
theorem reread?_of_small (hk : mantissaPlaces ≤ k) (hsmall : k ≤ 14)
    (hle : 10 ^ mantissaPlaces ≤ m) (hlt : m < 10 ^ (mantissaPlaces + 1))
    (hy : Exact.ofFloat y =
      .finite negative (Exact.nearestUnits (m * lastStep k Exact.one) 1)) :
    reread? y = some (Exact.nearest negative (m * lastStep k Exact.one) 1) := by
  have hpower : 10 ^ (k - mantissaPlaces) ≤ 10 ^ 9 :=
    Nat.pow_le_pow_right (by decide) (by unfold mantissaPlaces; omega)
  have hwhole : m * lastStep k Exact.one = m * 10 ^ (k - mantissaPlaces) * Exact.one := by
    rw [lastStep, Nat.mul_comm Exact.one, Nat.mul_assoc]
  have hnumber : m * 10 ^ (k - mantissaPlaces) < 10 ^ width :=
    calc m * 10 ^ (k - mantissaPlaces) ≤ m * 10 ^ 9 := Nat.mul_le_mul_left _ hpower
      _ < 10 ^ (mantissaPlaces + 1) * 10 ^ 9 := Nat.mul_lt_mul_of_pos_right hlt (by decide)
  have hne : m * 10 ^ (k - mantissaPlaces) ≠ 0 := by
    have hm : 0 < m := Nat.lt_of_lt_of_le (Nat.pow_pos (by decide)) hle
    exact Nat.ne_of_gt (Nat.mul_pos hm (Nat.pow_pos (by decide)))
  have hexact : Exact.nearestUnits (m * lastStep k Exact.one) 1 = m * lastStep k Exact.one := by
    rw [hwhole]
    exact Exact.nearestUnits_mul_one (Nat.lt_trans hnumber (by decide))
  rw [hexact] at hy
  by_cases hlong : width < (trimmed negative (m * lastStep k Exact.one)).length
  · have hmantissa : mantissa (m * lastStep k Exact.one) Exact.one = (m, (k : Int)) := by
      refine mantissa_eq_of_le Exact.one_pos hk hlt (Nat.mul_le_mul_right _ hle) ?_
      rw [Nat.dist_self]
      exact lastStep_pos Exact.one_pos k
    rw [reread?, ofFloat_of_long hy hlong hmantissa,
      readNumber?_scientificBody negative hk]
  · rw [reread?, ofFloat, hy, ofExact_finite, fitted, if_neg hlong, hwhole,
      trimmed_mul_one negative hne, readNumber?_digits]

/-- From {lit}`10 ^ 15` on a double is so near to the mantissa that it is read from that its
text shows the mantissa again. -/
theorem reread?_of_large (hlarge : width ≤ k)
    (hle : 10 ^ mantissaPlaces ≤ m) (hlt : m < 10 ^ (mantissaPlaces + 1))
    (hy : Exact.ofFloat y =
      .finite negative (Exact.nearestUnits (m * lastStep k Exact.one) 1)) :
    reread? y = some (Exact.nearest negative (m * lastStep k Exact.one) 1) := by
  have hk : mantissaPlaces < k := Nat.lt_of_lt_of_le (by decide) hlarge
  have hpower : 10 ^ width * Exact.one ≤ m * lastStep k Exact.one :=
    calc 10 ^ width * Exact.one = 10 ^ mantissaPlaces * lastStep width Exact.one :=
          ten_pow_mul_eq (by decide) _
      _ ≤ 10 ^ mantissaPlaces * lastStep k Exact.one :=
          Nat.mul_le_mul_left _ (lastStep_le hlarge _)
      _ ≤ m * lastStep k Exact.one := Nat.mul_le_mul_right _ hle
  have hnear : 20 * Nat.dist (Exact.nearestUnits (m * lastStep k Exact.one) 1)
      (m * lastStep k Exact.one) < lastStep k Exact.one := by
    have herror := Exact.dist_nearestUnits_mul_le (m * lastStep k Exact.one)
    have hproduct : m * lastStep k Exact.one < 10 ^ (mantissaPlaces + 1) * lastStep k Exact.one :=
      Nat.mul_lt_mul_of_pos_right hlt (lastStep_pos Exact.one_pos k)
    have hfractions : 2 * Exact.fractions = 2 ^ 53 := rfl
    have hsix : 10 ^ (mantissaPlaces + 1) = 1000000 := rfl
    rw [hfractions] at herror
    rw [hsix] at hproduct
    rw [Nat.dist_comm]
    omega
  have hmantissa := mantissa_eq_of_dist_lt Exact.one_pos hk hle hlt hnear
  have hlong : 10 ^ width * Exact.one ≤ Exact.nearestUnits (m * lastStep k Exact.one) 1 :=
    Exact.mul_one_le_nearestUnits (by decide) hpower
  rw [reread?, ofFloat_of_long hy (long_of_le_units negative hlong) hmantissa,
    readNumber?_scientificBody negative (Nat.le_of_lt hk)]

end Display

/-- Showing and reading a number any number of times. -/
def rereadTimes? : Nat → Float → Option Float
  | 0, x => some x
  | n + 1, x => (reread? x).bind (rereadTimes? n)

/-- Where reading again changes nothing, it never does. -/
theorem rereadTimes?_of_stable {y : Float} (h : reread? y = some y) (n : Nat) :
    rereadTimes? n y = some y := by
  induction n with
  | zero => rfl
  | succ n ih => rw [rereadTimes?, h, Option.bind_some, ih]

/-- The double that a result shows is finite, and it is read from its own text again. -/
theorem exists_reread? {x : Float} (hfinite : (Exact.ofFloat x).isFinite = true) :
    ∃ y, reread? x = some y ∧ (Exact.ofFloat y).isFinite = true ∧ reread? y = some y := by
  cases hx : Exact.ofFloat x with
  | infinite negative =>
    rw [hx] at hfinite
    exact absurd hfinite Bool.false_ne_true
  | nan =>
    rw [hx] at hfinite
    exact absurd hfinite Bool.false_ne_true
  | finite negative units =>
    have hcases := Display.ofFloat_finite_cases hx
    split at hcases
    · obtain ⟨m, k, -, hk, hlast, hle, hlt, hnear, htext, -⟩ := hcases
      have hfits := Display.le_largest (Exact.units_lt_beyond hx) hlast hlt hnear
      rw [← Nat.mul_one Exact.largest] at hfits
      have hy := Exact.ofFloat_nearest Nat.one_pos negative
        (Exact.nearestUnits_lt_beyond Nat.one_pos hfits)
      refine ⟨_, ?_, by rw [hy]; rfl, ?_⟩
      · rw [reread?, htext, Display.readNumber?_scientificBody negative hk]
      · rcases Nat.lt_or_ge k Display.width with hsmall | hlarge
        · exact Display.reread?_of_small hk (Nat.le_of_lt_succ hsmall) hle hlt hy
        · exact Display.reread?_of_large hlarge hle hlt hy
    · next hshort =>
      rw [Display.trimmed_eq] at hshort
      obtain ⟨signed, l, htext, hread, hsame⟩ := Display.exists_literal_of_plain hx hshort
      have hshown : reread? x = some (l.signedValue signed) := by
        rw [reread?, htext, l.readNumber?_sign_append]
      exact ⟨_, hshown, hread, by rwa [reread?, hsame]⟩

/-- Showing a finite result loses precision only once.  Its text reads as a finite double
whose own text reads as the same double, so that showing and reading any number of times
gives the value of the first display. -/
theorem reread_stable {x : Float} (hfinite : (Exact.ofFloat x).isFinite = true) :
    ∃ y, readNumber? (Display.ofFloat x) = some y ∧ (Exact.ofFloat y).isFinite = true ∧
      readNumber? (Display.ofFloat y) = some y ∧ ∀ n, rereadTimes? (n + 1) x = some y := by
  obtain ⟨y, hx, hyfinite, hy⟩ := exists_reread? hfinite
  refine ⟨y, hx, hyfinite, hy, fun n => ?_⟩
  rw [rereadTimes?, hx, Option.bind_some, rereadTimes?_of_stable hy]

/-- Fifteen digits and a minus sign are shown with six of the digits and read as these. -/
theorem reread_stable_minus_fifteen_digits :
    let x := Exact.nearest true (123456789012345 * Exact.one) 1
    (Exact.ofFloat x).isFinite = true ∧ Display.ofFloat x = "-1.23457e+14".toList ∧
      ∃ y, readNumber? "-1.23457e+14".toList = some y ∧ ∀ n, rereadTimes? (n + 1) x = some y := by
  intro x
  have hvalue : Exact.ofFloat x = .finite true (123456789012345 * Exact.one) :=
    Exact.ofFloat_nearest_mul_one true (by decide)
  have hfinite : (Exact.ofFloat x).isFinite = true := by rw [hvalue]; rfl
  have hlong : Display.width < (Display.trimmed true (123456789012345 * Exact.one)).length := by
    rw [Display.trimmed_mul_one true (by decide)]
    decide
  have hmantissa := Display.mantissa_mul (n := 123456789012345) (m := 123457) (k := 14)
    Exact.one_pos (by decide) (by decide) (by decide) (by decide)
  have htext : Display.ofFloat x = "-1.23457e+14".toList :=
    (Display.ofFloat_of_long hvalue hlong hmantissa).trans (by decide)
  obtain ⟨y, hread, -, -, hstable⟩ := reread_stable hfinite
  exact ⟨hfinite, htext, y, htext ▸ hread, hstable⟩

end PocketCalculator
