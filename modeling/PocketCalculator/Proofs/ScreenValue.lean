import Mathlib.Algebra.Order.Field.Power
import Mathlib.Algebra.Order.Field.Rat
import Mathlib.Data.Rat.Cast.Order
import Mathlib.Tactic.FieldSimp
import Mathlib.Tactic.Linarith
import Mathlib.Tactic.NormNum
import Mathlib.Tactic.Positivity
import Mathlib.Tactic.Ring
import PocketCalculator.Proofs.ScreenReading

/-!
# The number on the screen

A finite double is a rational number, and so is what a screen text writes.  The second is
a nearest one to the first among the numbers that the text could have written: multiples of
the last place for a plain decimal, and of the last digit of the mantissa in scientific
notation.

Main definitions:

- {lit}`Exact.toRat?` is the rational value of a finite double.
- {lit}`Decimal.toRat` is the rational value of a numeral.
- {lit}`Display.value?` is the rational number that a text writes.

Main results:

- Theorem {lit}`Display.toRat_plainBody`: the plain text of a count writes this count.
- Theorem {lit}`abs_sub_div_le`: a whole number nearest to a quotient is off by at most one
  half.
- Theorem {lit}`Display.exists_value_ofFloat`: the magnitude on the screen, its form and its
  error.
- Theorem {lit}`Display.value?_ofFloat_nearest`: the number on the screen is a nearest one.
-/

namespace PocketCalculator

/-! ## Rational values -/

/-- A magnitude with a sign. -/
def signed (negative : Bool) (magnitude : ℚ) : ℚ := if negative then -magnitude else magnitude

@[simp] theorem signed_true (magnitude : ℚ) : signed true magnitude = -magnitude := rfl

@[simp] theorem signed_false (magnitude : ℚ) : signed false magnitude = magnitude := rfl

@[simp] theorem signed_zero (negative : Bool) : signed negative 0 = 0 := by
  cases negative <;> simp

/-- Numbers of one sign are as far apart as their magnitudes. -/
theorem abs_signed_sub (negative : Bool) (a b : ℚ) :
    |signed negative a - signed negative b| = |a - b| := by
  cases negative with
  | false => rfl
  | true => rw [signed_true, signed_true, neg_sub_neg, abs_sub_comm]

/-- Numbers of one sign do not oppose each other. -/
theorem signed_mul_signed_nonneg (negative : Bool) {a b : ℚ} (ha : 0 ≤ a) (hb : 0 ≤ b) :
    0 ≤ signed negative a * signed negative b := by
  cases negative with
  | false => exact mul_nonneg ha hb
  | true =>
    rw [signed_true, signed_true, neg_mul_neg]
    exact mul_nonneg ha hb

/-- The rational value of a finite double. -/
def Exact.toRat? : Exact → Option ℚ
  | .finite negative units => some (signed negative (units / one))
  | .infinite _ => none
  | .nan => none

/-- What has a rational value is finite. -/
theorem Exact.exists_units_of_toRat? {value : Exact} {q : ℚ} (h : value.toRat? = some q) :
    ∃ negative units, value = .finite negative units ∧ q = signed negative (units / one) := by
  cases value with
  | finite negative units => exact ⟨negative, units, rfl, (Option.some.inj h).symm⟩
  | infinite negative => exact absurd h (by simp [toRat?])
  | nan => exact absurd h (by simp [toRat?])

/-- The rational value of a numeral. -/
def Decimal.toRat (d : Decimal) : ℚ := d.coefficient * 10 ^ d.exponent

/-- The rational number that a text writes: a numeral, behind a minus sign if it is
negative. -/
def Display.value? : Text → Option ℚ
  | '-' :: magnitude => (Decimal.ofScientific? magnitude).map fun d => -d.toRat
  | magnitude => (Decimal.ofScientific? magnitude).map Decimal.toRat

/-- A whole number nearest to a quotient is off by at most one half. -/
theorem abs_sub_div_le {num den n : Nat} (hden : 0 < den)
    (h : 2 * Nat.dist num (n * den) ≤ den) : |(n : ℚ) - num / den| ≤ 1 / 2 := by
  have hpositive : (0 : ℚ) < den := by exact_mod_cast hden
  have hupper : 2 * (n * den) ≤ 2 * num + den := by
    unfold Nat.dist at h
    omega
  have hlower : 2 * num ≤ 2 * (n * den) + den := by
    unfold Nat.dist at h
    omega
  have hupper' : (2 : ℚ) * (n * den) ≤ 2 * num + den := by exact_mod_cast hupper
  have hlower' : (2 : ℚ) * num ≤ 2 * (n * den) + den := by exact_mod_cast hlower
  have hsplit : (n : ℚ) - num / den = (n * den - num) / den := by field_simp
  rw [hsplit, abs_le, div_le_iff₀ hpositive, le_div_iff₀ hpositive]
  constructor <;> linarith

namespace Display

/-! ## The value of a text -/

/-- The text of a count of last places writes this count. -/
theorem toRat_plainBody (count : Nat) :
    ∃ d, Decimal.ofScientific? (plainBody count) = some d ∧ d.toRat = count / 10 ^ 8 := by
  obtain ⟨coefficient, decimals, hdecimals, hreads, hvalue⟩ := ofScientific?_plainBody count
  refine ⟨_, hreads, ?_⟩
  have hplaces : places = 8 := rfl
  have hpower : (10 : ℚ) ^ (places - decimals) * 10 ^ decimals = 10 ^ 8 := by
    rw [← pow_add, Nat.sub_add_cancel hdecimals, hplaces]
  rw [Decimal.toRat, zpow_neg, zpow_natCast, ← hvalue, Nat.cast_mul, Nat.cast_pow, ← hpower]
  field_simp
  norm_num

/-- A sign in front of a numeral is the sign of its value. -/
theorem value?_sign_append (negative : Bool) {text : Text} {d : Decimal}
    (hreads : Decimal.ofScientific? text = some d)
    (hfirst : ∀ c, text.head? = some c → isRunCharacter c = true) :
    value? (sign negative ++ text) = some (signed negative d.toRat) := by
  cases negative with
  | true => rw [sign_true, List.singleton_append, value?, hreads, Option.map_some, signed_true]
  | false =>
    rw [sign_false, List.nil_append, signed_false]
    unfold value?
    split
    · exact absurd (hfirst '-' rfl) (by decide)
    · rw [hreads, Option.map_some]

/-! ## The nearest number -/

/-- Counting in steps scales the error of a rounding. -/
theorem abs_mul_sub_div_le {units den n : Nat} {step : ℚ} (hden : 0 < den) (hstep : 0 < step)
    (h : |(n : ℚ) - units / (den * step)| ≤ 1 / 2) :
    |(n : ℚ) * step - units / den| ≤ 1 / 2 * step := by
  have hpositive : (den : ℚ) ≠ 0 := by exact_mod_cast hden.ne'
  calc |(n : ℚ) * step - units / den|
      = |(n - units / (den * step)) * step| := by
        congr 1
        field_simp
    _ = |(n : ℚ) - units / (den * step)| * step := by rw [abs_mul, abs_of_pos hstep]
    _ ≤ 1 / 2 * step := mul_le_mul_of_nonneg_right h hstep.le

/-- A count of last places is off by at most half of one. -/
theorem abs_lastPlaces_sub_le (units : Nat) :
    |(lastPlaces units : ℚ) / 10 ^ 8 - units / Exact.one| ≤ 5 / 10 ^ 9 := by
  have herror := abs_sub_div_le Exact.one_pos
    (dist_roundHalfEven_le_half Exact.one_pos (units * 10 ^ places))
  have hscale (den : ℚ) : ((units * 10 ^ places : Nat) : ℚ) / den =
      units / (den * (1 / 10 ^ 8)) := by
    rw [Nat.cast_mul, Nat.cast_pow, Nat.cast_ofNat, places]
    field_simp
  have hhalf : (5 : ℚ) / 10 ^ 9 = 1 / 2 * (1 / 10 ^ 8) := by norm_num
  rw [hscale] at herror
  rw [hhalf, div_eq_mul_one_div]
  exact abs_mul_sub_div_le Exact.one_pos (by positivity) herror

/-- The step of the last place of a mantissa, as a rational number. -/
theorem cast_lastStep {k : Nat} (hk : mantissaPlaces ≤ k) (den : Nat) :
    (lastStep k den : ℚ) = den * 10 ^ ((k : Int) - 5) := by
  have hplaces : mantissaPlaces = 5 := rfl
  have hexponent : (k : Int) - 5 = (k - mantissaPlaces : Nat) := by omega
  rw [lastStep, hexponent, zpow_natCast, Nat.cast_mul, Nat.cast_pow, Nat.cast_ofNat]

/-- A mantissa is off by at most half a step of its last place. -/
theorem abs_mantissa_sub_le {units m k : Nat} (hk : mantissaPlaces ≤ k)
    (hnear : 2 * Nat.dist units (m * lastStep k Exact.one) ≤ lastStep k Exact.one) :
    |(m : ℚ) * 10 ^ ((k : Int) - 5) - units / Exact.one| ≤ 5 * 10 ^ ((k : Int) - 6) := by
  have herror := abs_sub_div_le (lastStep_pos Exact.one_pos k) hnear
  have hhalf : 5 * (10 : ℚ) ^ ((k : Int) - 6) = 1 / 2 * 10 ^ ((k : Int) - 5) := by
    rw [show (k : Int) - 6 = (k : Int) - 5 - 1 by omega, zpow_sub_one₀ (by norm_num)]
    ring
  rw [cast_lastStep hk] at herror
  rw [hhalf]
  exact abs_mul_sub_div_le Exact.one_pos (by positivity) herror

/-- The magnitude on the screen.  In plain form it is a multiple of the last place, in
scientific notation one of the last digit of a mantissa of six digits, and in either form it
is off by at most half of that. -/
theorem exists_value_ofFloat {x : Float} {negative : Bool} {units : Nat}
    (h : Exact.ofFloat x = .finite negative units) :
    ∃ magnitude : ℚ, 0 ≤ magnitude ∧ value? (ofFloat x) = some (signed negative magnitude) ∧
      (IsPlain (ofFloat x) → (∃ n : Nat, magnitude = n / 10 ^ 8) ∧
        |magnitude - units / Exact.one| ≤ 5 / 10 ^ 9) ∧
      ∀ exponent : Nat, IsScientific (ofFloat x) exponent →
        (∃ m : Nat, 10 ^ 5 ≤ m ∧ m < 10 ^ 6 ∧ magnitude = m * 10 ^ ((exponent : Int) - 5)) ∧
        |magnitude - units / Exact.one| ≤ 5 * 10 ^ ((exponent : Int) - 6) := by
  have hcases := ofFloat_finite_cases h
  split at hcases
  · obtain ⟨m, k, -, hk, -, hle, hlt, hnear, htext, hscientific⟩ := hcases
    have hreads := ofScientific?_scientificBody m k
    have hvalue : Decimal.toRat ⟨m, -(mantissaPlaces : Int) + k⟩ = m * 10 ^ ((k : Int) - 5) := by
      rw [Decimal.toRat, neg_add_eq_sub]
      rfl
    refine ⟨m * 10 ^ ((k : Int) - 5), by positivity, ?_, ?_, ?_⟩
    · rw [htext, value?_sign_append negative hreads, hvalue]
      intro c hc
      rw [scientificBody, List.append_assoc] at hc
      exact isRunCharacter_of_head?_digits hc
    · exact fun hplain => absurd hscientific.mark_mem hplain.mark_notMem
    · intro exponent hexponent
      obtain rfl := hexponent.exponent_unique hscientific
      exact ⟨⟨m, hle, hlt, rfl⟩, abs_mantissa_sub_le hk hnear⟩
  · obtain ⟨htext, hplain⟩ := hcases
    rw [trimmed_eq] at htext
    obtain ⟨d, hreads, hvalue⟩ := toRat_plainBody (lastPlaces units)
    refine ⟨lastPlaces units / 10 ^ 8, by positivity, ?_, ?_, ?_⟩
    · have hsign : signed (negative && lastPlaces units != 0) (lastPlaces units / 10 ^ 8) =
          signed negative (lastPlaces units / 10 ^ 8) := by
        by_cases hzero : lastPlaces units = 0
        · simp [hzero]
        · have hsigned : (negative && lastPlaces units != 0) = negative := by simp [hzero]
          rw [hsigned]
      rw [htext, value?_sign_append _ hreads, hvalue, hsign]
      exact fun c hc => isRunCharacter_of_head?_digits hc
    · exact fun _ => ⟨⟨lastPlaces units, rfl⟩, abs_lastPlaces_sub_le units⟩
    · exact fun exponent hscientific => absurd hscientific.mark_mem hplain.mark_notMem

/-- A multiple of the last place that is nearest to a whole number is that number. -/
theorem eq_of_abs_sub_le {count whole : ℤ}
    (h : |(count : ℚ) / 10 ^ 8 - whole| ≤ 5 / 10 ^ 9) : (count : ℚ) / 10 ^ 8 = whole := by
  obtain ⟨hlower, hupper⟩ := abs_le.1 h
  have hlower' : (-1 : ℚ) < count - whole * 10 ^ 8 := by linarith
  have hupper' : (count : ℚ) - whole * 10 ^ 8 < 1 := by linarith
  have hcount : count = whole * 10 ^ 8 := by
    have hlower'' : -1 < count - whole * 10 ^ 8 := by exact_mod_cast hlower'
    have hupper'' : count - whole * 10 ^ 8 < 1 := by exact_mod_cast hupper'
    omega
  rw [hcount, Int.cast_mul, Int.cast_pow, Int.cast_ofNat]
  field_simp

/-- The number on the screen is a nearest one to the value of a finite double.  A plain
decimal is a multiple of {lit}`10 ^ (-8)`, and a whole value is shown as it is; scientific
notation has six significant digits.  The error is at most half a unit of the last digit,
and the sign on the screen never opposes the sign of the value. -/
theorem value?_ofFloat_nearest {x : Float} {q : ℚ} (h : (Exact.ofFloat x).toRat? = some q) :
    ∃ D : ℚ, value? (ofFloat x) = some D ∧
      (IsPlain (ofFloat x) ∨ ∃ exponent, IsScientific (ofFloat x) exponent) ∧
      (IsPlain (ofFloat x) → (∃ n : ℤ, D = n / 10 ^ 8) ∧ |D - q| ≤ 5 / 10 ^ 9 ∧
        ∀ n : ℤ, q = n → D = q) ∧
      (∀ exponent : Nat, IsScientific (ofFloat x) exponent →
        (∃ m : ℤ, 10 ^ 5 ≤ |m| ∧ |m| < 10 ^ 6 ∧ D = m * 10 ^ ((exponent : Int) - 5)) ∧
        |D - q| ≤ 5 * 10 ^ ((exponent : Int) - 6)) ∧
      0 ≤ D * q := by
  obtain ⟨negative, units, hx, rfl⟩ := Exact.exists_units_of_toRat? h
  obtain ⟨magnitude, hnonneg, hvalue, hplain, hscientific⟩ := exists_value_ofFloat hx
  refine ⟨signed negative magnitude, hvalue, isPlain_or_isScientific hx, fun hshape => ?_,
    fun exponent hshape => ?_, signed_mul_signed_nonneg negative hnonneg (by positivity)⟩
  · obtain ⟨⟨n, hn⟩, herror⟩ := hplain hshape
    rw [← abs_signed_sub negative] at herror
    obtain ⟨count, hcount⟩ : ∃ count : ℤ, signed negative magnitude = count / 10 ^ 8 := by
      cases negative with
      | false => exact ⟨n, by rw [signed_false, hn, Int.cast_natCast]⟩
      | true => exact ⟨-n, by rw [signed_true, hn, Int.cast_neg, Int.cast_natCast, neg_div]⟩
    refine ⟨⟨count, hcount⟩, herror, fun whole hwhole => ?_⟩
    rw [hwhole, hcount] at herror ⊢
    exact eq_of_abs_sub_le herror
  · obtain ⟨⟨m, hle, hlt, hm⟩, herror⟩ := hscientific exponent hshape
    rw [← abs_signed_sub negative] at herror
    refine ⟨?_, herror⟩
    cases negative with
    | false =>
      refine ⟨m, by simpa using hle, by simpa using hlt, ?_⟩
      rw [signed_false, hm, Int.cast_natCast]
    | true =>
      refine ⟨-m, by simpa using hle, by simpa using hlt, ?_⟩
      rw [signed_true, hm, Int.cast_neg, Int.cast_natCast, neg_mul]

/-- The largest whole number with fifty-three binary digits has sixteen decimal digits and
is shown with six of them. -/
theorem value?_ofFloat_nearest_sixteen_digits :
    let x := Exact.ofNat 9007199254740991
    (Exact.ofFloat x).toRat? = some 9007199254740991 ∧
      ofFloat x = "9.00720e+15".toList ∧
      ∃ D : ℚ, value? (ofFloat x) = some D ∧ |D - 9007199254740991| ≤ 5 * 10 ^ 9 := by
  intro x
  have hvalue : Exact.ofFloat x = .finite false (9007199254740991 * Exact.one) :=
    Exact.ofFloat_nearest_mul_one false (by decide)
  have hone : (Exact.one : ℚ) ≠ 0 := by exact_mod_cast Exact.one_pos.ne'
  have hrational : (Exact.ofFloat x).toRat? = some 9007199254740991 := by
    rw [hvalue, Exact.toRat?, signed_false, Nat.cast_mul, mul_div_cancel_right₀ _ hone,
      Nat.cast_ofNat]
  have hlong : width < (trimmed false (9007199254740991 * Exact.one)).length := by
    rw [trimmed_mul_one false (by decide)]
    decide
  have hmantissa := mantissa_mul (n := 9007199254740991) (m := 900720) (k := 15)
    Exact.one_pos (by decide) (by decide) (by decide) (by decide)
  have htext : ofFloat x = sign false ++ scientificBody 900720 15 :=
    ofFloat_of_long hvalue hlong hmantissa
  have hshape : IsScientific (ofFloat x) 15 :=
    htext ▸ isScientific_scientificBody false (by decide) (by decide) (by decide)
  obtain ⟨D, hD, -, -, hscientific, -⟩ := value?_ofFloat_nearest hrational
  have herror := (hscientific 15 hshape).2
  norm_num at herror
  exact ⟨hrational, htext.trans (by decide), D, hD, by norm_num; exact herror⟩

end Display

end PocketCalculator
