import Mathlib.Data.Nat.Log
import PocketCalculator.Display.Scientific
import PocketCalculator.Proofs.NearestDouble

/-!
# The mantissa of a value

A value of at least {lit}`10 ^ 5` has a mantissa of six digits and an exponent that is
not below five.  The mantissa is the value rounded to a whole number of steps of its last
place, also where the rounding carries into the exponent.  Nothing else is so near to the
value, so that whatever lies close to a mantissa has the same one.

Main definitions:

- {lit}`Display.lastStep` is the step of the last place of a mantissa.

Main results:

- Theorem {lit}`Display.decimalExponent_eq`: the exponent of the leading digit is told by
  the powers of ten around the value.
- Theorem {lit}`Display.exists_mantissa`: the digits, the exponent and the error of a
  mantissa.
- Theorems {lit}`Display.mantissa_eq_of_le` and {lit}`Display.mantissa_eq_of_lt`: what is
  near to a mantissa has it, above a power of ten and just below one.
- Theorem {lit}`Display.mantissa_eq_of_dist_lt`: what is very near to a mantissa has it on
  either side.
- Theorem {lit}`Display.scientific_mul_mul`: the text depends on the value of a fraction only.
-/

namespace PocketCalculator.Display

/-! ## The leading digit -/

/-- A number below a power of ten and not below the one before has as many digits. -/
theorem length_digits_eq {n k : Nat} (hle : 10 ^ k ≤ n) (hlt : n < 10 ^ (k + 1)) :
    (digits n).length = k + 1 := by
  have hupper : (digits n).length ≤ k + 1 :=
    (Nat.length_toDigits_le_iff (by decide) (Nat.succ_pos k)).2 hlt
  have hlower : ¬ (digits n).length ≤ k := by
    cases k with
    | zero =>
      have hpositive : 0 < (digits n).length := Nat.length_toDigits_pos
      omega
    | succ k =>
      rw [digits, Nat.length_toDigits_le_iff (by decide) (Nat.succ_pos k)]
      exact Nat.not_lt.2 hle
  omega

/-- Every number but zero lies between two powers of ten. -/
theorem exists_ten_pow_le {n : Nat} (h : n ≠ 0) : ∃ k, 10 ^ k ≤ n ∧ n < 10 ^ (k + 1) :=
  ⟨Nat.log 10 n, Nat.pow_log_le_self 10 h, Nat.lt_pow_succ_log_self (by decide) n⟩

variable {num den : Nat}

/-- The leading digit of a fraction stands where the powers of ten around it say. -/
theorem decimalExponent_eq {k : Nat} (hden : 0 < den) (hle : 10 ^ k * den ≤ num)
    (hlt : num < 10 ^ (k + 1) * den) : decimalExponent num den = k := by
  have hself : den ≤ 10 ^ k * den := Nat.le_mul_of_pos_left den (Nat.pow_pos (by decide))
  have hlength : (digits (num / den)).length = k + 1 :=
    length_digits_eq ((Nat.le_div_iff_mul_le hden).2 hle) ((Nat.div_lt_iff_lt_mul hden).2 hlt)
  rw [decimalExponent, if_neg (by omega), if_pos (by omega), hlength]
  omega

/-- A fraction that is not below one lies between two powers of ten. -/
theorem exists_decimalExponent (hden : 0 < den) (h : den ≤ num) :
    ∃ k, 10 ^ k * den ≤ num ∧ num < 10 ^ (k + 1) * den := by
  have hquotient : num / den ≠ 0 := Nat.ne_of_gt (Nat.div_pos h hden)
  obtain ⟨k, hle, hlt⟩ := exists_ten_pow_le hquotient
  exact ⟨k, (Nat.le_div_iff_mul_le hden).1 hle, (Nat.div_lt_iff_lt_mul hden).1 hlt⟩

/-! ## The last place -/

/-- The step of the last place of a mantissa with a given exponent. -/
def lastStep (exponent den : Nat) : Nat := den * 10 ^ (exponent - mantissaPlaces)

theorem lastStep_pos (hden : 0 < den) (k : Nat) : 0 < lastStep k den :=
  Nat.mul_pos hden (Nat.pow_pos (by decide))

/-- A larger exponent has no smaller step. -/
theorem lastStep_le {j k : Nat} (h : j ≤ k) (den : Nat) : lastStep j den ≤ lastStep k den :=
  Nat.mul_le_mul_left _ (Nat.pow_le_pow_right (by decide) (Nat.sub_le_sub_right h _))

/-- The next exponent has a step ten times as large. -/
theorem lastStep_succ {k : Nat} (h : mantissaPlaces ≤ k) (den : Nat) :
    lastStep (k + 1) den = 10 * lastStep k den := by
  rw [lastStep, lastStep, Nat.succ_sub h, Nat.pow_succ, ← Nat.mul_assoc, Nat.mul_comm]

/-- A power of ten is a mantissa with no digit but the first. -/
theorem ten_pow_mul_eq {k : Nat} (h : mantissaPlaces ≤ k) (den : Nat) :
    10 ^ k * den = 10 ^ mantissaPlaces * lastStep k den := by
  rw [lastStep, Nat.mul_comm den, ← Nat.mul_assoc, ← Nat.pow_add, Nat.add_sub_cancel' h]

/-- With an exponent that is not below the number of its places, a significand counts whole
steps. -/
theorem significandAt_eq {k : Nat} (h : mantissaPlaces ≤ k) (num den : Nat) :
    significandAt k num den = roundHalfEven num (lastStep k den) := by
  have hshift : (0 : Int) ≤ (k : Int) - mantissaPlaces := by omega
  have hplaces : ((k : Int) - mantissaPlaces).toNat = k - mantissaPlaces := by omega
  rw [significandAt]
  rw [if_pos hshift, hplaces, lastStep]

/-! ## Digits, exponent and error -/

/-- A value of at least {lit}`10 ^ 5` has a mantissa of six digits, which is off by at most
half a step of its last place.  A carry leaves a power of ten, the first mantissa of the next
exponent. -/
theorem exists_mantissa (hden : 0 < den) (h : 10 ^ mantissaPlaces * den ≤ num) :
    ∃ m k : Nat, mantissa num den = (m, (k : Int)) ∧ mantissaPlaces ≤ k ∧
      10 ^ mantissaPlaces ≤ m ∧ m < 10 ^ (mantissaPlaces + 1) ∧
      2 * Nat.dist num (m * lastStep k den) ≤ lastStep k den := by
  have hsix : 10 ^ (mantissaPlaces + 1) = 10 * 10 ^ mantissaPlaces := Nat.pow_succ'
  have hself : den ≤ 10 ^ mantissaPlaces * den :=
    Nat.le_mul_of_pos_left den (Nat.pow_pos (by decide))
  obtain ⟨k, hle, hlt⟩ := exists_decimalExponent hden (Nat.le_trans hself h)
  have hk : mantissaPlaces ≤ k := by
    have hpow := Nat.lt_of_mul_lt_mul_right (Nat.lt_of_le_of_lt h hlt)
    have := (Nat.pow_lt_pow_iff_right (by decide : 1 < 10)).1 hpow
    omega
  have hexponent := decimalExponent_eq hden hle hlt
  have hstep := lastStep_pos hden k
  rw [ten_pow_mul_eq hk] at hle
  rw [Nat.pow_succ', Nat.mul_assoc, ten_pow_mul_eq hk, ← Nat.mul_assoc, ← hsix] at hlt
  have herror := dist_roundHalfEven_le_half hstep num
  have hbetween := div_le_roundHalfEven num (lastStep k den)
  have hdigits : 10 ^ mantissaPlaces ≤ num / lastStep k den :=
    (Nat.le_div_iff_mul_le hstep).2 hle
  have hsignificand : num / lastStep k den < 10 ^ (mantissaPlaces + 1) :=
    (Nat.div_lt_iff_lt_mul hstep).2 hlt
  by_cases hcarry : roundHalfEven num (lastStep k den) < 10 ^ (mantissaPlaces + 1)
  · refine ⟨roundHalfEven num (lastStep k den), k, ?_, hk, by omega, hcarry, herror⟩
    rw [mantissa, hexponent, significandAt_eq hk, if_pos hcarry]
  · have hrounded : roundHalfEven num (lastStep k den) = 10 * 10 ^ mantissaPlaces := by omega
    refine ⟨10 ^ mantissaPlaces, k + 1, ?_, by omega, Nat.le_refl _, by omega, ?_⟩
    · rw [mantissa, hexponent, significandAt_eq hk, if_neg hcarry]
      rfl
    · rw [hrounded] at herror
      rw [lastStep_succ hk, ← Nat.mul_assoc, Nat.mul_comm (10 ^ mantissaPlaces) 10]
      omega

/-- Whatever is nearer to a mantissa than half a step of its last place has this mantissa,
if it is not below the power of ten of its exponent. -/
theorem mantissa_eq_of_le {m k : Nat} (hden : 0 < den) (hk : mantissaPlaces ≤ k)
    (hlt : m < 10 ^ (mantissaPlaces + 1)) (hpower : 10 ^ mantissaPlaces * lastStep k den ≤ num)
    (hnear : 2 * Nat.dist num (m * lastStep k den) < lastStep k den) :
    mantissa num den = (m, (k : Int)) := by
  have hsix : 10 ^ (mantissaPlaces + 1) = 10 * 10 ^ mantissaPlaces := Nat.pow_succ'
  have hnext := Nat.mul_le_mul_right (lastStep k den) hlt
  rw [Nat.succ_mul] at hnext
  have hexponent : decimalExponent num den = k := by
    refine decimalExponent_eq hden ?_ ?_
    · rw [ten_pow_mul_eq hk]
      exact hpower
    · rw [Nat.pow_succ', Nat.mul_assoc, ten_pow_mul_eq hk, ← Nat.mul_assoc, ← hsix]
      unfold Nat.dist at hnear
      omega
  have hrounds : roundHalfEven num (lastStep k den) = m :=
    (roundHalfEven_eq_iff (lastStep_pos hden k) _ _).2 (.inl hnear)
  rw [mantissa, hexponent, significandAt_eq hk, hrounds, if_pos hlt]

/-- The mantissa of a whole number. -/
theorem mantissa_mul {n m k : Nat} (hden : 0 < den) (hk : mantissaPlaces ≤ k)
    (hlt : m < 10 ^ (mantissaPlaces + 1)) (hpower : 10 ^ k ≤ n)
    (hnear : 2 * Nat.dist n (m * 10 ^ (k - mantissaPlaces)) < 10 ^ (k - mantissaPlaces)) :
    mantissa (n * den) den = (m, (k : Int)) := by
  have hstep : m * lastStep k den = m * 10 ^ (k - mantissaPlaces) * den := by
    rw [lastStep, Nat.mul_comm den, Nat.mul_assoc]
  refine mantissa_eq_of_le hden hk hlt ?_ ?_
  · rw [← ten_pow_mul_eq hk]
    exact Nat.mul_le_mul_right den hpower
  · rw [hstep, Nat.dist_mul_right, ← Nat.mul_assoc, lastStep, Nat.mul_comm den]
    exact Nat.mul_lt_mul_of_pos_right hnear hden

/-- What is just below a power of ten rounds up to it, although the step of the last place
is ten times smaller there. -/
theorem mantissa_eq_of_lt {k : Nat} (hden : 0 < den) (hk : mantissaPlaces ≤ k)
    (hbelow : num < 10 ^ mantissaPlaces * lastStep (k + 1) den)
    (hnear : 20 * Nat.dist num (10 ^ mantissaPlaces * lastStep (k + 1) den) <
      lastStep (k + 1) den) :
    mantissa num den = (10 ^ mantissaPlaces, ((k + 1 : Nat) : Int)) := by
  have hsix : 10 ^ (mantissaPlaces + 1) = 10 * 10 ^ mantissaPlaces := Nat.pow_succ'
  have hscaled : 10 ^ mantissaPlaces * (10 * lastStep k den) =
      10 ^ (mantissaPlaces + 1) * lastStep k den := by
    rw [hsix, Nat.mul_left_comm, Nat.mul_assoc]
  have hself : 10 * lastStep k den ≤ 10 ^ mantissaPlaces * lastStep k den :=
    Nat.mul_le_mul_right _ (by decide)
  rw [lastStep_succ hk, hscaled] at hnear hbelow
  have hexponent : decimalExponent num den = k := by
    refine decimalExponent_eq hden ?_ ?_
    · rw [ten_pow_mul_eq hk]
      rw [hsix, Nat.mul_assoc] at hnear
      unfold Nat.dist at hnear
      omega
    · rw [ten_pow_mul_eq (Nat.le_succ_of_le hk), lastStep_succ hk, hscaled]
      exact hbelow
  have hrounds : roundHalfEven num (lastStep k den) = 10 ^ (mantissaPlaces + 1) :=
    (roundHalfEven_eq_iff (lastStep_pos hden k) _ _).2 (.inl (by omega))
  rw [mantissa, hexponent, significandAt_eq hk, hrounds, if_neg (Nat.lt_irrefl _)]
  rfl

/-- Whatever is nearer to a mantissa than a twentieth of its last step has this mantissa. -/
theorem mantissa_eq_of_dist_lt {m k : Nat} (hden : 0 < den) (hk : mantissaPlaces < k)
    (hle : 10 ^ mantissaPlaces ≤ m) (hlt : m < 10 ^ (mantissaPlaces + 1))
    (hnear : 20 * Nat.dist num (m * lastStep k den) < lastStep k den) :
    mantissa num den = (m, (k : Int)) := by
  by_cases hbelow : num < 10 ^ mantissaPlaces * lastStep k den
  · obtain ⟨k, rfl⟩ : ∃ j, k = j + 1 := ⟨k - 1, by omega⟩
    obtain rfl : m = 10 ^ mantissaPlaces := by
      rcases Nat.eq_or_lt_of_le hle with hsame | hmore
      · exact hsame.symm
      · have hfar := Nat.mul_le_mul_right (lastStep (k + 1) den) hmore
        rw [Nat.succ_mul] at hfar
        unfold Nat.dist at hnear
        omega
    exact mantissa_eq_of_lt hden (Nat.le_of_lt_succ hk) hbelow hnear
  · exact mantissa_eq_of_le hden (Nat.le_of_lt hk) hlt (Nat.not_lt.1 hbelow) (by omega)

/-! ## Common factors -/

variable {factor : Nat}

/-- The last whole number below a multiple is found by division. -/
theorem mul_sub_one_div_mul (h : 0 < factor) (num : Nat) (hden : 0 < den) :
    (den * factor - 1) / (num * factor) = (den - 1) / num := by
  have hbelow : (factor * den - 1) / factor = den - 1 := by
    have hbelow := Nat.mul_sub_div 0 factor den (Nat.mul_pos h hden)
    rwa [Nat.zero_div] at hbelow
  rw [Nat.mul_comm den, Nat.mul_comm num, ← Nat.div_div_eq_div_mul, hbelow]

/-- The leading digit of a fraction does not depend on a common factor. -/
theorem decimalExponent_mul_mul (h : 0 < factor) (num den : Nat) :
    decimalExponent (num * factor) (den * factor) = decimalExponent num den := by
  by_cases hzero : num = 0
  · simp [decimalExponent, hzero]
  have hscaled : ¬ num * factor = 0 := Nat.mul_ne_zero hzero h.ne'
  rw [decimalExponent, decimalExponent, if_neg hscaled, if_neg hzero]
  by_cases hle : den ≤ num
  · rw [if_pos (Nat.mul_le_mul_right factor hle), if_pos hle, Nat.mul_div_mul_right _ _ h]
  · have hscaled' : ¬ den * factor ≤ num * factor :=
      fun hle' => hle (Nat.le_of_mul_le_mul_right hle' h)
    rw [if_neg hscaled', if_neg hle, mul_sub_one_div_mul h num (by omega)]

/-- The scientific text of a fraction does not depend on a common factor. -/
theorem scientific_mul_mul (negative : Bool) (h : 0 < factor) (num den : Nat) :
    scientific negative (num * factor) (den * factor) = scientific negative num den := by
  have hsignificand (exponent : Int) :
      significandAt exponent (num * factor) (den * factor) = significandAt exponent num den := by
    simp only [significandAt, Nat.mul_right_comm _ factor, roundHalfEven_mul_mul h]
  simp only [scientific, mantissa, decimalExponent_mul_mul h, hsignificand]

end PocketCalculator.Display
