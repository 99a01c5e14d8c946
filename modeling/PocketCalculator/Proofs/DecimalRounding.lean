import PocketCalculator.Number.Decimal
import PocketCalculator.Proofs.NearestDouble

/-!
# Numerals and the nearest double

A numeral whose digits and exponent put it out of range is settled without its power of
ten.  This changes nothing: below the range the nearest double is zero, and above it the
nearest double would pass the largest one by more than half a step, so it is infinity.

Main results:

- Theorems {lit}`Exact.nearest_eq_zero` and {lit}`Exact.nearest_eq_infinity`: the nearest
  double to a fraction that is out of range.
- Theorem {lit}`Decimal.toFloat_eq_nearest`: a numeral stands for the double nearest to its
  exact value.
-/

namespace PocketCalculator

namespace Exact

/-! ## Out of range -/

/-- The nearest double to less than half of the least unit is zero. -/
theorem nearest_eq_zero {num den : Nat} (h : 2 * num < den) : nearest false num den = 0 := by
  have hcoarseness : bitLength (num / den) - 53 = 0 := by
    rw [Nat.div_eq_of_lt (by omega)]
    rfl
  have hround : roundHalfEven num den = 0 := by
    rw [roundHalfEven_eq_iff (by omega)]
    unfold Nat.dist
    omega
  have hbits : nearestBits num den = 0 := by
    unfold nearestBits
    dsimp only
    rw [hcoarseness, Nat.pow_zero, Nat.mul_one, hround, Nat.zero_mul, Nat.zero_add, Nat.zero_min]
  rw [nearest, hbits]
  decide +kernel

/-- The nearest double to what reaches the first value beyond the largest one is infinity. -/
theorem nearest_eq_infinity {num den : Nat} (hden : 0 < den) (h : beyond * den ≤ num) :
    nearest false num den = infinity := by
  have hlength : exponentBeyond < bitLength (num / den) := by
    have hle : 2 ^ exponentBeyond ≤ num / den := (Nat.le_div_iff_mul_le hden).2 h
    have hlt := lt_two_pow_bitLength (num / den)
    exact (Nat.pow_lt_pow_iff_right (by decide)).1 (Nat.lt_of_le_of_lt hle hlt)
  have hcoarseness : specialField - 1 ≤ coarseness num den := by
    unfold coarseness
    unfold exponentBeyond at hlength
    unfold specialField
    omega
  have hround := le_significand hden (Nat.lt_of_lt_of_le (by decide) hcoarseness)
  have hbits : nearestBits num den = specialField * fractions := by
    apply Nat.min_eq_right
    have hshift := Nat.mul_le_mul_right fractions hcoarseness
    rw [Nat.sub_mul, Nat.one_mul] at hshift
    unfold coarseness at hround hshift
    omega
  rw [nearest, hbits]
  decide +kernel

end Exact

namespace Decimal

/-! ## The value of a numeral -/

/-- A number has as many digits as the least power of ten above it has zeros. -/
theorem lt_pow_digitCount (n : Nat) : n < 10 ^ digitCount n :=
  (Nat.length_toDigits_le_iff (by decide) Nat.length_toDigits_pos).1 (Nat.le_refl _)

/-- A positive number reaches the power of ten with one zero less than it has digits. -/
theorem pow_digitCount_le {n : Nat} (h : n ≠ 0) : 10 ^ (digitCount n - 1) ≤ n := by
  have hcount : 0 < digitCount n := Nat.length_toDigits_pos
  by_contra hlt
  by_cases hone : digitCount n = 1
  · rw [hone, Nat.sub_self, Nat.pow_zero] at hlt
    omega
  · have hle : digitCount n ≤ digitCount n - 1 :=
      (Nat.length_toDigits_le_iff (by decide) (by omega)).2 (Nat.lt_of_not_le hlt)
    omega

/-- A numeral stands for the double nearest to its exact value. -/
theorem toFloat_eq_nearest (d : Decimal) :
    d.toFloat = Exact.nearest false (d.coefficient * 10 ^ d.exponent.toNat * Exact.one)
      (10 ^ (-d.exponent).toNat) := by
  have hden : 0 < 10 ^ (-d.exponent).toNat := Nat.pow_pos (by decide)
  rw [toFloat]
  split
  · next hsmall =>
    symm
    apply Exact.nearest_eq_zero
    rcases hsmall with hzero | hbelow
    · rw [hzero, Nat.zero_mul, Nat.zero_mul]
      exact hden
    · have hfloor : floor = -324 := rfl
      have hunits : 2 * Exact.one ≤ 10 ^ (-floor).toNat := by decide +kernel
      have hwhole : d.exponent.toNat = 0 := by omega
      rw [hwhole, Nat.pow_zero, Nat.mul_one]
      calc 2 * (d.coefficient * Exact.one)
          = d.coefficient * (2 * Exact.one) := Nat.mul_left_comm _ _ _
        _ < 10 ^ digitCount d.coefficient * (2 * Exact.one) :=
            Nat.mul_lt_mul_of_pos_right (lt_pow_digitCount _)
              (Nat.mul_pos (by decide) Exact.one_pos)
        _ ≤ 10 ^ digitCount d.coefficient * 10 ^ (-floor).toNat := Nat.mul_le_mul_left _ hunits
        _ = 10 ^ (digitCount d.coefficient + (-floor).toNat) := (Nat.pow_add _ _ _).symm
        _ ≤ 10 ^ (-d.exponent).toNat := Nat.pow_le_pow_right (by decide) (by omega)
  next hsmall =>
  obtain ⟨hne, -⟩ := not_or.1 hsmall
  split
  · next habove =>
    symm
    apply Exact.nearest_eq_infinity hden
    have hceiling : ceiling = 309 := rfl
    have hunits : Exact.beyond ≤ 10 ^ ceiling.toNat * Exact.one := by decide +kernel
    calc Exact.beyond * 10 ^ (-d.exponent).toNat
        ≤ 10 ^ ceiling.toNat * Exact.one * 10 ^ (-d.exponent).toNat :=
          Nat.mul_le_mul_right _ hunits
      _ = 10 ^ (ceiling.toNat + (-d.exponent).toNat) * Exact.one := by
          rw [Nat.pow_add, Nat.mul_right_comm]
      _ ≤ 10 ^ (digitCount d.coefficient - 1 + d.exponent.toNat) * Exact.one :=
          Nat.mul_le_mul_right _ (Nat.pow_le_pow_right (by decide) (by omega))
      _ = 10 ^ (digitCount d.coefficient - 1) * 10 ^ d.exponent.toNat * Exact.one := by
          rw [Nat.pow_add]
      _ ≤ d.coefficient * 10 ^ d.exponent.toNat * Exact.one :=
          Nat.mul_le_mul_right _ (Nat.mul_le_mul_right _ (pow_digitCount_le hne))
  split
  · next hwhole =>
    have hdecimals : (-d.exponent).toNat = 0 := by omega
    rw [hdecimals, Nat.pow_zero]
  · next hdecimals =>
    have hwhole : d.exponent.toNat = 0 := by omega
    rw [hwhole, Nat.pow_zero, Nat.mul_one]

/-- The double nearest to a numeral without decimals. -/
theorem toFloat_natCast (coefficient power : Nat) :
    toFloat ⟨coefficient, (power : Int)⟩ =
      Exact.nearest false (coefficient * 10 ^ power * Exact.one) 1 := by
  have hdecimals : (-(power : Int)).toNat = 0 := by omega
  rw [toFloat_eq_nearest, Int.toNat_natCast, hdecimals, Nat.pow_zero]

/-- The double nearest to a numeral with decimals. -/
theorem toFloat_neg_natCast (coefficient decimals : Nat) :
    toFloat ⟨coefficient, -(decimals : Int)⟩ =
      Exact.nearest false (coefficient * Exact.one) (10 ^ decimals) := by
  have hwhole : (-(decimals : Int)).toNat = 0 := by omega
  rw [toFloat_eq_nearest, Int.neg_neg, Int.toNat_natCast, hwhole, Nat.pow_zero, Nat.mul_one]

end Decimal

end PocketCalculator
