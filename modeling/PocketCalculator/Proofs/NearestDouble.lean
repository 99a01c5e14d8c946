import Mathlib.Data.Nat.Dist
import PocketCalculator.Proofs.DoubleBits

/-!
# The nearest double

Rounding a quotient to a whole number picks a nearest one, and the even one of two.
Rounding a fraction of least units to a double does the same with a coarser grid,
whose step is the power of two that leaves fifty-three binary digits.

Main definitions:

- {lit}`Exact.coarseness` is the exponent of that power of two.
- {lit}`Exact.nearestUnits` is the value of the nearest double, in least units.

Main results:

- Theorem {lit}`roundHalfEven_eq_iff` characterises the rounding of a quotient.
- Theorem {lit}`roundHalfEven_eq_of_dist_le`: what is no farther from a rounding than
  the quotient itself rounds to the same number.
- Theorem {lit}`Exact.ofFloat_nearest`: the nearest double has the value
  {lit}`nearestUnits`, unless it passes the largest one.
- Theorem {lit}`Exact.dist_nearestUnits_le`: no count of least units with fifty-three
  binary digits lies nearer.
- Theorem {lit}`Exact.dist_nearestUnits_mul_le` bounds the relative error of rounding to a
  double.
- Theorem {lit}`Exact.nearestUnits_lt_beyond`: what does not pass the largest double is
  rounded to a finite one.
-/

namespace PocketCalculator

/-! ## The nearest whole number -/

/-- A rounding is off by at most half a unit. -/
theorem dist_roundHalfEven_le_half {den : Nat} (hden : 0 < den) (num : Nat) :
    2 * Nat.dist num (roundHalfEven num den * den) ≤ den := by
  have hle := roundHalfEven_le hden num
  have hge := le_roundHalfEven hden num
  unfold Nat.dist
  omega

/-- The rounding of a quotient is the only whole number within half a unit, or the
even one of the two at exactly half a unit.  Only the whole part of the quotient and the
number after it can be near enough. -/
theorem roundHalfEven_eq_iff {den : Nat} (hden : 0 < den) (num n : Nat) :
    roundHalfEven num den = n ↔
      2 * Nat.dist num (n * den) < den ∨ (2 * Nat.dist num (n * den) = den ∧ n % 2 = 0) := by
  have hsplit := Nat.div_add_mod num den
  have hmod := Nat.mod_lt num hden
  rw [Nat.mul_comm] at hsplit
  have hnext : (num / den + 1) * den = num / den * den + den := by
    rw [Nat.add_mul, Nat.one_mul]
  have hplace :
      n + 1 ≤ num / den ∨ n = num / den ∨ n = num / den + 1 ∨ num / den + 2 ≤ n := by
    omega
  simp only [roundHalfEven, Nat.dist]
  rcases hplace with hbelow | rfl | rfl | habove
  · have hfar := Nat.mul_le_mul_right den hbelow
    rw [Nat.add_mul, Nat.one_mul] at hfar
    repeat' split
    all_goals omega
  · repeat' split
    all_goals omega
  · rw [hnext]
    repeat' split
    all_goals omega
  · have hfar := Nat.mul_le_mul_right den habove
    rw [Nat.add_mul] at hfar
    repeat' split
    all_goals omega

/-- No whole number is nearer to a quotient than its rounding. -/
theorem dist_roundHalfEven_le {den : Nat} (hden : 0 < den) (num n : Nat) :
    Nat.dist num (roundHalfEven num den * den) ≤ Nat.dist num (n * den) := by
  have hhalf := dist_roundHalfEven_le_half hden num
  rcases Nat.lt_trichotomy (roundHalfEven num den) n with hlt | rfl | hgt
  · have hstep := Nat.mul_le_mul_right den hlt
    rw [Nat.succ_mul] at hstep
    unfold Nat.dist at hhalf ⊢
    omega
  · exact Nat.le_refl _
  · have hstep := Nat.mul_le_mul_right den hgt
    rw [Nat.succ_mul] at hstep
    unfold Nat.dist at hhalf ⊢
    omega

/-- What is no farther from a rounding than the rounded number rounds there too. -/
theorem roundHalfEven_eq_of_dist_le {den : Nat} (hden : 0 < den) {num other n : Nat}
    (hrounds : roundHalfEven num den = n)
    (hnear : Nat.dist other (n * den) ≤ Nat.dist num (n * den)) :
    roundHalfEven other den = n := by
  rw [roundHalfEven_eq_iff hden] at hrounds ⊢
  omega

/-- A rounding is the whole part of its quotient or the number after it. -/
theorem div_le_roundHalfEven (num den : Nat) :
    num / den ≤ roundHalfEven num den ∧ roundHalfEven num den ≤ num / den + 1 := by
  simp only [roundHalfEven]
  repeat' split
  all_goals omega

/-- A common factor does not change the rounding of a quotient. -/
theorem roundHalfEven_mul_mul {factor : Nat} (h : 0 < factor) (num den : Nat) :
    roundHalfEven (num * factor) (den * factor) = roundHalfEven num den := by
  simp only [roundHalfEven, Nat.mul_div_mul_right _ _ h, Nat.mul_mod_mul_right,
    ← Nat.mul_assoc, Nat.mul_lt_mul_right h]

/-! ## The nearest double -/

namespace Exact

/-- The exponent of the step between doubles around {lit}`num / den` least units. -/
def coarseness (num den : Nat) : Nat := bitLength (num / den) - 53

/-- The value of the double nearest to {lit}`num / den` least units. -/
def nearestUnits (num den : Nat) : Nat :=
  roundHalfEven num (den * 2 ^ coarseness num den) * 2 ^ coarseness num den

/-- The exponent of the first power of two that passes the largest double. -/
def exponentBeyond : Nat := 2098

/-- The first value that passes the largest double by a whole step. -/
def beyond : Nat := 2 ^ exponentBeyond

theorem lt_two_pow_bitLength (n : Nat) : n < 2 ^ bitLength n := by
  unfold bitLength
  split
  · next hzero => rw [hzero]; decide
  · exact Nat.lt_log2_self

theorem two_pow_le_of_lt_bitLength {n k : Nat} (h : k < bitLength n) : 2 ^ k ≤ n := by
  unfold bitLength at h
  split at h
  · omega
  · next hne => exact (Nat.le_log2 hne).1 (Nat.le_of_lt_succ h)

/-- A step above one leaves fifty-two binary digits before the last. -/
theorem le_num_of_coarseness_pos {num den : Nat} (hden : 0 < den)
    (h : 0 < coarseness num den) :
    fractions * (den * 2 ^ coarseness num den) ≤ num := by
  have hbits : 52 + coarseness num den < bitLength (num / den) := by
    unfold coarseness at h ⊢
    omega
  have hquotient := two_pow_le_of_lt_bitLength hbits
  rw [Nat.le_div_iff_mul_le hden] at hquotient
  calc fractions * (den * 2 ^ coarseness num den)
      = 2 ^ (52 + coarseness num den) * den := by
        rw [fractions, Nat.pow_add, Nat.mul_comm den, Nat.mul_assoc]
    _ ≤ num := hquotient

/-- The rounded significand has fifty-three binary digits, or is the next power of two. -/
theorem significand_le {num den : Nat} (hden : 0 < den) :
    roundHalfEven num (den * 2 ^ coarseness num den) ≤ 2 ^ 53 := by
  have hquotient : num < den * 2 ^ coarseness num den * 2 ^ 53 := by
    have hlt : num / den < 2 ^ (coarseness num den + 53) :=
      Nat.lt_of_lt_of_le (lt_two_pow_bitLength _)
        (Nat.pow_le_pow_right (by decide) (by unfold coarseness; omega))
    rw [Nat.div_lt_iff_lt_mul hden] at hlt
    calc num < 2 ^ (coarseness num den + 53) * den := hlt
      _ = den * 2 ^ coarseness num den * 2 ^ 53 := by
        rw [Nat.pow_add, Nat.mul_comm, Nat.mul_assoc]
  have hround := (div_le_roundHalfEven num (den * 2 ^ coarseness num den)).2
  have hdiv := Nat.div_lt_of_lt_mul hquotient
  omega

/-- With a step above one, the rounded significand has all of its digits. -/
theorem le_significand {num den : Nat} (hden : 0 < den) (h : 0 < coarseness num den) :
    fractions ≤ roundHalfEven num (den * 2 ^ coarseness num den) := by
  have hround := (div_le_roundHalfEven num (den * 2 ^ coarseness num den)).1
  have hdiv := (Nat.le_div_iff_mul_le (Nat.mul_pos hden (Nat.two_pow_pos _))).2
    (le_num_of_coarseness_pos hden h)
  omega

/-- Positive bits are read from their two fields. -/
theorem ofBits_fields {field fraction : Nat} (hfield : field < specialField)
    (hfraction : fraction < fractions) :
    ofBits (field * fractions + fraction) = ofFields false field fraction := by
  unfold specialField fractions at *
  rw [ofBits_eq_ofFields, fractions, decide_eq_false (by omega),
    show (field * 2 ^ 52 + fraction) / 2 ^ 52 % 2 ^ 11 = field by omega,
    show (field * 2 ^ 52 + fraction) % 2 ^ 52 = fraction by omega]

/-- A positive exponent field puts a one before the fraction and scales both. -/
theorem ofBits_succ_field {shift fraction : Nat} (hfield : shift + 1 < specialField)
    (hfraction : fraction < fractions) :
    ofBits ((shift + 1) * fractions + fraction) =
      .finite false ((fractions + fraction) * 2 ^ shift) := by
  rw [ofBits_fields hfield hfraction, ofFields, if_neg (Nat.ne_of_lt hfield),
    if_neg (Nat.succ_ne_zero shift), Nat.add_sub_cancel]

/-- The bits of finite doubles come before those of infinity. -/
theorem fields_le {field fraction : Nat} (hfield : field < specialField)
    (hfraction : fraction < fractions) :
    field * fractions + fraction ≤ specialField * fractions := by
  calc field * fractions + fraction ≤ (field + 1) * fractions := by
        rw [Nat.succ_mul]
        omega
    _ ≤ specialField * fractions := Nat.mul_le_mul_right _ hfield

/-- A finite value with that many binary digits after its first, in steps of a scale,
keeps its exponent field below the special one. -/
theorem digits_add_lt {significand shift digits : Nat} (hdigits : 2 ^ digits ≤ significand)
    (hfits : significand * 2 ^ shift < beyond) : digits + shift < specialField + 51 := by
  have hpow : 2 ^ (digits + shift) < beyond := by
    rw [Nat.pow_add]
    exact Nat.lt_of_le_of_lt (Nat.mul_le_mul_right _ hdigits) hfits
  have hexponent : specialField + 51 = exponentBeyond := rfl
  unfold beyond at hpow
  rw [hexponent]
  exact (Nat.pow_lt_pow_iff_right (by decide : 1 < 2)).1 hpow

/-- Adding a significand to the exponent field gives the bits of the scaled
significand.  A carry moves into the exponent field and leaves no fraction. -/
theorem ofBits_add {shift significand : Nat} (hle : significand ≤ 2 ^ 53)
    (hge : 0 < shift → fractions ≤ significand) (hfits : significand * 2 ^ shift < beyond) :
    ofBits (shift * fractions + significand) = .finite false (significand * 2 ^ shift) ∧
      shift * fractions + significand ≤ specialField * fractions := by
  have hscale : fractions = 2 ^ 52 := rfl
  rcases Nat.lt_or_ge significand fractions with hsmall | hlarge
  · obtain rfl : shift = 0 := by omega
    have hzero : 0 < specialField := by decide
    rw [Nat.pow_zero, Nat.mul_one]
    exact ⟨ofBits_fields hzero hsmall, fields_le hzero hsmall⟩
  rcases Nat.lt_or_ge significand (2 ^ 53) with hproper | hcarry
  · have hfield : shift + 1 < specialField := by
      have hbelow := digits_add_lt (hlarge : 2 ^ 52 ≤ significand) hfits
      omega
    have hfraction : significand - fractions < fractions := by omega
    have hbits : shift * fractions + significand =
        (shift + 1) * fractions + (significand - fractions) := by
      rw [Nat.succ_mul]
      omega
    rw [hbits, ofBits_succ_field hfield hfraction, Nat.add_sub_cancel' hlarge]
    exact ⟨rfl, fields_le hfield hfraction⟩
  · obtain rfl : significand = 2 ^ 53 := by omega
    have hfield : shift + 1 + 1 < specialField := by
      have hbelow := digits_add_lt (Nat.le_refl (2 ^ 53)) hfits
      omega
    have hfraction : 0 < fractions := by decide
    have hbits : shift * fractions + 2 ^ 53 = (shift + 1 + 1) * fractions + 0 := by
      rw [Nat.succ_mul, Nat.succ_mul]
      omega
    have hscaled : 2 ^ 53 * 2 ^ shift = (fractions + 0) * 2 ^ (shift + 1) := by
      rw [hscale, Nat.pow_succ]
      omega
    rw [hbits, ofBits_succ_field hfield hfraction, hscaled]
    exact ⟨rfl, fields_le hfield hfraction⟩

/-- The nearest double has its value in whole steps, unless it passes the largest one. -/
theorem ofFloat_nearest {num den : Nat} (hden : 0 < den) (negative : Bool)
    (hfits : nearestUnits num den < beyond) :
    ofFloat (nearest negative num den) = .finite negative (nearestUnits num den) := by
  obtain ⟨hvalue, hle⟩ := ofBits_add (significand_le hden) (le_significand hden) hfits
  have hmagnitude : ofFloat (Float.ofBits (UInt64.ofNat (nearestBits num den))) =
      .finite false (nearestUnits num den) := by
    unfold nearestBits
    dsimp only
    rw [← coarseness, Nat.min_eq_left hle, ofFloat_ofBits hle]
    exact hvalue
  unfold nearest
  cases negative with
  | false => exact hmagnitude
  | true =>
    rw [if_pos rfl, ofFloat_neg, hmagnitude]
    rfl

/-- No count of least units with fifty-three binary digits lies nearer to a fraction than
its nearest double: it lies on the same grid, or below all counts with all digits on this
grid. -/
theorem dist_nearestUnits_le (num : Nat) {den significand : Nat} (shift : Nat) (hden : 0 < den)
    (hdigits : significand < 2 ^ 53) :
    Nat.dist num (nearestUnits num den * den) ≤
      Nat.dist num (significand * 2 ^ shift * den) := by
  have hstep : 0 < den * 2 ^ coarseness num den := Nat.mul_pos hden (Nat.two_pow_pos _)
  have hscaled (n : Nat) :
      n * 2 ^ coarseness num den * den = n * (den * 2 ^ coarseness num den) := by
    rw [Nat.mul_assoc, Nat.mul_comm den]
  have hnearest := dist_roundHalfEven_le hstep num
  rw [nearestUnits, hscaled]
  rcases Nat.le_total (coarseness num den) shift with hle | hge
  · obtain ⟨more, rfl⟩ := Nat.exists_eq_add_of_le hle
    rw [Nat.pow_add, Nat.mul_comm _ (2 ^ more), ← Nat.mul_assoc significand, hscaled]
    exact hnearest _
  rcases Nat.eq_or_lt_of_le hge with rfl | hlt
  · rw [hscaled]
    exact hnearest _
  · have hleast := le_num_of_coarseness_pos hden (by omega : 0 < coarseness num den)
    have hother : significand * 2 ^ shift * den ≤
        fractions * (den * 2 ^ coarseness num den) := by
      rw [← hscaled]
      refine Nat.mul_le_mul_right den ?_
      calc significand * 2 ^ shift ≤ 2 ^ 53 * 2 ^ shift :=
            Nat.mul_le_mul_right _ (Nat.le_of_lt hdigits)
        _ = fractions * 2 ^ (shift + 1) := by
          rw [fractions, ← Nat.pow_add, ← Nat.pow_add]
          congr 1
          omega
        _ ≤ fractions * 2 ^ coarseness num den :=
          Nat.mul_le_mul_left _ (Nat.pow_le_pow_right (by decide) hlt)
    refine Nat.le_trans (hnearest fractions) ?_
    unfold Nat.dist
    omega

/-- A count of least units with fifty-three binary digits is its own nearest double. -/
theorem nearestUnits_eq_self {significand : Nat} (shift : Nat) (hdigits : significand < 2 ^ 53) :
    nearestUnits (significand * 2 ^ shift) 1 = significand * 2 ^ shift := by
  have hnearest := dist_nearestUnits_le (significand * 2 ^ shift) shift Nat.one_pos hdigits
  rw [Nat.mul_one, Nat.mul_one, Nat.dist_self] at hnearest
  exact (Nat.eq_of_dist_eq_zero (Nat.le_zero.1 hnearest)).symm

/-- Whole numbers with fifty-three binary digits are doubles. -/
theorem nearestUnits_mul_one {n : Nat} (h : n < 2 ^ 53) : nearestUnits (n * one) 1 = n * one := by
  obtain ⟨shift, -, hone⟩ := exists_one_eq
  rw [hone]
  exact nearestUnits_eq_self shift h

/-- Rounding to a double does not pass a whole number with fifty-three binary digits. -/
theorem mul_one_le_nearestUnits {n num : Nat} (hn : n < 2 ^ 53) (h : n * one ≤ num) :
    n * one ≤ nearestUnits num 1 := by
  obtain ⟨shift, -, hone⟩ := exists_one_eq
  have hnearest := dist_nearestUnits_le num shift Nat.one_pos hn
  rw [Nat.mul_one, Nat.mul_one, ← hone] at hnearest
  unfold Nat.dist at hnearest
  omega

/-- The nearest double to a count of least units is off by at most the fifty-third binary
digit of the count. -/
theorem dist_nearestUnits_mul_le (num : Nat) :
    2 * fractions * Nat.dist num (nearestUnits num 1) ≤ num := by
  by_cases hcoarse : coarseness num 1 = 0
  · have hself : nearestUnits num 1 = num := by
      rw [nearestUnits, hcoarse, Nat.pow_zero, Nat.mul_one, Nat.mul_one]
      exact (congrArg (roundHalfEven · 1) (Nat.mul_one num).symm).trans
        (roundHalfEven_mul Nat.one_pos num)
    rw [hself, Nat.dist_self]
    exact Nat.zero_le num
  · have hleast := le_num_of_coarseness_pos Nat.one_pos (Nat.pos_of_ne_zero hcoarse)
    have herror := dist_roundHalfEven_le_half
      (Nat.mul_pos Nat.one_pos (Nat.two_pow_pos (coarseness num 1))) num
    rw [Nat.one_mul] at hleast herror
    rw [nearestUnits, Nat.one_mul, Nat.mul_right_comm, Nat.mul_comm]
    exact Nat.le_trans (Nat.mul_le_mul_left _ herror) hleast

/-! ## The largest double -/

/-- The value of the largest double, in least units. -/
def largest : Nat := (2 ^ 53 - 1) * 2 ^ (exponentBeyond - 53)

/-- Powers of two up to {lit}`2 ^ 1024` do not pass the first value beyond. -/
theorem two_pow_mul_one_le_beyond {k : Nat} (h : k ≤ 1024) : 2 ^ k * one ≤ beyond := by
  obtain ⟨shift, hshift, hone⟩ := exists_one_eq
  rw [hone, beyond, ← Nat.pow_add]
  exact Nat.pow_le_pow_right (by decide) (by unfold exponentBeyond; omega)

/-- Whole numbers with fifty-three binary digits are the values of doubles. -/
theorem ofFloat_nearest_mul_one (negative : Bool) {n : Nat} (h : n < 2 ^ 53) :
    ofFloat (nearest negative (n * one) 1) = .finite negative (n * one) := by
  have hfits : nearestUnits (n * one) 1 < beyond :=
    calc nearestUnits (n * one) 1 = n * one := nearestUnits_mul_one h
      _ < 2 ^ 53 * one := Nat.mul_lt_mul_of_pos_right h one_pos
      _ ≤ beyond := two_pow_mul_one_le_beyond (by decide)
  rw [ofFloat_nearest Nat.one_pos negative hfits, nearestUnits_mul_one h]

/-- A finite double counts fewer units than the first value beyond the largest one. -/
theorem units_lt_beyond {x : Float} {negative : Bool} {units : Nat}
    (h : ofFloat x = .finite negative units) : units < beyond := by
  have hfraction : x.toBits.toNat % fractions < fractions := Nat.mod_lt _ (by decide)
  have hfield : x.toBits.toNat / fractions % 2 ^ 11 < 2 ^ 11 := Nat.mod_lt _ (by decide)
  have hsmall : 2 * fractions ≤ beyond :=
    (Nat.pow_le_pow_right (by decide) (by decide) : 2 ^ 53 ≤ 2 ^ exponentBeyond)
  have hspecial : specialField = 2047 := rfl
  rw [ofFloat, ofBits_eq_ofFields, ofFields] at h
  generalize x.toBits.toNat / fractions % 2 ^ 11 = field at h hfield
  generalize x.toBits.toNat % fractions = fraction at h hfraction
  split at h
  · split at h <;> exact absurd h (by simp)
  next hnumber =>
  split at h
  · obtain ⟨-, rfl⟩ := Exact.finite.inj h
    omega
  · obtain ⟨-, rfl⟩ := Exact.finite.inj h
    calc (fractions + fraction) * 2 ^ (field - 1) < 2 * fractions * 2 ^ (field - 1) :=
          Nat.mul_lt_mul_of_pos_right (by omega) (Nat.two_pow_pos _)
      _ = 2 ^ (53 + (field - 1)) := by
          rw [Nat.pow_add]
          rfl
      _ ≤ beyond := Nat.pow_le_pow_right (by decide) (by unfold exponentBeyond; omega)

/-- What does not pass the largest double is rounded to a finite one. -/
theorem nearestUnits_lt_beyond {num den : Nat} (hden : 0 < den) (h : num ≤ largest * den) :
    nearestUnits num den < beyond := by
  have hlargest : largest < beyond :=
    calc largest < 2 ^ 53 * 2 ^ (exponentBeyond - 53) :=
          Nat.mul_lt_mul_of_pos_right (by decide) (Nat.two_pow_pos _)
      _ = beyond := by rw [← Nat.pow_add, beyond, Nat.add_sub_cancel' (by decide)]
  have hnearest : Nat.dist num (nearestUnits num den * den) ≤ Nat.dist num (largest * den) :=
    dist_nearestUnits_le num (exponentBeyond - 53) hden (by decide)
  have hle : nearestUnits num den * den ≤ largest * den := by
    unfold Nat.dist at hnearest
    omega
  exact Nat.lt_of_le_of_lt (Nat.le_of_mul_le_mul_right hle hden) hlargest

end Exact

end PocketCalculator
