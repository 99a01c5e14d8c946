/-!
# Rounding a quotient

Two ways to replace a quotient of natural numbers by a whole number.  Both
choose the nearest one and differ in what they do with an exact half.

Main results:

- {lit}`roundHalfEven_mul` and {lit}`roundHalfUp_mul` leave whole quotients as
  they are.
- {lit}`roundHalfEven_le` and {lit}`le_roundHalfEven` bound the error by half a
  unit.
-/

namespace PocketCalculator

/-! ## Halves to the even neighbour -/

/-- The whole number nearest to {lit}`num / den`; an exact half goes to the even
neighbour. -/
def roundHalfEven (num den : Nat) : Nat :=
  let whole := num / den
  let twice := 2 * (num % den)
  if twice < den then whole
  else if den < twice then whole + 1
  else if whole % 2 = 0 then whole
  else whole + 1

/-- A whole quotient is its own rounding. -/
@[simp] theorem roundHalfEven_mul {den : Nat} (h : 0 < den) (n : Nat) :
    roundHalfEven (n * den) den = n := by
  simp [roundHalfEven, h]

/-- The rounding exceeds the quotient by at most half a unit. -/
theorem roundHalfEven_le {den : Nat} (h : 0 < den) (num : Nat) :
    2 * (roundHalfEven num den * den) ≤ 2 * num + den := by
  have split := Nat.div_add_mod num den
  have bound := Nat.mod_lt num h
  rw [Nat.mul_comm] at split
  simp only [roundHalfEven]
  repeat' split
  all_goals try simp only [Nat.add_mul, Nat.one_mul]
  all_goals omega

/-- The rounding falls short of the quotient by at most half a unit. -/
theorem le_roundHalfEven {den : Nat} (h : 0 < den) (num : Nat) :
    2 * num ≤ 2 * (roundHalfEven num den * den) + den := by
  have split := Nat.div_add_mod num den
  have bound := Nat.mod_lt num h
  rw [Nat.mul_comm] at split
  simp only [roundHalfEven]
  repeat' split
  all_goals try simp only [Nat.add_mul, Nat.one_mul]
  all_goals omega

/-! ## Halves upward -/

/-- The whole number nearest to {lit}`num / den`; an exact half goes up. -/
def roundHalfUp (num den : Nat) : Nat :=
  (2 * num + den) / (2 * den)

/-- A whole quotient is its own rounding. -/
@[simp] theorem roundHalfUp_mul {den : Nat} (h : 0 < den) (n : Nat) :
    roundHalfUp (n * den) den = n := by
  unfold roundHalfUp
  rw [Nat.div_eq_iff (by omega)]
  constructor <;> grind

end PocketCalculator
