import PocketCalculator.Proofs.ScreenValue

/-!
# Whole numbers on the screen

Whole numbers of at most fifteen digits have a form of their own, the text of an integer.
Nobody can see this: the shortened decimal text of such a number is the same text, and from
sixteen digits on every number is shown in scientific notation.

Main results:

- Theorem {lit}`Exact.units_of_toRat?`: the units and the sign of a whole value.
- Theorem {lit}`Display.toList_toString`: the text of an integer is a sign and its digits.
- Theorem {lit}`Display.ofFloat_natural`: the text of a natural number.
- Theorem {lit}`Display.ofFloat_eq_decimalOnly`: whole numbers look as if they were decimals.
-/

namespace PocketCalculator

/-! ## Whole values -/

/-- A sign does not change a magnitude. -/
theorem abs_signed (negative : Bool) {magnitude : ℚ} (h : 0 ≤ magnitude) :
    |signed negative magnitude| = magnitude := by
  cases negative with
  | false => exact abs_of_nonneg h
  | true => rw [signed_true, abs_neg, abs_of_nonneg h]

namespace Exact

/-- A whole magnitude of units. -/
theorem units_div_one_eq_iff {units n : Nat} :
    (units : ℚ) / one = n ↔ units = n * one := by
  have hone : (one : ℚ) ≠ 0 := by exact_mod_cast one_pos.ne'
  rw [div_eq_iff hone]
  exact_mod_cast Iff.rfl

/-- A finite double with the value of an integer counts the units of its magnitude, and has
its sign unless it is zero. -/
theorem units_of_toRat? {negative : Bool} {units : Nat} {n : ℤ}
    (h : (finite negative units).toRat? = some (n : ℚ)) :
    units = n.natAbs * one ∧ (negative && n.natAbs != 0) = decide (n < 0) := by
  have hvalue : signed negative (units / one) = n := Option.some.inj h
  have hmagnitude : (units : ℚ) / one = n.natAbs := by
    rw [Nat.cast_natAbs, Int.cast_abs, ← hvalue,
      abs_signed negative (div_nonneg (Nat.cast_nonneg _) (Nat.cast_nonneg _))]
  refine ⟨units_div_one_eq_iff.1 hmagnitude, ?_⟩
  rw [hmagnitude] at hvalue
  rw [Bool.eq_iff_iff, Bool.and_eq_true, bne_iff_ne, decide_eq_true_eq]
  cases negative with
  | false =>
    rw [signed_false, ← Int.cast_natCast, Int.cast_inj] at hvalue
    simp only [Bool.false_eq_true, false_and, false_iff]
    omega
  | true =>
    rw [signed_true, ← Int.cast_natCast, ← Int.cast_neg, Int.cast_inj] at hvalue
    simp only [true_and]
    omega

end Exact

namespace Display

/-! ## Integers -/

/-- The text of an integer is a sign and the digits of its magnitude. -/
theorem toList_toString (n : ℤ) :
    (toString n).toList = sign (decide (n < 0)) ++ digits n.natAbs := by
  rw [Int.toString_eq_repr]
  cases n with
  | ofNat m =>
    have hsign : decide (Int.ofNat m < 0) = false := decide_eq_false (by simp)
    rw [Int.repr, Nat.toList_repr, hsign]
    rfl
  | negSucc m =>
    have hsign : decide (Int.negSucc m < 0) = true := decide_eq_true (Int.negSucc_lt_zero m)
    rw [Int.repr, String.toList_append, Nat.toList_repr, hsign]
    rfl

variable {negative : Bool} {units : Nat} {n : ℤ}

/-- The form of whole numbers is the text of an integer. -/
theorem whole_eq_toString (h : (Exact.finite negative units).toRat? = some (n : ℚ)) :
    whole negative units = (toString n).toList := by
  obtain ⟨hunits, hsign⟩ := Exact.units_of_toRat? h
  rw [whole, hunits, Nat.mul_div_cancel _ Exact.one_pos, hsign, toList_toString]

/-- An integer of at most fifteen digits is a short whole number. -/
theorem isShortWhole_of_lt (h : (Exact.finite negative units).toRat? = some (n : ℚ))
    (hshort : |n| < 10 ^ 15) : isShortWhole units = true := by
  obtain ⟨hunits, -⟩ := Exact.units_of_toRat? h
  have hwidth : n.natAbs < 10 ^ width := by
    rw [← Int.ofNat_lt, Int.natCast_natAbs]
    exact hshort
  rw [isShortWhole, hunits, Nat.mul_mod_left, Bool.and_eq_true]
  exact ⟨rfl, decide_eq_true (Nat.mul_lt_mul_of_pos_right hwidth Exact.one_pos)⟩

/-- An integer of sixteen digits or more leaves no room for its digits. -/
theorem long_of_le (h : (Exact.finite negative units).toRat? = some (n : ℚ))
    (hlong : 10 ^ 15 ≤ |n|) : width < (trimmed negative units).length := by
  obtain ⟨hunits, -⟩ := Exact.units_of_toRat? h
  have hwidth : 10 ^ width ≤ n.natAbs := by
    rw [← Int.ofNat_le, Int.natCast_natAbs]
    exact hlong
  apply long_of_le_units
  rw [hunits]
  exact Nat.mul_le_mul_right _ hwidth

/-- A natural number is shown in digits while there are at most fifteen of them, and then in
scientific notation. -/
theorem ofFloat_natural {x : Float} {m : Nat}
    (hx : Exact.ofFloat x = .finite false (m * Exact.one)) (hne : m ≠ 0) :
    ofFloat x = if m < 10 ^ 15 then (toString m).toList else scientific false m 1 := by
  have hfits : (digits m).length ≤ width ↔ m < 10 ^ 15 :=
    Nat.length_toDigits_le_iff (by decide) (by decide)
  have hscientific : scientific false (m * Exact.one) Exact.one = scientific false m 1 := by
    rw [← scientific_mul_mul false Exact.one_pos m 1, Nat.one_mul]
  rw [ofFloat, hx, ofExact_finite, fitted, trimmed_mul_one false hne, sign_false,
    List.nil_append, hscientific]
  by_cases hshort : m < 10 ^ 15
  · rw [if_neg (Nat.not_lt.2 (hfits.2 hshort)), if_pos hshort]
    exact (Nat.toList_repr).symm
  · rw [if_pos (Nat.lt_of_not_le fun hle => hshort (hfits.1 hle)), if_neg hshort]

/-! ## The form of whole numbers is invisible -/

/-- Whole numbers look as if they were decimals: the text of every double is the one that it
has without a form for whole numbers.  Below {lit}`10 ^ 15` this form is the text of an integer,
and so is the shortened decimal text, also for the negative zero.  From {lit}`10 ^ 15` on an
integer is in scientific notation. -/
theorem ofFloat_eq_decimalOnly (x : Float) :
    ofFloat x = decimalOnly (Exact.ofFloat x) ∧
      ∀ negative units (n : ℤ), Exact.ofFloat x = .finite negative units →
        (Exact.ofFloat x).toRat? = some (n : ℚ) →
        (|n| < 10 ^ 15 → isShortWhole units = true ∧
          whole negative units = (toString n).toList ∧
          trimmed negative units = (toString n).toList) ∧
        (10 ^ 15 ≤ |n| → ofFloat x = scientific negative units Exact.one ∧
          ∃ exponent, IsScientific (ofFloat x) exponent) := by
  constructor
  · rw [ofFloat]
    cases Exact.ofFloat x with
    | finite negative units => exact ofExact_finite negative units
    | infinite negative => rfl
    | nan => rfl
  · intro negative units n hx hn
    rw [hx] at hn
    constructor
    · intro hshort
      have hwhole := isShortWhole_of_lt hn hshort
      have htext := whole_eq_toString hn
      exact ⟨hwhole, htext, (whole_eq_trimmed negative hwhole).symm.trans htext⟩
    · intro hlong
      have hwidth := long_of_le hn hlong
      refine ⟨?_, (((ofFloat_shape x).2.2 _ _ hx).2.2.1).2 hwidth⟩
      rw [ofFloat, hx, ofExact_finite, fitted, if_pos hwidth]

/-- The negative zero is an integer without a sign, and {lit}`10 ^ 15` is the first one that does
not fit the screen. -/
theorem ofFloat_eq_decimalOnly_negative_zero :
    let x := Exact.nearest true (0 * Exact.one) 1
    let y := Exact.nearest false (10 ^ 15 * Exact.one) 1
    Exact.ofFloat x = .finite true (0 * Exact.one) ∧
      (Exact.ofFloat x).toRat? = some ((0 : ℤ) : ℚ) ∧
      trimmed true (0 * Exact.one) = "0".toList ∧
      (Exact.ofFloat y).toRat? = some ((10 ^ 15 : ℤ) : ℚ) ∧
      ∃ exponent, IsScientific (ofFloat y) exponent := by
  intro x y
  have hx : Exact.ofFloat x = .finite true (0 * Exact.one) :=
    Exact.ofFloat_nearest_mul_one true (by decide)
  have hy : Exact.ofFloat y = .finite false (10 ^ 15 * Exact.one) :=
    Exact.ofFloat_nearest_mul_one false (by decide)
  have hzero : (Exact.ofFloat x).toRat? = some ((0 : ℤ) : ℚ) := by
    rw [hx, Exact.toRat?, Exact.units_div_one_eq_iff.2 rfl]
    simp
  have hlarge : (Exact.ofFloat y).toRat? = some ((10 ^ 15 : ℤ) : ℚ) := by
    rw [hy, Exact.toRat?, Exact.units_div_one_eq_iff.2 rfl, signed_false]
    norm_num
  obtain ⟨-, -, htext⟩ :=
    ((ofFloat_eq_decimalOnly x).2 _ _ 0 hx hzero).1 (by decide)
  obtain ⟨-, hscientific⟩ :=
    ((ofFloat_eq_decimalOnly y).2 _ _ (10 ^ 15) hy hlarge).2 (by decide)
  exact ⟨hx, hzero, htext.trans (by decide), hlarge, hscientific⟩

end Display

end PocketCalculator
