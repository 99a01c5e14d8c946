import Mathlib
import PocketCalculator.Display.Screen
import PocketCalculator.Expression.Tree
import PocketCalculator.Proofs.DoubleBits
import PocketCalculator.Proofs.PlainText

/-!
# Signs in arithmetic

Products, quotients and remainders carry the sign of their left operand outward.
Adding to zero or subtracting from it gives the other operand or its negation, up
to the sign of a zero, which no later sum and no screen text tells.

Main definitions:

- {lit}`Signs.IsZero` holds of the two zeros.
- {lit}`Signs.Alike` holds of doubles that are the same or both zero.

Main results:

- Theorem {lit}`Signs.apply_neg`: an operator of products with a negated left operand.
- Theorem {lit}`Signs.Alike.apply`: alike operands have alike sums.
- Theorem {lit}`Signs.alike_apply_zero`: zero is the start of any sum.
- Theorem {lit}`Signs.Alike.ofFloat_eq`: alike doubles are shown alike.
-/

namespace PocketCalculator

namespace Signs

open DoubleBits
open Float.Model (Format UnpackedFloat)
open Float.Model.UnpackedFloat

/-! ## Unpacked doubles -/

/-- The unpacked form of a double. -/
def unpacked (x : Float) : UnpackedFloat := x.toModel.unpack

/-- The double with a given unpacked form, provided that it is rounded. -/
def ofUnpacked (u : UnpackedFloat) : Float := .ofModel (Float.Model.pack u)

/-- Packing what was unpacked gives the double back. -/
@[simp] theorem ofUnpacked_unpacked (x : Float) : ofUnpacked (unpacked x) = x := by
  have hbits : pack Format.binary64 (unpacked x) = x.toBits.toBitVec := by
    obtain ⟨s, e, m, hbits, hnumber | hnan⟩ := exists_fields x
    · have hunpacked : unpacked x = unpack Format.binary64 x.toBits.toBitVec := rfl
      rw [hunpacked, hbits, pack_unpack s e m hnumber]
    · have hunpacked : unpacked x = unpack Format.binary64 x.toBits.toBitVec := rfl
      rw [hunpacked, hbits, hnan]
      decide
  cases x with
  | ofModel model =>
    cases model with
    | mk bits valid =>
      unfold ofUnpacked Float.Model.pack
      congr

/-- The fields of a packed number and of its negation differ in the sign only. -/
theorem exists_pack {u : UnpackedFloat} (hu : u ≠ .notANumber) :
    ∃ s e m, (e = -1#11 → m = 0#52) ∧
      pack Format.binary64 u = packComponents Format.binary64 s e m ∧
      pack Format.binary64 u.neg = packComponents Format.binary64 (-s) e m := by
  cases u with
  | notANumber => exact absurd rfl hu
  | infinity s => exact ⟨s, -1#11, 0#52, fun _ => rfl, rfl, rfl⟩
  | zero s => exact ⟨s, 0#11, 0#52, fun _ => rfl, rfl, rfl⟩
  | finite s m e hm =>
    unfold UnpackedFloat.neg pack
    dsimp only
    generalize (e + Format.binary64.exponentBias +
      Format.binary64.mantissaBitsWithoutImplicit).toNat = field
    by_cases hlarge : 2 ^ Format.binary64.exponentBits ≤ field + 1
    · rw [if_pos hlarge, if_pos hlarge]
      exact ⟨s, -1#11, 0#52, fun _ => rfl, rfl, rfl⟩
    rw [if_neg hlarge, if_neg hlarge]
    by_cases hnormal : m.log2 + 1 = Format.binary64.mantissaBits
    · rw [if_pos hnormal, if_pos hnormal]
      refine ⟨s, BitVec.ofNat 11 field, BitVec.ofNat 52 m, ?_, rfl, rfl⟩
      intro hspecial
      have hfield := congrArg BitVec.toNat hspecial
      rw [BitVec.toNat_ofNat] at hfield
      have hall : (-1#11).toNat = 2047 := rfl
      have hbits : Format.binary64.exponentBits = 11 := rfl
      rw [hbits] at hlarge
      omega
    · rw [if_neg hnormal, if_neg hnormal]
      exact ⟨s, 0#11, BitVec.ofNat 52 m, fun h => absurd h (by decide), rfl, rfl⟩

/-- Negating a packed double negates what was packed. -/
@[simp] theorem neg_ofUnpacked (u : UnpackedFloat) : -ofUnpacked u = ofUnpacked u.neg := by
  by_cases hu : u = .notANumber
  · rw [hu]
    rfl
  obtain ⟨s, e, m, hnumber, hpack, hneg⟩ := exists_pack hu
  have hbits : pack Format.binary64 (unpack Format.binary64 (pack Format.binary64 u)).neg =
      pack Format.binary64 u.neg := by
    rw [hpack, neg_unpack, pack_unpack (-s) e m hnumber, hneg]
  have hmodel : Float.Model.pack (Float.Model.pack u).unpack.neg = Float.Model.pack u.neg := by
    unfold Float.Model.pack
    congr 2
  exact congrArg Float.ofModel hmodel

/-- The negation of a double unpacks to the negation. -/
@[simp] theorem unpacked_neg (x : Float) : unpacked (-x) = (unpacked x).neg := by
  have hfields : unpacked (-x) = unpack Format.binary64
      (pack Format.binary64 (unpack Format.binary64 x.toBits.toBitVec).neg) := rfl
  have hunpacked : unpacked x = unpack Format.binary64 x.toBits.toBitVec := rfl
  obtain ⟨s, e, m, hbits, hnumber | hnan⟩ := exists_fields x
  · rw [hfields, hunpacked, hbits, neg_unpack, pack_unpack (-s) e m hnumber]
  · have hunpack : unpack Format.binary64 (packedNaN Format.binary64) = .notANumber := by
      rw [packedNaN, unpack_packComponents, unpackFields, if_pos rfl, if_neg (by decide)]
    rw [hfields, hunpacked, hbits, hnan, hunpack]
    exact hunpack

@[simp] theorem sign_neg_neg (s : Sign) : - -s = s := by
  cases s <;> rfl

@[simp] theorem unpacked_neg_neg (u : UnpackedFloat) : u.neg.neg = u := by
  cases u <;> simp [UnpackedFloat.neg]

/-- Negating twice changes nothing. -/
@[simp] theorem neg_neg (x : Float) : - -x = x := by
  have hneg : -x = ofUnpacked (unpacked x).neg := rfl
  rw [hneg, neg_ofUnpacked, unpacked_neg_neg, ofUnpacked_unpacked]

/-! ## Products -/

theorem sign_neg_mul (s t : Sign) : -s * t = -(s * t) := by
  cases s <;> cases t <;> rfl

theorem sign_neg_div (s t : Sign) : -s / t = -(s / t) := by
  cases s <;> cases t <;> rfl

/-- Rounding a significand treats both signs alike. -/
theorem roundWithAccuracy_neg (spec : Format) (s : Sign) (m : Nat) (e : Int) (a : Accuracy) :
    roundWithAccuracy spec (-s) m e a = (roundWithAccuracy spec s m e a).neg := by
  unfold roundWithAccuracy
  dsimp only
  split <;> rfl

/-- A product carries the sign of its left factor outward. -/
theorem neg_mul (x y : Float) : -x * y = -(x * y) := by
  have hmul (x : Float) : x * y =
      ofUnpacked (UnpackedFloat.mul Format.binary64 (unpacked x) (unpacked y)) := rfl
  rw [hmul, hmul, neg_ofUnpacked, unpacked_neg]
  congr 1
  cases unpacked x <;> cases unpacked y <;>
    simp [UnpackedFloat.neg, UnpackedFloat.mul, sign_neg_mul, roundWithAccuracy_neg]

/-- A quotient carries the sign of its dividend outward. -/
theorem neg_div (x y : Float) : -x / y = -(x / y) := by
  have hdiv (x : Float) : x / y =
      ofUnpacked (UnpackedFloat.div Format.binary64 (unpacked x) (unpacked y)) := rfl
  rw [hdiv, hdiv, neg_ofUnpacked, unpacked_neg]
  congr 1
  cases unpacked x <;> cases unpacked y <;>
    simp [UnpackedFloat.neg, UnpackedFloat.div, sign_neg_div, roundWithAccuracy_neg]

/-- What is no number has no sign. -/
theorem neg_notANumber : -Exact.notANumber = Exact.notANumber := rfl

/-- The nearest double of the other sign. -/
theorem nearest_not (negative : Bool) (num den : Nat) :
    Exact.nearest (!negative) num den = -Exact.nearest negative num den := by
  cases negative with
  | false => exact Exact.nearest_true num den
  | true => rw [Exact.nearest_true, neg_neg, Bool.not_true]

/-- A remainder carries the sign of its dividend outward. -/
theorem neg_remainder (x y : Float) : remainder (-x) y = -remainder x y := by
  unfold remainder
  rw [Exact.ofFloat_neg]
  cases Exact.ofFloat x with
  | infinite negative => exact neg_notANumber.symm
  | nan => exact neg_notANumber.symm
  | finite negative dividend =>
    cases Exact.ofFloat y with
    | infinite negative' => rfl
    | nan => exact neg_notANumber.symm
    | finite negative' divisor =>
      simp only [Exact.negate_finite]
      split
      · exact neg_notANumber.symm
      · exact nearest_not negative _ _

/-- An operator of products carries the sign of its left operand outward. -/
theorem apply_neg {operator : Operator} (h : Expr.operatorBinding operator = .product)
    (x y : Float) : operator.apply (-x) y = -operator.apply x y := by
  cases operator with
  | add => exact absurd h (by decide)
  | sub => exact absurd h (by decide)
  | mul => exact neg_mul x y
  | div => exact neg_div x y
  | rem => exact neg_remainder x y

/-! ## Zeros -/

/-- Whether a double is one of the two zeros. -/
def IsZero (x : Float) : Prop := ∃ s, unpacked x = .zero s

/-- Zeros and nothing else are packed from zeros. -/
theorem isZero_ofUnpacked (s : Sign) : IsZero (ofUnpacked (.zero s)) := by
  refine ⟨s, ?_⟩
  cases s <;> rfl

/-- Adding to a zero, or subtracting from it, what is not one. -/
theorem apply_isZero {x y : Float} (hx : IsZero x) (hy : ¬ IsZero y) :
    x + y = y ∧ x - y = -y := by
  obtain ⟨s, hs⟩ := hx
  have hadd : x + y = ofUnpacked (UnpackedFloat.add Format.binary64 (unpacked x) (unpacked y)) :=
    rfl
  have hsub : x - y = ofUnpacked (UnpackedFloat.sub Format.binary64 (unpacked x) (unpacked y)) :=
    rfl
  have hneg : -y = ofUnpacked (unpacked y).neg := rfl
  have hself : y = ofUnpacked (unpacked y) := (ofUnpacked_unpacked y).symm
  rw [hadd, hsub, hneg, hs]
  cases hu : unpacked y with
  | zero t => exact absurd ⟨t, hu⟩ hy
  | notANumber => rw [hu] at hself; exact ⟨hself.symm, rfl⟩
  | infinity t => rw [hu] at hself; exact ⟨hself.symm, rfl⟩
  | finite t m e hm => rw [hu] at hself; exact ⟨hself.symm, rfl⟩

/-- Sums and differences of zeros are zeros. -/
theorem isZero_apply {x y : Float} (hx : IsZero x) (hy : IsZero y) :
    IsZero (x + y) ∧ IsZero (x - y) ∧ IsZero (-y) := by
  obtain ⟨s, hs⟩ := hx
  obtain ⟨t, ht⟩ := hy
  have hadd : x + y = ofUnpacked (UnpackedFloat.add Format.binary64 (unpacked x) (unpacked y)) :=
    rfl
  have hsub : x - y = ofUnpacked (UnpackedFloat.sub Format.binary64 (unpacked x) (unpacked y)) :=
    rfl
  have hneg : -y = ofUnpacked (unpacked y).neg := rfl
  rw [hadd, hsub, hneg, hs, ht]
  refine ⟨?_, ?_, isZero_ofUnpacked (-t)⟩
  · unfold UnpackedFloat.add
    dsimp only
    split <;> exact isZero_ofUnpacked _
  · unfold UnpackedFloat.sub
    dsimp only
    split <;> exact isZero_ofUnpacked _

/-- A zero counts no units. -/
theorem ofFloat_of_isZero {x : Float} (h : IsZero x) :
    (Exact.ofFloat x).isFinite = true ∧ Display.ofFloat x = "0".toList := by
  obtain ⟨s, hs⟩ := h
  have hself : x = ofUnpacked (.zero s) := by rw [← hs, ofUnpacked_unpacked]
  have hvalue : ∃ negative, Exact.ofFloat x = .finite negative 0 := by
    rw [hself]
    cases s with
    | positive => exact ⟨false, by decide⟩
    | negative => exact ⟨true, by decide⟩
  obtain ⟨negative, hunits⟩ := hvalue
  rw [Display.ofFloat, hunits]
  exact ⟨rfl, Display.ofExact_zero negative⟩

/-- What compares equal to zero is one of the two zeros. -/
theorem isZero_of_beq_zero {x : Float} (h : (x == 0) = true) : IsZero x := by
  have hzero : unpacked 0 = .zero .positive := rfl
  have hcompare : (UnpackedFloat.compare (unpacked x) (unpacked 0) == some .eq) = true := h
  rw [hzero] at hcompare
  unfold IsZero
  cases hx : unpacked x with
  | zero s => exact ⟨s, rfl⟩
  | notANumber => simp [hx, UnpackedFloat.compare] at hcompare
  | infinity s => cases s <;> simp [hx, UnpackedFloat.compare] at hcompare
  | finite s m e hm => cases s <;> simp [hx, UnpackedFloat.compare] at hcompare

/-- Dividing by a zero leaves no finite number. -/
theorem isFinite_div_of_isZero {x : Float} (h : IsZero x) :
    (Exact.ofFloat (1 / x)).isFinite = false := by
  obtain ⟨s, hs⟩ := h
  have hself : x = ofUnpacked (.zero s) := by rw [← hs, ofUnpacked_unpacked]
  rw [hself]
  cases s <;> decide

/-! ## Alike doubles -/

/-- Doubles that are the same or both zero. -/
def Alike (x y : Float) : Prop := x = y ∨ IsZero x ∧ IsZero y

/-- Alike left operands have alike sums and differences. -/
theorem Alike.apply {operator : Operator} {x y : Float} (h : Alike x y)
    (hsum : Expr.operatorBinding operator = .sum) (z : Float) :
    Alike (operator.apply x z) (operator.apply y z) := by
  rcases h with rfl | ⟨hx, hy⟩
  · exact .inl rfl
  by_cases hz : IsZero z
  · cases operator with
    | add => exact .inr ⟨(isZero_apply hx hz).1, (isZero_apply hy hz).1⟩
    | sub => exact .inr ⟨(isZero_apply hx hz).2.1, (isZero_apply hy hz).2.1⟩
    | mul => exact absurd hsum (by decide)
    | div => exact absurd hsum (by decide)
    | rem => exact absurd hsum (by decide)
  · left
    cases operator with
    | add => exact (apply_isZero hx hz).1.trans (apply_isZero hy hz).1.symm
    | sub => exact (apply_isZero hx hz).2.trans (apply_isZero hy hz).2.symm
    | mul => exact absurd hsum (by decide)
    | div => exact absurd hsum (by decide)
    | rem => exact absurd hsum (by decide)

/-- A sum that begins with a zero begins with its second operand as well as with it. -/
theorem alike_apply_zero {x : Float} (hx : IsZero x) (y : Float) :
    Alike (x + y) y ∧ Alike (x - y) (-y) := by
  by_cases hy : IsZero y
  · obtain ⟨hadd, hsub, hneg⟩ := isZero_apply hx hy
    exact ⟨.inr ⟨hadd, hy⟩, .inr ⟨hsub, hneg⟩⟩
  · exact ⟨.inl (apply_isZero hx hy).1, .inl (apply_isZero hx hy).2⟩

/-- Alike doubles are shown alike. -/
theorem Alike.ofFloat_eq {x y : Float} (h : Alike x y) :
    Display.ofFloat x = Display.ofFloat y ∧
      (Exact.ofFloat x).isFinite = (Exact.ofFloat y).isFinite := by
  rcases h with rfl | ⟨hx, hy⟩
  · exact ⟨rfl, rfl⟩
  · obtain ⟨hfinite, htext⟩ := ofFloat_of_isZero hx
    obtain ⟨hfinite', htext'⟩ := ofFloat_of_isZero hy
    exact ⟨htext.trans htext'.symm, hfinite.trans hfinite'.symm⟩

end Signs

end PocketCalculator
