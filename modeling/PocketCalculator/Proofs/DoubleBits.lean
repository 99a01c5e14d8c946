import Mathlib.Algebra.Group.Nat.Defs
import PocketCalculator.Number.Exact

/-!
# The bits of a double

A double is stored as a sign, an exponent field and a fraction field.  Its bits can
be taken apart and put together again, a change of sign flips one bit, and both
agree with the exact value that the bits stand for.

Main definitions:

- {lit}`Exact.ofFields` is the value behind a sign and two fields.
- {lit}`Exact.negate` changes the sign of a value.

Main results:

- Theorem {lit}`Exact.ofFloat_ofBits`: a double made of bits has the value of the bits.
- Theorem {lit}`Exact.ofFloat_neg`: the negation of a double has the negated value.
- Theorem {lit}`Exact.units_of_ofFloat`: a finite double counts its least units with
  fifty-three binary digits at most.
-/

namespace PocketCalculator

namespace DoubleBits

open Float.Model (Format UnpackedFloat)
open Float.Model.UnpackedFloat

/-! ## The three fields -/

/-- The number that the three fields of a double make. -/
theorem toNat_packComponents (s : Sign) (e : BitVec 11) (m : BitVec 52) :
    (packComponents Format.binary64 s e m).toNat =
      s.toBitVec.toNat * 2 ^ 63 + e.toNat * 2 ^ 52 + m.toNat := by
  unfold packComponents
  rw [BitVec.toNat_append, BitVec.toNat_append, ← Nat.shiftLeft_add_eq_or_of_lt m.isLt,
    ← Nat.shiftLeft_add_eq_or_of_lt e.isLt]
  simp only [Nat.shiftLeft_eq]
  omega

/-- Any bits fall into three fields. -/
theorem exists_packComponents (b : BitVec 64) :
    ∃ s e m, b = packComponents Format.binary64 s e m := by
  refine ⟨Sign.ofBitVec (b.extractLsb' 63 1), b.extractLsb' 52 11, b.extractLsb' 0 52, ?_⟩
  apply BitVec.eq_of_toNat_eq
  rw [toNat_packComponents]
  have hsign (t : BitVec 1) : (Sign.ofBitVec t).toBitVec.toNat = t.toNat := by
    revert t
    decide
  have hb := b.isLt
  rw [hsign, BitVec.extractLsb'_toNat, BitVec.extractLsb'_toNat, BitVec.extractLsb'_toNat]
  simp only [Nat.shiftRight_eq_div_pow]
  omega

@[simp] theorem sign_toBitVec (s : Sign) : Sign.ofBitVec s.toBitVec = s := by
  cases s <;> rfl

@[simp] theorem unpackSign_packComponents {spec : Format} (s : Sign)
    (e : BitVec spec.exponentBits) (m : BitVec spec.mantissaBitsWithoutImplicit) :
    unpackSign (packComponents spec s e m) = s.toBitVec := by
  ext i hi
  obtain rfl : i = 0 := by omega
  have hsign (b : BitVec spec.numBits) : unpackSign b =
      BitVec.cast (by omega) (b.extractLsb (spec.mantissaBitsWithoutImplicit + spec.exponentBits)
        (spec.mantissaBitsWithoutImplicit + spec.exponentBits)) := rfl
  simp [hsign, packComponents, BitVec.getLsbD_append, BitVec.getElem_append]

/-- The leading one of a significand stands above its fraction. -/
theorem toNat_one_append (m : BitVec 52) : (1#1 ++ m).toNat = 2 ^ 52 + m.toNat := by
  rw [BitVec.toNat_append, ← Nat.shiftLeft_add_eq_or_of_lt m.isLt]
  rfl

/-- The unpacked number of three fields. -/
def unpackFields (s : Sign) (e : BitVec 11) (m : BitVec 52) : UnpackedFloat :=
  if e = -1#11 then if m = 0#52 then .infinity s else .notANumber
  else if e = 0#11 then
    if h : m = 0#52 then .zero s
    else .finite s m.toNat (-1074) (by
      simpa [BitVec.toNat_pos, BitVec.pos_iff_ne_zero] using h)
  else .finite s (1#1 ++ m).toNat (e.toNat - 1075) (by
    rw [toNat_one_append]
    omega)

/-- Unpacking looks at nothing but the three fields. -/
theorem unpack_eq_unpackFields (b : BitVec 64) :
    unpack Format.binary64 b =
      unpackFields (Sign.ofBitVec (@unpackSign Format.binary64 b))
        (@unpackExponent Format.binary64 b) (@unpackMantissa Format.binary64 b) := by
  refine ite_congr rfl (fun _ => rfl) fun _ => ite_congr rfl (fun hzero => ?_) fun _ => rfl
  refine dite_congr rfl (fun _ => rfl) fun _ => ?_
  have hexponent : ((@unpackExponent Format.binary64 b).toNat : Int) - 1075 + 1 = -1074 := by
    rw [hzero]
    rfl
  exact congrArg (UnpackedFloat.finite _ _ · _) hexponent

/-- What three fields unpack to. -/
theorem unpack_packComponents (s : Sign) (e : BitVec 11) (m : BitVec 52) :
    unpack Format.binary64 (packComponents Format.binary64 s e m) = unpackFields s e m := by
  rw [unpack_eq_unpackFields, unpackSign_packComponents, sign_toBitVec,
    unpackExponent_packComponents, unpackMantissa_packComponents]

/-- A finite number is packed with its exponent, if its significand has all digits, and
without one else. -/
theorem pack_finite (s : Sign) (m : Nat) (e : Int) (hm : 0 < m) :
    pack Format.binary64 (.finite s m e hm) =
      if 2 ^ Format.binary64.exponentBits ≤ (e + Format.binary64.exponentBias +
          Format.binary64.mantissaBitsWithoutImplicit).toNat + 1 then
        packedInfinity Format.binary64 s
      else if m.log2 + 1 = Format.binary64.mantissaBits then
        packComponents Format.binary64 s
          (BitVec.ofNat _ (e + Format.binary64.exponentBias +
            Format.binary64.mantissaBitsWithoutImplicit).toNat) (BitVec.ofNat _ m)
      else packComponents Format.binary64 s 0#_ (BitVec.ofNat _ m) := rfl

/-- Bits that stand for a number or an infinity survive unpacking and packing. -/
theorem pack_unpack (s : Sign) (e : BitVec 11) (m : BitVec 52) (h : e = -1#11 → m = 0#52) :
    pack Format.binary64 (unpack Format.binary64 (packComponents Format.binary64 s e m)) =
      packComponents Format.binary64 s e m := by
  rw [unpack_packComponents, unpackFields]
  by_cases hspecial : e = -1#11
  · rw [if_pos hspecial, if_pos (h hspecial), hspecial, h hspecial]
    rfl
  rw [if_neg hspecial]
  have he : e.toNat + 1 < 2 ^ 11 := by
    have hne : e.toNat ≠ 2047 := fun heq => hspecial (BitVec.eq_of_toNat_eq heq)
    have := e.isLt
    omega
  by_cases hzero : e = 0#11
  · rw [if_pos hzero, hzero]
    by_cases hm : m = 0#52
    · rw [dif_pos hm, hm]
      rfl
    · rw [dif_neg hm, pack_finite]
      have hlog : m.toNat.log2 < 52 := by
        refine (Nat.log2_lt ?_).2 m.isLt
        exact fun heq => hm (BitVec.eq_of_toNat_eq heq)
      have hbits : ¬ m.toNat.log2 + 1 = Format.binary64.mantissaBits := by
        have : Format.binary64.mantissaBits = 53 := rfl
        omega
      have hbiased : ((-1074 : Int) + Format.binary64.exponentBias +
          Format.binary64.mantissaBitsWithoutImplicit).toNat = 1 := rfl
      simp only [hbiased, hbits, BitVec.ofNat_toNat, BitVec.setWidth_eq]
      rfl
  · rw [if_neg hzero, pack_finite]
    have hsignificand := toNat_one_append m
    have hm := m.isLt
    have hlog : (1#1 ++ m).toNat.log2 = 52 := by
      rw [hsignificand, Nat.log2_eq_iff (by omega)]
      omega
    have hbits : (1#1 ++ m).toNat.log2 + 1 = Format.binary64.mantissaBits := by
      rw [hlog]
      rfl
    have hbiased : ((e.toNat : Int) - 1075 + Format.binary64.exponentBias +
        Format.binary64.mantissaBitsWithoutImplicit).toNat = e.toNat := by
      have hbias : (Format.binary64.exponentBias : Int) = 1023 := rfl
      have hwidth : (Format.binary64.mantissaBitsWithoutImplicit : Int) = 52 := rfl
      omega
    have hfraction : BitVec.ofNat 52 (1#1 ++ m).toNat = m := by
      apply BitVec.eq_of_toNat_eq
      rw [hsignificand, BitVec.toNat_ofNat]
      omega
    have hfield : BitVec.ofNat 11 e.toNat = e := by simp
    dsimp only
    rw [hbiased, if_neg (by show ¬ 2 ^ 11 ≤ e.toNat + 1; omega), if_pos hbits]
    exact congr (congrArg _ hfield) hfraction

/-- A change of sign changes nothing but the sign field. -/
theorem neg_unpack (s : Sign) (e : BitVec 11) (m : BitVec 52) :
    (UnpackedFloat.unpack Format.binary64 (packComponents Format.binary64 s e m)).neg =
      UnpackedFloat.unpack Format.binary64 (packComponents Format.binary64 (-s) e m) := by
  rw [unpack_packComponents, unpack_packComponents, unpackFields, unpackFields]
  by_cases hspecial : e = -1#11
  · rw [if_pos hspecial, if_pos hspecial]
    by_cases hm : m = 0#52
    · rw [if_pos hm, if_pos hm]
      rfl
    · rw [if_neg hm, if_neg hm]
      rfl
  rw [if_neg hspecial, if_neg hspecial]
  by_cases hzero : e = 0#11
  · rw [if_pos hzero, if_pos hzero]
    by_cases hm : m = 0#52
    · rw [dif_pos hm, dif_pos hm]
      rfl
    · rw [dif_neg hm, dif_neg hm]
      rfl
  · rw [if_neg hzero, if_neg hzero]
    rfl

/-- The fields of a double: a number or an infinity, or the one pattern that is no
number. -/
theorem exists_fields (x : Float) :
    ∃ s e m, x.toBits.toBitVec = packComponents Format.binary64 s e m ∧
      ((e = -1#11 → m = 0#52) ∨
        packComponents Format.binary64 s e m = packedNaN Format.binary64) := by
  obtain ⟨s, e, m, hbits⟩ := exists_packComponents x.toBits.toBitVec
  refine ⟨s, e, m, hbits, ?_⟩
  by_cases hspecial : e = -1#11
  · by_cases hm : m = 0#52
    · exact .inl fun _ => hm
    · right
      have hvalid := x.toModel.valid.eq_packedNaN
      change x.toModel.toBits.toBitVec = _ at hbits
      rw [hbits, unpackExponent_packComponents, unpackMantissa_packComponents] at hvalid
      exact hvalid hspecial hm
  · exact .inl fun h => absurd h hspecial

end DoubleBits

/-! ## The value behind the bits -/

namespace Exact

open DoubleBits
open Float.Model (Format UnpackedFloat)
open Float.Model.UnpackedFloat

/-- The value behind a sign and the two fields. -/
def ofFields (negative : Bool) (field fraction : Nat) : Exact :=
  if field = specialField then
    if fraction = 0 then .infinite negative else .nan
  else if field = 0 then .finite negative fraction
  else .finite negative ((fractions + fraction) * 2 ^ (field - 1))

/-- Bits are read field by field. -/
theorem ofBits_eq_ofFields (bits : Nat) :
    ofBits bits =
      ofFields (decide (2 ^ 63 ≤ bits)) (bits / fractions % 2 ^ 11) (bits % fractions) := rfl

/-- Whether a sign is the negative one. -/
def isNegative : Sign → Bool
  | .negative => true
  | .positive => false

@[simp] theorem isNegative_neg (s : Sign) : isNegative (-s) = !isNegative s := by
  cases s <;> rfl

/-- Packed fields are read as they are. -/
theorem ofBits_packComponents (s : Sign) (e : BitVec 11) (m : BitVec 52) :
    ofBits (packComponents Format.binary64 s e m).toNat =
      ofFields (isNegative s) e.toNat m.toNat := by
  have he := e.isLt
  have hm := m.isLt
  rw [ofBits_eq_ofFields, toNat_packComponents]
  have hfield : (s.toBitVec.toNat * 2 ^ 63 + e.toNat * 2 ^ 52 + m.toNat) / fractions % 2 ^ 11 =
      e.toNat := by
    unfold fractions
    omega
  have hfraction :
      (s.toBitVec.toNat * 2 ^ 63 + e.toNat * 2 ^ 52 + m.toNat) % fractions = m.toNat := by
    unfold fractions
    omega
  have hsign : decide (2 ^ 63 ≤ s.toBitVec.toNat * 2 ^ 63 + e.toNat * 2 ^ 52 + m.toNat) =
      isNegative s := by
    cases s with
    | negative =>
      have : Sign.negative.toBitVec.toNat = 1 := rfl
      rw [this]
      exact decide_eq_true (by omega)
    | positive =>
      have : Sign.positive.toBitVec.toNat = 0 := rfl
      rw [this]
      exact decide_eq_false (by omega)
  rw [hfield, hfraction, hsign]

/-- A double made of bits has the value of the bits, up to infinity. -/
theorem ofFloat_ofBits {bits : Nat} (h : bits ≤ specialField * fractions) :
    ofFloat (Float.ofBits (UInt64.ofNat bits)) = ofBits bits := by
  have hspecial : specialField * fractions < 2 ^ 63 := by decide
  have hword : (UInt64.ofNat bits).toNat = bits := by
    rw [UInt64.toNat_ofNat']
    exact Nat.mod_eq_of_lt (by omega)
  obtain ⟨s, e, m, hfields⟩ := exists_packComponents (UInt64.ofNat bits).toBitVec
  have hbits : (packComponents Format.binary64 s e m).toNat = bits := by
    rw [← hfields]
    exact hword
  have hnumber : e = -1#11 → m = 0#52 := by
    rintro rfl
    rw [toNat_packComponents] at hbits
    apply BitVec.eq_of_toNat_eq
    have hall : (-1#11).toNat = 2047 := rfl
    have hzero : (0#52).toNat = 0 := rfl
    unfold specialField fractions at h
    omega
  have htoBits : (Float.ofBits (UInt64.ofNat bits)).toBits.toNat = bits := by
    change (UnpackedFloat.pack Format.binary64
      (UnpackedFloat.unpack Format.binary64 (UInt64.ofNat bits).toBitVec)).toNat = bits
    rw [hfields, pack_unpack s e m hnumber, hbits]
  rw [ofFloat, htoBits]

/-- The same value with the other sign. -/
def negate : Exact → Exact
  | .finite negative units => .finite (!negative) units
  | .infinite negative => .infinite (!negative)
  | .nan => .nan

@[simp] theorem negate_finite (negative : Bool) (units : Nat) :
    (finite negative units).negate = finite (!negative) units := rfl

/-- Fields with the other sign have the negated value. -/
theorem negate_ofFields (negative : Bool) (field fraction : Nat) :
    (ofFields negative field fraction).negate = ofFields (!negative) field fraction := by
  unfold ofFields
  split
  · split <;> rfl
  split <;> rfl

/-- The negation of a double has the negated value. -/
theorem ofFloat_neg (x : Float) : ofFloat (-x) = (ofFloat x).negate := by
  obtain ⟨s, e, m, hbits, hnumber⟩ := exists_fields x
  have hx : ofFloat x = ofFields (isNegative s) e.toNat m.toNat := by
    rw [← ofBits_packComponents, ← hbits]
    rfl
  have hneg : ofFloat (-x) = ofBits (UnpackedFloat.pack Format.binary64
      (UnpackedFloat.unpack Format.binary64 x.toBits.toBitVec).neg).toNat := rfl
  rw [hneg, hbits]
  rcases hnumber with hnumber | hnan
  · rw [neg_unpack, pack_unpack (-s) e m hnumber, ofBits_packComponents, hx, negate_ofFields,
      isNegative_neg]
  · rw [hx, ← ofBits_packComponents, hnan]
    decide

/-- A finite double counts its least units with fifty-three binary digits at most, and
zeros behind them. -/
theorem units_of_ofFloat {x : Float} {negative : Bool} {units : Nat}
    (h : ofFloat x = .finite negative units) :
    ∃ significand shift, units = significand * 2 ^ shift ∧ significand < 2 ^ 53 := by
  have hfraction : x.toBits.toNat % fractions < fractions := Nat.mod_lt _ (by decide)
  have hvalue : fractions = 2 ^ 52 := rfl
  rw [ofFloat, ofBits_eq_ofFields, ofFields] at h
  split at h
  · split at h <;> exact absurd h (by simp)
  split at h
  · obtain ⟨-, rfl⟩ := Exact.finite.inj h
    exact ⟨_, 0, (Nat.mul_one _).symm, by omega⟩
  · obtain ⟨-, rfl⟩ := Exact.finite.inj h
    exact ⟨_, _, rfl, by omega⟩

end Exact

end PocketCalculator
