import PocketCalculator.Number.Rounding

/-!
# The exact value of a double

A finite IEEE 754 double is a whole multiple of the smallest positive one,
which is {lit}`2 ^ (-1074)`.  Counting these least units turns the value of a
double into a natural number, so that rounding, remainders and decimal texts
are exact arithmetic on natural numbers.

Main definitions:

- {lit}`Exact.ofFloat` reads a double as a sign and a count of least units, an
  infinity, or not a number.
- {lit}`Exact.nearest` goes back from any fraction of least units to the
  nearest double.

Main results:

- {lit}`Exact.nearest_true` says that the double nearest to a negative value is
  the negation of the one nearest to its magnitude.
-/

namespace PocketCalculator

/-- What a double stands for. -/
inductive Exact where
  /-- A signed count of least units; zero has two signs. -/
  | finite (negative : Bool) (units : Nat)
  /-- A signed infinity. -/
  | infinite (negative : Bool)
  /-- No number at all. -/
  | nan
deriving DecidableEq, Repr

namespace Exact

-- Powers of natural numbers are the core library's, whatever else is imported.
attribute [local instance (2000)] instPowNat

/-! ## Units -/

/-- How many least units make the number one. -/
def one : Nat := 2 ^ (1074 : Nat)

/-- The number one is a power of two. -/
theorem exists_one_eq : ∃ shift : Nat, shift = 1074 ∧ one = 2 ^ shift :=
  ⟨1074, rfl, by rw [one]⟩

theorem one_pos : 0 < one := by
  obtain ⟨shift, -, hone⟩ := exists_one_eq
  rw [hone]
  exact Nat.two_pow_pos shift

/-- How many values the fraction field of a double has. -/
def fractions : Nat := 2 ^ (52 : Nat)

/-- The exponent field of infinities and of what is not a number. -/
def specialField : Nat := 2047

/-! ## From a double to its value -/

/-- The value behind 64 bits: a sign bit, eleven bits of exponent and
fifty-two of fraction.  A zero exponent field drops the leading one of the
significand and keeps the scale of field one. -/
def ofBits (bits : Nat) : Exact :=
  let negative := decide (2 ^ (63 : Nat) ≤ bits)
  let field := bits / fractions % 2 ^ (11 : Nat)
  let fraction := bits % fractions
  if field = specialField then
    if fraction = 0 then .infinite negative else .nan
  else if field = 0 then .finite negative fraction
  else .finite negative ((fractions + fraction) * 2 ^ (field - 1))

/-- The exact value of a double. -/
def ofFloat (x : Float) : Exact :=
  ofBits x.toBits.toNat

/-- Whether a value is a number, and not an infinite one. -/
def isFinite : Exact → Bool
  | .finite _ _ => true
  | .infinite _ => false
  | .nan => false

@[simp] theorem isFinite_finite (negative : Bool) (units : Nat) :
    (finite negative units).isFinite = true := rfl

@[simp] theorem isFinite_infinite (negative : Bool) :
    (infinite negative).isFinite = false := rfl

@[simp] theorem isFinite_nan : nan.isFinite = false := rfl

/-! ## From a value to the nearest double -/

/-- How many binary digits a natural number has. -/
def bitLength (n : Nat) : Nat :=
  if n = 0 then 0 else n.log2 + 1

/-- The bits of the double nearest to {lit}`num / den` least units.

The significand keeps the fifty-three leading binary digits, an exact half going
to the even neighbour.  Exponent and fraction are adjacent fields, so a carry
out of the significand raises the exponent by itself, and what passes the
largest double becomes infinity. -/
def nearestBits (num den : Nat) : Nat :=
  let shift := bitLength (num / den) - 53
  min (shift * fractions + roundHalfEven num (den * 2 ^ shift)) (specialField * fractions)

/-- The double nearest to {lit}`num / den` least units, with a sign. -/
def nearest (negative : Bool) (num den : Nat) : Float :=
  let magnitude := Float.ofBits (UInt64.ofNat (nearestBits num den))
  if negative then -magnitude else magnitude

/-- Rounding to a double treats both signs alike. -/
theorem nearest_true (num den : Nat) :
    nearest true num den = -nearest false num den := rfl

/-- The double nearest to a natural number. -/
def ofNat (n : Nat) : Float :=
  nearest false (n * one) 1

/-- Positive infinity. -/
def infinity : Float := Float.ofBits 0x7ff0000000000000

/-- The double that is not a number. -/
def notANumber : Float := Float.ofBits 0x7ff8000000000000

end Exact

/-! ## Remainder -/

/-- The remainder of an exact division, truncated toward zero: it has the sign
of the dividend and is smaller than the divisor.  A zero divisor or an infinite
dividend leaves no number, and an infinite divisor leaves the dividend. -/
def remainder (x y : Float) : Float :=
  match Exact.ofFloat x, Exact.ofFloat y with
  | .finite negative dividend, .finite _ divisor =>
    if divisor = 0 then Exact.notANumber
    else Exact.nearest negative (dividend % divisor) 1
  | .finite _ _, .infinite _ => x
  | _, _ => Exact.notANumber

end PocketCalculator
