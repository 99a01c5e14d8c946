import PocketCalculator.Cause

/-!
# Functions of one number

The nine named functions, the reciprocal and the factorial.  Angles are in
degrees.  Square roots and logarithms refuse what lies outside their domain;
inverse sines and cosines of large arguments yield no number.

Main definitions:

- {lit}`ScalarFunction.name` and {lit}`ScalarFunction.ofName?` connect functions and
  their names.
- {lit}`ScalarFunction.apply` computes a value.
- {lit}`reciprocal` and {lit}`factorial` are the two functions without a name.

Main results:

- {lit}`ScalarFunction.ofName?_name` and {lit}`ScalarFunction.name_of_ofName?`: names
  and functions correspond one to one.
- {lit}`factorial_eq_ok` and {lit}`factorial_eq_error`: when a factorial exists.
-/

namespace PocketCalculator

/-- A function that an expression can call by name. -/
inductive ScalarFunction where
  | sqrt
  | log10
  | ln
  | sin
  | cos
  | tan
  | asin
  | acos
  | atan
deriving DecidableEq, Repr

namespace ScalarFunction

/-! ## Names -/

/-- All functions, in the order in which they are introduced. -/
def all : List ScalarFunction := [sqrt, log10, ln, sin, cos, tan, asin, acos, atan]

theorem mem_all (f : ScalarFunction) : f ∈ all := by
  cases f <;> decide

/-- The name of a function in an expression. -/
def name : ScalarFunction → Text
  | sqrt => "sqrt".toList
  | log10 => "log10".toList
  | ln => "ln".toList
  | sin => "sin".toList
  | cos => "cos".toList
  | tan => "tan".toList
  | asin => "asin".toList
  | acos => "acos".toList
  | atan => "atan".toList

/-- The function of a name. -/
def ofName? (name : Text) : Option ScalarFunction :=
  all.find? (·.name == name)

/-- A function is found by its name. -/
@[simp] theorem ofName?_name (f : ScalarFunction) : ofName? f.name = some f := by
  cases f <;> decide

/-- Only the name of a function finds it. -/
theorem name_of_ofName? {name : Text} {f : ScalarFunction} (h : ofName? name = some f) :
    f.name = name := by
  simpa using List.find?_some h

/-! ## Values -/

/-- The double nearest to the number of radians in a degree. -/
def radiansPerDegree : Float := Float.ofBits 0x3f91df46a2529d39

/-- The double nearest to the number of degrees in a radian. -/
def degreesPerRadian : Float := Float.ofBits 0x404ca5dc1a63c1f8

/-- The value of a function.  Arguments of the trigonometric functions and
values of their inverses are degrees. -/
def apply (f : ScalarFunction) (x : Float) : Except Cause Float :=
  match f with
  | sqrt => if x < 0 then .error (.domain .negativeSquareRoot) else .ok x.sqrt
  | log10 => if x ≤ 0 then .error (.domain .nonPositiveLogarithm) else .ok x.log10
  | ln => if x ≤ 0 then .error (.domain .nonPositiveLogarithm) else .ok x.log
  | sin => .ok (x * radiansPerDegree).sin
  | cos => .ok (x * radiansPerDegree).cos
  | tan => .ok (x * radiansPerDegree).tan
  | asin => .ok (x.asin * degreesPerRadian)
  | acos => .ok (x.acos * degreesPerRadian)
  | atan => .ok (x.atan * degreesPerRadian)

end ScalarFunction

/-! ## Reciprocal -/

/-- One divided by a number; zero of either sign has no reciprocal. -/
def reciprocal (x : Float) : Except Cause Float :=
  if x == 0 then .error (.domain .zeroDivisor) else .ok (1 / x)

/-! ## Factorial -/

/-- The largest number whose factorial is computed; the next one would not fit
sixty-four bits. -/
def largestFactorial : Nat := 20

/-- The product of the numbers from one to {lit}`n`. -/
def productUpTo : Nat → Nat
  | 0 => 1
  | n + 1 => (n + 1) * productUpTo n

@[simp] theorem productUpTo_zero : productUpTo 0 = 1 := rfl

@[simp] theorem productUpTo_succ (n : Nat) : productUpTo (n + 1) = (n + 1) * productUpTo n := rfl

/-- The factorial of a number that is not too large. -/
def factorial (n : Nat) : Except Cause Nat :=
  if n ≤ largestFactorial then .ok (productUpTo n) else .error (.factorialTooLarge n)

/-- Numbers up to the largest have a factorial. -/
theorem factorial_eq_ok {n : Nat} (h : n ≤ largestFactorial) :
    factorial n = .ok (productUpTo n) := by
  simp [factorial, h]

/-- Larger numbers are refused, and the refusal names them. -/
theorem factorial_eq_error {n : Nat} (h : largestFactorial < n) :
    factorial n = .error (.factorialTooLarge n) := by
  simp [factorial, Nat.not_le.2 h]

end PocketCalculator
