import Mathlib.Data.Nat.Factorial.Basic
import Mathlib.Data.Rat.Floor
import PocketCalculator.Proofs.RecordedCauses
import PocketCalculator.Proofs.WholeNumbers

/-!
# The factorial key

The factorial of an expression is the one of the whole number nearest to it, where halves go
away from zero.  It exists from zero to twenty: below that there is no factorial, and above
it the product does not fit sixty-four bits.  Every factorial up to that of twenty is a
double, so that the screen shows the factorial itself.

Main definitions:

- {lit}`roundAway` rounds a rational number.
- {lit}`rationalOf?` is the finite number that a text stands for.
- {lit}`wordProduct` is the product in words of sixty-four bits.

Main results:

- Theorem {lit}`roundAway_mem_iff`: which numbers have a factorial.
- Theorem {lit}`wholeNumber?_eq`: the number whose factorial is taken.
- Theorem {lit}`ofFloat_ofNat_factorial`: factorials are converted exactly.
- Theorem {lit}`press_factorial`: what the key does to every expression.
-/

namespace PocketCalculator

/-! ## Rounding a rational number -/

/-- The whole number nearest to a rational one; a half goes away from zero. -/
def roundAway (q : ℚ) : ℤ := if q < 0 then -round (-q) else round q

/-- A quotient of natural numbers is rounded with its halves upward. -/
theorem round_div {den : Nat} (hden : 0 < den) (num : Nat) :
    round ((num : ℚ) / den) = roundHalfUp num den := by
  have hne : (den : ℚ) ≠ 0 := by exact_mod_cast hden.ne'
  have hhalf : (num : ℚ) / den + 1 / 2 = (2 * num + den : Nat) / (2 * den : Nat) := by
    push_cast
    field_simp
  rw [round_eq, hhalf, Rat.floor_natCast_div_natCast]
  rfl

/-- Rounding away from zero rounds the magnitude and keeps the sign. -/
theorem roundAway_signed (negative : Bool) (units : Nat) :
    roundAway (signed negative (units / Exact.one)) =
      if negative then -(roundHalfUp units Exact.one : ℤ) else roundHalfUp units Exact.one := by
  have hnonneg : (0 : ℚ) ≤ units / Exact.one := by positivity
  rw [← round_div Exact.one_pos]
  cases negative with
  | false => rw [signed_false, roundAway, if_neg (not_lt.2 hnonneg), if_neg Bool.false_ne_true]
  | true =>
    rw [signed_true, if_pos rfl, roundAway, neg_neg]
    split
    · rfl
    next hzero =>
    have hzero : (units : ℚ) / Exact.one = 0 := by linarith
    rw [hzero]
    simp

/-- A rounding is not negative from above minus one half on. -/
theorem roundAway_nonneg_iff (q : ℚ) : 0 ≤ roundAway q ↔ -(1 / 2) < q := by
  unfold roundAway
  split
  · rw [neg_nonneg, round_eq, ← Int.lt_add_one_iff, Int.floor_lt]
    constructor <;> intro h <;> push_cast at h ⊢ <;> linarith
  · next hq =>
    rw [round_eq, Int.floor_nonneg]
    constructor <;> intro <;> linarith

/-- A rounding does not pass a natural number until one half after it. -/
theorem roundAway_le_iff (q : ℚ) (n : Nat) : roundAway q ≤ n ↔ q < n + 1 / 2 := by
  have hn : (0 : ℚ) ≤ n := Nat.cast_nonneg n
  unfold roundAway
  split
  · next hq =>
    have hround : 0 ≤ round (-q) := by
      rw [round_eq, Int.floor_nonneg]
      linarith
    constructor <;> intro
    · linarith
    · omega
  · rw [round_eq, ← Int.lt_add_one_iff, Int.floor_lt]
    push_cast
    constructor <;> intro <;> linarith

/-- The numbers with a factorial. -/
theorem roundAway_mem_iff (q : ℚ) :
    0 ≤ roundAway q ∧ roundAway q ≤ 20 ↔ -(1 / 2) < q ∧ q < 41 / 2 := by
  have hupper := roundAway_le_iff q largestFactorial
  have hend : ((largestFactorial : Nat) : ℚ) + 1 / 2 = 41 / 2 := by
    norm_num [largestFactorial]
  rw [hend] at hupper
  exact and_congr (roundAway_nonneg_iff q) hupper

/-! ## The number whose factorial is taken -/

/-- The finite number that a text stands for. -/
def rationalOf? (text : Text) : Option ℚ :=
  ((readNumber? text).map Exact.ofFloat).bind Exact.toRat?

/-- The factorial is taken of the rounding of the number, unless this is negative. -/
theorem wholeNumber?_eq (text : Text) :
    wholeNumber? text = (rationalOf? text).bind fun q => (roundAway q).toNat? := by
  unfold wholeNumber? rationalOf?
  cases (readNumber? text).map Exact.ofFloat with
  | none => rfl
  | some value =>
    cases value with
    | infinite negative => rfl
    | nan => rfl
    | finite negative units =>
      have hround := roundAway_signed negative units
      dsimp only [Option.bind_some, Exact.toRat?]
      rw [hround]
      generalize roundHalfUp units Exact.one = n
      cases negative with
      | false => rfl
      | true => cases n <;> rfl

/-- The number of a text whose double counts halves. -/
theorem rationalOf?_of_halves {text : Text} (negative : Bool) (halves : Nat)
    (h : (readNumber? text).map Exact.ofFloat =
      some (.finite negative (halves * (Exact.one / 2)))) :
    rationalOf? text = some (signed negative (halves / 2)) := by
  have hone : (Exact.one : ℚ) = (Exact.one / 2 : Nat) * 2 := by
    have heven : Exact.one = Exact.one / 2 * 2 := by decide +kernel
    exact_mod_cast heven
  have hhalf : ((Exact.one / 2 : Nat) : ℚ) ≠ 0 := by
    have hpositive : Exact.one / 2 ≠ 0 := by decide +kernel
    exact_mod_cast hpositive
  have hvalue : ((halves * (Exact.one / 2) : Nat) : ℚ) / Exact.one = halves / 2 := by
    rw [hone, Nat.cast_mul]
    field_simp
  rw [rationalOf?, h, Option.bind_some, Exact.toRat?, hvalue]

/-! ## The product -/

/-- The product is the factorial. -/
theorem productUpTo_eq_factorial (n : Nat) : productUpTo n = n.factorial := by
  induction n with
  | zero => rfl
  | succ n ih => rw [productUpTo_succ, ih, Nat.factorial_succ]

/-- The product of the numbers from one to {lit}`n` in words of sixty-four bits, where every
multiplication may wrap around. -/
def wordProduct : Nat → UInt64
  | 0 => 1
  | n + 1 => wordProduct n * UInt64.ofNat (n + 1)

/-- No multiplication wraps around while the product fits a word. -/
theorem toNat_wordProduct {n : Nat} (h : n.factorial < 2 ^ 64) :
    (wordProduct n).toNat = n.factorial := by
  induction n with
  | zero => rfl
  | succ n ih =>
    have hprevious : n.factorial < 2 ^ 64 :=
      Nat.lt_of_le_of_lt (Nat.factorial_le (Nat.le_succ n)) h
    have hfactor : n + 1 < 2 ^ 64 := Nat.lt_of_le_of_lt (Nat.self_le_factorial (n + 1)) h
    rw [Nat.factorial_succ, Nat.mul_comm] at h ⊢
    rw [wordProduct, UInt64.toNat_mul, ih hprevious, UInt64.toNat_ofNat', Nat.mod_eq_of_lt hfactor,
      Nat.mod_eq_of_lt h]

/-- Every factorial that is computed fits a word. -/
theorem factorial_le_largestWord {n : Nat} (h : n ≤ largestFactorial) :
    n.factorial ≤ largestWord :=
  productUpTo_eq_factorial n ▸ productUpTo_le_largestWord h

/-- A whole number of sixty-four bits with fifty-three significant ones is a double. -/
theorem ofFloat_ofNat_mul_two_pow {significand shift : Nat} (hdigits : significand < 2 ^ 53)
    (hword : significand * 2 ^ shift ≤ largestWord) :
    Exact.ofFloat (Exact.ofNat (significand * 2 ^ shift)) =
      .finite false (significand * 2 ^ shift * Exact.one) := by
  have hself : Exact.nearestUnits (significand * 2 ^ shift * Exact.one) 1 =
      significand * 2 ^ shift * Exact.one := by
    obtain ⟨more, -, hone⟩ := Exact.exists_one_eq
    rw [hone, Nat.mul_assoc, ← Nat.pow_add]
    exact Exact.nearestUnits_eq_self (shift + more) hdigits
  rw [Exact.ofNat, Exact.ofFloat_nearest Nat.one_pos false (Exact.nearestUnits_word_lt hword),
    hself]

/-- Factorials are converted exactly: behind their factors of two they have at most
fifty-three binary digits. -/
theorem ofFloat_ofNat_factorial {n : Nat} (h : n ≤ largestFactorial) :
    Exact.ofFloat (Exact.ofNat n.factorial) = .finite false (n.factorial * Exact.one) := by
  have hodd : ∀ n ≤ largestFactorial, ∃ shift ≤ 18,
      n.factorial / 2 ^ shift * 2 ^ shift = n.factorial ∧ n.factorial / 2 ^ shift < 2 ^ 53 := by
    decide +kernel
  obtain ⟨shift, -, hwhole, hdigits⟩ := hodd n h
  have hword := factorial_le_largestWord h
  rw [← hwhole] at hword
  have hvalue := ofFloat_ofNat_mul_two_pow hdigits hword
  rwa [hwhole] at hvalue

/-- The double of a factorial has the value of the factorial. -/
theorem toRat?_ofNat_factorial {n : Nat} (h : n ≤ largestFactorial) :
    (Exact.ofFloat (Exact.ofNat n.factorial)).toRat? = some (n.factorial : ℚ) := by
  rw [ofFloat_ofNat_factorial h, Exact.toRat?, Exact.units_div_one_eq_iff.2 rfl, signed_false]

/-! ## The key -/

/-- The text of a factorial: its digits up to that of seventeen, and then scientific
notation. -/
theorem ofFloat_factorial {n : Nat} (h : n ≤ largestFactorial) :
    Display.ofFloat (Exact.ofNat n.factorial) =
      if n ≤ 17 then (toString n.factorial).toList
      else Display.scientific false n.factorial 1 := by
  have hshort : n.factorial < 10 ^ 15 ↔ n ≤ 17 := by
    constructor
    · intro hlt
      by_contra hlarge
      have hle : (18).factorial ≤ n.factorial := Nat.factorial_le (by omega)
      exact absurd (Nat.lt_of_le_of_lt hle hlt) (by decide)
    · exact fun hle => Nat.lt_of_le_of_lt (Nat.factorial_le hle) (by decide)
  rw [Display.ofFloat_natural (ofFloat_ofNat_factorial h) (Nat.factorial_ne_zero n)]
  simp only [hshort]

/-- The factorial of a text whose number has a rounding that is not negative. -/
theorem factorialOf_eq {text : Text} {n : Nat} (h : wholeNumber? text = some n) :
    factorialOf text =
      if n ≤ largestFactorial then .ok (Display.ofFloat (Exact.ofNat n.factorial))
      else .error (.factorialTooLarge (min n largestWord)) := by
  have hlargest : largestFactorial < largestWord := by decide
  rw [factorialOf, h]
  dsimp only
  by_cases hn : n ≤ largestFactorial
  · have hmin : min n largestWord = n := Nat.min_eq_left (Nat.le_trans hn hlargest.le)
    rw [hmin, factorial_eq_ok hn, productUpTo_eq_factorial, if_pos hn]
  · have hmin : largestFactorial < min n largestWord :=
      Nat.lt_min.2 ⟨Nat.lt_of_not_le hn, hlargest⟩
    rw [factorial_eq_error hmin, if_neg hn]

/-- The factorial key is the same in both modes. -/
theorem Entry.press_operation_factorial (entry : Entry) :
    entry.press (.operation .factorial) = entry.forget.settle (factorialOf entry.expression) := by
  have heffective : entry.forget.effective .factorial = .factorial := by
    unfold Entry.effective
    split <;> rfl
  rw [Entry.press, Entry.apply, Entry.operate, heffective]
  rfl

variable {entry : Entry}

/-- What is no number to take the factorial of is refused. -/
theorem Entry.press_factorial_of_none (h : wholeNumber? entry.expression = none) :
    entry.press (.operation .factorial) =
      entry.forget.failing (.notANumber entry.expression) := by
  rw [press_operation_factorial, factorialOf, h]
  rfl

/-- Numbers up to the largest are replaced by their factorial. -/
theorem Entry.press_factorial_of_le {n : Nat} (h : wholeNumber? entry.expression = some n)
    (hn : n ≤ largestFactorial) :
    entry.press (.operation .factorial) = entry.forget.showing
      (if n ≤ 17 then (toString n.factorial).toList
        else Display.scientific false n.factorial 1) := by
  rw [press_operation_factorial, factorialOf_eq h, if_pos hn, ofFloat_factorial hn]
  rfl

/-- Larger numbers are refused. -/
theorem Entry.press_factorial_of_lt {n : Nat} (h : wholeNumber? entry.expression = some n)
    (hn : largestFactorial < n) :
    entry.press (.operation .factorial) =
      entry.forget.failing (.factorialTooLarge (min n largestWord)) := by
  rw [press_operation_factorial, factorialOf_eq h, if_neg (Nat.not_le.2 hn)]
  rfl

/-- The factorial key on every expression.  Where it stands for a finite number whose rounding
is at least zero and at most twenty, the screen shows the factorial, in full while it has at
most fifteen digits.  Larger numbers are refused with their rounding, cut to a word, and
everything else is refused with the expression.  The mode stays, and neither the product nor
its conversion loses anything. -/
theorem press_factorial (entry : Entry) :
    let after := entry.press (.operation .factorial)
    after.inverse = entry.inverse ∧
      (∀ q, rationalOf? entry.expression = some q →
        (0 ≤ roundAway q ∧ roundAway q ≤ 20 ↔ -(1 / 2) < q ∧ q < 41 / 2) ∧
        (roundAway q < 0 → after.expression = Display.errorText ∧
          after.lastCause = some (.notANumber entry.expression)) ∧
        ∀ n : Nat, roundAway q = n →
          (n ≤ 17 → after.expression = (toString n.factorial).toList ∧
            after.lastCause = none) ∧
          (18 ≤ n → n ≤ 20 → after.expression = Display.scientific false n.factorial 1 ∧
            after.lastCause = none) ∧
          (20 < n → after.expression = Display.errorText ∧
            after.lastCause = some (.factorialTooLarge (min n (2 ^ 64 - 1))))) ∧
      (rationalOf? entry.expression = none → after.expression = Display.errorText ∧
        after.lastCause = some (.notANumber entry.expression)) ∧
      ∀ n ≤ 20, productUpTo n = n.factorial ∧ (wordProduct n).toNat = n.factorial ∧
        (Exact.ofFloat (Exact.ofNat n.factorial)).toRat? = some (n.factorial : ℚ) := by
  intro after
  have hafter : after = entry.press (.operation .factorial) := rfl
  have hnumber := wholeNumber?_eq entry.expression
  have hrefused (h : wholeNumber? entry.expression = none) :
      after.expression = Display.errorText ∧
        after.lastCause = some (.notANumber entry.expression) := by
    rw [hafter, Entry.press_factorial_of_none h]
    exact ⟨rfl, rfl⟩
  refine ⟨?_, fun q hq => ⟨roundAway_mem_iff q, fun hnegative => hrefused ?_, fun n hn => ?_⟩,
    fun hnone => hrefused ?_, fun n hn => ⟨productUpTo_eq_factorial n, ?_,
      toRat?_ofNat_factorial hn⟩⟩
  · rw [hafter, Entry.press_operation_factorial, Entry.inverse_settle, Entry.inverse_forget]
  · obtain ⟨m, hm⟩ := Int.eq_negSucc_of_lt_zero hnegative
    rw [hnumber, hq, Option.bind_some, hm]
    rfl
  · have hwhole : wholeNumber? entry.expression = some n := by
      rw [hnumber, hq, Option.bind_some, hn]
      rfl
    refine ⟨fun hshort => ?_, fun hlong hle => ?_, fun hlarge => ?_⟩
    · have hle : n ≤ largestFactorial := Nat.le_trans hshort (by decide)
      rw [hafter, Entry.press_factorial_of_le hwhole hle, if_pos hshort]
      exact ⟨rfl, rfl⟩
    · rw [hafter, Entry.press_factorial_of_le hwhole hle, if_neg (Nat.not_le.2 hlong)]
      exact ⟨rfl, rfl⟩
    · rw [hafter, Entry.press_factorial_of_lt hwhole hlarge]
      exact ⟨rfl, rfl⟩
  · rw [hnumber, hnone, Option.bind_none]
  · exact toNat_wordProduct (Nat.lt_of_le_pred (by decide) (factorial_le_largestWord hn))

/-- Nineteen and a half is rounded up to twenty, minus one half down to minus one, and what
has to be calculated first is no number. -/
theorem press_factorial_of_halves :
    let after (text : Text) := (Entry.mk text true none).press (.operation .factorial)
    (rationalOf? "19.5".toList = some (39 / 2) ∧ roundAway (39 / 2) = 20 ∧
        (after "19.5".toList).expression = "2.43290e+18".toList) ∧
      (rationalOf? "-0.5".toList = some (-(1 / 2)) ∧ roundAway (-(1 / 2)) < 0 ∧
        (after "-0.5".toList).lastCause = some (.notANumber "-0.5".toList)) ∧
      (rationalOf? "20.5".toList = some (41 / 2) ∧ roundAway (41 / 2) = 21 ∧
        (after "20.5".toList).lastCause = some (.factorialTooLarge 21)) ∧
      rationalOf? "2+3".toList = none ∧ (after "2+3".toList).inverse = true ∧
        (after "2+3".toList).expression = Display.errorText := by
  intro after
  have hlarge : rationalOf? "19.5".toList = some (39 / 2) := by
    rw [rationalOf?_of_halves false 39 (by decide +kernel)]
    norm_num
  have hnegative : rationalOf? "-0.5".toList = some (-(1 / 2)) := by
    rw [rationalOf?_of_halves true 1 (by decide +kernel)]
    norm_num
  have hbeyond : rationalOf? "20.5".toList = some (41 / 2) := by
    rw [rationalOf?_of_halves false 41 (by decide +kernel)]
    norm_num
  have hnone : rationalOf? "2+3".toList = none := by
    have hreads : readNumber? "2+3".toList = none := by decide +kernel
    rw [rationalOf?, hreads]
    rfl
  have hround : roundAway (39 / 2) = 20 := by decide +kernel
  have hbelow : roundAway (-(1 / 2)) < 0 := by decide +kernel
  have hround' : roundAway (41 / 2) = 21 := by decide +kernel
  obtain ⟨-, htwenty, -, -⟩ := press_factorial ⟨"19.5".toList, true, none⟩
  obtain ⟨-, -, htwenty⟩ := htwenty _ hlarge
  obtain ⟨-, hminus, -, -⟩ := press_factorial ⟨"-0.5".toList, true, none⟩
  obtain ⟨-, hminus, -⟩ := hminus _ hnegative
  obtain ⟨-, hrefused, -, -⟩ := press_factorial ⟨"20.5".toList, true, none⟩
  obtain ⟨-, -, hrefused⟩ := hrefused _ hbeyond
  obtain ⟨hinverse, -, hsum, -⟩ := press_factorial ⟨"2+3".toList, true, none⟩
  have htext : Display.scientific false (Nat.factorial 20) 1 = "2.43290e+18".toList := by
    decide +kernel
  exact ⟨⟨hlarge, hround, (((htwenty 20 hround).2.1 (by decide) (by decide)).1).trans htext⟩,
    ⟨hnegative, hbelow, (hminus hbelow).2⟩,
    ⟨hbeyond, hround', ((hrefused 21 hround').2.2 (by decide)).2⟩,
    hnone, hinverse, (hsum hnone).1⟩

/-- The factorials in scientific notation. -/
example :
    [18, 19, 20].map (fun n => Display.scientific false (Nat.factorial n) 1) =
      ["6.40237e+15".toList, "1.21645e+17".toList, "2.43290e+18".toList] := by
  decide +kernel

end PocketCalculator
