import PocketCalculator.Proofs.Rereading

/-!
# Errors and their causes

A key that computes something either shows the text of a finite number or of an opened
operation, and records nothing, or it fails, records the cause and shows the text of an
error.  The percent key alone records nothing at all, so that the text of an error that it
puts on the screen has no cause.  It does so where the expression begins with its last
number and a hundredth of that number is not finite.

Main definitions:

- {lit}`Key.isComputing` tells which keys compute.
- {lit}`percentOverflows` tells where a percentage is not finite.
- {lit}`Entry.Accounted` says that an error is shown exactly if a cause is recorded.

Main results:

- Theorem {lit}`percent_eq_errorText_iff`: where the percent key shows an error.
- Theorem {lit}`Entry.accounted_operate`: scientific operations account for their errors.
- Theorem {lit}`accounted_press_iff`: what accounts for its errors.
-/

namespace PocketCalculator

/-! ## Texts that are no error -/

/-- No text ends in a finite result and is the text of an error. -/
theorem Display.append_ofFloat_ne_errorText (front : Text) {x : Float}
    (hfinite : (Exact.ofFloat x).isFinite = true) : front ++ ofFloat x ≠ errorText := by
  intro herror
  have hplain : ∀ c ∈ errorText, (!isResultCharacter c) = true :=
    List.all_eq_true.1 (by decide)
  cases htext : ofFloat x with
  | nil =>
    have hidle := isIdle_ofFloat hfinite
    rw [htext] at hidle
    exact absurd hidle (by decide)
  | cons c more =>
    have hc : c ∈ ofFloat x := htext ▸ List.mem_cons_self
    have hresult := isResultCharacter_of_mem hfinite hc
    have hother := hplain c (herror ▸ List.mem_append_right front hc)
    rw [hresult] at hother
    exact absurd hother Bool.false_ne_true

/-- A finite result is no error. -/
theorem Display.ofFloat_ne_errorText {x : Float}
    (hfinite : (Exact.ofFloat x).isFinite = true) : ofFloat x ≠ errorText :=
  append_ofFloat_ne_errorText [] hfinite

/-- The text of a calculation that succeeds is no error. -/
theorem outcome_ne_errorText {calculation : Except Cause Float} {text : Text}
    (h : outcome calculation = .ok text) : text ≠ Display.errorText := by
  cases calculation with
  | error cause => exact absurd h (by simp [outcome])
  | ok x =>
    obtain ⟨hfinite, rfl⟩ := resultText_eq_ok_iff.1 h
    exact Display.ofFloat_ne_errorText hfinite

/-- The double nearest to a whole number of sixty-four bits does not pass the largest one. -/
theorem Exact.nearestUnits_word_lt {n : Nat} (h : n ≤ largestWord) :
    nearestUnits (n * one) 1 < beyond := by
  have hword : n ≤ 2 ^ 64 := Nat.le_trans h (Nat.sub_le _ 1)
  apply nearestUnits_lt_beyond Nat.one_pos
  obtain ⟨shift, hshift, hone⟩ := exists_one_eq
  calc n * one ≤ 2 ^ 64 * 2 ^ shift := by rw [hone]; exact Nat.mul_le_mul_right _ hword
    _ = 2 ^ (64 + shift) := (Nat.pow_add 2 64 shift).symm
    _ ≤ 2 ^ (exponentBeyond - 53) :=
      Nat.pow_le_pow_right (by decide) (by rw [hshift]; decide)
    _ ≤ largest * 1 := by
      rw [Nat.mul_one, largest]
      exact Nat.le_mul_of_pos_left _ (by decide)

/-- Whole numbers of sixty-four bits are within the range of the doubles. -/
theorem Exact.isFinite_ofNat {n : Nat} (h : n ≤ largestWord) :
    (Exact.ofFloat (Exact.ofNat n)).isFinite = true := by
  rw [ofNat, ofFloat_nearest Nat.one_pos false (nearestUnits_word_lt h)]
  rfl

/-- Every product that is computed fits a word. -/
theorem productUpTo_le_largestWord {n : Nat} (h : n ≤ largestFactorial) :
    productUpTo n ≤ largestWord := by
  have hword : ∀ n ≤ largestFactorial, productUpTo n ≤ largestWord := by decide +kernel
  exact hword n h

/-- The text of a factorial is no error. -/
theorem factorialOf_ne_errorText {expression text : Text}
    (h : factorialOf expression = .ok text) : text ≠ Display.errorText := by
  unfold factorialOf at h
  split at h
  · exact absurd h (by simp)
  next n _ =>
  generalize min n largestWord = m at h
  by_cases hlarge : m ≤ largestFactorial
  · rw [factorial_eq_ok hlarge] at h
    obtain rfl := Except.ok.inj h
    exact Display.ofFloat_ne_errorText (Exact.isFinite_ofNat (productUpTo_le_largestWord hlarge))
  · rw [factorial_eq_error (Nat.lt_of_not_le hlarge)] at h
    exact absurd h (by simp)

/-- What opens an operation ends in a parenthesis, and is no error. -/
theorem afterInsertion_ne_errorText (expression : Text) (operation : Operation) :
    afterInsertion expression operation.opening ≠ Display.errorText := by
  obtain ⟨name, hname⟩ : ∃ name, operation.opening = name ++ ['('] := by
    cases operation with
    | reciprocal => exact ⟨"1/".toList, rfl⟩
    | factorial => exact ⟨_, rfl⟩
    | function f => exact ⟨_, rfl⟩
    | other identifier => exact ⟨_, rfl⟩
  have hlast : (afterInsertion expression operation.opening).getLast? = some '(' := by
    unfold afterInsertion
    split <;> simp [hname]
  intro herror
  rw [herror] at hlast
  exact absurd hlast (by decide)

/-! ## Percentages -/

/-- Whether a percentage is not finite and nothing stands before it: the expression begins
with its last number, and a hundredth of the number passes the largest double. -/
def percentOverflows (expression : Text) : Bool :=
  let (before, run, _) := splitAtLastRun expression
  before.isEmpty && match Decimal.ofPlain? run with
    | some decimal => !(Exact.ofFloat (decimal.toFloat / 100)).isFinite
    | none => false

/-- The percent key leaves the text of an error exactly where the percentage overflows. -/
theorem percent_eq_errorText_iff (expression : Text) :
    percent expression = Display.errorText ↔ percentOverflows expression = true := by
  unfold percent percentOverflows
  rcases splitAtLastRun expression with ⟨before, run, after⟩
  dsimp only
  cases Decimal.ofPlain? run with
  | none =>
    have hlast : (expression ++ ['%']).getLast? = some '%' := by simp
    constructor
    · intro herror
      dsimp only at herror
      rw [herror] at hlast
      exact absurd hlast (by decide)
    · intro hnone
      simp at hnone
  | some decimal =>
    dsimp only
    cases hfinite : (Exact.ofFloat (decimal.toFloat / 100)).isFinite with
    | true =>
      constructor
      · exact fun herror => absurd herror (Display.append_ofFloat_ne_errorText before hfinite)
      · simp
    | false =>
      rw [Display.ofFloat_of_not_finite hfinite]
      simp

/-! ## Keys -/

/-- Whether a key computes: the percent key, equals, and the scientific operations. -/
def Key.isComputing : Key → Bool
  | .symbol text => text = ['%']
  | .operation _ => true
  | .invert => false
  | .equals => true
  | .clear _ => false

namespace Entry

/-- An error is shown exactly if a cause is recorded. -/
def Accounted (entry : Entry) : Prop :=
  entry.expression = Display.errorText ↔ entry.lastCause.isSome = true

variable {entry : Entry}

/-- A text that is no error needs no cause. -/
theorem accounted_showing (hforgot : entry.lastCause = none) {text : Text}
    (h : text ≠ Display.errorText) : (entry.showing text).Accounted := by
  simp [Accounted, hforgot, h]

/-- A calculation that fails records its cause. -/
theorem accounted_settle (hforgot : entry.lastCause = none) {calculation : Except Cause Text}
    (h : ∀ text, calculation = .ok text → text ≠ Display.errorText) :
    (entry.settle calculation).Accounted := by
  cases calculation with
  | ok text => exact accounted_showing hforgot (h text rfl)
  | error cause => simp [Accounted, settle]

/-- Opening an operation needs no cause. -/
theorem accounted_openOperation (hforgot : entry.lastCause = none) (operation : Operation) :
    (entry.openOperation operation).Accounted :=
  accounted_showing hforgot (afterInsertion_ne_errorText entry.expression operation)

/-- Applying a function at once accounts for its failure. -/
theorem accounted_applyOrOpen (hforgot : entry.lastCause = none) (operation : Operation)
    (compute : Float → Except Cause Float) :
    (entry.applyOrOpen operation compute).Accounted := by
  unfold applyOrOpen
  cases immediate? operation entry.expression with
  | some x => exact accounted_settle hforgot fun text => outcome_ne_errorText
  | none => exact accounted_openOperation hforgot operation

/-- Scientific operations account for their failures. -/
theorem accounted_operate (hforgot : entry.lastCause = none) (operation : Operation) :
    (entry.operate operation).Accounted := by
  unfold operate
  cases entry.effective operation with
  | factorial => exact accounted_settle hforgot fun text => factorialOf_ne_errorText
  | reciprocal => exact accounted_applyOrOpen hforgot _ _
  | function f => exact accounted_applyOrOpen hforgot _ _
  | other identifier => exact accounted_openOperation hforgot _

/-- Equals accounts for the failure of what it calculates. -/
theorem accounted_equals (hforgot : entry.lastCause = none)
    (hentry : entry.expression ≠ Display.errorText) : entry.equals.Accounted := by
  unfold equals
  split
  · exact accounted_showing hforgot hentry
  · exact accounted_settle hforgot fun text => outcome_ne_errorText

/-- The percent key records no cause. -/
theorem lastCause_press_percent (entry : Entry) :
    (entry.press (.symbol ['%'])).lastCause = none := rfl

/-- The percent key shows an error exactly where the percentage overflows. -/
theorem accounted_press_percent_iff (entry : Entry) :
    (entry.press (.symbol ['%'])).Accounted ↔ percentOverflows entry.expression = false := by
  have hscreen : (entry.press (.symbol ['%'])).expression = percent entry.expression := rfl
  rw [Accounted, lastCause_press_percent, hscreen, percent_eq_errorText_iff]
  simp

end Entry

/-- A key that computes shows a new error exactly if it records a cause, with one
exception: where the percentage overflows, the percent key shows an error and records
nothing.  A recorded cause always belongs to an error on the screen. -/
theorem accounted_press_iff {entry : Entry} {key : Key}
    (hentry : entry.expression ≠ Display.errorText) (hkey : key.isComputing = true) :
    ((entry.press key).Accounted ↔
        ¬ (key = .symbol ['%'] ∧ percentOverflows entry.expression = true)) ∧
      ((entry.press key).lastCause.isSome = true →
        (entry.press key).expression = Display.errorText) := by
  have hforgot : entry.forget.lastCause = none := rfl
  have haccounted (hpercent : key ≠ .symbol ['%']) : (entry.press key).Accounted := by
    cases key with
    | symbol text => exact absurd (congrArg Key.symbol (of_decide_eq_true hkey)) hpercent
    | operation operation => exact Entry.accounted_operate hforgot operation
    | equals => exact Entry.accounted_equals hforgot hentry
    | invert => exact absurd hkey (by decide)
    | clear clearing => exact absurd hkey Bool.false_ne_true
  by_cases hpercent : key = .symbol ['%']
  · subst hpercent
    rw [Entry.accounted_press_percent_iff]
    exact ⟨by simp, by simp [Entry.lastCause_press_percent]⟩
  · exact ⟨by simp [haccounted hpercent, hpercent], (haccounted hpercent).2⟩

/-- Three hundred and ten nines are a number beyond the doubles.  Equals records why it
fails on them, and the percent key does not. -/
theorem accounted_press_nines :
    let entry := Entry.new.pressAll (List.replicate 310 (.symbol ['9']))
    entry.expression ≠ Display.errorText ∧ percentOverflows entry.expression = true ∧
      (entry.press .equals).Accounted ∧ ¬ (entry.press (.symbol ['%'])).Accounted := by
  intro entry
  have hentry : entry.expression ≠ Display.errorText := by decide +kernel
  have hoverflow : percentOverflows entry.expression = true := by decide +kernel
  have hequals := (accounted_press_iff hentry (rfl : Key.equals.isComputing = true)).1
  have hpercent :=
    (accounted_press_iff hentry (rfl : (Key.symbol ['%']).isComputing = true)).1
  exact ⟨hentry, hoverflow, hequals.2 (by simp), fun h => hpercent.1 h ⟨rfl, hoverflow⟩⟩

/-- The error on the screen after the percent key, with no cause. -/
theorem percent_of_nines_has_no_cause :
    let entry := Entry.new.pressAll (List.replicate 310 (.symbol ['9']))
    entry.expression ≠ Display.errorText ∧
      (entry.press (.symbol ['%'])).expression = Display.errorText ∧
      (entry.press (.symbol ['%'])).lastCause = none := by
  decide +kernel

end PocketCalculator
