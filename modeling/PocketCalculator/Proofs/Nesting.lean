import PocketCalculator.Proofs.Tracking

/-!
# Room for more factors

More room changes nothing but refusals: where a factor, a product or a sum is not
refused for being too deeply nested, it reads the same with room for more.

Main definitions:

- {lit}`Reader.Agrees` says that a reader does what another does, a given failure of
  the other apart.

Main results:

- Theorem {lit}`Reader.agrees_factor_of_le`: a factor with more room agrees with one that
  has less, refusals apart.
-/

namespace PocketCalculator

namespace Reader

variable {α : Type} {meaning : Meaning α} {cause : Cause} {inner more : Reader α}

/-- The second reader does what the first one does, except where the first one fails
with a given cause. -/
def Agrees (cause : Cause) (inner more : Reader α) : Prop :=
  ∀ input, inner.run input = .error cause ∨ more.run input = inner.run input

/-- Agreeing readers read the same input in parallel. -/
theorem Agrees.parallel (h : Agrees cause inner more) :
    Parallel Eq Eq (· = cause) inner more := by
  rintro input - rfl
  rcases h input with hrefused | hsame
  · rw [hrefused]
    exact .lost (by rfl) _
  · rw [hsame]
    cases inner.run input with
    | error other => exact .error other
    | ok reading => exact .ok rfl

/-- An outcome that is tracked on the same input is the same, or the given failure. -/
theorem Tracks.refused_or_eq {first second : Reading α}
    (h : Tracks Eq (· = cause) first second) : first = .error cause ∨ second = first := by
  cases h with
  | ok hrest => exact .inr (by rw [hrest])
  | error other => exact .inr rfl
  | lost hlost => exact .inl (by rw [hlost])

/-- Equality is respected by every step of the grammar. -/
theorem respected_eq (lost : Cause → Prop) : Respected Eq Eq lost where
  step {input input'} h := by
    subst h
    cases input with
    | nil => exact .inr ⟨by simp [AtClosing], by simp [AtClosing], .inl rfl⟩
    | cons token more => exact .inl ⟨token, more, more, rfl, rfl, fun _ => rfl, fun _ => rfl⟩
  closing h := by rw [h]

/-- Sums of agreeing factors agree. -/
theorem agrees_sum (meaning : Meaning α) (h : Agrees cause inner more) :
    Agrees cause (sum meaning inner) (sum meaning more) :=
  fun _ => (parallel_sum meaning (respected_eq _) h.parallel rfl).refused_or_eq

/-- Opened factors with agreeing factors inside agree. -/
theorem agrees_opened (h : Agrees cause inner more) (input : List Token) :
    opened meaning inner input = .error cause ∨
      opened meaning more input = opened meaning inner input :=
  (tracks_opened (respected_eq _) h.parallel h.parallel rfl).refused_or_eq

/-- A factor with at least as much room agrees with another, refusals apart, whatever limit
a refusal names. -/
theorem agrees_factor_of_le (meaning : Meaning α) (limit limit' : Nat) {room room' : Nat}
    (h : room ≤ room') :
    Agrees (.tooDeeplyNested limit) (factor meaning limit room)
      (factor meaning limit' room') := by
  induction room generalizing room' with
  | zero => exact fun input => .inl rfl
  | succ room ih =>
    cases room' with
    | zero => exact absurd h (Nat.not_succ_le_zero room)
    | succ room' => exact fun input => agrees_opened (ih (Nat.le_of_succ_le_succ h)) input

/-- A factor with room for one more agrees with one that has less, refusals apart. -/
theorem agrees_factor (meaning : Meaning α) (limit room : Nat) :
    Agrees (.tooDeeplyNested limit) (factor meaning limit room)
      (factor meaning limit (room + 1)) :=
  agrees_factor_of_le meaning limit limit (Nat.le_succ room)

end Reader

end PocketCalculator
