import PocketCalculator.Proofs.Parts

/-!
# Counting open factors

The descent without a limit, with a gauge beside it.  The gauge goes up by one where a
factor is opened and down by one where it ends, well or badly, and it remembers the
highest count.  The limited descent is refused exactly where the gauge without a limit
passes the limit; everywhere else the limit cannot be noticed.

Main definitions:

- {lit}`Reader.gaugeFactor` is what one factor does to the gauge.
- {lit}`mostOpen` is the highest count while an expression is read without a limit.

Main results:

- Theorem {lit}`Reader.count_gaugeFactor`: after every factor the count is what it was.
- Theorem {lit}`Reader.limit_lt_gaugeFactor_iff`: a factor passes the limit exactly if the
  limited one is refused.
- Theorem {lit}`readTokens_refused_iff`: the same for a whole expression.
- Theorem {lit}`evaluate_eq_evaluateUnlimited`: everything else is read as without a limit.
-/

namespace PocketCalculator

namespace Reader

variable {α : Type}

/-! ## The gauge -/

/-- How many factors are open, and how many were open at most. -/
structure Gauge where
  count : Nat
  most : Nat
deriving DecidableEq, Repr

namespace Gauge

/-- No factor has been opened. -/
def start : Gauge := ⟨0, 0⟩

/-- Counts a factor that is opened. -/
def opening (gauge : Gauge) : Gauge := ⟨gauge.count + 1, max gauge.most (gauge.count + 1)⟩

/-- Counts a factor that ends. -/
def closing (gauge : Gauge) : Gauge := { gauge with count := gauge.count - 1 }

end Gauge

/-- What a factor read without a limit does to the gauge: it is opened, its parts do what
they do one after another, and it ends. -/
def gaugeFactor (meaning : Meaning α) (input : List Token) (gauge : Gauge) : Gauge :=
  ((parts meaning (unlimited meaning) input).attach.foldl
    (fun gauge site => gaugeFactor meaning site.1 gauge) gauge.opening).closing
termination_by input.length
decreasing_by exact length_of_mem_parts site.2

/-- What factors read one after another do to the gauge. -/
def gaugeAll (meaning : Meaning α) (sites : List (List Token)) (gauge : Gauge) : Gauge :=
  sites.foldl (fun gauge site => gaugeFactor meaning site gauge) gauge

section Gauges

variable {meaning : Meaning α} {sites : List (List Token)}

@[simp] theorem gaugeAll_nil (meaning : Meaning α) (gauge : Gauge) :
    gaugeAll meaning [] gauge = gauge := rfl

@[simp] theorem gaugeAll_cons (meaning : Meaning α) (site : List Token)
    (sites : List (List Token)) (gauge : Gauge) :
    gaugeAll meaning (site :: sites) gauge =
      gaugeAll meaning sites (gaugeFactor meaning site gauge) := rfl

/-- The recursion of the gauge. -/
theorem gaugeFactor_eq (meaning : Meaning α) (input : List Token) (gauge : Gauge) :
    gaugeFactor meaning input gauge =
      (gaugeAll meaning (parts meaning (unlimited meaning) input) gauge.opening).closing := by
  rw [gaugeFactor, gaugeAll,
    List.foldl_attach (f := fun gauge site => gaugeFactor meaning site gauge)]

/-- Factors that give back the count one by one give it back all together. -/
theorem count_gaugeAll
    (h : ∀ site ∈ sites, ∀ gauge, (gaugeFactor meaning site gauge).count = gauge.count)
    (gauge : Gauge) : (gaugeAll meaning sites gauge).count = gauge.count := by
  induction sites generalizing gauge with
  | nil => rfl
  | cons site sites ih =>
    rw [gaugeAll_cons, ih (fun other hother => h other (List.mem_cons_of_mem site hother))]
    exact h site List.mem_cons_self gauge

/-- After every factor, read well or badly, the count is what it was before. -/
theorem count_gaugeFactor (meaning : Meaning α) (input : List Token) (gauge : Gauge) :
    (gaugeFactor meaning input gauge).count = gauge.count := by
  induction hlength : input.length using Nat.strongRecOn generalizing input gauge with
  | _ length ih =>
    have hparts : ∀ site ∈ parts meaning (unlimited meaning) input, ∀ gauge,
        (gaugeFactor meaning site gauge).count = gauge.count := fun site hsite gauge =>
      ih site.length (hlength ▸ length_of_mem_parts hsite) site gauge rfl
    rw [gaugeFactor_eq, Gauge.closing, count_gaugeAll hparts]
    rfl

/-- Factors that never lower the highest count one by one never lower it all together. -/
theorem most_le_gaugeAll
    (h : ∀ site ∈ sites, ∀ gauge, gauge.most ≤ (gaugeFactor meaning site gauge).most)
    (gauge : Gauge) : gauge.most ≤ (gaugeAll meaning sites gauge).most := by
  induction sites generalizing gauge with
  | nil => exact Nat.le_refl _
  | cons site sites ih =>
    rw [gaugeAll_cons]
    exact Nat.le_trans (h site List.mem_cons_self gauge)
      (ih (fun other hother => h other (List.mem_cons_of_mem site hother)) _)

/-- A factor counts itself, and never lowers the highest count. -/
theorem most_opening_le_gaugeFactor (meaning : Meaning α) (input : List Token)
    (gauge : Gauge) : gauge.opening.most ≤ (gaugeFactor meaning input gauge).most := by
  induction hlength : input.length using Nat.strongRecOn generalizing input gauge with
  | _ length ih =>
    rw [gaugeFactor_eq]
    refine most_le_gaugeAll (fun site hsite gauge => ?_) gauge.opening
    have hsite := ih site.length (hlength ▸ length_of_mem_parts hsite) site gauge rfl
    exact Nat.le_trans (Nat.le_max_left _ _) hsite

/-- If the gauge tells for each factor whether it is refused, it tells whether any of them
is. -/
theorem limit_lt_gaugeAll_iff {limit room : Nat}
    (h : ∀ site (gauge : Gauge), gauge.count + room = limit → gauge.most ≤ limit →
      (limit < (gaugeFactor meaning site gauge).most ↔
        (factor meaning limit room).run site = .error (.tooDeeplyNested limit)))
    (gauge : Gauge) (hcount : gauge.count + room = limit) (hmost : gauge.most ≤ limit) :
    limit < (gaugeAll meaning sites gauge).most ↔
      ∃ site ∈ sites, (factor meaning limit room).run site = .error (.tooDeeplyNested limit) := by
  induction sites generalizing gauge with
  | nil => simpa using hmost
  | cons site sites ih =>
    have hsite := h site gauge hcount hmost
    simp only [gaugeAll_cons, List.mem_cons, exists_eq_or_imp]
    by_cases hlt : limit < (gaugeFactor meaning site gauge).most
    · have hrest : (gaugeFactor meaning site gauge).most ≤
          (gaugeAll meaning sites (gaugeFactor meaning site gauge)).most :=
        most_le_gaugeAll (fun other _ gauge => Nat.le_trans (Nat.le_max_left _ _)
          (most_opening_le_gaugeFactor meaning other gauge)) _
      exact ⟨fun _ => .inl (hsite.1 hlt), fun _ => Nat.lt_of_lt_of_le hlt hrest⟩
    · have hrest := ih (gaugeFactor meaning site gauge)
        (by rw [count_gaugeFactor, hcount]) (Nat.le_of_not_lt hlt)
      rw [hrest, or_iff_right (fun hrefused => hlt (hsite.2 hrefused))]

/-- The gauge without a limit passes the limit in exactly those factors that the limit
refuses: count and room together are the limit, so it does where the room runs out. -/
theorem limit_lt_gaugeFactor_iff (hcall : meaning.NeverRefuses) {limit room : Nat}
    (input : List Token) (gauge : Gauge) (hcount : gauge.count + room = limit)
    (hmost : gauge.most ≤ limit) :
    limit < (gaugeFactor meaning input gauge).most ↔
      (factor meaning limit room).run input = .error (.tooDeeplyNested limit) := by
  induction room generalizing input gauge with
  | zero =>
    have hopening := most_opening_le_gaugeFactor meaning input gauge
    have hpassed : limit < gauge.opening.most := by
      simp only [Gauge.opening]
      omega
    exact ⟨fun _ => rfl, fun _ => Nat.lt_of_lt_of_le hpassed hopening⟩
  | succ room ih =>
    rw [run_factor_succ_refused_iff hcall, gaugeFactor_eq]
    refine limit_lt_gaugeAll_iff ih gauge.opening ?_ ?_
    · simp only [Gauge.opening]
      omega
    · simp only [Gauge.opening]
      omega

end Gauges

end Reader

/-! ## Whole expressions -/

/-- How many factors are open at most while an expression is read without a limit. -/
def mostOpenIn {α : Type} (meaning : Meaning α) (input : List Token) : Nat :=
  (Reader.gaugeAll meaning (Reader.sumSites meaning (Reader.unlimited meaning) input)
    Reader.Gauge.start).most

/-- How many factors are open at most while the value of an expression is read without a
limit. -/
def mostOpen (text : Text) : Nat := mostOpenIn Meaning.number (Token.lex text)

/-- An expression is refused exactly if more factors than the limit are open at once when
there is none. -/
theorem readTokens_refused_iff {α : Type} {meaning : Meaning α} (hcall : meaning.NeverRefuses)
    (limit : Nat) (input : List Token) :
    readTokens meaning limit input = .error (.tooDeeplyNested limit) ↔
      limit < mostOpenIn meaning input := by
  rw [readTokens, Reader.complete_eq_refused_iff, Reader.run_sum_refused_iff hcall, mostOpenIn]
  exact (Reader.limit_lt_gaugeAll_iff (Reader.limit_lt_gaugeFactor_iff hcall)
    Reader.Gauge.start (Nat.zero_add limit) (Nat.zero_le limit)).symm

/-- The limit changes nothing but refusals.  An expression is refused exactly if more
factors than the limit are open at once in the descent without one; every other expression
has the value or the failure that it has there.  In that descent each factor is opened like
any other, and each gives back the count of open factors. -/
theorem evaluate_eq_evaluateUnlimited (text : Text) :
    (evaluate text = .error (.tooDeeplyNested nestingLimit) ↔ nestingLimit < mostOpen text) ∧
      evaluate text =
        (if mostOpen text ≤ nestingLimit then evaluateUnlimited text
          else .error (.tooDeeplyNested nestingLimit)) ∧
      (∀ input, (Reader.unlimited Meaning.number).run input =
        Reader.opened Meaning.number (Reader.unlimited Meaning.number) input) ∧
      ∀ input gauge, (Reader.gaugeFactor Meaning.number input gauge).count = gauge.count := by
  have hcall := Meaning.neverRefuses_number
  have hrefused := readTokens_refused_iff hcall nestingLimit (Token.lex text)
  refine ⟨hrefused, ?_, Reader.run_unlimited hcall, Reader.count_gaugeFactor Meaning.number⟩
  split
  · next hopen =>
    rcases readTokens_refused_or_eq hcall nestingLimit (Token.lex text) with hdeep | hsame
    · exact absurd (hrefused.1 hdeep) (Nat.not_lt_of_le hopen)
    · exact hsame
  · next hopen => exact hrefused.2 (Nat.lt_of_not_le hopen)

end PocketCalculator
