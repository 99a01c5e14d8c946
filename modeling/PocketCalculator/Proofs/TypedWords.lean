import PocketCalculator.Proofs.InverseMode

/-!
# Deleting what has been typed

A symbol of one character is added to the screen or takes the place of the placeholder, and
one deletion undoes both.  So as many deletions as a word has characters undo the typing of
the word, symbol by symbol and the last one first.  The percent key is no symbol in this
sense, and a word is lost where it completes the text of an error.

Main results:

- Theorem {lit}`Entry.afterDeletion_afterSymbol`: one deletion undoes one symbol.
- Theorem {lit}`deletions_undo_typing`: deletions undo the typing of a word.
-/

namespace PocketCalculator

namespace Entry

/-! ## One symbol -/

/-- A symbol of one character replaces the placeholder, or is added. -/
theorem afterSymbol_singleton {c : Char} (hc : c ≠ '%') (expression : Text) :
    expression = placeholder ∧ afterSymbol expression [c] = [c] ∨
      afterSymbol expression [c] = expression ++ [c] := by
  have hpercent : [c] ≠ ['%'] := by simpa using hc
  rw [afterSymbol, if_neg hpercent]
  split
  · next h =>
    rw [Bool.and_eq_true, decide_eq_true_eq] at h
    exact .inl ⟨h.1, rfl⟩
  · exact .inr rfl

/-- One deletion undoes one symbol, unless the symbol completes the text of an error. -/
theorem afterDeletion_afterSymbol {expression : Text} {c : Char} (hne : expression ≠ [])
    (hc : c ≠ '%') (herror : afterSymbol expression [c] ≠ Display.errorText) :
    afterDeletion (afterSymbol expression [c]) = expression := by
  rcases afterSymbol_singleton hc expression with ⟨rfl, hscreen⟩ | hscreen
  · rw [hscreen, afterDeletion, if_pos (.inr (Nat.le_refl 1))]
  · rw [hscreen] at herror ⊢
    have hlong : ¬ (expression ++ [c]).length ≤ 1 := by
      have hpositive := List.length_pos_iff.2 hne
      rw [List.length_append, List.length_singleton]
      omega
    rw [afterDeletion, if_neg (not_or.2 ⟨herror, hlong⟩), List.dropLast_concat]

/-! ## A word -/

/-- Keys that neither switch the mode nor clear everything leave the mode as it is. -/
theorem inverse_playAll_of_ne {strokes : List Stroke}
    (h : ∀ stroke ∈ strokes, stroke.key ≠ .invert ∧ stroke.key ≠ .clear .all) (entry : Entry) :
    (entry.playAll strokes).inverse = entry.inverse := by
  induction strokes generalizing entry with
  | nil => rfl
  | cons stroke strokes ih =>
    obtain ⟨⟨hinvert, hclear⟩, hrest⟩ := List.forall_mem_cons.1 h
    rw [playAll_cons, ih hrest, inverse_play, Key.modeAfter_of_ne hinvert hclear]

/-- As many deletions as a word has characters undo the typing of the word. -/
theorem expression_playAll_typed {entry : Entry} {word : Text} {typed deletions : List Stroke}
    (hne : entry.expression ≠ []) (hword : ∀ c ∈ word, c ≠ '%')
    (htyped : typed.map Stroke.key = word.map fun c => .symbol [c])
    (hdeletions : deletions.map Stroke.key = List.replicate word.length (.clear .last))
    (herror : ∀ i < word.length,
      (entry.playAll (typed.take (i + 1))).expression ≠ Display.errorText) :
    (entry.playAll (typed ++ deletions)).expression = entry.expression := by
  induction word generalizing entry typed deletions with
  | nil =>
    obtain rfl := List.map_eq_nil_iff.1 htyped
    obtain rfl := List.map_eq_nil_iff.1 hdeletions
    rfl
  | cons c word ih =>
    obtain ⟨hc, hrest⟩ := List.forall_mem_cons.1 hword
    obtain ⟨stroke, typed, rfl, hstroke, htyped⟩ := List.map_eq_cons_iff.1 htyped
    rw [List.length_cons, List.replicate_succ', List.map_eq_append_iff] at hdeletions
    obtain ⟨deletions, last, rfl, hdeletions, hlast⟩ := hdeletions
    obtain ⟨deletion, rfl, hdeletion⟩ := List.map_eq_singleton_iff.1 hlast
    have hscreen : (entry.play stroke).expression = afterSymbol entry.expression [c] := by
      rw [expression_play, hstroke]
      rfl
    have hne' : (entry.play stroke).expression ≠ [] := by
      rw [hscreen]
      exact afterSymbol_ne_nil hne [c]
    have hundone := ih hne' hrest htyped hdeletions fun i hi => herror (i + 1) (Nat.succ_lt_succ hi)
    rw [List.cons_append, ← List.append_assoc, playAll_cons, playAll_append, playAll_cons,
      playAll_nil, expression_play, hdeletion]
    have hfirst : afterSymbol entry.expression [c] ≠ Display.errorText := by
      rw [← hscreen]
      exact herror 0 (Nat.succ_pos _)
    calc afterDeletion ((entry.play stroke).playAll (typed ++ deletions)).expression
        = afterDeletion (afterSymbol entry.expression [c]) := by rw [hundone, hscreen]
      _ = entry.expression := afterDeletion_afterSymbol hne hc hfirst

end Entry

/-- Deletions undo typing: after a word has been typed symbol by symbol, as many deletions as
it has characters bring the screen back that was there before, and the mode has not changed.
This holds on every screen that is not empty, the placeholder and the text of an error among
them, as long as the percent key is not used and no symbol completes the text of an error. -/
theorem deletions_undo_typing {entry : Entry} {word : Text} {typed deletions : List Stroke}
    (hne : entry.expression ≠ []) (hword : ∀ c ∈ word, c ≠ '%')
    (htyped : typed.map Stroke.key = word.map fun c => .symbol [c])
    (hdeletions : deletions.map Stroke.key = List.replicate word.length (.clear .last))
    (herror : ∀ i < word.length,
      (entry.playAll (typed.take (i + 1))).expression ≠ Display.errorText) :
    (entry.playAll (typed ++ deletions)).expression = entry.expression ∧
      (entry.playAll (typed ++ deletions)).inverse = entry.inverse := by
  refine ⟨Entry.expression_playAll_typed hne hword htyped hdeletions herror, ?_⟩
  apply Entry.inverse_playAll_of_ne
  intro stroke hstroke
  have hkey : stroke.key ∈ (typed ++ deletions).map Stroke.key := List.mem_map_of_mem hstroke
  rw [List.map_append, htyped, hdeletions, List.mem_append] at hkey
  rcases hkey with hkey | hkey
  · obtain ⟨c, -, hc⟩ := List.mem_map.1 hkey
    rw [← hc]
    exact ⟨by simp, by simp⟩
  · rw [List.eq_of_mem_replicate hkey]
    exact ⟨by simp, by simp⟩

/-- Behind the text of an error a word may hold the letters that would spell an error anew. -/
theorem deletions_undo_typing_after_failure :
    let entry := Entry.new.pressAll [.invert, .symbol "×".toList, .equals]
    let typed : List Stroke := "÷é0Error".toList.map fun c => ⟨.symbol [c], c == 'r'⟩
    let deletions := List.replicate 8 (⟨.clear .last, false⟩ : Stroke)
    entry.expression = "Error".toList ∧ entry.inverse = true ∧
      (entry.playAll typed).expression = "Error÷é0Error".toList ∧
      (entry.playAll (typed ++ deletions)).expression = "Error".toList ∧
      (entry.playAll (typed ++ deletions)).inverse = true := by
  intro entry typed deletions
  have hscreen : entry.expression = "Error".toList := by decide +kernel
  have hmode : entry.inverse = true := by decide +kernel
  have hword : (entry.playAll typed).expression = "Error÷é0Error".toList := by decide +kernel
  have hne : entry.expression ≠ [] := by
    rw [hscreen]
    decide
  have htyped : typed.map Stroke.key = "÷é0Error".toList.map fun c => .symbol [c] := rfl
  have hdeletions : deletions.map Stroke.key =
      List.replicate "÷é0Error".toList.length (.clear .last) := rfl
  have herror : ∀ i < "÷é0Error".toList.length,
      (entry.playAll (typed.take (i + 1))).expression ≠ Display.errorText := by decide +kernel
  have hpercent : '%' ∉ "÷é0Error".toList := by decide +kernel
  obtain ⟨hundone, hkept⟩ := deletions_undo_typing hne
    (fun c hc => ne_of_mem_of_not_mem hc hpercent) htyped hdeletions herror
  exact ⟨hscreen, hmode, hword, hundone.trans hscreen, hkept.trans hmode⟩

end PocketCalculator
