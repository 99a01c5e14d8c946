/-!
# Text

Every text of the calculator is a list of characters.  A screen holds a few
dozen of them, and lists give each operation a direct recursion.

Main definitions:

- {lit}`Text` is the type of all texts.
- {lit}`Text.dropTrailing` removes one character, repeated any number of
  times, from the end of a text.
- {lit}`Text.occursIn` looks for a piece in a text.

Main results:

- {lit}`Text.takeWhile_append_of_boundary` and
  {lit}`Text.dropWhile_append_of_boundary` cut a text at the end of a run: the run
  holds the characters of a class, and the next character is outside of it.
-/

namespace PocketCalculator

/-- A text is the list of its characters, Unicode scalar values. -/
abbrev Text := List Char

namespace Text

/-- Removes every copy of a character from the end of a text. -/
def dropTrailing (c : Char) (text : Text) : Text :=
  (text.reverse.dropWhile (· == c)).reverse

@[simp] theorem dropTrailing_nil (c : Char) : dropTrailing c [] = [] := rfl

/-- A trailing copy of the character goes. -/
@[simp] theorem dropTrailing_concat_self (c : Char) (text : Text) :
    dropTrailing c (text ++ [c]) = dropTrailing c text := by
  simp [dropTrailing]

/-- A text that ends in another character is left as it is. -/
theorem dropTrailing_concat_of_ne {c d : Char} (h : d ≠ c) (text : Text) :
    dropTrailing c (text ++ [d]) = text ++ [d] := by
  simp [dropTrailing, h]

/-! ## Pieces -/

/-- Whether a piece stands somewhere in a text. -/
def occursIn (piece : Text) : Text → Bool
  | [] => piece.isEmpty
  | c :: text => piece.isPrefixOf (c :: text) || occursIn piece text

/-- A piece stands in a text if the text can be cut in front of it and behind it. -/
theorem occursIn_iff {piece text : Text} : piece.occursIn text = true ↔ piece <:+: text := by
  induction text with
  | nil => simp [occursIn]
  | cons c text ih => simp [occursIn, ih, List.infix_cons_iff]

/-! ## Runs -/

/-- A run of a class of characters is taken up to its boundary. -/
theorem takeWhile_append_of_boundary {p : Char → Bool} {run rest : Text}
    (inside : ∀ c ∈ run, p c = true) (boundary : ∀ c, rest.head? = some c → p c = false) :
    (run ++ rest).takeWhile p = run := by
  rw [List.takeWhile_append_of_pos inside]
  cases rest with
  | nil => simp
  | cons c rest => simp [boundary c rfl]

/-- A run of a class of characters is dropped up to its boundary. -/
theorem dropWhile_append_of_boundary {p : Char → Bool} {run rest : Text}
    (inside : ∀ c ∈ run, p c = true) (boundary : ∀ c, rest.head? = some c → p c = false) :
    (run ++ rest).dropWhile p = rest := by
  rw [List.dropWhile_append_of_pos inside]
  cases rest with
  | nil => rfl
  | cons c rest => simp [boundary c rfl]

end Text

end PocketCalculator
