import PocketCalculator.Number.Decimal

/-!
# Tokens of an expression

An expression falls into runs of digits and dots, names of small letters, and
single characters.  Digits never belong to a name, with one exception: the name
{lit}`log` directly followed by {lit}`10` is the single name {lit}`log10`.

Main definitions:

- {lit}`Token.scan` splits a text into tokens, blanks included.
- {lit}`Token.lex` drops the blanks.

Main results:

- {lit}`Token.flatMap_spelling_scan`: the spellings of the tokens make up the text,
  so nothing is lost or invented.
- {lit}`Token.scan_cons` unfolds one step.
-/

namespace PocketCalculator

/-- A piece of an expression. -/
inductive Token where
  /-- A maximal run of digits and dots. -/
  | number (run : Text)
  /-- A maximal run of small letters, or {lit}`log10`. -/
  | name (letters : Text)
  /-- Any other character. -/
  | mark (c : Char)
deriving DecidableEq, Repr

/-- Whether a character can stand in a run of digits and dots. -/
def isRunCharacter (c : Char) : Bool := isDigit c || c == '.'

/-- Whether a character is one of the twenty-six small ASCII letters. -/
def isSmallLetter (c : Char) : Bool := 'a' ≤ c && c ≤ 'z'

namespace Token

/-! ## Spelling -/

/-- The characters of a token. -/
def spelling : Token → Text
  | number run => run
  | name letters => letters
  | mark c => [c]

/-- The first character of a token. -/
def first? (token : Token) : Option Char := token.spelling.head?

@[simp] theorem spelling_number (run : Text) : (number run).spelling = run := rfl

@[simp] theorem spelling_name (letters : Text) : (name letters).spelling = letters := rfl

@[simp] theorem spelling_mark (c : Char) : (mark c).spelling = [c] := rfl

/-! ## One token -/

/-- Completes a name from its letters and the text after them. -/
def named (letters after : Text) : Token × Text :=
  match letters, after with
  | ['l', 'o', 'g'], '1' :: '0' :: rest => (name "log10".toList, rest)
  | letters, after => (name letters, after)

/-- The token that begins with a given character, and the text after it. -/
def next (c : Char) (text : Text) : Token × Text :=
  if isRunCharacter c then
    (number (c :: text.takeWhile isRunCharacter), text.dropWhile isRunCharacter)
  else if isSmallLetter c then
    named (c :: text.takeWhile isSmallLetter) (text.dropWhile isSmallLetter)
  else (mark c, text)

/-- A completed name and what remains are the letters and what followed. -/
theorem spelling_named (letters after : Text) :
    (named letters after).1.spelling ++ (named letters after).2 = letters ++ after := by
  unfold named
  split <;> rfl

/-- A token and what remains are the text they come from. -/
theorem spelling_next (c : Char) (text : Text) :
    (next c text).1.spelling ++ (next c text).2 = c :: text := by
  unfold next
  split
  · simp
  split
  · simp [spelling_named]
  · rfl

/-- Completing a name takes nothing away from what remains but {lit}`10`. -/
theorem length_named_le (letters after : Text) :
    (named letters after).2.length ≤ after.length := by
  unfold named
  split
  · simp only [List.length_cons]
    omega
  · exact Nat.le_refl _

/-- A token leaves no more than the text after its first character. -/
theorem length_next_le (c : Char) (text : Text) : (next c text).2.length ≤ text.length := by
  have drop (p : Char → Bool) : (text.dropWhile p).length ≤ text.length :=
    (List.dropWhile_suffix p).length_le
  unfold next
  split
  · exact drop _
  split
  · exact Nat.le_trans (length_named_le _ _) (drop _)
  · exact Nat.le_refl _

/-! ## All tokens -/

/-- The tokens of a text, blanks included. -/
def scan : Text → List Token
  | [] => []
  | c :: text => (next c text).1 :: scan (next c text).2
termination_by text => text.length
decreasing_by
  have := length_next_le c text
  simp only [List.length_cons]
  omega

@[simp] theorem scan_nil : scan [] = [] := by rw [scan]

/-- A text begins with its first token. -/
theorem scan_cons (c : Char) (text : Text) :
    scan (c :: text) = (next c text).1 :: scan (next c text).2 := by rw [scan]

/-- The spellings of its tokens make up a text. -/
theorem flatMap_spelling_scan (text : Text) : (scan text).flatMap spelling = text := by
  fun_induction scan text with
  | case1 => rfl
  | case2 c text ih => simp [ih, spelling_next]

/-- The tokens of a text that an expression is read from: blanks only separate. -/
def lex (text : Text) : List Token := (scan text).filter (· ≠ mark ' ')

@[simp] theorem lex_nil : lex [] = [] := by simp [lex]

/-- A text has no more tokens than characters. -/
theorem length_lex_le (text : Text) : (lex text).length ≤ text.length := by
  have hscan : (scan text).length ≤ text.length := by
    fun_induction scan text with
    | case1 => exact Nat.le_refl 0
    | case2 c text ih => exact Nat.succ_le_succ (Nat.le_trans ih (length_next_le c text))
  exact Nat.le_trans (List.length_filter_le _ _) hscan

end Token

end PocketCalculator
