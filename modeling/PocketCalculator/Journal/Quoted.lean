import PocketCalculator.Character.DefaultIgnorable
import PocketCalculator.Character.GraphemeExtend
import PocketCalculator.Character.Unprintable
import PocketCalculator.Text

/-!
# Quoted texts

A quoted text stands between double quotes.  Quotes and backslashes inside are
escaped, and so are characters that could not be seen.

Main definitions:

- {lit}`cannotBeSeen` tells which characters could not be seen on their own.
- {lit}`escaped` writes one character.
- {lit}`quoted` writes a text.
-/

namespace PocketCalculator

/-- Whether a character could not be seen on its own: it has no shape, shows
nothing by default, or combines with the character before it. -/
def cannotBeSeen (c : Char) : Bool :=
  isUnprintable c || isDefaultIgnorable c || isCombining c

/-- The code point of a character in hexadecimal digits between braces. -/
def codePointEscape (c : Char) : Text :=
  ['\\', 'u', '\x7b'] ++ Nat.toDigits 16 c.toNat ++ ['\x7d']

/-- A character inside a quoted text. -/
def escaped (c : Char) : Text :=
  if c = '\x00' then ['\\', '0']
  else if c = '\t' then ['\\', 't']
  else if c = '\r' then ['\\', 'r']
  else if c = '\n' then ['\\', 'n']
  else if c = '"' || c = '\\' then ['\\', c]
  else if cannotBeSeen c then codePointEscape c
  else [c]

/-- A text between double quotes. -/
def quoted (text : Text) : Text := '"' :: text.flatMap escaped ++ ['"']

end PocketCalculator
