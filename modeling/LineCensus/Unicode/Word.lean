import LineCensus.Unicode.Category
import LineCensus.Unicode.Property

/-!
# LineCensus.Unicode.Word — digits, letters and the characters of words

1. `isDigit`: the decimal digits of every script.
2. `isAlphabetic`, `isAlphanumeric`: letters, and letters or numbers.
3. `isWord`: letters, marks, decimal digits, connecting punctuation and the two joiners.

ASCII is decided without the tables.
-/

namespace LineCensus.Unicode

/-- A decimal digit of any script. -/
def isDigit (c : Char) : Bool :=
  if c.toNat < 128 then c.isDigit else category c == "Nd"

/-- A letter or a mark that counts as one. -/
def isAlphabetic (c : Char) : Bool :=
  if c.toNat < 128 then c.isAlpha else (alphabeticRuns.lookup? c.toNat).getD false

/-- A letter or a number. -/
def isAlphanumeric (c : Char) : Bool :=
  isAlphabetic c || ["Nd", "Nl", "No"].contains (category c)

/-- An ASCII letter, digit or underscore. -/
def isAsciiWord (c : Char) : Bool := c.isAlphanum || c == '_'

/-- A character of a word. -/
def isWord (c : Char) : Bool :=
  if c.toNat < 128 then isAsciiWord c
  else isAlphabetic c || ["Mn", "Mc", "Me", "Nd", "Pc"].contains (category c)
    || c == '\u200c' || c == '\u200d'

end LineCensus.Unicode
