import LineCensus.Unicode.Blank

/-!
# LineCensus.Text.Trim — text without the white space at its ends

1. `trimStart`, `trimEnd`, `trim`: dropping white space on the left, on the right, on both sides.
2. `isBlankLine`: nothing is left after trimming, which is the same as holding white space only.
-/

namespace LineCensus.Text

open Unicode (isBlank)

/-- The text without white space at its start. -/
def trimStart (text : List Char) : List Char := text.dropWhile isBlank

/-- The text without white space at its end. -/
def trimEnd (text : List Char) : List Char := (text.reverse.dropWhile isBlank).reverse

/-- The text without white space at its ends. -/
def trim (text : List Char) : List Char := trimEnd (trimStart text)

/-- Whether trimming leaves nothing. -/
def isBlankLine (text : List Char) : Bool := (trim text).isEmpty

/-! ## Small facts -/

theorem dropWhile_eq_nil_iff_all {p : Char → Bool} {text : List Char} :
    text.dropWhile p = [] ↔ text.all p = true := by
  induction text with
  | nil => simp
  | cons c rest ih => by_cases h : p c <;> simp [h, ih]

theorem trimEnd_eq_nil_iff {text : List Char} : trimEnd text = [] ↔ text.all isBlank = true := by
  rw [trimEnd, List.reverse_eq_nil_iff, dropWhile_eq_nil_iff_all, List.all_reverse]

theorem all_trimStart {text : List Char} :
    (trimStart text).all isBlank = text.all isBlank := by
  induction text with
  | nil => rfl
  | cons c rest ih => by_cases h : isBlank c <;> simp_all [trimStart]

/-- A line is blank exactly when all its characters are white space. -/
theorem isBlankLine_iff {text : List Char} :
    isBlankLine text = true ↔ text.all isBlank = true := by
  rw [isBlankLine, List.isEmpty_iff, trim, trimEnd_eq_nil_iff, all_trimStart]

end LineCensus.Text
