/-!
# LineCensus.Pattern.Fault — why a text is no pattern

1. `Fault`: the causes, and `Fault.message`, a line of text for each.
2. `Rest`: what a reading step returns, a value and the text behind it.
-/

namespace LineCensus.Pattern

/-- Why a text is no pattern. -/
inductive Fault where
  /-- A group is opened and never closed. -/
  | unclosedGroup
  /-- A group is closed that was never opened. -/
  | unopenedGroup
  /-- A group begins with a question mark and nothing known after it. -/
  | unknownGroup
  /-- A group looks around, which no pattern can. -/
  | lookAround
  /-- The name of a group is empty, malformed or not finished. -/
  | badGroupName
  /-- Two groups have one name. -/
  | repeatedGroupName
  /-- A flag is unknown, given twice, or missing after a minus sign. -/
  | badFlags
  /-- A repetition has nothing to repeat. -/
  | nothingToRepeat
  /-- The counts of a repetition are missing, malformed or in the wrong order. -/
  | badCounts
  /-- A bracketed set is not closed. -/
  | unclosedSet
  /-- The ends of a range are in the wrong order or no characters. -/
  | badRange
  /-- A backslash ends the pattern. -/
  | unfinishedEscape
  /-- A backslash stands before a character that has no escaped meaning. -/
  | unknownEscape
  /-- An escape refers back to a group, which no pattern can. -/
  | backReference
  /-- A hexadecimal escape names no character. -/
  | badHexadecimal
  /-- A property of characters is not known. -/
  | unknownProperty
  /-- An assertion stands inside a bracketed set. -/
  | assertionInSet
  /-- A part could match the middle of a character. -/
  | partialCharacter
  /-- Groups, sets and repetitions are nested too deeply. -/
  | tooDeep
  /-- The compiled pattern would be too large. -/
  | tooLarge
deriving DecidableEq, Repr

/-- A line of text for each cause. -/
def Fault.message : Fault → String
  | .unclosedGroup => "unclosed group"
  | .unopenedGroup => "unopened group"
  | .unknownGroup => "unknown kind of group"
  | .lookAround => "look-around is not supported"
  | .badGroupName => "invalid group name"
  | .repeatedGroupName => "duplicate group name"
  | .badFlags => "invalid flags"
  | .nothingToRepeat => "repetition operator missing expression"
  | .badCounts => "invalid repetition counts"
  | .unclosedSet => "unclosed character class"
  | .badRange => "invalid character class range"
  | .unfinishedEscape => "incomplete escape sequence"
  | .unknownEscape => "unrecognized escape sequence"
  | .backReference => "backreferences are not supported"
  | .badHexadecimal => "invalid hexadecimal escape"
  | .unknownProperty => "unknown Unicode property"
  | .assertionInSet => "assertion in character class"
  | .partialCharacter => "pattern can match invalid UTF-8"
  | .tooDeep => "pattern is nested too deeply"
  | .tooLarge => "compiled pattern exceeds the size limit"

/-- A value and the text behind what was read for it. -/
abbrev Rest (α : Type) := α × List Char

end LineCensus.Pattern
