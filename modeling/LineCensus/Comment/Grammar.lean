import LineCensus.Failure
import LineCensus.Pattern

/-!
# LineCensus.Comment.Grammar — how a language writes comments

1. `Grammar`: the patterns of a language's comments: one-line comments, and the openings and ends of
   block comments. All are matched against whole lines, so a pattern brings its own anchors.
2. `Grammar.compile`: a grammar from the texts of its patterns, or the first that is no pattern, looking
   at one-line comments first, then at openings, then at ends.
3. `Language`: a name, the file extensions and the grammar.
-/

namespace LineCensus

namespace Pattern

/-- Reads a pattern, or fails with its text. -/
def require (source : String) : Except Failure Pattern :=
  (compile source).mapError fun fault => .badPattern source fault.message

end Pattern

/-- The patterns of a language's comments. -/
structure Grammar where
  single : List Pattern
  blockStart : List Pattern
  blockEnd : List Pattern

namespace Grammar

/-- Reads the patterns of a grammar. -/
def compile (single blockStart blockEnd : List String) : Except Failure Grammar := do
  let single ← single.mapM Pattern.require
  let blockStart ← blockStart.mapM Pattern.require
  let blockEnd ← blockEnd.mapM Pattern.require
  pure ⟨single, blockStart, blockEnd⟩

end Grammar

/-- A language: its extensions are written with their leading dot. -/
structure Language where
  name : String
  extensions : List String
  grammar : Grammar

end LineCensus
