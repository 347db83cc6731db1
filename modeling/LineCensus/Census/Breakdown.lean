import LineCensus.Comment.Builtin
import LineCensus.Text.Lines

/-!
# LineCensus.Census.Breakdown — the lines of one file

1. `Breakdown`: how many lines a file has, and how many of them are blank, comments and code.
2. `Breakdown.measure`: the breakdown of a text under an extension. Comments are counted by the grammar
   of the extension, if it has one, and whatever is neither blank nor a comment is code.
3. `Breakdown.overlaps`: more blank lines and comments were counted than there are lines.
-/

namespace LineCensus

/-- The lines of one file. -/
structure Breakdown where
  lines : Nat
  blank : Nat
  comments : Nat
  code : Nat
deriving DecidableEq, Repr

namespace Breakdown

/-- The breakdown of lines with a given number of comments. -/
def ofLines (lines : List (List Char)) (comments : Nat) : Breakdown :=
  let blank := lines.countP Text.isBlankLine
  ⟨lines.length, blank, comments, lines.length - (blank + comments)⟩

/-- The breakdown of a text under an extension. -/
def measure (source : List Char) (extension : String) (registry : Registry) : Breakdown :=
  let lines := Text.lines source
  ofLines lines (((registry.grammar? extension).map (·.countComments lines)).getD 0)

/-- Whether more lines were counted as blank or comments than there are. -/
def overlaps (b : Breakdown) : Bool := b.lines < b.blank + b.comments

end Breakdown

end LineCensus
