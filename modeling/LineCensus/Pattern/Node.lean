import LineCensus.Pattern.CharSet

/-!
# LineCensus.Pattern.Node — what a pattern is made of

1. `Assertion`: conditions on the characters around a position.
2. `Node`: the pattern itself. Counted repetition keeps its counts; `loop` is the one unbounded form,
   and stands for the place at which another round may begin or the loop be left.
3. `Node.isZeroWidth`, `Node.consumes`: whether a match is always, or never, empty.
-/

namespace LineCensus.Pattern

/-! ## Assertions -/

/-- A place relative to words. -/
inductive WordEdge where
  /-- Between a word character and something else. -/
  | boundary
  /-- Not between a word character and something else. -/
  | interior
  /-- Where a word begins. -/
  | start
  /-- Where a word ends. -/
  | stop
  /-- After something that is no word character. -/
  | startHalf
  /-- Before something that is no word character. -/
  | stopHalf
deriving DecidableEq, Repr

/-- A condition on the characters before and after a position. -/
inductive Assertion where
  /-- The start of the text. -/
  | textStart
  /-- The end of the text. -/
  | textEnd
  /-- The start of a line; with `crlf` carriage returns end lines too. -/
  | lineStart (crlf : Bool)
  /-- The end of a line; with `crlf` carriage returns end lines too. -/
  | lineEnd (crlf : Bool)
  /-- A place relative to words, of ASCII characters only if so asked. -/
  | word (edge : WordEdge) (ascii : Bool)
deriving DecidableEq, Repr

namespace Assertion

/-- Whether a neighbour is a word character. -/
def wordAt (ascii : Bool) : Option Char → Bool
  | some c => if ascii then Unicode.isAsciiWord c else Unicode.isWord c
  | none => false

/-- Whether the condition holds between two neighbours, either of which may be missing. -/
def holds (before after : Option Char) : Assertion → Bool
  | .textStart => before.isNone
  | .textEnd => after.isNone
  | .lineStart false => before.all (· == '\n')
  | .lineEnd false => after.all (· == '\n')
  | .lineStart true =>
    before.isNone || before == some '\n' || (before == some '\r' && after != some '\n')
  | .lineEnd true =>
    after.isNone || after == some '\r' || (after == some '\n' && before != some '\r')
  | .word edge ascii =>
    let left := wordAt ascii before
    let right := wordAt ascii after
    match edge with
    | .boundary => left != right
    | .interior => left == right
    | .start => !left && right
    | .stop => left && !right
    | .startHalf => !left
    | .stopHalf => !right

end Assertion

/-! ## Nodes -/

/-- A pattern. -/
inductive Node where
  /-- The empty text. -/
  | empty
  /-- One character of a set. -/
  | set (s : CharSet)
  /-- The empty text where the condition holds. -/
  | look (a : Assertion)
  /-- One after the other. -/
  | cat (a b : Node)
  /-- One or the other; the first is preferred. -/
  | alt (a b : Node)
  /-- Exactly so many rounds. -/
  | times (body : Node) (count : Nat)
  /-- At most so many rounds; more are preferred if greedy. -/
  | upTo (body : Node) (count : Nat) (greedy : Bool)
  /-- Any number of further rounds; more are preferred if greedy. -/
  | loop (body : Node) (greedy : Bool)
deriving DecidableEq, Repr

namespace Node

/-- Every match is empty. -/
def isZeroWidth : Node → Bool
  | .empty | .look _ => true
  | .set _ | .loop .. => false
  | .cat a b | .alt a b => a.isZeroWidth && b.isZeroWidth
  | .times body count | .upTo body count _ => count == 0 || body.isZeroWidth

/-- No match is empty. -/
def consumes : Node → Bool
  | .set _ => true
  | .empty | .look _ | .loop .. | .upTo .. => false
  | .cat a b => a.consumes || b.consumes
  | .alt a b => a.consumes && b.consumes
  | .times body count => count != 0 && body.consumes

end Node

end LineCensus.Pattern
