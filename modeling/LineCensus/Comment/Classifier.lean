import LineCensus.Comment.Grammar
import LineCensus.Text.Trim

/-!
# LineCensus.Comment.Classifier — blank, comment and code lines

Whether a line is a comment depends on the lines before it only through one bit, whether a block comment
is open.

1. `LineKind`, `BlockState`: what a line is, and the bit carried from line to line.
2. `classify`: the kind of one line and the state after it. A blank line is blank everywhere and keeps the
   state. The end of a block counts on its opening line only if it stands after the opening.
3. `classifyAll`: the kinds of all lines of a file, from the first one on, and the state at the end.
4. `countComments`: the number of comment lines.
-/

namespace LineCensus

/-- What a line is. -/
inductive LineKind where
  | blank | comment | code
deriving DecidableEq, Repr

/-- Whether a block comment is open between two lines. -/
inductive BlockState where
  | normal | inBlock
deriving DecidableEq, Repr

namespace Grammar

/-! ## One line -/

/-- Whether a one-line comment matches. -/
def isSingle (g : Grammar) (line : List Char) : Bool := g.single.any (·.occursIn line)

/-- What stands after the opening of a block: the first matching pattern of the list decides. -/
def afterStart? (g : Grammar) (line : List Char) : Option (List Char) :=
  g.blockStart.findSome? (·.after? line)

/-- Whether the end of a block matches. -/
def closes (g : Grammar) (text : List Char) : Bool := g.blockEnd.any (·.occursIn text)

/-- The state after a line in which a block is open up to `text`. -/
def stateAfter (g : Grammar) (text : List Char) : BlockState :=
  if g.closes text then .normal else .inBlock

/-- The kind of a line and the state after it. -/
def classify (g : Grammar) (line : List Char) (state : BlockState) : LineKind × BlockState :=
  if Text.isBlankLine line then (.blank, state)
  else
    match state with
    | .inBlock => (.comment, g.stateAfter line)
    | .normal =>
      match g.afterStart? line with
      | some rest => (.comment, g.stateAfter rest)
      | none => (if g.isSingle line then .comment else .code, .normal)

/-! ## All lines of a file -/

/-- The kinds of the lines and the state after the last one. -/
def classifyAll (g : Grammar) (state : BlockState) : List (List Char) → List LineKind × BlockState
  | [] => ([], state)
  | line :: rest =>
    let (kind, next) := g.classify line state
    let (kinds, last) := classifyAll g next rest
    (kind :: kinds, last)

/-- The number of comment lines of a file, and the state at its end. -/
def countFrom (g : Grammar) (lines : List (List Char)) (state : BlockState) : Nat × BlockState :=
  lines.foldl
    (fun (count, state) line =>
      let (kind, next) := g.classify line state
      (if kind = .comment then count + 1 else count, next))
    (0, state)

/-- The number of comment lines of a file, which begins outside any block. -/
def countComments (g : Grammar) (lines : List (List Char)) : Nat := (g.countFrom lines .normal).1

end Grammar

end LineCensus
