import LineCensus.Pattern.Bracket
import LineCensus.Pattern.Weight

/-!
# LineCensus.Pattern.Reader — from the text of a pattern to its nodes

1. `Piece`: a part read so far, with the depth of its nesting and the weight of its compiled form.
2. `Branches`: the alternatives of one group, the last of which is being read.
3. `Reader`: the group being read and the groups around it.
4. `Reader.step`: reads one part of the text: a group's opening or end, a bar, a set, a repetition, or a
   single character, escape or assertion.
5. `readNode`: reads a whole pattern and refuses one that is nested too deeply or too large.
-/

namespace LineCensus.Pattern

/-- The deepest nesting of groups, sets, repetitions, alternatives and sequences. -/
def depthLimit : Nat := 250

/-! ## Pieces -/

/-- A part of a pattern. -/
structure Piece where
  node : Node
  /-- How deeply its form is nested. -/
  depth : Nat
  /-- The size of its compiled form. -/
  weight : Nat
  /-- It only turns switches, so that it cannot be repeated. -/
  isSwitch : Bool := false
deriving Repr

namespace Piece

/-- The empty text. -/
def nothing : Piece := ⟨.empty, 0, Weight.state, false⟩

/-- A piece for one character of a set. -/
def ofSet (s : CharSet) (depth : Nat) : Piece := ⟨.set s, depth, Weight.set s, false⟩

/-- A piece for one character, in either case if so asked. -/
def ofChar (flags : Flags) (c : Char) (byte : Bool) : Except Fault Piece :=
  if !flags.unicode && byte && 128 ≤ c.toNat then .error .partialCharacter
  else
    let forms :=
      if !flags.ignoreCase then [c]
      else if flags.unicode then Unicode.variants c
      else Unicode.asciiVariants c
    if forms.length ≤ 1 then .ok ⟨.set (.single c), 0, Weight.char c, false⟩
    else .ok (ofSet (.ofList forms) 0)

/-- A piece for an assertion. -/
def ofAssertion (a : Assertion) : Piece := ⟨.look a, 0, Weight.state, false⟩

/-- A piece for what an escape stands for. -/
def ofAtom (flags : Flags) : Atom → Except Fault Piece
  | .char c byte => ofChar flags c byte
  | .set s => .ok (ofSet s 0)
  | .look a => .ok (ofAssertion a)

/-- Whether the piece is no more than the empty text. -/
def isNothing (p : Piece) : Bool := p.node == .empty

/-- One node after the other. -/
def sequence : List Node → Node
  | [] => .empty
  | [n] => n
  | n :: rest => .cat n (sequence rest)

/-- One node or another. -/
def choice : List Node → Node
  | [] => .empty
  | [n] => n
  | n :: rest => .alt n (choice rest)

/-- The greatest depth among pieces. -/
def maxDepth (ps : List Piece) : Nat := ps.foldl (fun d p => max d p.depth) 0

/-- The pieces one after the other. -/
def ofSequence (ps : List Piece) : Piece :=
  match ps with
  | [] => nothing
  | [p] => { p with isSwitch := false }
  | ps =>
    let kept := ps.filter (!·.isNothing)
    ⟨sequence (kept.map (·.node)), 1 + maxDepth ps, Weight.total (kept.map (·.weight)), false⟩

/-- One of the pieces. -/
def ofChoice (ps : List Piece) : Piece :=
  ⟨choice (ps.map (·.node)), 1 + maxDepth ps, Weight.alternatives (ps.map (·.weight)), false⟩

/-- The piece in a group. -/
def grouped (p : Piece) (captures : Bool) : Piece :=
  ⟨p.node, p.depth + 1, if captures then p.weight + 2 * Weight.state else p.weight, false⟩

/-- The node and weight of at least `least` and at most `most` rounds. Rounds that are all empty count
once; a loop over a body that may be empty enters its first round before it may be left. -/
def rounds (body : Node) (weight least : Nat) (most : Option Nat) (greedy : Bool) : Node × Nat :=
  let (least, most) :=
    if body.isZeroWidth then (min least 1, some (min (most.getD 1) 1)) else (least, most)
  match least, most with
  | 0, some 0 => (.empty, Weight.state)
  | 1, some 1 => (body, weight)
  | 0, some most => (.upTo body most greedy, Weight.upTo weight most)
  | least, some most =>
    if least = most then (.times body least, Weight.times weight least)
    else
      (.cat (.times body least) (.upTo body (most - least) greedy),
        Weight.times weight least + Weight.upTo weight (most - least))
  | 0, none =>
    if body.consumes then (.loop body greedy, weight + Weight.loop)
    else
      (.upTo (.cat body (.loop body greedy)) 1 greedy, Weight.upTo (weight + Weight.loop) 1)
  | 1, none => (.cat body (.loop body greedy), weight + Weight.loop)
  | least, none =>
    (.cat (.times body (least - 1)) (.cat body (.loop body greedy)),
      Weight.times weight least + Weight.loop)

/-- The piece repeated. -/
def repeated (p : Piece) (least : Nat) (most : Option Nat) (greedy : Bool) : Piece :=
  let (node, weight) := rounds p.node p.weight least most greedy
  ⟨node, p.depth + 1, weight, false⟩

end Piece

/-! ## The state of a reader -/

/-- The alternatives of a group: those finished and the pieces of the one being read, last first. -/
structure Branches where
  done : List Piece := []
  pieces : List Piece := []
deriving Repr

namespace Branches

/-- Adds a piece to the alternative being read. -/
def add (b : Branches) (p : Piece) : Branches := { b with pieces := p :: b.pieces }

/-- Ends an alternative and begins another. -/
def bar (b : Branches) : Branches := ⟨Piece.ofSequence b.pieces.reverse :: b.done, []⟩

/-- All alternatives as one piece. -/
def finish (b : Branches) : Piece :=
  match b.done with
  | [] => Piece.ofSequence b.pieces.reverse
  | done => Piece.ofChoice (Piece.ofSequence b.pieces.reverse :: done).reverse

end Branches

/-- A group that is open: what was read before it, the switches before it, and whether it captures. -/
structure OpenGroup where
  before : Branches
  flags : Flags
  captures : Bool
deriving Repr

/-- What was read so far: the group being read, the groups around it from the innermost on, the names
given to groups, and the switches in force. -/
structure Reader where
  branches : Branches := {}
  around : List OpenGroup := []
  names : List (List Char) := []
  flags : Flags := {}
deriving Repr

namespace Reader

/-- Adds a piece to the alternative being read. -/
def add (r : Reader) (p : Piece) : Reader := { r with branches := r.branches.add p }

/-! ## Groups -/

/-- A character that can stand in the name of a group, in front or further on. -/
def isNameChar (c : Char) (first : Bool) : Bool :=
  if first then c == '_' || Unicode.isAlphabetic c
  else c == '_' || c == '.' || c == '[' || c == ']' || Unicode.isAlphanumeric c

/-- Reads the name of a group up to its closing angle bracket. -/
def readName (first : Bool) : List Char → Except Fault (Rest (List Char))
  | [] => .error .badGroupName
  | c :: rest =>
    if c = '>' then (if first then .error .badGroupName else .ok ([], rest))
    else if isNameChar c first then do
      let (name, rest) ← readName false rest
      pure (c :: name, rest)
    else .error .badGroupName

/-- Opens a group in which the given switches are in force. -/
def openGroup (r : Reader) (inner : Flags) (captures : Bool) : Reader :=
  { r with branches := {}, around := ⟨r.branches, r.flags, captures⟩ :: r.around, flags := inner }

/-- Opens a group with a name. -/
def openNamed (r : Reader) (text : List Char) : Except Fault (Rest Reader) := do
  let (name, rest) ← readName true text
  if r.names.contains name then .error .repeatedGroupName
  else pure ({ r with names := name :: r.names }.openGroup r.flags true, rest)

/-- Opens a group behind its parenthesis, or turns switches. -/
def enter (r : Reader) (text : List Char) : Except Fault (Rest Reader) :=
  match r.flags.skipSpace text with
  | '?' :: '=' :: _ | '?' :: '!' :: _ => .error .lookAround
  | '?' :: '<' :: '=' :: _ | '?' :: '<' :: '!' :: _ => .error .lookAround
  | '?' :: 'P' :: '<' :: rest => r.openNamed rest
  | '?' :: '<' :: rest => r.openNamed rest
  | '?' :: rest => do
    let ((flags, any), rest) ← r.flags.read rest
    match rest with
    | ')' :: rest =>
      if any then pure ({ r with flags }.add { Piece.nothing with isSwitch := true }, rest)
      else .error .nothingToRepeat
    | _ :: rest => pure (r.openGroup flags false, rest)
    | [] => .error .unclosedGroup
  | rest => .ok (r.openGroup r.flags true, rest)

/-- Closes the group being read. -/
def leave (r : Reader) : Except Fault Reader :=
  match r.around with
  | [] => .error .unopenedGroup
  | g :: around =>
    let piece := r.branches.finish.grouped g.captures
    .ok { r with branches := g.before.add piece, around, flags := g.flags }

/-! ## Repetitions -/

/-- Repeats the piece read last. -/
def repeatLast (r : Reader) (least : Nat) (most : Option Nat) (lazily : Bool) :
    Except Fault Reader :=
  match r.branches.pieces with
  | [] => .error .nothingToRepeat
  | p :: before =>
    if p.isSwitch then .error .nothingToRepeat
    else
      let piece := p.repeated least most (lazily == r.flags.swapGreed)
      .ok { r with branches := { r.branches with pieces := piece :: before } }

/-- A question mark in front, which makes a repetition lazy. -/
def takeLazy : List Char → Rest Bool
  | '?' :: rest => (true, rest)
  | rest => (false, rest)

/-- Repeats the piece read last by an operator of one character. -/
def repeatBy (r : Reader) (least : Nat) (most : Option Nat) (rest : List Char) :
    Except Fault (Rest Reader) :=
  let (lazily, rest) := takeLazy rest
  (r.repeatLast least most lazily).map (·, rest)

/-- The greatest count of a repetition. -/
def countLimit : Nat := 0xffffffff

/-- Takes decimal digits in front. -/
def takeDigits (flags : Flags) : (fuel : Nat) → List Char → Rest (List Char)
  | 0, text => ([], text)
  | fuel + 1, text =>
    match text with
    | c :: rest =>
      if c.isDigit then
        let (digits, rest) := takeDigits flags fuel (flags.skipSpace rest)
        (c :: digits, rest)
      else ([], c :: rest)
    | [] => ([], [])

/-- The number written by decimal digits. -/
def valueOf (digits : List Char) : Nat :=
  digits.foldl (fun n c => n * 10 + (c.toNat - '0'.toNat)) 0

/-- Reads a count with white space around it; none if there is no digit. -/
def readCount (flags : Flags) (text : List Char) : Except Fault (Rest (Option Nat)) :=
  let text := text.dropWhile Unicode.isBlank
  let (digits, rest) := takeDigits flags text.length text
  let rest := if (rest.head?.any Unicode.isBlank) then
    flags.skipSpace (rest.dropWhile Unicode.isBlank) else rest
  if digits.isEmpty then .ok (none, rest)
  else if valueOf digits ≤ countLimit then .ok (some (valueOf digits), rest)
  else .error .badCounts

/-- Reads the counts of a repetition behind the opening brace, up to and with the closing one. -/
def readCounts (flags : Flags) (text : List Char) :
    Except Fault (Rest (Nat × Option Nat)) := do
  let (least, rest) ← readCount flags (flags.skipSpace text)
  match least with
  | none => .error .badCounts
  | some least =>
    match rest with
    | ',' :: rest =>
      match flags.skipSpace rest with
      | '}' :: rest => pure ((least, none), rest)
      | rest => do
        let (most, rest) ← readCount flags rest
        match most, rest with
        | some most, '}' :: rest =>
          if least ≤ most then pure ((least, some most), rest) else .error .badCounts
        | _, _ => .error .badCounts
    | '}' :: rest => pure ((least, some least), rest)
    | _ => .error .badCounts

/-- Repeats the piece read last by counts, behind the opening brace. -/
def repeatCounted (r : Reader) (text : List Char) : Except Fault (Rest Reader) := do
  let ((least, most), rest) ← readCounts r.flags text
  let (lazily, rest) := takeLazy (r.flags.skipSpace rest)
  let r ← r.repeatLast least most lazily
  pure (r, rest)

/-! ## Single pieces -/

/-- What `.` stands for. -/
def dot (flags : Flags) : Except Fault Piece :=
  if !flags.unicode then .error .partialCharacter
  else if flags.dotAll then .ok (.ofSet .all 0)
  else if flags.crlf then .ok (.ofSet (.compl (.ofList ['\n', '\r'])) 0)
  else .ok (.ofSet (.compl (.single '\n')) 0)

/-- What `^` stands for. -/
def caret (flags : Flags) : Piece :=
  .ofAssertion (if flags.multiLine then .lineStart flags.crlf else .textStart)

/-- What `$` stands for. -/
def dollar (flags : Flags) : Piece :=
  .ofAssertion (if flags.multiLine then .lineEnd flags.crlf else .textEnd)

/-! ## Steps -/

/-- Reads one part of the text, which begins with `c`. -/
def step (r : Reader) (c : Char) (rest : List Char) : Except Fault (Rest Reader) :=
  match c with
  | '(' => r.enter rest
  | ')' => r.leave.map (·, rest)
  | '|' => .ok ({ r with branches := r.branches.bar }, rest)
  | '[' => (readBracket r.flags rest).map fun (part, rest) =>
      (r.add (.ofSet part.set part.depth), rest)
  | '?' => r.repeatBy 0 (some 1) rest
  | '*' => r.repeatBy 0 none rest
  | '+' => r.repeatBy 1 none rest
  | '{' => r.repeatCounted rest
  | '\\' => do
    let (atom, rest) ← readEscape r.flags rest
    let piece ← Piece.ofAtom r.flags atom
    pure (r.add piece, rest)
  | '.' => (dot r.flags).map fun piece => (r.add piece, rest)
  | '^' => .ok (r.add (caret r.flags), rest)
  | '$' => .ok (r.add (dollar r.flags), rest)
  | c => (Piece.ofChar r.flags c false).map fun piece => (r.add piece, rest)

/-- Reads part after part; each takes at least one character, so that the length of the text bounds
their number. -/
def readParts : (fuel : Nat) → Reader → List Char → Except Fault Reader
  | 0, r, _ => .ok r
  | fuel + 1, r, text =>
    match r.flags.skipSpace text with
    | [] => .ok r
    | c :: rest => do
      let (r, rest) ← r.step c rest
      readParts fuel r rest

/-- The whole pattern, once its text is read. -/
def finish (r : Reader) : Except Fault Node :=
  if !r.around.isEmpty then .error .unclosedGroup
  else
    let piece := r.branches.finish
    if depthLimit < piece.depth then .error .tooDeep
    else if Weight.limit < piece.weight + Weight.frame then .error .tooLarge
    else .ok piece.node

end Reader

/-- Reads the text of a pattern. -/
def readNode (text : List Char) : Except Fault Node := do
  let r ← Reader.readParts (text.length + 1) {} text
  r.finish

end LineCensus.Pattern
