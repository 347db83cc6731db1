import LineCensus.Pattern.Escape

/-!
# LineCensus.Pattern.Bracket — sets in brackets

A bracketed set lists characters, ranges, escapes, named ASCII classes and further bracketed sets, and
combines lists by `&&` (both), `--` (the first alone) and `~~` (exactly one), which all bind alike, from
the left.

1. `SetPart`: a set read so far, with the depth of its nesting.
2. `OpenSet`: a bracketed set that is not closed yet.
3. `readItem`: one character, range or escape.
4. `readBracket`: a whole bracketed set, behind its opening bracket.
-/

namespace LineCensus.Pattern

/-- A set and how deeply the form it was read from is nested. -/
structure SetPart where
  set : CharSet
  depth : Nat
deriving Repr

/-- An operation between two lists in one pair of brackets. -/
inductive SetOp where
  | inter | diff | symmDiff
deriving DecidableEq, Repr

/-- A bracketed set that is not closed yet: whether it is negated, what stands before the last operation,
and the parts of the current list, last first. -/
structure OpenSet where
  negated : Bool
  left : Option (SetOp × SetPart)
  parts : List SetPart
deriving Repr

namespace OpenSet

/-- Adds a part to the current list. -/
def add (o : OpenSet) (part : SetPart) : OpenSet := { o with parts := part :: o.parts }

/-- Adds a character to the current list. -/
def addChar (o : OpenSet) (c : Char) : OpenSet := o.add ⟨.single c, 0⟩

/-- The current list as one part. -/
def current (o : OpenSet) : SetPart :=
  match o.parts with
  | [] => ⟨.none, 0⟩
  | [part] => part
  | first :: rest =>
    ⟨rest.foldl (fun s part => .union part.set s) first.set,
      1 + rest.foldl (fun d part => max d part.depth) first.depth⟩

/-- What the brackets hold so far: the current list, combined with what stands before the last
operation. -/
def combined (flags : Flags) (o : OpenSet) : SetPart :=
  match o.left with
  | none => o.current
  | some (op, left) =>
    let right := o.current
    let a := foldCase flags left.set
    let b := foldCase flags right.set
    let s := match op with
      | .inter => .inter a b
      | .diff => .diff a b
      | .symmDiff => .symmDiff a b
    ⟨s, 1 + max left.depth right.depth⟩

/-- Begins another list behind an operation. -/
def operate (flags : Flags) (o : OpenSet) (op : SetOp) : OpenSet :=
  { o with left := some (op, o.combined flags), parts := [] }

/-- The finished set. -/
def close (flags : Flags) (o : OpenSet) : Except Fault SetPart := do
  let inner := o.combined flags
  let s := foldCase flags inner.set
  let s ← if o.negated then negate flags s else pure s
  pure ⟨s, 1 + inner.depth⟩

end OpenSet

/-! ## Named ASCII classes -/

/-- The ASCII class with a name. -/
def asciiClass? (name : String) : Option CharSet :=
  match name with
  | "alnum" => some (.union (.range '0' '9') (.union (.range 'A' 'Z') (.range 'a' 'z')))
  | "alpha" => some (.union (.range 'A' 'Z') (.range 'a' 'z'))
  | "ascii" => some (.range '\x00' '\x7f')
  | "blank" => some (.union (.single '\t') (.single ' '))
  | "cntrl" => some (.union (.range '\x00' '\x1f') (.single '\x7f'))
  | "digit" => some (.range '0' '9')
  | "graph" => some (.range '!' '~')
  | "lower" => some (.range 'a' 'z')
  | "print" => some (.range ' ' '~')
  | "punct" => some (.union (.range '!' '/') (.union (.range ':' '@')
      (.union (.range '[' '\x60') (.range '\x7b' '~'))))
  | "space" => some asciiBlank
  | "upper" => some (.range 'A' 'Z')
  | "word" => some asciiWord
  | "xdigit" => some (.union (.range '0' '9') (.union (.range 'A' 'F') (.range 'a' 'f')))
  | _ => none

/-- Reads a named ASCII class behind its opening bracket, if one stands there. -/
def readAsciiClass? (text : List Char) : Option (Rest (CharSet × Bool)) :=
  match text with
  | ':' :: rest =>
    let (negated, rest) := match rest with
      | '^' :: rest => (true, rest)
      | rest => (false, rest)
    let name := rest.takeWhile (· != ':')
    match rest.dropWhile (· != ':') with
    | ':' :: ']' :: rest => (asciiClass? (String.ofList name)).map fun s => ((s, negated), rest)
    | _ => none
  | _ => none

/-! ## Characters and ranges -/

/-- One character or escape inside brackets. -/
def readAtom (flags : Flags) (text : List Char) : Except Fault (Rest Atom) :=
  match text with
  | [] => .error .unclosedSet
  | '\\' :: rest => readEscape flags rest
  | c :: rest => .ok (.char c false, rest)

/-- A character as a member of a set: without Unicode only ASCII can be one. -/
def memberChar (flags : Flags) (c : Char) : Except Fault Char :=
  if flags.unicode || c.toNat < 128 then .ok c else .error .partialCharacter

/-- Reads a range, or a single character or escape. A hyphen makes a range unless the bracket's end or
another hyphen follows it. -/
def readItem (flags : Flags) (text : List Char) : Except Fault (Rest SetPart) := do
  let (first, rest) ← readAtom flags text
  let rest := flags.skipSpace rest
  let alone : Except Fault (Rest SetPart) :=
    match first with
    | .char c _ => (memberChar flags c).map fun c => (⟨.single c, 0⟩, rest)
    | .set s => .ok (⟨s, 0⟩, rest)
    | .look _ => .error .assertionInSet
  match rest with
  | [] => .error .unclosedSet
  | '-' :: more =>
    let next := flags.peek more
    if next == some ']' || next == some '-' then alone
    else
      match flags.skipSpace more with
      | [] => .error .unclosedSet
      | more => do
        let (last, rest) ← readAtom flags more
        match first, last with
        | .char lo _, .char hi _ =>
          let lo ← memberChar flags lo
          let hi ← memberChar flags hi
          if lo ≤ hi then pure (⟨.range lo hi, 0⟩, rest) else .error .badRange
        | _, _ => .error .badRange
  | _ => alone

/-! ## Whole sets -/

/-- Takes hyphens in front as characters. -/
def takeHyphens (flags : Flags) (o : OpenSet) : (fuel : Nat) → List Char → Rest OpenSet
  | 0, text => (o, text)
  | fuel + 1, text =>
    match text with
    | '-' :: rest => takeHyphens flags (o.addChar '-') fuel (flags.skipSpace rest)
    | other => (o, other)

/-- Opens a set behind its bracket: a circumflex negates it, hyphens in front are characters, and so is
a closing bracket right in front. -/
def openSet (flags : Flags) (text : List Char) : Except Fault (Rest OpenSet) :=
  let text := flags.skipSpace text
  let (negated, text) := match text with
    | '^' :: rest => (true, flags.skipSpace rest)
    | other => (false, other)
  let (o, text) := takeHyphens flags ⟨negated, none, []⟩ text.length text
  let (o, text) := match text with
    | ']' :: rest => if o.parts.isEmpty then (o.addChar ']', flags.skipSpace rest) else (o, text)
    | other => (o, other)
  if text.isEmpty then .error .unclosedSet else .ok (o, text)

/-- Reads on inside a set, with the sets around it, innermost first. -/
def readSets (flags : Flags) : (fuel : Nat) → OpenSet → (around : List OpenSet) → List Char →
    Except Fault (Rest SetPart)
  | 0, _, _, _ => .error .unclosedSet
  | fuel + 1, o, around, text =>
    match flags.skipSpace text with
    | [] => .error .unclosedSet
    | '[' :: rest =>
      match readAsciiClass? rest with
      | some ((s, negated), rest) => do
        let s := foldCase flags s
        let s ← if negated then negate flags s else pure s
        readSets flags fuel (o.add ⟨s, 0⟩) around rest
      | none => do
        let (inner, rest) ← openSet flags rest
        readSets flags fuel inner (o :: around) rest
    | ']' :: rest => do
      let part ← o.close flags
      match around with
      | [] => pure (part, rest)
      | outer :: around => readSets flags fuel (outer.add part) around rest
    | '&' :: '&' :: rest => readSets flags fuel (o.operate flags .inter) around rest
    | '-' :: '-' :: rest => readSets flags fuel (o.operate flags .diff) around rest
    | '~' :: '~' :: rest => readSets flags fuel (o.operate flags .symmDiff) around rest
    | other => do
      let (part, rest) ← readItem flags other
      readSets flags fuel (o.add part) around rest

/-- Reads a bracketed set behind its opening bracket. -/
def readBracket (flags : Flags) (text : List Char) : Except Fault (Rest SetPart) := do
  let (o, rest) ← openSet flags text
  readSets flags (rest.length + 1) o [] rest

end LineCensus.Pattern
