import LineCensus.Toml.Value

/-!
# LineCensus.Toml.Text — white space, comments, strings and keys

1. `skipSpace`, `skipComment`, `skipLines`, `endLine`: what may stand between values and at the ends of lines.
2. `readText`: the four kinds of strings. Basic strings know escapes, literal ones do not; three quotes open a
   string over several lines, whose first line feed does not count.
3. `readKey`: keys, bare or quoted, with dots between them.
-/

namespace LineCensus.Toml

/-- What a reading step returns: a value and the text behind it. -/
abbrev Rest (α : Type) := α × List Char

/-! ## Between values -/

/-- A blank within a line. -/
def isSpace (c : Char) : Bool := c == ' ' || c == '\t'

/-- A character that can stand in a comment or string: a tab, or anything that is no control character of
ASCII. -/
def isPlain (c : Char) : Bool := c == '\t' || (0x20 ≤ c.toNat && c.toNat != 0x7f)

/-- The text without blanks in front. -/
def skipSpace (text : List Char) : List Char := text.dropWhile isSpace

/-- A line's end in front: a line feed, or a carriage return and a line feed. -/
def newline? : List Char → Option (List Char)
  | '\n' :: rest => some rest
  | '\r' :: '\n' :: rest => some rest
  | _ => none

/-- The text without a comment in front; what is behind the comment is the end of its line. -/
def skipComment : List Char → Except Fault (List Char)
  | '#' :: rest =>
    let behind := rest.dropWhile isPlain
    if behind.isEmpty || (newline? behind).isSome then .ok behind else .error .badCharacter
  | text => .ok text

/-- The text without blanks, comments and line ends in front. -/
def skipLines : (fuel : Nat) → List Char → Except Fault (List Char)
  | 0, text => .ok text
  | fuel + 1, text => do
    let behind ← skipComment (skipSpace text)
    match newline? behind with
    | some rest => skipLines fuel rest
    | none => pure behind

/-- The text behind the rest of a line, which may hold blanks and a comment only. -/
def endLine (text : List Char) : Except Fault (List Char) := do
  let behind ← skipComment (skipSpace text)
  match behind with
  | [] => pure []
  | behind =>
    match newline? behind with
    | some rest => pure rest
    | none => .error .unexpected

/-! ## Escapes -/

/-- The value of hexadecimal digits. -/
def hexNumber? (digits : List Char) : Option Nat :=
  digits.foldl
    (fun n c => n.bind fun n =>
      if c.isDigit then some (n * 16 + (c.toNat - '0'.toNat))
      else if 'a' ≤ c ∧ c ≤ 'f' then some (n * 16 + (c.toNat - 'a'.toNat + 10))
      else if 'A' ≤ c ∧ c ≤ 'F' then some (n * 16 + (c.toNat - 'A'.toNat + 10))
      else none)
    (some 0)

/-- A character by exactly `count` hexadecimal digits. -/
def readCode (count : Nat) (text : List Char) : Except Fault (Rest Char) :=
  if text.length < count then .error .badEscape
  else
    match hexNumber? (text.take count) with
    | none => .error .badEscape
    | some code =>
      if code.isValidChar then .ok (Char.ofNat code, text.drop count) else .error .badEscape

/-- Reads an escape behind its backslash. -/
def readEscape : List Char → Except Fault (Rest Char)
  | 'b' :: rest => .ok ('\x08', rest)
  | 't' :: rest => .ok ('\t', rest)
  | 'n' :: rest => .ok ('\n', rest)
  | 'f' :: rest => .ok ('\x0c', rest)
  | 'r' :: rest => .ok ('\r', rest)
  | 'e' :: rest => .ok ('\x1b', rest)
  | '"' :: rest => .ok ('"', rest)
  | '\\' :: rest => .ok ('\\', rest)
  | 'x' :: rest => readCode 2 rest
  | 'u' :: rest => readCode 4 rest
  | 'U' :: rest => readCode 8 rest
  | _ => .error .badEscape

/-! ## Strings -/

/-- Reads a basic string behind its opening quote. -/
def readBasic : (fuel : Nat) → List Char → Except Fault (Rest (List Char))
  | 0, _ => .error .unclosedText
  | fuel + 1, text =>
    match text with
    | [] => .error .unclosedText
    | '"' :: rest => .ok ([], rest)
    | '\\' :: rest => do
      let (c, rest) ← readEscape rest
      let (cs, rest) ← readBasic fuel rest
      pure (c :: cs, rest)
    | c :: rest =>
      if isPlain c then do
        let (cs, rest) ← readBasic fuel rest
        pure (c :: cs, rest)
      else .error .badCharacter

/-- Reads a literal string behind its opening quote. -/
def readLiteral : List Char → Except Fault (Rest (List Char))
  | [] => .error .unclosedText
  | c :: rest =>
    if c = '\'' then .ok ([], rest)
    else if isPlain c then do
      let (cs, rest) ← readLiteral rest
      pure (c :: cs, rest)
    else .error .badCharacter

/-- Without a line end in front. -/
def dropNewline (text : List Char) : List Char := (newline? text).getD text

/-- The quotes in front of a text: fewer than three belong to the string, which goes on; three to five end it,
and those beyond three belong to it. -/
def closing? (quote : Char) (text : List Char) : Option (Rest (List Char)) :=
  let run := min 5 (text.takeWhile (· == quote)).length
  if run < 3 then none else some (List.replicate (run - 3) quote, text.drop run)

/-- The text behind a backslash at the end of a line: white space goes up to the next character. None if
something else stands before the line's end. -/
def continued? (text : List Char) : Option (List Char) :=
  (newline? (skipSpace text)).map fun rest =>
    rest.dropWhile fun c => isSpace c || c == '\n' || c == '\r'

/-- Reads a basic string over several lines, behind its opening quotes and the first line end. -/
def readBasicLines : (fuel : Nat) → List Char → Except Fault (Rest (List Char))
  | 0, _ => .error .unclosedText
  | fuel + 1, text =>
    match closing? '"' text with
    | some ended => .ok ended
    | none =>
      match text with
      | [] => .error .unclosedText
      | '\\' :: rest =>
        match continued? rest with
        | some rest => readBasicLines fuel rest
        | none => do
          let (c, rest) ← readEscape rest
          let (cs, rest) ← readBasicLines fuel rest
          pure (c :: cs, rest)
      | '\r' :: '\n' :: rest => do
        let (cs, rest) ← readBasicLines fuel rest
        pure ('\r' :: '\n' :: cs, rest)
      | c :: rest =>
        if c = '\n' || isPlain c then do
          let (cs, rest) ← readBasicLines fuel rest
          pure (c :: cs, rest)
        else .error .badCharacter

/-- Reads a literal string over several lines, behind its opening quotes and the first line end. -/
def readLiteralLines : (fuel : Nat) → List Char → Except Fault (Rest (List Char))
  | 0, _ => .error .unclosedText
  | fuel + 1, text =>
    match closing? '\'' text with
    | some ended => .ok ended
    | none =>
      match text with
      | [] => .error .unclosedText
      | '\r' :: '\n' :: rest => do
        let (cs, rest) ← readLiteralLines fuel rest
        pure ('\r' :: '\n' :: cs, rest)
      | c :: rest =>
        if c = '\n' || isPlain c then do
          let (cs, rest) ← readLiteralLines fuel rest
          pure (c :: cs, rest)
        else .error .badCharacter

/-- Reads a string of any kind, if one stands in front. -/
def readText? (text : List Char) : Option (Except Fault (Rest (List Char))) :=
  match text with
  | '"' :: '"' :: '"' :: rest =>
    some (readBasicLines (rest.length + 1) (dropNewline rest))
  | '"' :: rest => some (readBasic (rest.length + 1) rest)
  | '\'' :: '\'' :: '\'' :: rest =>
    some (readLiteralLines (rest.length + 1) (dropNewline rest))
  | '\'' :: rest => some (readLiteral rest)
  | _ => none

/-! ## Keys -/

/-- A character of a bare key. -/
def isBareKey (c : Char) : Bool := c.isAlphanum || c == '_' || c == '-'

/-- Reads one part of a key. -/
def readKeyPart (text : List Char) : Except Fault (Rest String) :=
  match text with
  | '"' :: rest => (readBasic (rest.length + 1) rest).map fun (cs, rest) => (String.ofList cs, rest)
  | '\'' :: rest => (readLiteral rest).map fun (cs, rest) => (String.ofList cs, rest)
  | text =>
    let bare := text.takeWhile isBareKey
    if bare.isEmpty then .error .unexpected
    else .ok (String.ofList bare, text.dropWhile isBareKey)

/-- Reads a key, part after part, and the blanks behind it. -/
def readKey : (fuel : Nat) → List Char → Except Fault (Rest (List String))
  | 0, _ => .error .unexpected
  | fuel + 1, text => do
    let (part, rest) ← readKeyPart text
    match skipSpace rest with
    | '.' :: rest => do
      let (parts, rest) ← readKey fuel (skipSpace rest)
      pure (part :: parts, rest)
    | rest => pure ([part], rest)

end LineCensus.Toml
