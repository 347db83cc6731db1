import LineCensus.Toml.Scalar
import LineCensus.Toml.Text
import LineCensus.Toml.Tree

/-!
# LineCensus.Toml.Document — reading a settings document

1. `readValue`: a value, which may be an array over several lines or a table in braces.
2. `readLine`: one line, a header or the definition of a key.
3. `parse`: a whole document, which may begin with a byte order mark.
-/

namespace LineCensus.Toml

/-- The deepest nesting of arrays and tables in braces. -/
def depthLimit : Nat := 80

/-! ## Values -/

/-- A character that ends a word. -/
def endsWord (c : Char) : Bool :=
  [' ', '\t', '\n', '\r', ',', '[', ']', '{', '}', '#', '=', '"', '\''].contains c

/-- Reads a number, truth value, date or time. A date goes on behind one space if a digit follows. -/
def readScalar (text : List Char) : Except Fault (Rest Value) :=
  let word := text.takeWhile (!endsWord ·)
  let rest := text.dropWhile (!endsWord ·)
  let (word, rest) :=
    match readDate? word, rest with
    | some [], ' ' :: d :: more =>
      if d.isDigit then
        (word ++ ' ' :: (d :: more).takeWhile (!endsWord ·), (d :: more).dropWhile (!endsWord ·))
      else (word, rest)
    | _, _ => (word, rest)
  match scalar? word with
  | some v => .ok (v, rest)
  | none => .error .badScalar

/-- The last part of a key and the parts before it. -/
def splitKey (parts : List String) : Except Fault (List String × String) :=
  match parts.getLast? with
  | some key => .ok (parts.dropLast, key)
  | none => .error .unexpected

mutual

/-- Reads a value at a depth of nesting. -/
def readValue : (fuel : Nat) → (depth : Nat) → List Char → Except Fault (Rest Value)
  | 0, _, _ => .error .unexpected
  | fuel + 1, depth, text =>
    match readText? text with
    | some result => result.map fun (cs, rest) => (.text (String.ofList cs), rest)
    | none =>
      match text with
      | '[' :: rest =>
        if depthLimit ≤ depth then .error .tooDeep
        else do
          let (values, rest) ← readElements fuel (depth + 1) rest
          pure (.array values, rest)
      | '{' :: rest =>
        if depthLimit ≤ depth then .error .tooDeep
        else do
          let (items, rest) ← readFields fuel (depth + 1) [] rest
          pure (.table (Item.toFields items), rest)
      | text => readScalar text

/-- Reads the elements of an array up to its closing bracket. -/
def readElements : (fuel : Nat) → (depth : Nat) → List Char → Except Fault (Rest (List Value))
  | 0, _, _ => .error .unexpected
  | fuel + 1, depth, text => do
    match ← skipLines (text.length + 1) text with
    | ']' :: rest => pure ([], rest)
    | text => do
      let (v, rest) ← readValue fuel depth text
      match ← skipLines (rest.length + 1) rest with
      | ',' :: rest => do
        let (values, rest) ← readElements fuel depth rest
        pure (v :: values, rest)
      | ']' :: rest => pure ([v], rest)
      | _ => .error .unexpected

/-- Reads the fields of a table in braces up to its closing brace. -/
def readFields : (fuel : Nat) → (depth : Nat) → Items → List Char → Except Fault (Rest Items)
  | 0, _, _, _ => .error .unexpected
  | fuel + 1, depth, items, text => do
    match ← skipLines (text.length + 1) text with
    | '}' :: rest => pure (items, rest)
    | text => do
      let (parts, rest) ← readKey (text.length + 1) text
      let (parts, key) ← splitKey parts
      match rest with
      | '=' :: rest => do
        let (v, rest) ← readValue fuel depth (skipSpace rest)
        let items ← items.insertField parts key v
        match ← skipLines (rest.length + 1) rest with
        | ',' :: rest => readFields fuel depth items rest
        | '}' :: rest => pure (items, rest)
        | _ => .error .unexpected
      | _ => .error .unexpected

end

/-! ## Lines -/

/-- Reads a header behind its first bracket. -/
def readHeader (text : List Char) : Except Fault (Rest Header) := do
  let (isElement, text) := match text with
    | '[' :: rest => (true, rest)
    | rest => (false, rest)
  let (parts, rest) ← readKey (text.length + 1) (skipSpace text)
  let (parts, key) ← splitKey parts
  match isElement, rest with
  | false, ']' :: rest => pure (⟨parts, key, false⟩, rest)
  | true, ']' :: ']' :: rest => pure (⟨parts, key, true⟩, rest)
  | _, _ => .error .unexpected

/-- Reads the definition of a key. -/
def readField (d : Draft) (text : List Char) : Except Fault (Rest Draft) := do
  let (parts, rest) ← readKey (text.length + 1) text
  let (parts, key) ← splitKey parts
  match rest with
  | '=' :: rest => do
    let (v, rest) ← readValue (rest.length + 1) 0 (skipSpace rest)
    let d ← d.insertField parts key v
    pure (d, rest)
  | _ => .error .unexpected

/-- Reads one line, which is not empty. -/
def readLine (d : Draft) (text : List Char) : Except Fault (Rest Draft) := do
  let (d, rest) ← match text with
    | '[' :: rest => do
      let (h, rest) ← readHeader rest
      let d ← d.openTable h
      pure (d, rest)
    | text => readField d text
  let rest ← endLine rest
  pure (d, rest)

/-- Reads line after line; each takes at least one character. -/
def readLinesFrom : (fuel : Nat) → Draft → List Char → Except Fault Draft
  | 0, _, _ => .error .unexpected
  | fuel + 1, d, text => do
    match ← skipLines (text.length + 1) text with
    | [] => pure d
    | text => do
      let (d, rest) ← readLine d text
      readLinesFrom fuel d rest

/-- The text without a byte order mark in front. -/
def dropMark : List Char → List Char
  | '\ufeff' :: rest => rest
  | text => text

/-- Reads a document. -/
def parse (text : List Char) : Except Fault Fields := do
  let text := dropMark text
  let d ← readLinesFrom (text.length + 1) {} text
  d.finish

end LineCensus.Toml
