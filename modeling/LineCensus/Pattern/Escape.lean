import LineCensus.Pattern.Flags
import LineCensus.Pattern.Node

/-!
# LineCensus.Pattern.Escape — what stands after a backslash

1. `isMeta`, `isEscapable`: the characters with a meaning of their own, and those that a backslash makes
   literal.
2. `Atom`: what an escape can stand for, a character, a set or an assertion.
3. `readEscape`: reads the text behind a backslash.
-/

namespace LineCensus.Pattern

/-- The characters that mean something of their own, somewhere in a pattern. -/
def metaCharacters : List Char :=
  ['\\', '.', '+', '*', '?', '(', ')', '|', '[', ']', '{', '}', '^', '$', '#', '&', '-', '~']

/-- Whether a character means something of its own, somewhere in a pattern. -/
def isMeta (c : Char) : Bool := metaCharacters.contains c

/-- Whether a backslash before the character makes it literal: ASCII, but for letters, digits and the
angle brackets, which have escaped meanings or are kept for them. -/
def isEscapable (c : Char) : Bool :=
  isMeta c || (c.toNat < 128 && !c.isAlphanum && c != '<' && c != '>')

/-- What an escape stands for. -/
inductive Atom where
  /-- A character; `byte` if it was written as two hexadecimal digits. -/
  | char (c : Char) (byte : Bool)
  /-- A set of characters. -/
  | set (s : CharSet)
  /-- An assertion. -/
  | look (a : Assertion)
deriving Repr

/-! ## Numbers -/

/-- The value of a hexadecimal digit. -/
def hexValue? (c : Char) : Option Nat :=
  if c.isDigit then some (c.toNat - '0'.toNat)
  else if 'a' ≤ c ∧ c ≤ 'f' then some (c.toNat - 'a'.toNat + 10)
  else if 'A' ≤ c ∧ c ≤ 'F' then some (c.toNat - 'A'.toNat + 10)
  else none

/-- The character with a code point, if there is one. -/
def charOfCode (code : Nat) : Except Fault Char :=
  if h : code.isValidChar then .ok (Char.ofNatAux code h) else .error .badHexadecimal

/-- Reads exactly `count` hexadecimal digits, one of which has to come next. -/
def readHexDigits (flags : Flags) : (count value : Nat) → List Char → Except Fault (Rest Char)
  | 0, value, text => (charOfCode value).map (·, text)
  | count + 1, value, text =>
    match text with
    | [] => .error .badHexadecimal
    | c :: rest =>
      match hexValue? c with
      | none => .error .badHexadecimal
      | some digit => readHexDigits flags count (value * 16 + digit) (flags.skipSpace rest)

/-- Reads the digits of a braced hexadecimal number, behind its opening brace. -/
def readHexBraced (flags : Flags) : (fuel value : Nat) → (empty : Bool) → List Char →
    Except Fault (Rest Char)
  | 0, _, _, _ => .error .badHexadecimal
  | fuel + 1, value, empty, text =>
    match flags.skipSpace text with
    | [] => .error .badHexadecimal
    | '}' :: rest =>
      if empty then .error .badHexadecimal
      else (charOfCode value).map (·, flags.skipSpace rest)
    | c :: rest =>
      match hexValue? c with
      | none => .error .badHexadecimal
      | some digit =>
        let value := value * 16 + digit
        if value ≤ 0xffffffff then readHexBraced flags fuel value false rest
        else .error .badHexadecimal

/-- Reads a hexadecimal escape behind its letter: `count` digits, or any number in braces. -/
def readHex (flags : Flags) (count : Nat) (text : List Char) : Except Fault (Rest Atom) :=
  match flags.skipSpace text with
  | [] => .error .unfinishedEscape
  | '{' :: rest => (readHexBraced flags (rest.length + 1) 0 true rest).map fun (c, rest) =>
      (.char c false, rest)
  | other => (readHexDigits flags count 0 other).map fun (c, rest) => (.char c (count == 2), rest)

/-! ## Sets -/

/-- The complement, unless it would hold bytes that are no characters. -/
def negate (flags : Flags) (s : CharSet) : Except Fault CharSet :=
  if flags.unicode then .ok (.compl s) else .error .partialCharacter

/-- The set with the variants in case of its members, if case is to be ignored. -/
def foldCase (flags : Flags) (s : CharSet) : CharSet :=
  if flags.ignoreCase then (if flags.unicode then .anyCase s else .anyAsciiCase s) else s

/-- ASCII letters and digits and the underscore. -/
def asciiWord : CharSet :=
  .union (.range '0' '9') (.union (.range 'A' 'Z') (.union (.single '_') (.range 'a' 'z')))

/-- ASCII white space. -/
def asciiBlank : CharSet := .union (.range '\t' '\r') (.single ' ')

/-- The named set behind `\d`, `\s`, `\w` and their negations. -/
def namedSet (flags : Flags) (ascii unicode : CharSet) (negated : Bool) :
    Except Fault CharSet :=
  let s := if flags.unicode then unicode else ascii
  if negated then negate flags s else .ok s

/-- A name of a property in its folded form: lower case, without spaces, hyphens, underscores, a leading
`is` and whatever is not ASCII. -/
def foldName (name : List Char) : String :=
  let isPrefixed := match name with
    | i :: s :: _ => i.toLower == 'i' && s.toLower == 's'
    | _ => false
  let body := if isPrefixed then name.drop 2 else name
  let kept := body.filter fun c => c.toNat < 128 && c != ' ' && c != '_' && c != '-'
  let folded := String.ofList (kept.map Char.toLower)
  if isPrefixed && folded == "c" then "isc" else folded

/-- The general categories with a folded name, as a set. -/
def categorySet? (name : String) : Option CharSet :=
  match name with
  | "any" => some .all
  | "assigned" => some (.compl (.category ["Cn"]))
  | "ascii" => some (.range '\x00' '\x7f')
  | _ => (Unicode.categories? name).map .category

/-- The set that a lone name stands for: a property, else general categories, else a script. The
three names that are both are categories. -/
def setOfName? (name : String) : Option CharSet :=
  let asProperty :=
    if ["cf", "sc", "lc"].contains name then none
    else (Unicode.property? name).map fun _ => .property name
  asProperty <|> categorySet? name <|> (Unicode.script? name).map .script

/-- The set of the characters whose property has a value. -/
def setOfValue? (property value : String) : Option CharSet :=
  if ["gc", "generalcategory"].contains property then categorySet? value
  else if ["sc", "script"].contains property then (Unicode.script? value).map .script
  else none

/-- Cuts a text at the first occurrence of a separator. -/
def cutAt (separator : List Char) : List Char → Option (List Char × List Char)
  | [] => none
  | c :: rest =>
    if separator.isPrefixOf (c :: rest) then some ([], (c :: rest).drop separator.length)
    else (cutAt separator rest).map fun (before, after) => (c :: before, after)

/-- The set between the braces of a property escape, and whether it is to be negated once more. -/
def setOfProperty? (body : List Char) : Option (CharSet × Bool) :=
  let valued (halves : List Char × List Char) (negated : Bool) :=
    (setOfValue? (foldName halves.1) (foldName halves.2)).map (·, negated)
  match cutAt ['!', '='] body, cutAt [':'] body, cutAt ['='] body with
  | some halves, _, _ => valued halves true
  | none, some halves, _ => valued halves false
  | none, none, some halves => valued halves false
  | none, none, none => (setOfName? (foldName body)).map (·, false)

/-- Collects the text up to a closing brace, passing over white space in spaced patterns. -/
def readBraced (flags : Flags) : (fuel : Nat) → List Char → Except Fault (Rest (List Char))
  | 0, _ => .error .unfinishedEscape
  | fuel + 1, text =>
    match flags.skipSpace text with
    | [] => .error .unfinishedEscape
    | '}' :: rest => .ok ([], rest)
    | c :: rest => do
      let (name, rest) ← readBraced flags fuel rest
      pure (c :: name, rest)

/-- Reads a property escape behind its letter. -/
def readProperty (flags : Flags) (negated : Bool) (text : List Char) :
    Except Fault (Rest Atom) := do
  let (body, rest) ← match flags.skipSpace text with
    | [] => .error .unfinishedEscape
    | '{' :: rest => readBraced flags (rest.length + 1) rest
    | '\\' :: _ => .error .unknownProperty
    | c :: rest => .ok ([c], flags.skipSpace rest)
  if !flags.unicode then .error .unknownProperty else
  match setOfProperty? body with
  | none => .error .unknownProperty
  | some (s, unequal) =>
    let s := foldCase flags s
    pure (.set (if negated != unequal then .compl s else s), rest)

/-! ## Word edges -/

/-- A character that can stand in the name of a word edge. -/
def isEdgeChar (c : Char) : Bool := c.isAlpha || c == '-'

/-- Collects the letters and hyphens in front. -/
def takeEdgeName (flags : Flags) : (fuel : Nat) → List Char → Rest (List Char)
  | 0, text => ([], text)
  | fuel + 1, text =>
    match text with
    | c :: rest =>
      if isEdgeChar c then
        let (name, rest) := takeEdgeName flags fuel (flags.skipSpace rest)
        (c :: name, rest)
      else ([], c :: rest)
    | [] => ([], [])

/-- The word edge with a name. -/
def edgeOfName? (name : String) : Option WordEdge :=
  match name with
  | "start" => some .start
  | "end" => some .stop
  | "start-half" => some .startHalf
  | "end-half" => some .stopHalf
  | _ => none

/-- Reads what may follow `\b`: the name of an edge in braces, unless the braces hold counts. -/
def readEdge (flags : Flags) (text : List Char) : Except Fault (Rest WordEdge) :=
  match text with
  | '{' :: rest =>
    match flags.skipSpace rest with
    | [] => .error .unfinishedEscape
    | c :: more =>
      if isEdgeChar c then
        let (name, rest) := takeEdgeName flags (more.length + 1) (c :: more)
        match rest, edgeOfName? (String.ofList name) with
        | '}' :: rest, some edge => .ok (edge, rest)
        | _, _ => .error .unknownEscape
      else .ok (.boundary, text)
  | _ => .ok (.boundary, text)

/-! ## Escapes -/

/-- Reads the text behind a backslash. -/
def readEscape (flags : Flags) (text : List Char) : Except Fault (Rest Atom) :=
  let named (ascii unicode : CharSet) (negated : Bool) (rest : List Char) :=
    (namedSet flags ascii unicode negated).map fun s => (Atom.set s, rest)
  let edge (e : WordEdge) (rest : List Char) : Except Fault (Rest Atom) :=
    .ok (.look (.word e (!flags.unicode)), rest)
  match text with
  | [] => .error .unfinishedEscape
  | c :: rest =>
    if isEscapable c then .ok (.char c false, rest)
    else if c.isDigit then .error .backReference
    else
      match c with
      | 'x' => readHex flags 2 rest
      | 'u' => readHex flags 4 rest
      | 'U' => readHex flags 8 rest
      | 'p' => readProperty flags false rest
      | 'P' => readProperty flags true rest
      | 'd' => named (.range '0' '9') .digit false rest
      | 'D' => named (.range '0' '9') .digit true rest
      | 's' => named asciiBlank .blank false rest
      | 'S' => named asciiBlank .blank true rest
      | 'w' => named asciiWord .word false rest
      | 'W' => named asciiWord .word true rest
      | 'a' => .ok (.char '\x07' false, rest)
      | 'f' => .ok (.char '\x0c' false, rest)
      | 't' => .ok (.char '\t' false, rest)
      | 'n' => .ok (.char '\n' false, rest)
      | 'r' => .ok (.char '\r' false, rest)
      | 'v' => .ok (.char '\x0b' false, rest)
      | 'A' => .ok (.look .textStart, rest)
      | 'z' => .ok (.look .textEnd, rest)
      | 'b' => do
        let (e, rest) ← readEdge flags rest
        edge e rest
      | 'B' => edge .interior rest
      | '<' => edge .start rest
      | '>' => edge .stop rest
      | _ => .error .unknownEscape

end LineCensus.Pattern
