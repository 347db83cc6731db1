import LineCensus.Census.Basic

/-!
# LineCensus.Report.Json — a census as a JSON document

1. `Json`: the values that a report is made of.
2. `Json.quote`: a text as a JSON string. Quotes, backslashes and control characters are escaped, the common
   ones by a letter and the others by four hexadecimal digits; all else stands for itself.
3. `Json.render`: a value on indented lines, two spaces a level. What is empty stays on one line.
4. `Census.toJson`: the summary and the extensions, those with the most code first, each with the name of
   its language if it is known.
-/

namespace LineCensus

/-- The values that a report is made of. -/
inductive Json where
  | number (n : Nat)
  | text (s : String)
  | array (values : List Json)
  | object (fields : List (String × Json))
deriving Repr

namespace Json

/-! ## Texts -/

/-- Four hexadecimal digits. -/
def fourHex (n : Nat) : List Char :=
  [n / 4096 % 16, n / 256 % 16, n / 16 % 16, n % 16].map Nat.digitChar

/-- A character inside a JSON string. -/
def escape (c : Char) : List Char :=
  if c = '"' then ['\\', '"']
  else if c = '\\' then ['\\', '\\']
  else if c = '\n' then ['\\', 'n']
  else if c = '\r' then ['\\', 'r']
  else if c = '\t' then ['\\', 't']
  else if c = '\x08' then ['\\', 'b']
  else if c = '\x0c' then ['\\', 'f']
  else if c.toNat < 0x20 then '\\' :: 'u' :: fourHex c.toNat
  else [c]

/-- A text as a JSON string. -/
def quote (s : String) : List Char := '"' :: s.toList.flatMap escape ++ ['"']

/-! ## Documents -/

/-- A line feed and the spaces of a level. -/
def newline (level : Nat) : List Char := '\n' :: List.replicate (2 * level) ' '

/-- Pieces between brackets, each on a line of its own. -/
def block (opening closing : Char) (level : Nat) (pieces : List (List Char)) : List Char :=
  match pieces with
  | [] => [opening, closing]
  | first :: rest =>
    opening :: (newline (level + 1) ++ first
      ++ rest.flatMap (fun piece => ',' :: newline (level + 1) ++ piece)
      ++ newline level ++ [closing])

mutual

/-- A value on indented lines. -/
def renderAt (level : Nat) : Json → List Char
  | .number n => Nat.toDigits 10 n
  | .text s => quote s
  | .array values => block '[' ']' level (renderValues (level + 1) values)
  | .object fields => block '{' '}' level (renderFields (level + 1) fields)

/-- The values of an array. -/
def renderValues (level : Nat) : List Json → List (List Char)
  | [] => []
  | v :: rest => renderAt level v :: renderValues level rest

/-- The fields of an object. -/
def renderFields (level : Nat) : List (String × Json) → List (List Char)
  | [] => []
  | (key, v) :: rest =>
    (quote key ++ [':', ' '] ++ renderAt level v) :: renderFields level rest

end

/-- A value on indented lines, from the left margin on. -/
def render (v : Json) : List Char := renderAt 0 v

end Json

/-! ## The report -/

namespace Tally

/-- The counts of a tally as fields. -/
def toFields (t : Tally) : List (String × Json) :=
  [("files", .number t.files), ("lines", .number t.lines), ("blank", .number t.blank),
    ("comment", .number t.comments), ("code", .number t.code)]

end Tally

namespace Census

/-- The entry of an extension. -/
def entryJson (extension : String) (t : Tally) : Json :=
  let language := match Registry.builtin.language? extension with
    | some l => [("language", Json.text l.name)]
    | none => []
  .object ([("extension", .text extension)] ++ language ++ t.toFields)

/-- The report of a census. -/
def toJson (c : Census) : Json :=
  .object [("summary", .object c.totals.toFields),
    ("languages", .array (c.sortedByCode.map fun (extension, t) => entryJson extension t))]

end Census

end LineCensus
