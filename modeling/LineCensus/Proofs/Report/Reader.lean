import LineCensus.Toml.Text

/-!
# LineCensus.Proofs.Report.Reader — a reader of JSON documents

The reader takes any JSON document, not only those that are written here: with white space anywhere between the
tokens, all escapes, and negative numbers, decimals and exponents.

1. `Datum`: the values of JSON. A number is a mantissa times a power of ten.
2. `unescape?`: what stands between quotes, as the code units it spells and then as characters. Two surrogates
   make up one character, and one alone makes up none.
3. `number?`, `word?`: what is written without quotes.
4. `tokens?`: a text cut into tokens. A word goes on up to white space, a quote or a punctuation mark.
5. `Parsing`: the arrays and objects that are open, and what may come next.
6. `read?`: the value of a document.
-/

namespace LineCensus.Json

/-- The values of JSON. -/
inductive Datum where
  | null
  | boolean (b : Bool)
  /-- The mantissa times ten to the exponent. -/
  | number (mantissa exponent : Int)
  | text (s : String)
  | array (values : List Datum)
  | object (fields : List (String × Datum))
deriving Repr

/-! ## Texts -/

/-- The code of a letter behind a backslash. -/
def letter? : Char → Option Nat
  | '"' => some 0x22
  | '\\' => some 0x5c
  | '/' => some 0x2f
  | 'b' => some 0x08
  | 'f' => some 0x0c
  | 'n' => some 0x0a
  | 'r' => some 0x0d
  | 't' => some 0x09
  | _ => none

/-- The codes that a text spells: those of its characters, of its letters behind a backslash and of its groups
of four hexadecimal digits. A control character has to be spelled. -/
def units? : List Char → Option (List Nat)
  | [] => some []
  | '\\' :: 'u' :: a :: b :: c :: d :: rest => do
    let unit ← Toml.hexNumber? [a, b, c, d]
    return unit :: (← units? rest)
  | '\\' :: letter :: rest => do
    let unit ← letter? letter
    return unit :: (← units? rest)
  | c :: rest => do
    if c = '\\' ∨ c.toNat < 0x20 then none
    else return c.toNat :: (← units? rest)

/-- The first half of a character beyond the first plane. -/
def isHighSurrogate (unit : Nat) : Bool := 0xd800 ≤ unit && unit < 0xdc00

/-- The second half of a character beyond the first plane. -/
def isLowSurrogate (unit : Nat) : Bool := 0xdc00 ≤ unit && unit < 0xe000

/-- A character by its code. -/
def character? (unit : Nat) : Option Char := if unit.isValidChar then some (Char.ofNat unit) else none

/-- The characters of codes; two surrogates are one character. -/
def characters? : List Nat → Option (List Char)
  | [] => some []
  | [unit] => do return [← character? unit]
  | unit :: next :: rest => do
    if isHighSurrogate unit && isLowSurrogate next then
      let c ← character? (0x10000 + (unit - 0xd800) * 0x400 + (next - 0xdc00))
      return c :: (← characters? rest)
    else
      let c ← character? unit
      return c :: (← characters? (next :: rest))

/-- The text that is spelled between quotes. -/
def unescape? (raw : List Char) : Option String := do
  return String.ofList (← characters? (← units? raw))

/-! ## Words -/

/-- One or more digits. -/
def isDigits (digits : List Char) : Bool := !digits.isEmpty && digits.all Char.isDigit

/-- Digits without a needless zero in front. -/
def isWhole (digits : List Char) : Bool :=
  isDigits digits && (digits.head? != some '0' || digits.length == 1)

/-- The digits behind a decimal point; there may be no point. -/
def decimals? : List Char → Option (List Char)
  | [] => some []
  | _ :: digits => if isDigits digits then some digits else none

/-- The number behind an `e`, with or without a sign; there may be no `e`. -/
def exponent? : List Char → Option Int
  | [] => some 0
  | _ :: '-' :: digits => if isDigits digits then some (-Nat.ofDigitChars 10 digits 0) else none
  | _ :: '+' :: digits => if isDigits digits then some (Nat.ofDigitChars 10 digits 0) else none
  | _ :: digits => if isDigits digits then some (Nat.ofDigitChars 10 digits 0) else none

/-- The mark of an exponent. -/
def isMark (c : Char) : Bool := c == 'e' || c == 'E'

/-- A number without a sign: its digits before the point, those behind it and its exponent. -/
def unsigned? (letters : List Char) : Option (Nat × Int) := do
  let mantissa := letters.takeWhile (!isMark ·)
  let whole := mantissa.takeWhile (· != '.')
  let decimals ← decimals? (mantissa.dropWhile (· != '.'))
  let exponent ← exponent? (letters.dropWhile (!isMark ·))
  if isWhole whole then some (Nat.ofDigitChars 10 (whole ++ decimals) 0, exponent - decimals.length)
  else none

/-- A number. -/
def number? : List Char → Option Datum
  | '-' :: letters => (unsigned? letters).map fun (n, exponent) => .number (-n) exponent
  | letters => (unsigned? letters).map fun (n, exponent) => .number n exponent

/-- What a word stands for. -/
def word? (letters : List Char) : Option Datum :=
  if letters = "null".toList then some .null
  else if letters = "true".toList then some (.boolean true)
  else if letters = "false".toList then some (.boolean false)
  else number? letters

/-! ## Tokens -/

/-- A punctuation mark, or a value that stands by itself. -/
inductive Token where
  | openArray | closeArray | openObject | closeObject | comma | colon
  | atom (d : Datum)
deriving Repr

/-- The token of a punctuation mark. -/
def mark? : Char → Option Token
  | '[' => some .openArray
  | ']' => some .closeArray
  | '{' => some .openObject
  | '}' => some .closeObject
  | ',' => some .comma
  | ':' => some .colon
  | _ => none

/-- White space. -/
def isSpace (c : Char) : Bool := c == ' ' || c == '\n' || c == '\r' || c == '\t'

/-- Whether a word ends before a character. -/
def isDelimiter (c : Char) : Bool := isSpace c || c == '"' || (mark? c).isSome

/-- Where a text is being cut. -/
inductive Lexing where
  | between
  /-- Inside quotes, behind a backslash or not. -/
  | text (raw : List Char) (escaped : Bool)
  | word (letters : List Char)
deriving Repr

namespace Lexing

/-- One character between tokens. -/
def begin (c : Char) : List Token × Lexing :=
  if isSpace c then ([], .between)
  else if c = '"' then ([], .text [] false)
  else
    match mark? c with
    | some t => ([t], .between)
    | none => ([], .word [c])

/-- One more character: the tokens that end with it or before it, and where the text is being cut then. -/
def step : Lexing → Char → Option (List Token × Lexing)
  | .between, c => some (begin c)
  | .text raw true, c => some ([], .text (raw ++ [c]) false)
  | .text raw false, c => do
    if c = '"' then return ([.atom (.text (← unescape? raw))], .between)
    else return ([], .text (raw ++ [c]) (c == '\\'))
  | .word letters, c => do
    if isDelimiter c then
      let d ← word? letters
      let (tokens, s) := begin c
      return (.atom d :: tokens, s)
    else return ([], .word (letters ++ [c]))

/-- The tokens that end with the text. -/
def finish : Lexing → Option (List Token)
  | .between => some []
  | .text _ _ => none
  | .word letters => do return [.atom (← word? letters)]

/-- The tokens of the rest of a text. -/
def tokens? : Lexing → List Char → Option (List Token)
  | s, [] => s.finish
  | s, c :: rest => do
    let (read, s) ← s.step c
    return read ++ (← s.tokens? rest)

end Lexing

/-! ## Values -/

/-- An array or object that is open: what it holds so far, and the name of the value that comes next. -/
inductive Frame where
  | array (values : List Datum)
  | object (fields : List (String × Datum)) (name : String)
deriving Repr

/-- What may come next, inside the frames that are open. -/
inductive Parsing where
  | value (frames : List Frame)
  /-- A value, or the end of an array that holds none. -/
  | item (frames : List Frame)
  /-- A name; the object may also end, if it holds nothing yet. -/
  | key (fields : List (String × Datum)) (mayEnd : Bool) (frames : List Frame)
  | colon (fields : List (String × Datum)) (name : String) (frames : List Frame)
  /-- What goes on behind a value. -/
  | behind (d : Datum) (frames : List Frame)
deriving Repr

namespace Parsing

/-- Where a value has to come. -/
def open? (frames : List Frame) : Token → Option Parsing
  | .atom d => some (.behind d frames)
  | .openArray => some (.item (.array [] :: frames))
  | .openObject => some (.key [] true frames)
  | _ => none

/-- Behind a value. -/
def goOn? (d : Datum) : List Frame → Token → Option Parsing
  | .array values :: frames, .comma => some (.value (.array (values ++ [d]) :: frames))
  | .array values :: frames, .closeArray => some (.behind (.array (values ++ [d])) frames)
  | .object fields name :: frames, .comma => some (.key (fields ++ [(name, d)]) false frames)
  | .object fields name :: frames, .closeObject => some (.behind (.object (fields ++ [(name, d)])) frames)
  | _, _ => none

/-- One more token. -/
def step : Parsing → Token → Option Parsing
  | .value frames, t => open? frames t
  | .item (.array [] :: frames), .closeArray => some (.behind (.array []) frames)
  | .item frames, t => open? frames t
  | .key fields _ frames, .atom (.text name) => some (.colon fields name frames)
  | .key _ true frames, .closeObject => some (.behind (.object []) frames)
  | .colon fields name frames, .colon => some (.value (.object fields name :: frames))
  | .behind d frames, t => goOn? d frames t
  | _, _ => none

/-- Reads the rest of the tokens. -/
def run : Parsing → List Token → Option Parsing
  | p, [] => some p
  | p, t :: rest => do (← p.step t).run rest

/-- The value that has been read, with nothing left open. -/
def result? : Parsing → Option Datum
  | .behind d [] => some d
  | _ => none

end Parsing

/-- The value of some tokens. -/
def parse? (tokens : List Token) : Option Datum := do (← Parsing.run (.value []) tokens).result?

/-- The value of a document. -/
def read? (text : List Char) : Option Datum := do parse? (← Lexing.between.tokens? text)

/-- Spaces, signs, escapes and surrogates as others may write them. -/
example : read? " [-0.5e+2 ,\"\\ud83d\\ude00\\/\\u00e9\",\t\x7b\"\":[]\x7d , null]\r\n".toList =
    some (.array [.number (-5) 1, .text "😀/é", .object [("", .array [])], .null]) := by rfl

/-- What is no document. -/
example : ["", "01", "1.", "[1,]", "\x7b\"a\":1,\x7d", "\"\\ud83d\"", "\"\n\"", "[1] 2", "[", "tru"].all
    (fun text => (read? text.toList).isNone) = true := by rfl

end LineCensus.Json
