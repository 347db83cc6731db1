import LineCensus.Toml.Value

/-!
# LineCensus.Toml.Scalar — numbers, truth values, dates and times

1. `isInteger`, `isFloat`: the forms of numbers. Underscores stand between digits only, and a decimal number
   has no needless zero in front.
2. `isDateTime`: dates, times and both, with real months, days, hours, minutes and seconds.
3. `scalar?`: the value a word stands for.
-/

namespace LineCensus.Toml

/-! ## Numbers -/

/-- Digits with single underscores between them; `afterDigit` tells whether one may come now. -/
def isGrouped (isDigit : Char → Bool) (afterDigit : Bool) : List Char → Bool
  | [] => afterDigit
  | c :: rest =>
    if c = '_' then afterDigit && isGrouped isDigit false rest
    else isDigit c && isGrouped isDigit true rest

/-- The text without a sign in front. -/
def dropSign : List Char → List Char
  | '+' :: rest => rest
  | '-' :: rest => rest
  | text => text

/-- Decimal digits without a needless zero in front. -/
def isDecimal (text : List Char) : Bool :=
  isGrouped Char.isDigit false text && (text.head? != some '0' || text.length == 1)

/-- A hexadecimal digit. -/
def isHexDigit (c : Char) : Bool :=
  c.isDigit || ('a' ≤ c && c ≤ 'f') || ('A' ≤ c && c ≤ 'F')

/-- An integer: decimal with or without a sign, or with a base in front. -/
def isInteger (text : List Char) : Bool :=
  match text with
  | '0' :: 'x' :: digits => isGrouped isHexDigit false digits
  | '0' :: 'o' :: digits => isGrouped (fun c => '0' ≤ c && c ≤ '7') false digits
  | '0' :: 'b' :: digits => isGrouped (fun c => c == '0' || c == '1') false digits
  | text => isDecimal (dropSign text)

/-- A number with decimals, an exponent or both, or one of the special ones. -/
def isFloat (text : List Char) : Bool :=
  let body := dropSign text
  if body == ['i', 'n', 'f'] || body == ['n', 'a', 'n'] then true
  else
    let isMark (c : Char) : Bool := c == 'e' || c == 'E'
    let mantissa := body.takeWhile (!isMark ·)
    let exponent := body.dropWhile (!isMark ·)
    let whole := mantissa.takeWhile (· != '.')
    let decimals := mantissa.dropWhile (· != '.')
    let decimalsOk := decimals.isEmpty || isGrouped Char.isDigit false decimals.tail
    let exponentOk := exponent.isEmpty || isGrouped Char.isDigit false (dropSign exponent.tail)
    isDecimal whole && decimalsOk && exponentOk && !(decimals.isEmpty && exponent.isEmpty)

/-! ## Dates and times -/

/-- Reads exactly `count` digits. -/
def readDigits? (count : Nat) (text : List Char) : Option (Nat × List Char) :=
  let digits := text.take count
  if digits.length = count ∧ digits.all Char.isDigit then
    some (digits.foldl (fun n c => n * 10 + (c.toNat - '0'.toNat)) 0, text.drop count)
  else none

/-- The text behind a character that has to stand in front. -/
def readChar? (c : Char) : List Char → Option (List Char)
  | d :: rest => if c = d then some rest else none
  | [] => none

/-- Whether a year has a 29th of February. -/
def isLeapYear (year : Nat) : Bool := year % 4 == 0 && (year % 100 != 0 || year % 400 == 0)

/-- The number of days of a month. -/
def daysOf (year month : Nat) : Nat :=
  if month = 2 then (if isLeapYear year then 29 else 28)
  else if [4, 6, 9, 11].contains month then 30
  else 31

/-- Reads a date. -/
def readDate? (text : List Char) : Option (List Char) := do
  let (year, rest) ← readDigits? 4 text
  let rest ← readChar? '-' rest
  let (month, rest) ← readDigits? 2 rest
  let rest ← readChar? '-' rest
  let (day, rest) ← readDigits? 2 rest
  if 1 ≤ month ∧ month ≤ 12 ∧ 1 ≤ day ∧ day ≤ daysOf year month then some rest else none

/-- Reads hours and minutes. -/
def readClock? (text : List Char) : Option (List Char) := do
  let (hour, rest) ← readDigits? 2 text
  let rest ← readChar? ':' rest
  let (minute, rest) ← readDigits? 2 rest
  if hour ≤ 23 ∧ minute ≤ 59 then some rest else none

/-- Reads a time; seconds and their decimals may be missing. -/
def readTime? (text : List Char) : Option (List Char) := do
  let rest ← readClock? text
  match rest with
  | ':' :: rest =>
    let (second, rest) ← readDigits? 2 rest
    if 60 < second then none
    else
      match rest with
      | '.' :: rest =>
        if rest.head?.any Char.isDigit then some (rest.dropWhile Char.isDigit) else none
      | rest => some rest
  | rest => some rest

/-- Reads the distance from universal time, if there is one. -/
def readOffset? (text : List Char) : Option (List Char) :=
  match text with
  | 'Z' :: rest | 'z' :: rest => some rest
  | '+' :: rest | '-' :: rest => readClock? rest
  | text => some text

/-- A date, a time, or a date and a time with or without a distance from universal time. -/
def isDateTime (text : List Char) : Bool :=
  match readDate? text with
  | some [] => true
  | some (separator :: rest) =>
    (separator == 'T' || separator == 't' || separator == ' ')
      && ((readTime? rest).bind readOffset?) == some []
  | none => readTime? text == some []

/-! ## Words -/

/-- The value a word stands for. -/
def scalar? (word : List Char) : Option Value :=
  if word == "true".toList then some (.boolean true)
  else if word == "false".toList then some (.boolean false)
  else if isInteger word then some (.integer (String.ofList word))
  else if isFloat word then some (.float (String.ofList word))
  else if isDateTime word then some (.dateTime (String.ofList word))
  else none

end LineCensus.Toml
