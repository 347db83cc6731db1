import LineCensus.Pattern.Fault
import LineCensus.Unicode.Blank

/-!
# LineCensus.Pattern.Flags — the switches of a pattern

1. `Flags`: how the characters that follow are to be understood.
2. `Flags.read`: switches as they stand after `(?`, up to the closing `)` or the `:` of a group.
3. `Flags.skipSpace`: in spaced patterns, white space and comments mean nothing.
-/

namespace LineCensus.Pattern

/-- How the characters of a pattern are to be understood. -/
structure Flags where
  /-- Letters match in either case. -/
  ignoreCase : Bool := false
  /-- `^` and `$` hold at lines. -/
  multiLine : Bool := false
  /-- `.` matches line feeds too. -/
  dotAll : Bool := false
  /-- Repetitions prefer fewer rounds, and more after a question mark. -/
  swapGreed : Bool := false
  /-- Sets and assertions know all of Unicode, not only ASCII. -/
  unicode : Bool := true
  /-- A carriage return ends a line too. -/
  crlf : Bool := false
  /-- White space and comments mean nothing. -/
  spaced : Bool := false
deriving DecidableEq, Repr

/-- One switch. -/
inductive Flag where
  | ignoreCase | multiLine | dotAll | swapGreed | unicode | crlf | spaced
deriving DecidableEq, Repr

namespace Flag

/-- The switch a letter stands for. -/
def ofChar? : Char → Option Flag
  | 'i' => some .ignoreCase
  | 'm' => some .multiLine
  | 's' => some .dotAll
  | 'U' => some .swapGreed
  | 'u' => some .unicode
  | 'R' => some .crlf
  | 'x' => some .spaced
  | _ => none

end Flag

namespace Flags

/-- Turns one switch on or off. -/
def set (flags : Flags) (on : Bool) : Flag → Flags
  | .ignoreCase => { flags with ignoreCase := on }
  | .multiLine => { flags with multiLine := on }
  | .dotAll => { flags with dotAll := on }
  | .swapGreed => { flags with swapGreed := on }
  | .unicode => { flags with unicode := on }
  | .crlf => { flags with crlf := on }
  | .spaced => { flags with spaced := on }

/-- Reads switches up to `)` or `:`, which stays in front of the rest. `switched` holds those read
before, `minus` tells whether a minus sign has been met and `dangling` whether it was met last. -/
def readFrom (flags : Flags) (switched : List Flag) (minus dangling : Bool) :
    List Char → Except Fault (Rest (Flags × Bool))
  | [] => .error .badFlags
  | c :: rest =>
    if c = ')' ∨ c = ':' then
      if dangling then .error .badFlags
      else .ok ((flags, !switched.isEmpty), c :: rest)
    else if c = '-' then
      if minus then .error .badFlags else readFrom flags switched true true rest
    else
      match Flag.ofChar? c with
      | none => .error .badFlags
      | some flag =>
        if switched.contains flag then .error .badFlags
        else readFrom (flags.set (!minus) flag) (flag :: switched) minus false rest

/-- Reads switches up to `)` or `:`; also tells whether there was any. -/
def read (flags : Flags) (text : List Char) : Except Fault (Rest (Flags × Bool)) :=
  readFrom flags [] false false text

/-! ## White space in spaced patterns -/

/-- The text without white space and comments in front; a comment runs from `#` to the line's end. -/
def dropSpaced (comment : Bool) : List Char → List Char
  | [] => []
  | c :: rest =>
    if comment then dropSpaced (c != '\n') rest
    else if Unicode.isBlank c then dropSpaced false rest
    else if c = '#' then dropSpaced true rest
    else c :: rest

/-- The text without what means nothing in front of it. -/
def skipSpace (flags : Flags) (text : List Char) : List Char :=
  if flags.spaced then dropSpaced false text else text

/-- The first character behind one that is skipped, with white space and the mark of one comment
passed over in spaced patterns. -/
def peek (flags : Flags) (text : List Char) : Option Char :=
  if flags.spaced then
    match text.dropWhile Unicode.isBlank with
    | '#' :: rest => (rest.dropWhile Unicode.isBlank).head?
    | other => other.head?
  else text.head?

end Flags

end LineCensus.Pattern
