/-!
# LineCensus.Text.Lines — a text cut into lines

1. `lines`: the pieces between line feeds. A line feed at the very end opens no further line, and one
   carriage return right before a line feed belongs to the line's end. Any other carriage return
   stays, also one at the end of a text that has no line feed after it.
-/

namespace LineCensus.Text

/-- The characters of a finished line, last one first, without a carriage return at its end. -/
def dropReturn : List Char → List Char
  | '\r' :: before => before
  | before => before

/-- The lines of a text whose first line has begun with `begun`, last character first. -/
def linesFrom (begun : List Char) : List Char → List (List Char)
  | [] => if begun.isEmpty then [] else [begun.reverse]
  | c :: rest =>
    if c = '\n' then (dropReturn begun).reverse :: linesFrom [] rest
    else linesFrom (c :: begun) rest

/-- The lines of a text, without their ends. -/
def lines (text : List Char) : List (List Char) := linesFrom [] text

end LineCensus.Text
