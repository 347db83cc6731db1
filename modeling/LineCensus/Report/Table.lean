import LineCensus.Report.Grouped
import LineCensus.Report.Label

/-!
# LineCensus.Report.Table — a census as a bordered table

1. `Style`: the escape codes for colours and weight.
2. `Cell`, `cells`: the six columns of a row, the label first and then the five counts.
3. `widths`: the width of each column is the greatest number of characters in it.
4. `border`, `line`: the two kinds of lines. A cell is padded before it is painted, so that the codes do not
   count for its width.
5. `Table.render`: an empty line, the header, one row for each extension, those with the most code first, and
   the totals.
-/

namespace LineCensus

/-! ## Colours -/

/-- Whether colours are wanted; `auto` asks whether the output is a terminal. -/
inductive ColorMode where
  | auto | always | never
deriving DecidableEq, Repr

namespace Style

/-- An escape code with the given parameter. -/
def code (parameter : String) : List Char := '\x1b' :: '[' :: parameter.toList ++ ['m']

def bold : List Char := code "1"
def green : List Char := code "32"
def yellow : List Char := code "33"
def blue : List Char := code "34"
def magenta : List Char := code "35"
def cyan : List Char := code "36"
def gray : List Char := code "90"
def reset : List Char := code "0"

/-- The codes of the formatter. -/
def codes : List (List Char) := [bold, green, yellow, blue, magenta, cyan, gray, reset]

/-- The colour of each column; the first has none. -/
def columns : List (List Char) := [[], yellow, blue, gray, magenta, green]

/-- A text in a colour, possibly bold, with a reset behind it; as it is if neither is asked for. -/
def paint (colors : Bool) (color : List Char) (isBold : Bool) (text : List Char) : List Char :=
  if !colors || (color.isEmpty && !isBold) then text
  else (if isBold then bold else []) ++ color ++ text ++ reset

end Style

namespace Table

/-! ## Cells and widths -/

/-- The titles of the columns. -/
def header : List (List Char) :=
  ["Language", "Files", "Lines", "Blank", "Comment", "Code"].map String.toList

/-- The cells of a row. -/
def cells (label : String) (t : Tally) : List (List Char) :=
  [label.toList, grouped t.files, grouped t.lines, grouped t.blank, grouped t.comments,
    grouped t.code]

/-- The rows of the extensions. -/
def body (c : Census) : List (List (List Char)) :=
  c.sortedByCode.map fun (extension, tally) => cells (extensionLabel extension) tally

/-- The row of the totals. -/
def total (c : Census) : List (List Char) := cells "Total" c.totals

/-- The greatest widths, column by column. -/
def widths (rows : List (List (List Char))) : List Nat :=
  rows.foldl (fun widths row => widths.zipWith max (row.map List.length)) (header.map fun _ => 0)

/-! ## Lines -/

/-- A line of hyphens with a plus sign at each edge of a column. -/
def border (widths : List Nat) : List Char :=
  '+' :: widths.flatMap fun w => List.replicate (w + 2) '-' ++ ['+']

/-- A text with spaces up to a width, behind it or in front of it. -/
def pad (left : Bool) (width : Nat) (text : List Char) : List Char :=
  let spaces := List.replicate (width - text.length) ' '
  if left then text ++ spaces else spaces ++ text

/-- How the cells of a row are painted. -/
structure RowStyle where
  colors : Bool
  isHeader : Bool := false
  isBold : Bool := false

/-- One cell with its right edge. -/
def cell (style : RowStyle) (first : Bool) (color : List Char) (width : Nat) (text : List Char) :
    List Char :=
  let color := if style.isHeader then Style.cyan else color
  ' ' :: Style.paint style.colors color (style.isHeader || style.isBold) (pad first width text)
    ++ [' ', '|']

/-- The cells of a row, from left to right. -/
def lineFrom (style : RowStyle) (first : Bool) : (colors : List (List Char)) → (widths : List Nat) →
    (cells : List (List Char)) → List Char
  | color :: colors, width :: widths, text :: cells =>
    cell style first color width text ++ lineFrom style false colors widths cells
  | _, _, _ => []

/-- A row of the table. -/
def line (style : RowStyle) (widths : List Nat) (cells : List (List Char)) : List Char :=
  '|' :: lineFrom style true Style.columns widths cells

/-! ## The table -/

/-- The lines of the table, from the first border on. -/
def renderLines (colors : Bool) (c : Census) : List (List Char) :=
  let rows := body c
  let widths := widths (header :: rows ++ [total c])
  let edge := border widths
  [edge, line { colors, isHeader := true } widths header, edge]
    ++ rows.map (line { colors } widths)
    ++ (if rows.isEmpty then [] else [edge])
    ++ [line { colors, isBold := true } widths (total c), edge]

/-- The table, with a line feed in front and behind each line. -/
def render (colors : Bool) (c : Census) : List Char :=
  '\n' :: (renderLines colors c).flatMap fun l => l ++ ['\n']

end Table

end LineCensus
