import Mathlib.Algebra.BigOperators.Group.List.Basic
import Mathlib.Order.Bounds.Basic
import LineCensus.Proofs.Census.Balance
import LineCensus.Proofs.Census.Order

/-!
# LineCensus.Proofs.Report.Layout — where the cells of a table stand

Borders and rows are put together from pieces, one for each column, that end in the edge of the column. So the place of
a piece is the length of the pieces before it, in every line of the table. A label may have any number of characters.

1. `isGreatest_widths`: the width of a column is the greatest length of its cells.
2. `Table.padded`, `Table.painted`: the cells of a row, padded, and also painted. `line_eq`: a row is made of them.
3. `offset`, `Columns`: where columns begin, and a line that has its columns there. `columns_of_pieces`: a line that is
   put together from pieces has. Hence `isBorder_border` and `shows_line`.
4. `total_recordAll`: the last row holds the sums of the rows before.
5. `render_lays_out`: all of it, for the table of any census.
-/

namespace LineCensus

/-- Tallies in another order come to the same. -/
theorem Tally.total_perm {tallies tallies' : List Tally} (h : tallies.Perm tallies') :
    total tallies = total tallies' := by
  have hfield : ∀ field : Tally → Nat, (tallies.map field).sum = (tallies'.map field).sum := by
    intro field
    exact (h.map field).sum_eq
  rw [total, total, hfield (·.files), hfield (·.lines), hfield (·.blank), hfield (·.comments), hfield (·.code)]

namespace Table

/-! ## Widths -/

/-- The rows of a table: the titles, the extensions, the totals. -/
def allRows (c : Census) : List (List (List Char)) := header :: body c ++ [total c]

/-- The widths after one more row. -/
def widen (widths : List Nat) (row : List (List Char)) : List Nat := widths.zipWith max (row.map List.length)

variable {acc : List Nat} {rows : List (List (List Char))}

theorem length_foldl_widen (hrows : ∀ row ∈ rows, row.length = acc.length) :
    (rows.foldl widen acc).length = acc.length := by
  induction rows generalizing acc with
  | nil => rfl
  | cons row rest ih =>
    have hwiden : (widen acc row).length = acc.length := by
      simp [widen, hrows row List.mem_cons_self]
    rw [List.foldl_cons, ih, hwiden]
    intro other hother
    rw [hwiden]
    exact hrows other (List.mem_cons_of_mem row hother)

/-- A width is the greatest of the one at the start and the lengths of the cells in the column. -/
theorem isGreatest_foldl_widen (hrows : ∀ row ∈ rows, row.length = acc.length) {i a w : Nat} (ha : acc[i]? = some a)
    (hw : (rows.foldl widen acc)[i]? = some w) :
    IsGreatest {n | n = a ∨ ∃ row ∈ rows, ∃ text, row[i]? = some text ∧ text.length = n} w := by
  induction rows generalizing acc a with
  | nil =>
    obtain rfl : a = w := Option.some.inj (ha.symm.trans hw)
    exact ⟨.inl rfl, by rintro n (rfl | ⟨row, hrow, -⟩); exacts [Nat.le_refl n, nomatch hrow]⟩
  | cons row rest ih =>
    have hi : i < row.length := by
      rw [hrows row List.mem_cons_self]
      exact (List.getElem?_eq_some_iff.1 ha).1
    obtain ⟨text, htext⟩ : ∃ text, row[i]? = some text := ⟨row[i], List.getElem?_eq_getElem hi⟩
    have hstep : (widen acc row)[i]? = some (max a text.length) := by
      simp [widen, List.getElem?_zipWith, ha, htext]
    have hrest : ∀ other ∈ rest, other.length = (widen acc row).length := by
      intro other hother
      rw [hrows other (List.mem_cons_of_mem row hother)]
      simp [widen, hrows row List.mem_cons_self]
    rcases ih hrest hstep hw with ⟨hmem, hupper⟩
    have hmax : max a text.length ≤ w := hupper (.inl rfl)
    constructor
    · rcases hmem with hmem | ⟨other, hother, found, hfound⟩
      · -- the width comes from the start or from this row
        rcases Nat.le_total a text.length with hle | hle
        · exact .inr ⟨row, List.mem_cons_self, text, htext, by omega⟩
        · exact .inl (by omega)
      · exact .inr ⟨other, List.mem_cons_of_mem row hother, found, hfound⟩
    · rintro n (rfl | ⟨other, hother, found, hfound, rfl⟩)
      · omega
      · rcases List.mem_cons.1 hother with rfl | hother
        · obtain rfl : text = found := Option.some.inj (htext.symm.trans hfound)
          omega
        · exact hupper (.inr ⟨other, hother, found, hfound, rfl⟩)

variable {c : Census}

theorem mem_allRows_iff {row : List (List Char)} :
    row ∈ allRows c ↔ row = header ∨ row ∈ body c ∨ row = total c := by
  rw [allRows, List.mem_append, List.mem_cons, List.mem_singleton, or_assoc]

theorem header_mem_allRows : header ∈ allRows c := mem_allRows_iff.2 (.inl rfl)

theorem length_of_mem_allRows {row : List (List Char)} (h : row ∈ allRows c) : row.length = 6 := by
  rcases mem_allRows_iff.1 h with rfl | h | rfl
  · rfl
  · rcases List.mem_map.1 h with ⟨entry, -, rfl⟩
    rfl
  · rfl

/-- There is one width for each column. -/
theorem length_widths : (widths (allRows c)).length = 6 := by
  have hrows : ∀ row ∈ allRows c, row.length = (header.map fun _ => 0).length := fun _ => length_of_mem_allRows
  exact length_foldl_widen hrows

/-- The width of a column is the greatest length of its cells. -/
theorem isGreatest_widths {i w : Nat} (h : (widths (allRows c))[i]? = some w) :
    IsGreatest {n | ∃ row ∈ allRows c, ∃ text, row[i]? = some text ∧ text.length = n} w := by
  have hi : i < 6 := by
    rw [← length_widths]
    exact (List.getElem?_eq_some_iff.1 h).1
  have hzero : (header.map fun _ => 0)[i]? = some 0 := by
    simp [show i < header.length from hi]
  have hrows : ∀ row ∈ allRows c, row.length = (header.map fun _ => 0).length := fun _ => length_of_mem_allRows
  rcases isGreatest_foldl_widen hrows hzero h with ⟨hmem, hupper⟩
  refine ⟨?_, fun n hn => hupper (.inr hn)⟩
  rcases hmem with rfl | hmem
  · -- no title is longer than nothing, so the titles are such cells
    have htitle : header[i].length = 0 :=
      Nat.le_zero.1 (hupper (.inr ⟨header, header_mem_allRows, _, List.getElem?_eq_getElem hi, rfl⟩))
    exact ⟨header, header_mem_allRows, _, List.getElem?_eq_getElem hi, htitle⟩
  · exact hmem

/-! ## The cells of a row -/

/-- A cell between blanks, with its right edge. -/
def framed (text : List Char) : List Char := ' ' :: text ++ [' ', '|']

/-- The cells of a row from one on, padded. -/
def paddedFrom (first : Bool) : (widths : List Nat) → (cells : List (List Char)) → List (List Char)
  | width :: widths, text :: cells => pad first width text :: paddedFrom false widths cells
  | _, _ => []

/-- The cells of a row, each padded to the width of its column. -/
def padded (widths : List Nat) (cells : List (List Char)) : List (List Char) := paddedFrom true widths cells

/-- The cells of a row from one on, padded and painted. -/
def paintedFrom (style : RowStyle) (first : Bool) : (colors : List (List Char)) → (widths : List Nat) →
    (cells : List (List Char)) → List (List Char)
  | color :: colors, width :: widths, text :: cells =>
    Style.paint style.colors (if style.isHeader then Style.cyan else color) (style.isHeader || style.isBold)
      (pad first width text) :: paintedFrom style false colors widths cells
  | _, _, _ => []

/-- The cells of a row, each padded to the width of its column and then painted. -/
def painted (style : RowStyle) (widths : List Nat) (cells : List (List Char)) : List (List Char) :=
  paintedFrom style true Style.columns widths cells

/-- A row is its painted cells, each with its right edge. -/
theorem line_eq (style : RowStyle) (widths : List Nat) (cells : List (List Char)) :
    line style widths cells = '|' :: (painted style widths cells).flatMap framed := by
  have hfrom : ∀ first colors widths cells,
      lineFrom style first colors widths cells = (paintedFrom style first colors widths cells).flatMap framed := by
    intro first colors widths cells
    induction colors generalizing first widths cells with
    | nil => rfl
    | cons color colors ih =>
      match widths, cells with
      | [], _ => rfl
      | _ :: _, [] => rfl
      | width :: widths, text :: cells =>
        rw [lineFrom, paintedFrom, List.flatMap_cons, ih]
        rfl
  rw [line, painted, hfrom]

/-- Without colours, painting changes nothing. -/
theorem painted_plain {style : RowStyle} (hstyle : style.colors = false) {widths : List Nat}
    {cells : List (List Char)} (hcells : cells.length ≤ 6) : painted style widths cells = padded widths cells := by
  have hfrom : ∀ first (colors : List (List Char)) widths cells, cells.length ≤ colors.length →
      paintedFrom style first colors widths cells = paddedFrom first widths cells := by
    intro first colors widths cells hlength
    induction colors generalizing first widths cells with
    | nil =>
      obtain rfl := List.length_eq_zero_iff.1 (Nat.le_zero.1 hlength)
      cases widths <;> rfl
    | cons color colors ih =>
      match widths, cells with
      | [], _ => rfl
      | _ :: _, [] => rfl
      | width :: widths, text :: cells =>
        rw [paintedFrom, paddedFrom, ih _ _ _ (Nat.le_of_succ_le_succ hlength), hstyle]
        rfl
  exact hfrom true Style.columns widths cells hcells

theorem getElem?_paddedFrom {first : Bool} {widths : List Nat} {cells : List (List Char)} {i w : Nat}
    {text : List Char} (hw : widths[i]? = some w) (htext : cells[i]? = some text) :
    (paddedFrom first widths cells)[i]? = some (pad (first && i == 0) w text) := by
  induction i generalizing first widths cells with
  | zero =>
    match widths, cells, hw, htext with
    | _ :: _, _ :: _, rfl, rfl => simp [paddedFrom]
  | succ i ih =>
    match widths, cells with
    | _ :: widths, _ :: cells =>
      have hrest : (paddedFrom false widths cells)[i]? = some (pad (false && i == 0) w text) := ih hw htext
      simpa [paddedFrom] using hrest

/-- The first cell is padded behind it, and the others in front. -/
theorem getElem?_padded {widths : List Nat} {cells : List (List Char)} {i w : Nat} {text : List Char}
    (hw : widths[i]? = some w) (htext : cells[i]? = some text) :
    (padded widths cells)[i]? = some (pad (i == 0) w text) := by
  rw [padded, getElem?_paddedFrom hw htext, Bool.true_and]

theorem length_pad {left : Bool} {width : Nat} {text : List Char} (h : text.length ≤ width) :
    (pad left width text).length = width := by
  cases left <;> simp [pad] <;> omega

/-- Every cell fits into its column. -/
def Fits (widths : List Nat) (cells : List (List Char)) : Prop :=
  ∀ (i w : Nat) (text : List Char), widths[i]? = some w → cells[i]? = some text → text.length ≤ w

/-- The cells of every row fit into the columns. -/
theorem fits_widths {row : List (List Char)} (hrow : row ∈ allRows c) : Fits (widths (allRows c)) row := by
  intro i w text hw htext
  exact (isGreatest_widths hw).2 ⟨row, hrow, text, htext, rfl⟩

/-- Cells that fit are padded to the widths of their columns. -/
theorem map_length_padded {widths : List Nat} {cells : List (List Char)} (hlength : cells.length = widths.length)
    (hfit : Fits widths cells) : (padded widths cells).map List.length = widths := by
  have hfrom : ∀ first (widths : List Nat) (cells : List (List Char)), cells.length = widths.length →
      Fits widths cells → (paddedFrom first widths cells).map List.length = widths := by
    intro first widths
    induction widths generalizing first with
    | nil => intro cells _ _; rfl
    | cons width widths ih =>
      intro cells hlength hfit
      match cells, hlength with
      | text :: cells, hlength =>
        have htext : text.length ≤ width := hfit 0 width text rfl rfl
        have hrest := ih false cells (Nat.succ.inj hlength) fun i => hfit (i + 1)
        rw [paddedFrom, List.map_cons, length_pad htext, hrest]
  exact hfrom true widths cells hlength hfit

/-! ## Columns -/

/-- The place of the edge in front of a column. -/
def offset (widths : List Nat) (i : Nat) : Nat := ((widths.take i).map (· + 3)).sum

/-- A line has columns of the given widths: it has room for them and their edges and no more, and each text stands
between two edges, in front of which stand the columns before it. -/
structure Columns (widths : List Nat) (edge : Char) (texts : List (List Char)) (line : List Char) : Prop where
  length_eq : line.length = 1 + (widths.map (· + 3)).sum
  count : texts.length = widths.length
  column : ∀ i text, texts[i]? = some text → edge :: text ++ [edge] <+: line.drop (offset widths i)

/-- Where each piece ends in an edge, each begins behind one. -/
theorem prefix_drop_flatMap {edge : Char} {texts : List (List Char)} {i : Nat} {text : List Char}
    (h : texts[i]? = some text) :
    edge :: text ++ [edge] <+:
      (edge :: texts.flatMap (· ++ [edge])).drop ((texts.take i).map (·.length + 1)).sum := by
  induction texts generalizing i with
  | nil => cases h
  | cons first rest ih =>
    cases i with
    | zero =>
      obtain rfl : first = text := Option.some.inj h
      exact ⟨rest.flatMap (· ++ [edge]), by simp⟩
    | succ i =>
      -- behind the first piece stands its edge, as it stands in front of all of them
      have hdrop : (edge :: (first :: rest).flatMap (· ++ [edge])).drop (first.length + 1) =
          edge :: rest.flatMap (· ++ [edge]) := by
        simp
      rw [List.take_succ_cons, List.map_cons, List.sum_cons, ← List.drop_drop, hdrop]
      exact ih h

/-- A line that is put together from texts two wider than the columns has its columns. -/
theorem columns_of_pieces {widths : List Nat} {edge : Char} {texts : List (List Char)}
    (h : texts.map List.length = widths.map (· + 2)) :
    Columns widths edge texts (edge :: texts.flatMap (· ++ [edge])) := by
  have hlengths : texts.map (·.length + 1) = widths.map (· + 3) := by
    have hsucc := congrArg (List.map (· + 1)) h
    simpa [Function.comp_def] using hsucc
  refine ⟨?_, by simpa using congrArg List.length h, ?_⟩
  · have hpieces : (texts.map fun text => (text ++ [edge]).length) = widths.map (· + 3) := by
      simpa using hlengths
    rw [List.length_cons, List.length_flatMap, hpieces, Nat.add_comm]
  · intro i text htext
    have hoffset : ((texts.take i).map (·.length + 1)).sum = offset widths i := by
      rw [offset, List.map_take, hlengths, List.map_take]
    rw [← hoffset]
    exact prefix_drop_flatMap htext

/-- A line is a border: plus signs stand at the edges of the columns, and hyphens between them. -/
def IsBorder (widths : List Nat) (line : List Char) : Prop :=
  Columns widths '+' (widths.map fun w => List.replicate (w + 2) '-') line

theorem isBorder_border (widths : List Nat) : IsBorder widths (border widths) := by
  have hborder : border widths =
      '+' :: (widths.map fun w => List.replicate (w + 2) '-').flatMap (· ++ ['+']) := by
    rw [border, List.flatMap_map]
  rw [IsBorder, hborder]
  exact columns_of_pieces (by simp [Function.comp_def])

/-- A line shows cells: between the edges of its column and two blanks stands each of them, with spaces up to the
width of the column. They stand behind the first cell, and in front of the others. -/
structure Shows (widths : List Nat) (cells : List (List Char)) (line : List Char) : Prop where
  length_eq : line.length = 1 + (widths.map (· + 3)).sum
  fits : Fits widths cells
  cell : ∀ (i w : Nat) (text : List Char), widths[i]? = some w → cells[i]? = some text →
    let spaces := List.replicate (w - text.length) ' '
    ['|', ' '] ++ (if i = 0 then text ++ spaces else spaces ++ text) ++ [' ', '|'] <+: line.drop (offset widths i)

/-- A row without colours shows its cells. -/
theorem shows_line {style : RowStyle} (hstyle : style.colors = false) {row : List (List Char)} (hrow : row ∈ allRows c) :
    Shows (widths (allRows c)) row (line style (widths (allRows c)) row) := by
  have hlength : row.length = 6 := length_of_mem_allRows hrow
  have hfit : Fits (widths (allRows c)) row := fits_widths hrow
  -- the pieces are the padded cells between blanks
  have hline : line style (widths (allRows c)) row =
      '|' :: ((padded (widths (allRows c)) row).map fun text => ' ' :: text ++ [' ']).flatMap (· ++ ['|']) := by
    have hframed : framed = fun text => (' ' :: text ++ [' ']) ++ ['|'] := by
      funext text
      simp [framed]
    rw [line_eq, painted_plain hstyle (Nat.le_of_eq hlength), List.flatMap_map, hframed]
  have hlengths : ((padded (widths (allRows c)) row).map fun text => ' ' :: text ++ [' ']).map List.length =
      (widths (allRows c)).map (· + 2) := by
    conv_rhs => rw [← map_length_padded (hlength.trans length_widths.symm) hfit]
    simp [Function.comp_def]
  have hcolumns : Columns (widths (allRows c)) '|' _ (line style (widths (allRows c)) row) :=
    hline ▸ columns_of_pieces hlengths
  refine ⟨hcolumns.length_eq, hfit, ?_⟩
  intro i w text hw htext spaces
  have hpadded : (padded (widths (allRows c)) row)[i]? = some (pad (i == 0) w text) := getElem?_padded hw htext
  have hcolumn := hcolumns.column i (' ' :: pad (i == 0) w text ++ [' ']) (by rw [List.getElem?_map, hpadded]; rfl)
  have hpad : pad (i == 0) w text = if i = 0 then text ++ spaces else spaces ++ text := by
    simp [pad, spaces]
  rw [hpad] at hcolumn
  simpa using hcolumn

/-! ## The totals -/

/-- The last row of a census that files were recorded in holds the sums of the rows before. -/
theorem total_recordAll (files : List (String × Breakdown)) :
    total (Census.empty.recordAll files) =
      cells "Total" (.total ((Census.empty.recordAll files).sortedByCode.map (·.2))) := by
  have hbalanced : (Census.empty.recordAll files).Balanced := Census.balanced_empty.recordAll files
  have hperm := (Census.sortedByCode_perm (Census.empty.recordAll files)).map (·.2)
  rw [total, hbalanced, ← Tally.total_perm hperm]

/-! ## The table -/

/-- The text of the table of a census. An empty line is followed by a border, the titles, a border, the rows of the
extensions in the order of a report, another border if there are any, the totals and a border, each with a line feed
behind it. The width of a column is the greatest number of characters in it, every line is as long as the columns with
their edges, and the cells of a column stand at one place in all lines. The totals of a census that files were recorded
in are the sums of the columns. -/
theorem render_lays_out (c : Census) :
    let widths := widths (allRows c)
    (widths.length = 6 ∧ (∀ row ∈ allRows c, row.length = 6) ∧
        ∀ i w : Nat, widths[i]? = some w →
          IsGreatest {n | ∃ row ∈ allRows c, ∃ text : List Char, row[i]? = some text ∧ text.length = n} w) ∧
      (∃ edge titles totals rows, IsBorder widths edge ∧ Shows widths header titles ∧
        Shows widths (cells "Total" c.totals) totals ∧
        List.Forall₂ (fun entry row => Shows widths (cells (extensionLabel entry.1) entry.2) row)
          c.sortedByCode rows ∧
        render false c = '\n' :: ([edge, titles, edge] ++ rows ++ (if c.entries = [] then [] else [edge]) ++
          [totals, edge]).flatMap (· ++ ['\n'])) ∧
      ∀ files, c = Census.empty.recordAll files →
        total c = cells "Total" (.total (c.sortedByCode.map (·.2))) := by
  intro ws
  refine ⟨⟨length_widths, fun row => length_of_mem_allRows, fun i w => isGreatest_widths⟩, ?_, ?_⟩
  · refine ⟨border ws, line { colors := false, isHeader := true } ws header,
      line { colors := false, isBold := true } ws (total c), (body c).map (line { colors := false } ws),
      isBorder_border ws, shows_line rfl header_mem_allRows, shows_line rfl (mem_allRows_iff.2 (.inr (.inr rfl))),
      ?_, ?_⟩
    · rw [body, List.map_map, List.forall₂_map_right_iff, List.forall₂_same]
      intro entry hentry
      have hrow : cells (extensionLabel entry.1) entry.2 ∈ body c := List.mem_map_of_mem hentry
      exact shows_line rfl (mem_allRows_iff.2 (.inr (.inl hrow)))
    · have hempty : (body c).isEmpty = true ↔ c.entries = [] := by
        rw [List.isEmpty_iff, body, List.map_eq_nil_iff, ← List.length_eq_zero_iff,
          c.sortedByCode_perm.length_eq, List.length_eq_zero_iff]
      have hedge : (if (body c).isEmpty then [] else [border ws]) = if c.entries = [] then [] else [border ws] := by
        simp only [hempty]
      rw [← hedge]
      rfl
  · rintro files rfl
    exact total_recordAll files

/-- Three files of two extensions, one of which is the lack of one. -/
def sampleFiles : List (String × Breakdown) :=
  [(noExtension, ⟨3, 0, 0, 3⟩), (".rs", ⟨1200, 100, 100, 1000⟩), (".rs", ⟨7, 1, 0, 6⟩)]

theorem sortedByCode_sampleFiles :
    (Census.empty.recordAll sampleFiles).sortedByCode =
      [(".rs", ⟨2, 1207, 101, 100, 1006⟩), (noExtension, ⟨1, 3, 0, 0, 3⟩)] := by
  have hkeys : ((Census.empty.recordAll sampleFiles).entries.map (·.1)).Nodup := by decide +kernel
  exact ((Census.eq_sortedByCode_iff hkeys).1 ⟨by decide +kernel, by decide +kernel⟩).symm

/-- The first column is as wide as the label of files without an extension, which is wider than the title, and the third
as wide as its title. The totals have a comma. -/
theorem render_lays_out_sampleFiles :
    let c := Census.empty.recordAll sampleFiles
    (widths (allRows c))[0]? = some 14 ∧ (widths (allRows c))[2]? = some 5 ∧
      IsGreatest {n | ∃ row ∈ allRows c, ∃ text : List Char, row[0]? = some text ∧ text.length = n} 14 ∧
      header ∈ allRows c ∧ header.length = 6 ∧
      total c = cells "Total" (.total (c.sortedByCode.map (·.2))) ∧
      total c = ["Total", "3", "1,210", "101", "100", "1,009"].map String.toList := by
  intro c
  rcases render_lays_out c with ⟨⟨-, hlength, hwidth⟩, -, htotals⟩
  have hwidths : widths (allRows c) = [14, 5, 5, 5, 7, 5] := by
    rw [allRows, body, sortedByCode_sampleFiles]
    decide +kernel
  have hfirst : (widths (allRows c))[0]? = some 14 := by rw [hwidths]; rfl
  refine ⟨hfirst, ?_, hwidth 0 14 hfirst, header_mem_allRows, hlength header header_mem_allRows,
    htotals sampleFiles rfl, by decide +kernel⟩
  rw [hwidths]
  rfl

end Table

end LineCensus
