import LineCensus.Proofs.Report.Grouped
import LineCensus.Proofs.Report.Layout

/-!
# LineCensus.Proofs.Report.Color — colours leave the text of a table alone

The codes of the formatter stand around cells that are padded already, and never next to a text that could make one code
of two halves: around every cell stand blanks and edges, which no code holds.

1. `Style.code?`, `Style.strip`: a text from which the codes are deleted, from left to right. `strip_code`,
   `strip_append_of_plain`, `strip_append_separator`: what becomes of a code, of a text without escapes, and of any text
   in front of a character that stands in no code.
2. `Style.Alike`: texts that can stand for each other where codes are deleted.
3. `Table.Painted`: a cell as it is, or between codes and a reset. `forall₂_painted_cells`: so are the cells of every
   row.
4. `PaintedLine`, `paintedLine_line`: the lines of a table with colours and without.
5. `render_colors`: all of it, for the table of any census.
-/

namespace LineCensus

namespace Style

/-! ## Deleting codes -/

/-- The code that a text begins with, if it begins with one. -/
def code? (text : List Char) : Option (List Char) := codes.find? (·.isPrefixOf text)

/-- Deletes the codes of a text behind a number of characters that are deleted in any case. -/
def stripFrom : Nat → List Char → List Char
  | _, [] => []
  | deleted + 1, _ :: rest => stripFrom deleted rest
  | 0, c :: rest =>
    match code? (c :: rest) with
    | some code => stripFrom (code.length - 1) rest
    | none => c :: stripFrom 0 rest

/-- Deletes the codes of a text, from left to right. -/
def strip (text : List Char) : List Char := stripFrom 0 text

/-- A code that comes together when another is deleted stays. -/
example : strip "a\x1b[\x1b[32m1m".toList = "a\x1b[1m".toList := by decide

/-- No code begins with another. -/
theorem eq_of_prefix_code : ∀ code ∈ codes, ∀ other ∈ codes, code <+: other → code = other := by decide

/-- Every code begins with an escape character, and holds neither a blank nor an edge. -/
theorem escape_of_mem_codes : ∀ code ∈ codes, code.head? = some '\x1b' ∧ ' ' ∉ code ∧ '|' ∉ code := by decide

theorem prefix_of_code? {text code : List Char} (h : code? text = some code) : code ∈ codes ∧ code <+: text := by
  unfold code? at h
  have hprefix := List.find?_some h
  exact ⟨List.mem_of_find?_eq_some h, List.isPrefixOf_iff_prefix.1 hprefix⟩

theorem code?_eq_some_iff {text code : List Char} : code? text = some code ↔ code ∈ codes ∧ code <+: text := by
  constructor
  · exact prefix_of_code?
  · rintro ⟨hcode, hprefix⟩
    have hsome : (code? text).isSome = true :=
      List.find?_isSome.2 ⟨code, hcode, List.isPrefixOf_iff_prefix.2 hprefix⟩
    rcases Option.isSome_iff_exists.1 hsome with ⟨other, hother⟩
    rcases prefix_of_code? hother with ⟨hmem, hprefix'⟩
    -- both begin the text, so one begins the other
    rcases List.prefix_or_prefix_of_prefix hprefix hprefix' with hle | hle
    · rw [eq_of_prefix_code code hcode other hmem hle]
      exact hother
    · rw [← eq_of_prefix_code other hmem code hcode hle]
      exact hother

theorem stripFrom_append (text rest : List Char) : stripFrom text.length (text ++ rest) = strip rest := by
  induction text with
  | nil => rfl
  | cons c text ih => exact ih

/-- A code is deleted. -/
theorem strip_code {code : List Char} (h : code ∈ codes) (rest : List Char) : strip (code ++ rest) = strip rest := by
  rcases List.head?_eq_some_iff.1 (escape_of_mem_codes code h).1 with ⟨tail, rfl⟩
  have hfront : code? ('\x1b' :: (tail ++ rest)) = some ('\x1b' :: tail) :=
    code?_eq_some_iff.2 ⟨h, ⟨rest, rfl⟩⟩
  rw [strip, List.cons_append, stripFrom, hfront]
  exact stripFrom_append tail rest

/-- So are codes one behind the other. -/
theorem strip_codes {opening : List (List Char)} (h : ∀ code ∈ opening, code ∈ codes) (rest : List Char) :
    strip (opening.flatten ++ rest) = strip rest := by
  induction opening with
  | nil => rfl
  | cons code opening ih =>
    rw [List.flatten_cons, List.append_assoc, strip_code (h code List.mem_cons_self)]
    exact ih fun other hother => h other (List.mem_cons_of_mem code hother)

theorem code?_cons_of_ne {c : Char} (h : c ≠ '\x1b') (rest : List Char) : code? (c :: rest) = none := by
  rw [Option.eq_none_iff_forall_ne_some]
  intro code hcode
  rcases code?_eq_some_iff.1 hcode with ⟨hmem, hprefix⟩
  rcases List.head?_eq_some_iff.1 (escape_of_mem_codes code hmem).1 with ⟨tail, rfl⟩
  exact h (List.cons_prefix_cons.1 hprefix).1.symm

/-- A character that is no escape stays. -/
theorem strip_cons_of_ne {c : Char} (h : c ≠ '\x1b') (rest : List Char) : strip (c :: rest) = c :: strip rest := by
  rw [strip, stripFrom, code?_cons_of_ne h]
  rfl

/-- A text without escapes stays. -/
theorem strip_append_of_plain {text : List Char} (h : '\x1b' ∉ text) (rest : List Char) :
    strip (text ++ rest) = text ++ strip rest := by
  induction text with
  | nil => rfl
  | cons c text ih =>
    have hc : c ≠ '\x1b' := fun heq => h (heq ▸ List.mem_cons_self)
    rw [List.cons_append, strip_cons_of_ne hc, ih fun hmem => h (List.mem_cons_of_mem c hmem), List.cons_append]

theorem strip_of_plain {text : List Char} (h : '\x1b' ∉ text) : strip text = text := by
  have hall := strip_append_of_plain h []
  rwa [List.append_nil, show strip [] = [] from rfl, List.append_nil] at hall

/-! ## Separators -/

/-- A text cannot go on across a character that it does not hold. -/
theorem prefix_append_cons_iff {code text rest : List Char} {separator : Char} (h : separator ∉ code) :
    code <+: text ++ separator :: rest ↔ code <+: text := by
  constructor
  · rintro ⟨behind, hbehind⟩
    rcases List.append_eq_append_iff.1 hbehind with ⟨as, htext, -⟩ | ⟨bs, hcode, hrest⟩
    · exact ⟨as, htext.symm⟩
    · cases bs with
      | nil => exact ⟨[], by rw [hcode, List.append_nil, List.append_nil]⟩
      | cons b bs =>
        obtain rfl : separator = b := (List.cons.inj hrest).1
        exact absurd (hcode ▸ List.mem_append_right _ List.mem_cons_self) h
  · intro hprefix
    exact hprefix.trans (List.prefix_append _ _)

theorem code?_append_separator {separator : Char} (h : ∀ code ∈ codes, separator ∉ code) (text rest : List Char) :
    code? (text ++ separator :: rest) = code? text := by
  apply Option.ext
  intro code
  rw [code?_eq_some_iff, code?_eq_some_iff]
  exact and_congr_right fun hcode => prefix_append_cons_iff (h code hcode)

/-- In front of a character that stands in no code, codes are deleted as if the text ended there. -/
theorem strip_append_separator {separator : Char} (h : ∀ code ∈ codes, separator ∉ code) (text rest : List Char) :
    strip (text ++ separator :: rest) = strip text ++ separator :: strip rest := by
  have hnone : code? (separator :: rest) = none := by
    rw [← List.nil_append (separator :: rest), code?_append_separator h]
    rfl
  -- the characters that are deleted in any case belong to a code, which ends within the text
  have hfrom : ∀ deleted, deleted ≤ text.length →
      stripFrom deleted (text ++ separator :: rest) = stripFrom deleted text ++ separator :: strip rest := by
    induction text with
    | nil =>
      intro deleted hdeleted
      obtain rfl := Nat.le_zero.1 hdeleted
      show stripFrom 0 (separator :: rest) = separator :: strip rest
      rw [stripFrom, hnone]
      rfl
    | cons c text ih =>
      intro deleted hdeleted
      cases deleted with
      | succ deleted => exact ih deleted (Nat.le_of_succ_le_succ hdeleted)
      | zero =>
        rw [List.cons_append, stripFrom, stripFrom, ← List.cons_append, code?_append_separator h]
        cases hcode : code? (c :: text) with
        | none => exact congrArg (c :: ·) (ih 0 (Nat.zero_le _))
        | some code =>
          have hlength : code.length ≤ text.length + 1 := (code?_eq_some_iff.1 hcode).2.length_le
          exact ih (code.length - 1) (by omega)
  exact hfrom 0 (Nat.zero_le _)

/-! ## Texts that can stand for each other -/

/-- Two texts can stand for each other in front of texts of which the same is left. -/
def Alike (text text' : List Char) : Prop :=
  ∀ rest rest', strip rest = strip rest' → strip (text ++ rest) = strip (text' ++ rest')

theorem Alike.strip_eq {text text' : List Char} (h : Alike text text') : strip text = strip text' := by
  simpa using h [] [] rfl

theorem alike_of_plain {text : List Char} (h : '\x1b' ∉ text) : Alike text text := by
  intro rest rest' hrest
  rw [strip_append_of_plain h, strip_append_of_plain h, hrest]

theorem Alike.append {a a' b b' : List Char} (ha : Alike a a') (hb : Alike b b') : Alike (a ++ b) (a' ++ b') := by
  intro rest rest' hrest
  rw [List.append_assoc, List.append_assoc]
  exact ha _ _ (hb _ _ hrest)

theorem alike_flatMap {α : Type} {as as' : List α} {f : α → List Char}
    (h : List.Forall₂ (fun a a' => Alike (f a) (f a')) as as') : Alike (as.flatMap f) (as'.flatMap f) := by
  induction h with
  | nil => exact alike_of_plain List.not_mem_nil
  | cons hfirst _ ih =>
    rw [List.flatMap_cons, List.flatMap_cons]
    exact hfirst.append ih

end Style

namespace Table

open Style (Alike)

/-! ## Painted cells -/

/-- A cell is painted: it is as it is, or codes stand in front of it, none of them a reset, and a reset stands behind
it. In this case it holds no other code. -/
inductive Painted (text : List Char) : List Char → Prop
  | plain : Painted text text
  | between (opening : List (List Char)) (hne : opening ≠ [])
      (hopening : ∀ code ∈ opening, code ∈ Style.codes ∧ code ≠ Style.reset) (hplain : '\x1b' ∉ text) :
      Painted text (opening.flatten ++ text ++ Style.reset)

/-- A color is none or a code that is no reset. -/
def IsColor (color : List Char) : Prop := color = [] ∨ (color ∈ Style.codes ∧ color ≠ Style.reset)

instance (color : List Char) : Decidable (IsColor color) := inferInstanceAs (Decidable (_ ∨ _ ∧ _))

/-- Text without escapes is painted. -/
theorem painted_paint {color text : List Char} (hcolor : IsColor color) (htext : '\x1b' ∉ text) (colors isBold : Bool) :
    Painted text (Style.paint colors color isBold text) := by
  unfold Style.paint
  split
  · exact .plain
  · rename_i hpaint
    have hbold : Style.bold ∈ Style.codes ∧ Style.bold ≠ Style.reset := by decide
    rcases hcolor with rfl | hcolor
    · cases isBold with
      | true => exact .between [Style.bold] (by simp) (by simpa using hbold) htext
      | false => simp at hpaint
    · cases isBold with
      | true =>
        have hopening : ∀ code ∈ [Style.bold, color], code ∈ Style.codes ∧ code ≠ Style.reset := by
          simpa using ⟨hbold, hcolor⟩
        simpa using Painted.between [Style.bold, color] (by simp) hopening htext
      | false => simpa using Painted.between [color] (by simp) (by simpa using hcolor) htext

theorem not_mem_pad {c : Char} {left : Bool} {width : Nat} {text : List Char} (hc : c ≠ ' ') (h : c ∉ text) :
    c ∉ pad left width text := by
  cases left <;> simp [pad, h, hc]

/-- Cells without escapes are painted, whatever the style of the row. -/
theorem forall₂_paintedFrom {style : RowStyle} {first : Bool} {colors : List (List Char)} {widths : List Nat}
    {cells : List (List Char)} (hcolors : ∀ color ∈ colors, IsColor color) (hlength : cells.length ≤ colors.length)
    (hcells : ∀ text ∈ cells, '\x1b' ∉ text) :
    List.Forall₂ Painted (paddedFrom first widths cells) (paintedFrom style first colors widths cells) := by
  induction colors generalizing first widths cells with
  | nil =>
    obtain rfl := List.length_eq_zero_iff.1 (Nat.le_zero.1 hlength)
    cases widths <;> exact .nil
  | cons color colors ih =>
    match widths, cells with
    | [], _ => exact .nil
    | _ :: _, [] => exact .nil
    | width :: widths, text :: cells =>
      have hcolor : IsColor (if style.isHeader then Style.cyan else color) := by
        split
        · decide
        · exact hcolors color List.mem_cons_self
      have htext : '\x1b' ∉ pad first width text := not_mem_pad (by decide) (hcells text List.mem_cons_self)
      exact .cons (painted_paint hcolor htext style.colors (style.isHeader || style.isBold))
        (ih (fun other hother => hcolors other (List.mem_cons_of_mem color hother)) (Nat.le_of_succ_le_succ hlength)
          fun other hother => hcells other (List.mem_cons_of_mem text hother))

/-! ## Cells without escapes -/

theorem escape_not_mem_grouped (n : Nat) : '\x1b' ∉ grouped n := by
  intro hmem
  rcases of_mem_groupDigits hmem with hcomma | hdigit
  · cases hcomma
  · have hisDigit : ('\x1b' : Char).isDigit = true := Nat.isDigit_of_mem_toDigits (by decide) (by decide) hdigit
    cases hisDigit

/-- The five counts of a row. -/
def counts (t : Tally) : List (List Char) :=
  [grouped t.files, grouped t.lines, grouped t.blank, grouped t.comments, grouped t.code]

theorem escape_not_mem_counts {t : Tally} {text : List Char} (h : text ∈ counts t) : '\x1b' ∉ text := by
  simp only [counts, List.mem_cons, List.not_mem_nil, or_false] at h
  rcases h with rfl | rfl | rfl | rfl | rfl <;> exact escape_not_mem_grouped _

theorem escape_not_mem_header {text : List Char} (h : text ∈ header) : '\x1b' ∉ text := by
  have hall : ∀ title ∈ header, '\x1b' ∉ title := by decide
  exact hall text h

/-! ## Painted lines -/

theorem isColor_of_mem_columns : ∀ color ∈ Style.columns, IsColor color := by decide

/-- The cells of a row are painted. A label may hold escapes where labels are not painted. -/
theorem forall₂_painted_cells {style : RowStyle} {label : String} {t : Tally} {widths : List Nat}
    (h : '\x1b' ∉ label.toList ∨ (style.isHeader = false ∧ style.isBold = false)) :
    List.Forall₂ Painted (padded widths (cells label t)) (painted style widths (cells label t)) := by
  cases widths with
  | nil => exact .nil
  | cons width widths =>
    have hcounts : List.Forall₂ Painted (paddedFrom false widths (counts t))
        (paintedFrom style false Style.columns.tail widths (counts t)) :=
      forall₂_paintedFrom (fun color hcolor => isColor_of_mem_columns color (List.mem_of_mem_tail hcolor))
        (Nat.le_refl 5) fun text => escape_not_mem_counts
    refine .cons ?_ hcounts
    rcases h with hlabel | ⟨hheader, hbold⟩
    · have hcolor : IsColor (if style.isHeader then Style.cyan else []) := by
        split <;> decide
      exact painted_paint hcolor (not_mem_pad (by decide) hlabel) style.colors (style.isHeader || style.isBold)
    · have hplain : Style.paint style.colors (if style.isHeader then Style.cyan else [])
          (style.isHeader || style.isBold) (pad true width label.toList) = pad true width label.toList := by
        simp [Style.paint, hheader, hbold]
      rw [hplain]
      exact .plain

/-- Two lines of a table differ by painting: both are one border, or rows of cells that are painted. -/
inductive PaintedLine : List Char → List Char → Prop
  | border (widths : List Nat) : PaintedLine (border widths) (border widths)
  | row {texts texts' : List (List Char)} (h : List.Forall₂ Painted texts texts') :
      PaintedLine ('|' :: texts.flatMap framed) ('|' :: texts'.flatMap framed)

theorem paintedLine_line {style style' : RowStyle} (hstyle : style.colors = false) {widths : List Nat}
    {row : List (List Char)} (hlength : row.length ≤ 6)
    (h : List.Forall₂ Painted (padded widths row) (painted style' widths row)) :
    PaintedLine (line style widths row) (line style' widths row) := by
  rw [line_eq, line_eq, painted_plain hstyle hlength]
  exact .row h

/-- The lines of a table with colours are those without, painted. -/
theorem forall₂_renderLines (c : Census) : List.Forall₂ PaintedLine (renderLines false c) (renderLines true c) := by
  have hheader : PaintedLine (line { colors := false, isHeader := true } (widths (allRows c)) header)
      (line { colors := true, isHeader := true } (widths (allRows c)) header) :=
    paintedLine_line rfl (Nat.le_refl 6)
      (forall₂_paintedFrom isColor_of_mem_columns (Nat.le_refl 6) fun text => escape_not_mem_header)
  have htotal : PaintedLine (line { colors := false, isBold := true } (widths (allRows c)) (total c))
      (line { colors := true, isBold := true } (widths (allRows c)) (total c)) :=
    paintedLine_line rfl (Nat.le_refl 6) (forall₂_painted_cells (.inl (by decide)))
  have hbody : List.Forall₂ PaintedLine ((body c).map (line { colors := false } (widths (allRows c))))
      ((body c).map (line { colors := true } (widths (allRows c)))) := by
    rw [List.forall₂_map_left_iff, List.forall₂_map_right_iff, List.forall₂_same]
    intro row hrow
    rcases List.mem_map.1 hrow with ⟨entry, -, rfl⟩
    exact paintedLine_line rfl (Nat.le_refl 6) (forall₂_painted_cells (.inr ⟨rfl, rfl⟩))
  have hedge : PaintedLine (border (widths (allRows c))) (border (widths (allRows c))) := .border _
  have hedges : List.Forall₂ PaintedLine (if (body c).isEmpty then [] else [border (widths (allRows c))])
      (if (body c).isEmpty then [] else [border (widths (allRows c))]) := by
    split
    · exact .nil
    · exact .cons hedge .nil
  have htop := List.Forall₂.cons hedge (.cons hheader (.cons hedge .nil))
  have hbottom := List.Forall₂.cons htotal (.cons hedge .nil)
  exact List.rel_append (List.rel_append (List.rel_append htop hbody) hedges) hbottom

/-! ## What is left of lines -/

theorem escape_not_mem_border (widths : List Nat) : '\x1b' ∉ border widths := by
  simp [border]

/-- What is left of a painted cell is what is left of the cell. -/
theorem Painted.alike {text text' : List Char} (h : Painted text text') : Alike (framed text) (framed text') := by
  cases h with
  | plain =>
    intro rest rest' hrest
    have hframed : ∀ behind, framed text ++ behind = (' ' :: text ++ [' ']) ++ '|' :: behind := by
      intro behind
      simp [framed]
    have hedge : ∀ code ∈ Style.codes, '|' ∉ code := fun code hcode => (Style.escape_of_mem_codes code hcode).2.2
    rw [hframed, hframed, Style.strip_append_separator hedge, Style.strip_append_separator hedge, hrest]
  | between opening hne hopening hplain =>
    intro rest rest' hrest
    have hblank : ∀ text : List Char, Style.strip (' ' :: text) = ' ' :: Style.strip text :=
      Style.strip_cons_of_ne (by decide)
    have hbehind : ∀ behind, Style.strip ([' ', '|'] ++ behind) = [' ', '|'] ++ Style.strip behind :=
      Style.strip_append_of_plain (by decide)
    have hleft : Style.strip (framed text ++ rest) = ' ' :: (text ++ ([' ', '|'] ++ Style.strip rest)) := by
      rw [framed, List.append_assoc, List.cons_append, hblank, Style.strip_append_of_plain hplain, hbehind]
    have hreset : Style.reset ∈ Style.codes := by decide
    have hright : Style.strip (framed (opening.flatten ++ text ++ Style.reset) ++ rest') =
        ' ' :: (text ++ ([' ', '|'] ++ Style.strip rest')) := by
      rw [framed, List.append_assoc, List.cons_append, hblank, List.append_assoc, List.append_assoc,
        Style.strip_codes fun code hcode => (hopening code hcode).1, Style.strip_append_of_plain hplain,
        Style.strip_code hreset, hbehind]
    rw [hleft, hright, hrest]

theorem PaintedLine.alike {line line' : List Char} (h : PaintedLine line line') : Alike line line' := by
  cases h with
  | border widths => exact Style.alike_of_plain (escape_not_mem_border widths)
  | row h =>
    have hcells := Style.alike_flatMap (h.imp fun _ _ hpainted => hpainted.alike)
    have hedge : Alike ['|'] ['|'] := Style.alike_of_plain (by decide)
    exact hedge.append hcells

/-- Nothing is left of colours. -/
theorem alike_render (c : Census) : Alike (render false c) (render true c) := by
  have hfeed : Alike ['\n'] ['\n'] := Style.alike_of_plain (by decide)
  have hlines := Style.alike_flatMap ((forall₂_renderLines c).imp fun _ _ h => h.alike.append hfeed)
  exact hfeed.append hlines

/-! ## Tables without colours -/

theorem of_mem_paddedFrom {first : Bool} {widths : List Nat} {cells : List (List Char)} {padded : List Char}
    (h : padded ∈ paddedFrom first widths cells) : ∃ left width, ∃ text ∈ cells, padded = pad left width text := by
  induction cells generalizing first widths with
  | nil => cases widths <;> cases h
  | cons text cells ih =>
    cases widths with
    | nil => cases h
    | cons width widths =>
      rcases List.mem_cons.1 h with rfl | h
      · exact ⟨first, width, text, List.mem_cons_self, rfl⟩
      · rcases ih h with ⟨left, width', text', hmem, rfl⟩
        exact ⟨left, width', text', List.mem_cons_of_mem text hmem, rfl⟩

/-- A row without colours and without escapes in its cells holds none. -/
theorem escape_not_mem_line {style : RowStyle} (hstyle : style.colors = false) {widths : List Nat}
    {row : List (List Char)} (hlength : row.length ≤ 6) (h : ∀ text ∈ row, '\x1b' ∉ text) :
    '\x1b' ∉ line style widths row := by
  rw [line_eq, painted_plain hstyle hlength]
  intro hmem
  rcases List.mem_cons.1 hmem with hedge | hmem
  · cases hedge
  · rcases List.mem_flatMap.1 hmem with ⟨text, htext, hmem⟩
    rcases of_mem_paddedFrom htext with ⟨left, width, text', htext', rfl⟩
    have hpad : '\x1b' ∉ pad left width text' := not_mem_pad (by decide) (h text' htext')
    simp [framed, hpad] at hmem

theorem escape_not_mem_extensionLabel {extension : String} (h : '\x1b' ∉ extension.toList) :
    '\x1b' ∉ (extensionLabel extension).toList := by
  unfold extensionLabel
  split
  · decide
  · split
    · exact h
    · simpa using h

theorem escape_not_mem_cells {label : String} {t : Tally} (h : '\x1b' ∉ label.toList) :
    ∀ text ∈ cells label t, '\x1b' ∉ text := by
  intro text htext
  rcases List.mem_cons.1 htext with rfl | htext
  · exact h
  · exact escape_not_mem_counts htext

/-- Every line of a table is a border or a row. -/
theorem of_mem_renderLines {colors : Bool} {c : Census} {l : List Char} (h : l ∈ renderLines colors c) :
    l = border (widths (allRows c)) ∨
      ∃ style : RowStyle, style.colors = colors ∧ ∃ row ∈ allRows c, l = line style (widths (allRows c)) row := by
  rcases List.mem_append.1 h with h | h
  · rcases List.mem_append.1 h with h | h
    · rcases List.mem_append.1 h with h | h
      · simp only [List.mem_cons, List.not_mem_nil, or_false] at h
        rcases h with rfl | rfl | rfl
        · exact .inl rfl
        · exact .inr ⟨_, rfl, header, header_mem_allRows, rfl⟩
        · exact .inl rfl
      · rcases List.mem_map.1 h with ⟨row, hrow, rfl⟩
        exact .inr ⟨_, rfl, row, mem_allRows_iff.2 (.inr (.inl hrow)), rfl⟩
    · split at h
      · cases h
      · exact .inl (List.mem_singleton.1 h)
  · simp only [List.mem_cons, List.not_mem_nil, or_false] at h
    rcases h with rfl | rfl
    · exact .inr ⟨_, rfl, total c, mem_allRows_iff.2 (.inr (.inr rfl)), rfl⟩
    · exact .inl rfl

/-- If no extension holds an escape, no cell does. -/
theorem escape_not_mem_allRows {c : Census} (h : ∀ entry ∈ c.entries, '\x1b' ∉ entry.1.toList) :
    ∀ row ∈ allRows c, ∀ text ∈ row, '\x1b' ∉ text := by
  intro row hrow
  rcases mem_allRows_iff.1 hrow with rfl | hrow | rfl
  · exact fun text => escape_not_mem_header
  · rcases List.mem_map.1 hrow with ⟨entry, hentry, rfl⟩
    have hkey : '\x1b' ∉ entry.1.toList := h entry (c.sortedByCode_perm.mem_iff.1 hentry)
    exact escape_not_mem_cells (escape_not_mem_extensionLabel hkey)
  · exact escape_not_mem_cells (by decide)

/-- If no extension holds an escape, the table without colours holds none. -/
theorem escape_not_mem_render {c : Census} (h : ∀ entry ∈ c.entries, '\x1b' ∉ entry.1.toList) :
    '\x1b' ∉ render false c := by
  have hlines : ∀ l ∈ renderLines false c, '\x1b' ∉ l := by
    intro l hl
    rcases of_mem_renderLines hl with rfl | ⟨style, hstyle, row, hrow, rfl⟩
    · exact escape_not_mem_border _
    · exact escape_not_mem_line hstyle (Nat.le_of_eq (length_of_mem_allRows hrow)) (escape_not_mem_allRows h row hrow)
  simp only [render, List.mem_cons, List.mem_flatMap, List.mem_append, List.not_mem_nil, or_false, not_or]
  refine ⟨by decide, ?_⟩
  rintro ⟨l, hl, hescape | hfeed⟩
  · exact hlines l hl hescape
  · cases hfeed

/-! ## All of it -/

/-- Colours and the text of a table, for any census. Where the codes of the formatter are deleted, the same is left with
colours as without. If no extension holds an escape, the table without colours holds none, and so it is what is left.
The lines with colours are those without, with cells that stand between codes and a reset in place of some. -/
theorem render_colors (c : Census) :
    Style.strip (render true c) = Style.strip (render false c) ∧
      ((∀ entry ∈ c.entries, '\x1b' ∉ entry.1.toList) →
        '\x1b' ∉ render false c ∧ Style.strip (render false c) = render false c ∧
          Style.strip (render true c) = render false c) ∧
      ∃ plain painted, render false c = '\n' :: plain.flatMap (· ++ ['\n']) ∧
        render true c = '\n' :: painted.flatMap (· ++ ['\n']) ∧ List.Forall₂ PaintedLine plain painted := by
  have hstrip : Style.strip (render true c) = Style.strip (render false c) := (alike_render c).strip_eq.symm
  refine ⟨hstrip, ?_, renderLines false c, renderLines true c, rfl, rfl, forall₂_renderLines c⟩
  intro hkeys
  have hescape := escape_not_mem_render hkeys
  have hself := Style.strip_of_plain hescape
  exact ⟨hescape, hself, hstrip.trans hself⟩

/-- No extension of the files holds an escape, so deleting the codes leaves the table without colours; with colours it
holds some. Neither does a label make a code with what stands behind it, though it ends in half of one. -/
theorem render_colors_sampleFiles :
    let c := Census.empty.recordAll sampleFiles
    let odd := Census.empty.recordAll [("\x1b[1mx\x1b[3", ⟨1, 0, 0, 1⟩)]
    (∀ entry ∈ c.entries, '\x1b' ∉ entry.1.toList) ∧ '\x1b' ∉ render false c ∧ '\x1b' ∈ render true c ∧
      Style.strip (render true c) = render false c ∧
      Style.strip (render true odd) = Style.strip (render false odd) := by
  intro c odd
  have hkeys : ∀ entry ∈ c.entries, '\x1b' ∉ entry.1.toList := by decide +kernel
  rcases render_colors c with ⟨-, hplain, -⟩
  rcases render_colors odd with ⟨hodd, -, -⟩
  rcases hplain hkeys with ⟨hescape, -, hstrip⟩
  refine ⟨hkeys, hescape, ?_, hstrip, hodd⟩
  rw [render, renderLines, body, sortedByCode_sampleFiles]
  decide +kernel

end Table

end LineCensus
