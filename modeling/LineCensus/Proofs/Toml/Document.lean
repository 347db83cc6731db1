import LineCensus.Proofs.Toml.Lines

/-!
# LineCensus.Proofs.Toml.Document — documents are read line by line

1. `Items.insertField_of_new`: a new name comes last in its table.
2. `FieldLine`, `Section`, `Document`: a document as lines with names and values, some of them under headers, together
   with the fact that they are read that way and that no name is given twice.
3. `Reads`: reading a text leads from one draft to another. It goes on from line to line, `Reads.append`.
   `reads_lines`, `reads_sections`: what lines and tables do to a draft, by induction on them.
4. `readLinesFrom_text`, `parse_text`: a document is read as the names and values of its lines.
-/

namespace LineCensus.Toml

/-! ## Tables -/

/-- There is nothing under a key that does not occur. -/
theorem find?_key_eq_none_iff {α : Type} {entries : List (String × α)} {key : String} :
    (entries.find? (·.1 == key)).map (·.2) = none ↔ key ∉ entries.map (·.1) := by
  rw [Option.map_eq_none_iff, List.find?_eq_none]
  simp only [List.mem_map, beq_iff_eq, not_exists, not_and]

namespace Fields

variable {fields : Fields} {key : String} {v : Value}

theorem get?_eq_none_iff : fields.get? key = none ↔ key ∉ fields.map (·.1) := find?_key_eq_none_iff

/-- Where no key occurs twice, what stands under a key is found. -/
theorem get?_of_mem (hkeys : (fields.map (·.1)).Nodup) (h : (key, v) ∈ fields) : fields.get? key = some v := by
  induction fields with
  | nil => cases h
  | cons first rest ih =>
    rcases List.nodup_cons.1 hkeys with ⟨hnew, hrest⟩
    rcases List.mem_cons.1 h with rfl | hmem
    · have hfind : ((key, v) :: rest).find? (·.1 == key) = some (key, v) :=
        List.find?_cons_of_pos (beq_self_eq_true key)
      rw [get?, hfind]
      rfl
    · have hne : (first.1 == key) = false := by
        rw [beq_eq_false_iff_ne]
        rintro rfl
        exact hnew (List.mem_map.2 ⟨_, hmem, rfl⟩)
      rw [get?, List.find?_cons_of_neg (by simp [hne])]
      exact ih hrest hmem

end Fields

namespace Items

variable {items : Items} {key : String} {item : Item}

theorem get?_eq_none_iff : items.get? key = none ↔ key ∉ items.map (·.1) := find?_key_eq_none_iff

theorem set_of_new (h : key ∉ items.map (·.1)) : items.set key item = items ++ [(key, item)] := by
  induction items with
  | nil => rfl
  | cons first rest ih =>
    rcases first with ⟨k, i⟩
    rw [List.map_cons, List.mem_cons, not_or] at h
    rw [set, if_neg (Ne.symm h.1), ih h.2]
    rfl

theorem insertField_of_new {v : Value} (h : key ∉ items.map (·.1)) :
    items.insertField [] key v = .ok (items ++ [(key, .value v)]) := by
  have hnone : items.get? key = none := get?_eq_none_iff.2 h
  show (if (items.get? key).isSome then Except.error Fault.repeatedKey else .ok (items.set key (.value v))) = _
  rw [hnone, set_of_new h]
  rfl

end Items

theorem Item.toFields_eq_map (items : Items) : toFields items = items.map fun x => (x.1, toValue x.2) := by
  induction items with
  | nil => rfl
  | cons first rest ih => rw [toFields, ih, List.map_cons]

/-! ## Documents -/

/-- A line that gives a name a value. -/
structure FieldLine where
  text : List Char
  name : String
  value : Value
  isField : IsField text name value

/-- A table under its header, with no name given twice. -/
structure Section where
  header : List Char
  name : String
  lines : List FieldLine
  isHeader : IsHeader header name
  distinct : (lines.map FieldLine.name).Nodup

/-- A document of lines: those in front of all headers, then tables, with no name given twice, and what may be passed
over at the end. -/
structure Document where
  lines : List FieldLine
  sections : List Section
  ending : List Char
  distinct : (lines.map FieldLine.name ++ sections.map Section.name).Nodup
  isEnding : skipLines (ending.length + 1) ending = .ok []

def FieldLine.field (l : FieldLine) : String × Value := (l.name, l.value)

def FieldLine.item (l : FieldLine) : String × Item := (l.name, .value l.value)

def Section.text (s : Section) : List Char := s.header ++ s.lines.flatMap FieldLine.text

def Section.field (s : Section) : String × Value := (s.name, .table (s.lines.map FieldLine.field))

def Section.item (s : Section) : String × Item := (s.name, .table false false (s.lines.map FieldLine.item))

namespace Document

def text (d : Document) : List Char := d.lines.flatMap FieldLine.text ++ d.sections.flatMap Section.text ++ d.ending

/-- What the lines come to. -/
def fields (d : Document) : Fields :=
  d.lines.map FieldLine.field ++ d.sections.map Section.field

/-- The table of a section is found under its name. -/
theorem get?_fields (d : Document) {s : Section} (h : s ∈ d.sections) :
    d.fields.get? s.name = some (.table (s.lines.map FieldLine.field)) := by
  have hkeys : (d.fields.map (·.1)).Nodup := by
    unfold fields
    rw [List.map_append, List.map_map, List.map_map]
    exact d.distinct
  apply Fields.get?_of_mem hkeys
  exact List.mem_append_right _ (List.mem_map.2 ⟨s, h, rfl⟩)

end Document

/-! ## Reading a document -/

/-- Reading a text leads from one draft to another, and goes on behind the text. -/
def Reads (d : Draft) (text : List Char) (d' : Draft) : Prop :=
  ∀ behind fuel, (text ++ behind).length < fuel →
    ∃ fuel', behind.length < fuel' ∧ readLinesFrom fuel d (text ++ behind) = readLinesFrom fuel' d' behind

theorem Reads.refl (d : Draft) : Reads d [] d := fun _ fuel hfuel => ⟨fuel, hfuel, rfl⟩

theorem Reads.append {d d' d'' : Draft} {text more : List Char} (h : Reads d text d') (h' : Reads d' more d'') :
    Reads d (text ++ more) d'' := by
  intro behind fuel hfuel
  rw [List.append_assoc] at hfuel ⊢
  rcases h (more ++ behind) fuel hfuel with ⟨fuel', hfuel', hfirst⟩
  rcases h' behind fuel' hfuel' with ⟨fuel'', hfuel'', hsecond⟩
  exact ⟨fuel'', hfuel'', hfirst.trans hsecond⟩

/-- A line that is read whatever follows it. -/
theorem reads_of_line {d d' : Draft} {line : List Char} (hne : line ≠ [])
    (h : ∀ fuel behind, readLinesFrom (fuel + 1) d (line ++ behind) = readLinesFrom fuel d' behind) :
    Reads d line d' := by
  intro behind fuel hfuel
  have hpos : 0 < line.length := List.length_pos_iff.2 hne
  rw [List.length_append] at hfuel
  obtain ⟨fuel, rfl⟩ : ∃ n, fuel = n + 1 := ⟨fuel - 1, by omega⟩
  exact ⟨fuel, by omega, h fuel behind⟩

/-- Lines give their names values in the table that is being read. -/
theorem reads_lines {d : Draft} {lines : List FieldLine}
    (hdistinct : (d.items.map (·.1) ++ lines.map FieldLine.name).Nodup) :
    Reads d (lines.flatMap FieldLine.text) { d with items := d.items ++ lines.map FieldLine.item } := by
  induction lines generalizing d with
  | nil =>
    rw [List.map_nil, List.append_nil]
    exact Reads.refl d
  | cons l rest ih =>
    have hnew : l.name ∉ d.items.map (·.1) := by
      intro hmem
      rw [List.nodup_append] at hdistinct
      exact hdistinct.2.2 l.name hmem l.name List.mem_cons_self rfl
    have hinsert : d.insertField [] l.name l.value = .ok { d with items := d.items ++ [l.item] } := by
      rw [Draft.insertField, Items.insertField_of_new hnew]
      rfl
    have hfirst : Reads d l.text { d with items := d.items ++ [l.item] } := by
      exact reads_of_line l.isField.head.1 (l.isField.readLinesFrom hinsert)
    have hrest : Reads { d with items := d.items ++ [l.item] } (rest.flatMap FieldLine.text)
        { d with items := d.items ++ [l.item] ++ rest.map FieldLine.item } := by
      apply ih
      simpa [FieldLine.item] using hdistinct
    -- the table of the first line is where the others go on
    rw [List.flatMap_cons, List.map_cons]
    rw [List.append_assoc] at hrest
    exact hfirst.append hrest

/-- A table under its header is put behind those before it. -/
theorem reads_section {d : Draft} {s : Section} {root : Items} (hclose : d.closeTable = .ok root)
    (hnew : s.name ∉ root.map (·.1)) :
    ∃ d', Reads d s.text d' ∧ d'.closeTable = .ok (root ++ [s.item]) := by
  -- the table before it is closed, and there is none of the name yet
  have hopen : d.openTable ⟨[], s.name, false⟩ = .ok ⟨root, some ⟨[], s.name, false⟩, []⟩ := by
    have hnone : root.get? s.name = none := Items.get?_eq_none_iff.2 hnew
    unfold Draft.openTable
    rw [hclose]
    simp only [bind, Except.bind, Items.lookupAt, hnone]
    rfl
  have hheader : Reads d s.header ⟨root, some ⟨[], s.name, false⟩, []⟩ :=
    reads_of_line s.isHeader.head.1 (s.isHeader.readLinesFrom hopen)
  have hlines : Reads ⟨root, some ⟨[], s.name, false⟩, []⟩ (s.lines.flatMap FieldLine.text)
      ⟨root, some ⟨[], s.name, false⟩, s.lines.map FieldLine.item⟩ := reads_lines s.distinct
  refine ⟨_, hheader.append hlines, ?_⟩
  show Except.ok (root.set s.name (.table false false (s.lines.map FieldLine.item))) = _
  rw [Items.set_of_new hnew]
  rfl

/-- Tables come one behind the other. -/
theorem reads_sections {d : Draft} {root : Items} (hclose : d.closeTable = .ok root) {sections : List Section}
    (hdistinct : (root.map (·.1) ++ sections.map Section.name).Nodup) :
    ∃ d', Reads d (sections.flatMap Section.text) d' ∧ d'.closeTable = .ok (root ++ sections.map Section.item) := by
  induction sections generalizing d root with
  | nil =>
    rw [List.map_nil, List.append_nil]
    exact ⟨d, Reads.refl d, hclose⟩
  | cons s rest ih =>
    have hnew : s.name ∉ root.map (·.1) := by
      intro hmem
      rw [List.nodup_append] at hdistinct
      exact hdistinct.2.2 s.name hmem s.name List.mem_cons_self rfl
    rcases reads_section hclose hnew with ⟨d', hfirst, hclose'⟩
    have hdistinct' : ((root ++ [s.item]).map (·.1) ++ rest.map Section.name).Nodup := by
      simpa [Section.item] using hdistinct
    rcases ih hclose' hdistinct' with ⟨d'', hrest, hclose''⟩
    refine ⟨d'', hfirst.append hrest, ?_⟩
    rw [hclose'', List.append_assoc]
    rfl

namespace Document

/-- No line begins with a byte order mark, so the document does not. -/
theorem head_text (d : Document) : d.text.head? ≠ some '\ufeff' := by
  have hhead : ∀ {text : List Char}, text ≠ [] ∧ text.head? ≠ some '\ufeff' → ∀ behind,
      (text ++ behind).head? ≠ some '\ufeff' := by
    intro text htext behind
    cases text with
    | nil => exact absurd rfl htext.1
    | cons c more => exact htext.2
  unfold text
  cases d.lines with
  | cons l rest =>
    rw [List.flatMap_cons, List.append_assoc, List.append_assoc]
    exact hhead l.isField.head _
  | nil =>
    cases d.sections with
    | nil =>
      -- a mark is no blank, so it would be left over at the end
      intro hmark
      rcases List.head?_eq_some_iff.1 hmark with ⟨more, hmore⟩
      have hending := d.isEnding
      rw [show d.ending = '\ufeff' :: more from hmore, skipLines_mark] at hending
      cases hending
    | cons s rest =>
      rw [List.flatMap_nil, List.nil_append, List.flatMap_cons, Section.text, List.append_assoc, List.append_assoc]
      exact hhead s.isHeader.head _

theorem dropMark_text (d : Document) : dropMark d.text = d.text := by
  unfold dropMark
  split
  · next htext =>
    have hhead := d.head_text
    rw [htext] at hhead
    exact absurd rfl hhead
  · rfl

theorem toFields_items (lines : List FieldLine) :
    Item.toFields (lines.map FieldLine.item) = lines.map FieldLine.field := by
  rw [Item.toFields_eq_map, List.map_map]
  rfl

theorem toFields_sections (sections : List Section) :
    Item.toFields (sections.map Section.item) = sections.map Section.field := by
  rw [Item.toFields_eq_map, List.map_map]
  apply List.map_congr_left
  intro s _
  show (s.name, Value.table (Item.toFields (s.lines.map FieldLine.item))) = _
  rw [toFields_items]
  rfl

/-- Reading the lines one after the other leads to the items of the document. -/
theorem readLinesFrom_text (d : Document) : ∃ draft, readLinesFrom (d.text.length + 1) {} d.text = .ok draft ∧
    draft.closeTable = .ok (d.lines.map FieldLine.item ++ d.sections.map Section.item) := by
  have hnames : (d.lines.map FieldLine.name).Nodup := (List.nodup_append.1 d.distinct).1
  have hlines : Reads {} (d.lines.flatMap FieldLine.text) { items := d.lines.map FieldLine.item } := reads_lines hnames
  have hdistinct : ((d.lines.map FieldLine.item).map (·.1) ++ d.sections.map Section.name).Nodup := by
    rw [List.map_map]
    exact d.distinct
  have hroot : Draft.closeTable { items := d.lines.map FieldLine.item } = .ok (d.lines.map FieldLine.item) := rfl
  rcases reads_sections hroot hdistinct with ⟨draft, hsections, hclose⟩
  rcases (hlines.append hsections) d.ending (d.text.length + 1) (Nat.lt_succ_self _) with ⟨fuel, hfuel, hread⟩
  -- what is left is passed over, and that is the end
  have hend : readLinesFrom fuel draft d.ending = .ok draft := by
    cases fuel with
    | zero => exact absurd hfuel (Nat.not_lt_zero _)
    | succ fuel =>
      rw [readLinesFrom, d.isEnding]
      rfl
  exact ⟨draft, hread.trans hend, hclose⟩

/-- A document is read as the names and values of its lines. -/
theorem parse_text (d : Document) : parse d.text = .ok d.fields := by
  rcases d.readLinesFrom_text with ⟨draft, hread, hclose⟩
  unfold parse
  rw [d.dropMark_text]
  show (readLinesFrom (d.text.length + 1) {} d.text >>= Draft.finish) = _
  rw [hread]
  show draft.closeTable.map Item.toFields = _
  rw [hclose]
  show Except.ok (Item.toFields (d.lines.map FieldLine.item ++ d.sections.map Section.item)) = _
  rw [Item.toFields_eq_map, List.map_append, ← Item.toFields_eq_map, ← Item.toFields_eq_map, toFields_items,
    toFields_sections]
  rfl

end Document

end LineCensus.Toml
