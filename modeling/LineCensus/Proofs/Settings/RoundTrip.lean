import LineCensus.Proofs.Settings.Given
import LineCensus.Proofs.Text.Encode
import LineCensus.Proofs.Toml.Written

/-!
# LineCensus.Proofs.Settings.RoundTrip — settings are read as they were written

1. `document`: some of the settings written under their header, in any order.
2. `WrittenIn`: lines that write settings wherever they have the name of one. Other names mean nothing, and a character
   may have any of its escapes. `gives_of_writtenIn`: the table of such lines gives the settings that are written, and
   the defaults of the others.
3. `load_document`: what is loaded from documents, and from what is none.
-/

namespace LineCensus.Settings

open Toml

/-! ## What is written -/

/-- The names of the settings. -/
def names : List String := ["use_defaults", "directories", "extensions", "patterns"]

/-- The value of a setting. -/
def value? (s : Settings) : String → Option Value
  | "use_defaults" => some (.boolean s.useDefaults)
  | "directories" => some (.array (s.directories.map .text))
  | "extensions" => some (.array (s.extensions.map .text))
  | "patterns" => some (.array (s.patterns.map .text))
  | _ => none

/-- The settings that are given, with the default for each of the others. -/
def only (s : Settings) (given : List String) : Settings where
  useDefaults := if "use_defaults" ∈ given then s.useDefaults else true
  directories := if "directories" ∈ given then s.directories else []
  extensions := if "extensions" ∈ given then s.extensions else []
  patterns := if "patterns" ∈ given then s.patterns else []

/-- What stands behind the name of a setting. -/
def writtenValue (s : Settings) : String → List Char
  | "use_defaults" => if s.useDefaults then ['t', 'r', 'u', 'e'] else ['f', 'a', 'l', 's', 'e']
  | "directories" => quoteAll s.directories
  | "extensions" => quoteAll s.extensions
  | "patterns" => quoteAll s.patterns
  | _ => []

/-- A document with some of the settings. -/
def document (s : Settings) (given : List String) : List Char :=
  "[ignore]\n".toList ++ given.flatMap fun name => writeLine name (s.writtenValue name)

/-- Lines write settings where they have the name of one. -/
def WrittenIn (s : Settings) (lines : List FieldLine) : Prop :=
  ∀ l ∈ lines, ∀ v, s.value? l.name = some v → ∃ written, SpellsValue v written ∧ l.text = writeLine l.name written

theorem isBareName_of_value? {s : Settings} {name : String} {v : Value} (h : s.value? name = some v) :
    IsBareName name := by
  unfold value? at h
  split at h
  · decide
  · decide
  · decide
  · decide
  · cases h

theorem spells_writtenValue {s : Settings} {name : String} (h : name ∈ names) :
    ∃ v, s.value? name = some v ∧ SpellsValue v (s.writtenValue name) := by
  simp only [names, List.mem_cons, List.not_mem_nil, or_false] at h
  rcases h with rfl | rfl | rfl | rfl
  · exact ⟨_, rfl, .truth s.useDefaults⟩
  · exact ⟨_, rfl, spellsValue_quoteAll s.directories⟩
  · exact ⟨_, rfl, spellsValue_quoteAll s.extensions⟩
  · exact ⟨_, rfl, spellsValue_quoteAll s.patterns⟩

/-! ## What is read -/

variable {s : Settings} {lines : List FieldLine}

/-- What stands under the name of a setting is its value, if a line has this name. -/
theorem WrittenIn.get? (h : s.WrittenIn lines) (hdistinct : (lines.map FieldLine.name).Nodup) {name : String}
    {v : Value} (hv : s.value? name = some v) :
    Fields.get? (lines.map FieldLine.field) name = if name ∈ lines.map FieldLine.name then some v else none := by
  have hkeys : (lines.map FieldLine.field).map (·.1) = lines.map FieldLine.name := by
    rw [List.map_map]
    rfl
  split
  · next hmem =>
    rcases List.mem_map.1 hmem with ⟨l, hl, rfl⟩
    rcases h l hl v hv with ⟨written, hwritten, htext⟩
    -- a line is read in one way only
    have hfield : IsField l.text l.name v := by
      rw [htext]
      exact isField_writeLine (isBareName_of_value? hv) hwritten
    have hvalue : l.value = v := (l.isField.unique hfield).2
    apply Fields.get?_of_mem
    · rw [hkeys]
      exact hdistinct
    · rw [← hvalue]
      exact List.mem_map.2 ⟨l, hl, rfl⟩
  · next hmem =>
    rw [Fields.get?_eq_none_iff, hkeys]
    exact hmem

/-- The lines give the settings that they write, and the defaults of the others. -/
theorem gives_of_writtenIn (h : s.WrittenIn lines) (hdistinct : (lines.map FieldLine.name).Nodup) :
    Gives (lines.map FieldLine.field) (s.only (lines.map FieldLine.name)) := by
  have hgives : ∀ {α : Type} (write : α → Value) {name : String} {a start : α}, s.value? name = some (write a) →
      let left := if name ∈ lines.map FieldLine.name then a else start
      Fields.get? (lines.map FieldLine.field) name = none ∧ left = start ∨
        Fields.get? (lines.map FieldLine.field) name = some (write left) := by
    intro α write name a start hv left
    rw [h.get? hdistinct hv]
    by_cases hmem : name ∈ lines.map FieldLine.name
    · right
      simp only [left, if_pos hmem]
    · left
      simp only [left, if_neg hmem, and_self]
  constructor
  · exact hgives .boolean rfl
  · exact hgives (fun ss : List String => .array (ss.map .text)) rfl
  · exact hgives (fun ss : List String => .array (ss.map .text)) rfl
  · exact hgives (fun ss : List String => .array (ss.map .text)) rfl

/-- Settings in a table of a document are loaded, whatever else is in the table and in the document. -/
theorem load_of_writtenIn (path : Bytes) {d : Document} {t : Section} (ht : t ∈ d.sections) (hname : t.name = "ignore")
    (h : s.WrittenIn t.lines) :
    load path (.ok (Text.encode (String.ofList d.text))) = .ok (s.only (t.lines.map FieldLine.name)) := by
  have hdecode : Text.decode? (Text.encode (String.ofList d.text)) = some d.text := by
    rw [Text.decode?_encode, String.toList_ofList]
  have htable : d.fields.get? "ignore" = some (.table (t.lines.map FieldLine.field)) := by
    rw [← hname]
    exact d.get?_fields ht
  exact (load_eq_ok_iff hdecode d.parse_text htable).2 (gives_of_writtenIn h t.distinct)

theorem isHeader_ignore : IsHeader "[ignore]\n".toList "ignore" := ⟨_, _, rfl, rfl, rfl, rfl⟩

/-- Some of the settings, in any order, as lines. -/
theorem exists_lines (s : Settings) {given : List String} (h : ∀ name ∈ given, name ∈ names) :
    ∃ lines : List FieldLine, lines.map FieldLine.name = given ∧ s.WrittenIn lines ∧
      lines.flatMap FieldLine.text = given.flatMap fun name => writeLine name (s.writtenValue name) := by
  induction given with
  | nil => exact ⟨[], rfl, nofun, rfl⟩
  | cons name rest ih =>
    rcases ih fun n hn => h n (List.mem_cons_of_mem name hn) with ⟨lines, hnames, hwritten, htext⟩
    rcases spells_writtenValue (h name List.mem_cons_self) with ⟨v, hv, hspells⟩
    have hfield : IsField (writeLine name (s.writtenValue name)) name v :=
      isField_writeLine (isBareName_of_value? hv) hspells
    let l : FieldLine := ⟨writeLine name (s.writtenValue name), name, v, hfield⟩
    refine ⟨l :: lines, ?_, ?_, ?_⟩
    · rw [List.map_cons, hnames]
    · intro l' hl' v' hv'
      rcases List.mem_cons.1 hl' with rfl | hl'
      · have hsame : v = v' := Option.some.inj (hv.symm.trans hv')
        exact ⟨s.writtenValue name, hsame ▸ hspells, rfl⟩
      · exact hwritten l' hl' v' hv'
    · rw [List.flatMap_cons, List.flatMap_cons, htext]

/-- What was written is loaded. -/
theorem load_document (path : Bytes) (s : Settings) {given : List String} (hgiven : ∀ name ∈ given, name ∈ names)
    (hdistinct : given.Nodup) :
    load path (.ok (Text.encode (String.ofList (s.document given)))) = .ok (s.only given) := by
  rcases s.exists_lines hgiven with ⟨lines, rfl, hwritten, htext⟩
  let t : Section := ⟨"[ignore]\n".toList, "ignore", lines, isHeader_ignore, hdistinct⟩
  let d : Document := ⟨[], [t], [], by simp, rfl⟩
  have hd : d.text = s.document (lines.map FieldLine.name) := by
    unfold document
    rw [← htext]
    show "[ignore]\n".toList ++ lines.flatMap FieldLine.text ++ [] ++ [] = _
    rw [List.append_nil, List.append_nil]
  have ht : t ∈ d.sections := List.mem_singleton_self t
  rw [← hd]
  exact load_of_writtenIn path ht rfl hwritten

/-! ## What is loaded -/

/-- What is loaded from a settings file. Settings written in any order, with the default for each that is left out, are
loaded as they were. So it is in a document with other tables and names, blank lines and comments, and with escapes in
its strings. A file that cannot be read or is no text fails as such, and one that is no document with the fault of the
document. A document without the table gives the defaults, and one with it the settings that its table gives, if it
gives any. -/
theorem load_written (path : Bytes) :
    (∀ (s : Settings) (given : List String), given.Nodup → (∀ name ∈ given, name ∈ names) →
        load path (.ok (Text.encode (String.ofList (s.document given)))) = .ok (s.only given)) ∧
      (∀ (s : Settings) (d : Document) (t : Section), t ∈ d.sections → t.name = "ignore" → s.WrittenIn t.lines →
        load path (.ok (Text.encode (String.ofList d.text))) = .ok (s.only (t.lines.map FieldLine.name))) ∧
      (∀ reason, load path (.error reason) = .error (.settingsUnreadable path reason)) ∧
      ∀ bytes,
        (Text.decode? bytes = none →
          ∃ reason, load path (.ok bytes) = .error (.settingsUnreadable path reason)) ∧
        ∀ text, Text.decode? bytes = some text →
          (∀ fault, Toml.parse text = .error fault → load path (.ok bytes) = .error (.badSettings fault.message)) ∧
          ∀ fields, Toml.parse text = .ok fields →
            (fields.get? "ignore" = none → load path (.ok bytes) = .ok {}) ∧
            ∀ table, fields.get? "ignore" = some (.table table) →
              ∀ s, load path (.ok bytes) = .ok s ↔ Gives table s := by
  refine ⟨?_, ?_, ?_, ?_⟩
  · intro s given hdistinct hgiven
    exact load_document path s hgiven hdistinct
  · intro s d t ht hname h
    exact load_of_writtenIn path ht hname h
  · intro reason
    rfl
  · intro bytes
    constructor
    · intro hdecode
      unfold load
      simp only [hdecode]
      exact ⟨_, rfl⟩
    · intro text hdecode
      constructor
      · intro fault hparse
        exact load_of_fault hdecode hparse
      · intro fields hparse
        constructor
        · intro hnone
          exact load_of_get?_eq_none hdecode hparse hnone
        · intro table htable s
          exact load_eq_ok_iff hdecode hparse htable

/-- Comments, other keys and another table, and escapes in some of the strings. -/
theorem load_written_among_others :
    load (Text.encode "settings.toml") (.ok (Text.encode ("\n".intercalate
        ["# mine", "title = 'x' # not read", "[other]", "use_defaults = 1", "", "[ignore]", "extra = 2.5",
          "directories = [\"a\\\"\", \"\\u00e9\"]", "use_defaults = false", "# end"]))) =
      .ok { useDefaults := false, directories := ["a\"", "é"] } := by
  let s : Settings := { useDefaults := false, directories := ["a\"", "é"] }
  -- the quote by its letter, and the other character by its number
  have hquote : Quotes "a\"" "\"a\\\"\"".toList :=
    ⟨_, .cons (.plain rfl (by decide) (by decide)) (.cons (.letter rfl) .nil), rfl⟩
  have hnumber : SpellsChar 'é' ['\\', 'u', '0', '0', 'e', '9'] := .number rfl rfl
  have haccent : Quotes "é" "\"\\u00e9\"".toList := ⟨_, .cons hnumber .nil, rfl⟩
  have hdirectories : SpellsValue (.array (s.directories.map .text)) "[\"a\\\"\", \"\\u00e9\"]".toList :=
    .texts (.cons hquote (.cons haccent .nil))
  have htitle : IsField "# mine\ntitle = 'x' # not read\n".toList "title" (.text "x") :=
    ⟨"title = 'x' # not read\n".toList, " 'x' # not read\n".toList, " # not read\n".toList, rfl, rfl, rfl, rfl, rfl⟩
  have hone : IsField "use_defaults = 1\n".toList "use_defaults" (.integer "1") :=
    ⟨"use_defaults = 1\n".toList, " 1\n".toList, ['\n'], rfl, rfl, rfl, rfl, rfl⟩
  have hextra : IsField "extra = 2.5\n".toList "extra" (.float "2.5") :=
    ⟨"extra = 2.5\n".toList, " 2.5\n".toList, ['\n'], rfl, rfl, rfl, rfl, rfl⟩
  have hother : IsHeader "[other]\n".toList "other" := ⟨"other]\n".toList, ['\n'], rfl, rfl, rfl, rfl⟩
  have hignore : IsHeader "\n[ignore]\n".toList "ignore" := ⟨"ignore]\n".toList, ['\n'], rfl, rfl, rfl, rfl⟩
  let title : FieldLine := ⟨_, _, _, htitle⟩
  let one : FieldLine := ⟨_, _, _, hone⟩
  let extra : FieldLine := ⟨_, _, _, hextra⟩
  let directories : FieldLine := ⟨_, "directories", _, isField_writeLine (by decide) hdirectories⟩
  let useDefaults : FieldLine := ⟨_, "use_defaults", _, isField_writeLine (by decide) (.truth false)⟩
  let other : Section := ⟨_, _, [one], hother, by simp⟩
  have hnames : ["extra", "directories", "use_defaults"].Nodup := by decide
  let ignore : Section := ⟨_, _, [extra, directories, useDefaults], hignore, hnames⟩
  have hsections : ["title", "other", "ignore"].Nodup := by decide
  let d : Document := ⟨[title], [other, ignore], "# end".toList, hsections, rfl⟩
  have hwritten : s.WrittenIn ignore.lines := by
    intro l hl v hv
    simp only [ignore, List.mem_cons, List.not_mem_nil, or_false] at hl
    rcases hl with rfl | rfl | rfl
    · cases hv
    · cases hv
      exact ⟨_, hdirectories, rfl⟩
    · cases hv
      exact ⟨_, .truth false, rfl⟩
  have hmem : ignore ∈ d.sections := List.mem_cons_of_mem other List.mem_cons_self
  have htext : "\n".intercalate
      ["# mine", "title = 'x' # not read", "[other]", "use_defaults = 1", "", "[ignore]", "extra = 2.5",
        "directories = [\"a\\\"\", \"\\u00e9\"]", "use_defaults = false", "# end"] = String.ofList d.text := by
    simp only [Document.text, Section.text, List.flatMap_cons, List.flatMap_nil, d, title, other, ignore, one, extra,
      directories, useDefaults]
    decide +kernel
  have hgiven : s.only (ignore.lines.map FieldLine.name) = s := rfl
  rw [htext]
  exact ((load_written (Text.encode "settings.toml")).2.1 s d ignore hmem rfl hwritten).trans (congrArg _ hgiven)

end LineCensus.Settings
