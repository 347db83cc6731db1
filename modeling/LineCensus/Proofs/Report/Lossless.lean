import Mathlib.Data.List.Nodup
import Mathlib.Data.List.Perm.Subperm
import LineCensus.Proofs.Census.Order
import LineCensus.Proofs.Report.RoundTrip

/-!
# LineCensus.Proofs.Report.Lossless — a report says all there is about a census

1. `Report`: what a report says, and `Report.ofDatum?`, which finds it in a document by the names of the fields.
   A language may be missing, but what is there has to be a text.
2. `ofDatum?_toFields`, `ofDatum?_entryJson`: the tallies and the entries are found as they were written.
3. `ofDatum?_toJson`: so is the report of a census.
4. `same_iff_perm`: censuses are the same if and only if they have the same totals and entries.
5. `toJson_lossless`: hence two censuses have one document if and only if they are the same.
-/

namespace LineCensus

/-! ## Fields -/

namespace Json.Datum

/-- The value of a field. -/
def field? (d : Datum) (name : String) : Option Datum :=
  match d with
  | .object fields => (fields.find? (·.1 == name)).map (·.2)
  | _ => none

def text? : Datum → Option String
  | .text s => some s
  | _ => none

def array? : Datum → Option (List Datum)
  | .array values => some values
  | _ => none

/-- A natural number, written without decimals and exponent. -/
def natural? : Datum → Option Nat
  | .number (.ofNat n) 0 => some n
  | _ => none

end Json.Datum

/-! ## Reports -/

/-- What a report says about an extension. -/
structure Row where
  extension : String
  /-- The name of the language, if it is known. -/
  language : Option String
  tally : Tally
deriving DecidableEq, Repr

/-- What a report says. -/
structure Report where
  summary : Tally
  languages : List Row
deriving DecidableEq, Repr

open Json (Datum)

/-- The counts in the fields of an object. -/
def Tally.ofDatum? (d : Datum) : Option Tally := do
  let files ← (← d.field? "files").natural?
  let lines ← (← d.field? "lines").natural?
  let blank ← (← d.field? "blank").natural?
  let comments ← (← d.field? "comment").natural?
  let code ← (← d.field? "code").natural?
  return ⟨files, lines, blank, comments, code⟩

def Row.ofDatum? (d : Datum) : Option Row := do
  let extension ← (← d.field? "extension").text?
  let language ←
    match d.field? "language" with
    | none => some none
    | some l => l.text?.map some
  return ⟨extension, language, ← Tally.ofDatum? d⟩

def Report.ofDatum? (d : Datum) : Option Report := do
  let summary ← Tally.ofDatum? (← d.field? "summary")
  let languages ← (← d.field? "languages").array?
  return ⟨summary, ← languages.mapM Row.ofDatum?⟩

/-- What is to be said about an entry. -/
def Row.ofEntry (entry : String × Tally) : Row where
  extension := entry.1
  language := (Registry.builtin.language? entry.1).map (·.name)
  tally := entry.2

/-- What is to be said about a census. -/
def Census.report (c : Census) : Report := ⟨c.totals, c.sortedByCode.map Row.ofEntry⟩

/-! ## Reading a report -/

theorem Json.datumOfValues_eq_map (values : List Json) : datumOfValues values = values.map datum := by
  induction values with
  | nil => rfl
  | cons v rest ih => rw [datumOfValues, ih, List.map_cons]

/-- The counts are found under their names. -/
theorem Tally.ofDatum?_toFields (t : Tally) : Tally.ofDatum? (Json.object t.toFields).datum = some t := by
  rfl

/-- An entry is found as it was written, with or without a language. -/
theorem Row.ofDatum?_entryJson (entry : String × Tally) :
    Row.ofDatum? (Census.entryJson entry.1 entry.2).datum = some (Row.ofEntry entry) := by
  rw [Census.entryJson, Row.ofEntry]
  cases Registry.builtin.language? entry.1 with
  | none => rfl
  | some l => rfl

/-- If each of some values is read as intended, so is the list of them. -/
theorem mapM_map_eq_some {α β γ : Type} {write : α → β} {read? : β → Option γ} {meaning : α → γ}
    (h : ∀ a, read? (write a) = some (meaning a)) (as : List α) :
    (as.map write).mapM read? = some (as.map meaning) := by
  induction as with
  | nil => rfl
  | cons a rest ih =>
    rw [List.map_cons, List.mapM_cons, h a, ih]
    rfl

namespace Census

/-- The document of a census is read as its report. -/
theorem ofDatum?_toJson (c : Census) : Report.ofDatum? c.toJson.datum = some c.report := by
  have hsummary : c.toJson.datum.field? "summary" = some (Json.object c.totals.toFields).datum := rfl
  have hlanguages : c.toJson.datum.field? "languages" =
      some (.array (c.sortedByCode.map fun entry => (entryJson entry.1 entry.2).datum)) := by
    have hvalues := Json.datumOfValues_eq_map (c.sortedByCode.map fun entry => entryJson entry.1 entry.2)
    rw [List.map_map] at hvalues
    exact congrArg (fun values => some (Datum.array values)) hvalues
  have hrows : (c.sortedByCode.map fun entry => (entryJson entry.1 entry.2).datum).mapM Row.ofDatum? =
      some (c.sortedByCode.map Row.ofEntry) := mapM_map_eq_some Row.ofDatum?_entryJson c.sortedByCode
  rw [Report.ofDatum?, hsummary, hlanguages]
  simp only [Option.bind_eq_bind, Option.bind_some, Tally.ofDatum?_toFields, Datum.array?, hrows]
  rfl

/-- Reading the document of a census gives its report. -/
theorem read?_toJson (c : Census) : (Json.read? c.toJson.render).bind Report.ofDatum? = some c.report := by
  rw [Json.read?_render, Option.bind_some, ofDatum?_toJson]

/-! ## Comparing documents -/

/-- The rows of a report are the entries of the census, in the order of the report. -/
theorem entries_report (c : Census) : (c.report.languages.map fun row => (row.extension, row.tally)) = c.sortedByCode := by
  rw [report, List.map_map]
  exact List.map_id _

theorem mem_of_get? {c : Census} {key : String} {tally : Tally} (h : c.get? key = some tally) :
    (key, tally) ∈ c.entries := by
  rw [get?, Option.map_eq_some_iff] at h
  rcases h with ⟨⟨key', tally'⟩, hfind, rfl⟩
  have hkey : key' = key := by simpa using List.find?_some hfind
  rw [← hkey]
  exact List.mem_of_find?_eq_some hfind

section

variable {c c' : Census} (hkeys : (c.entries.map (·.1)).Nodup)

include hkeys

/-- Censuses are the same if and only if their totals agree and their entries do up to the order. -/
theorem same_iff_perm : c.same c' = true ↔ c.totals = c'.totals ∧ c.entries.Perm c'.entries := by
  constructor
  · intro h
    rw [same, Bool.and_eq_true, Bool.and_eq_true, beq_iff_eq, beq_iff_eq, List.all_eq_true] at h
    rcases h with ⟨⟨htotals, hlength⟩, hget⟩
    have hsubset : c.entries ⊆ c'.entries := by
      rintro ⟨key, tally⟩ hmem
      exact mem_of_get? (beq_iff_eq.1 (hget (key, tally) hmem))
    -- different entries that all occur among as many others leave none of these out
    have hsubperm : c.entries.Subperm c'.entries := List.subperm_of_subset (List.Nodup.of_map _ hkeys) hsubset
    exact ⟨htotals, hsubperm.perm_of_length_le hlength.ge⟩
  · rintro ⟨htotals, hperm⟩
    exact same_of_perm hkeys htotals hperm

/-- Reports that say the same are about the same census. -/
theorem same_of_report_eq (h : c.report = c'.report) : c.same c' = true := by
  have htotals : c.totals = c'.totals := congrArg Report.summary h
  have hsorted : c.sortedByCode = c'.sortedByCode := by
    rw [← entries_report c, ← entries_report c', h]
  have hperm : c.entries.Perm c'.entries := by
    have hmiddle : c.entries.Perm c'.sortedByCode := hsorted ▸ c.sortedByCode_perm.symm
    exact hmiddle.trans c'.sortedByCode_perm
  exact (same_iff_perm hkeys).2 ⟨htotals, hperm⟩

end

/-- The document of a census is read back in full: the totals, and one row for each entry, those with the most code
first, with the extension and the counts as they are and with a language if and only if the extension is known.
So two censuses are written alike if and only if they are the same. -/
theorem toJson_lossless (c c' : Census) :
    (Json.read? c.toJson.render).bind Report.ofDatum? =
        some ⟨c.totals, c.sortedByCode.map fun (extension, tally) =>
          ⟨extension, (Registry.builtin.language? extension).map (·.name), tally⟩⟩ ∧
      c.sortedByCode.Perm c.entries ∧
      ((c.entries.map (·.1)).Nodup → (c.toJson.render = c'.toJson.render ↔ c.same c' = true)) := by
  refine ⟨read?_toJson c, sortedByCode_perm c, ?_⟩
  intro hkeys
  constructor
  · intro h
    have hreport : some c.report = some c'.report := by
      rw [← read?_toJson c, ← read?_toJson c', h]
    exact same_of_report_eq hkeys (Option.some_inj.1 hreport)
  · intro h
    rcases (same_iff_perm hkeys).1 h with ⟨htotals, hperm⟩
    rw [toJson_congr htotals (sortedByCode_eq_of_perm hkeys hperm)]

/-- Three extensions, two of them with characters that have to be escaped. -/
def oddNames : Census :=
  ⟨⟨4, 18446744073709551615, 2, 0, 7⟩,
    [(".\"\\\n", ⟨1, 3, 1, 0, 2⟩), (".é\x01😀", ⟨2, 3, 1, 0, 2⟩), (".rs", ⟨1, 3, 0, 0, 3⟩)]⟩

/-- Its document is read back with all digits, stays as it is with the entries the other way round, and changes with a
single count. -/
theorem toJson_lossless_oddNames :
    (oddNames.entries.map (·.1)).Nodup ∧
      ((Json.read? oddNames.toJson.render).bind Report.ofDatum?).map (·.summary) =
        some ⟨4, 18446744073709551615, 2, 0, 7⟩ ∧
      oddNames.toJson.render = (Census.mk oddNames.totals oddNames.entries.reverse).toJson.render ∧
      oddNames.toJson.render ≠ (Census.mk ⟨4, 18446744073709551614, 2, 0, 7⟩ oddNames.entries).toJson.render := by
  have hkeys : (oddNames.entries.map (·.1)).Nodup := by decide
  refine ⟨hkeys, ?_, ?_, ?_⟩
  · rw [(toJson_lossless oddNames oddNames).1]
    rfl
  · exact ((toJson_lossless oddNames _).2.2 hkeys).2 (by decide)
  · exact mt ((toJson_lossless oddNames _).2.2 hkeys).1 (by decide)

end Census

end LineCensus
