import Mathlib.Algebra.BigOperators.Group.List.Basic
import LineCensus.Proofs.Census.Record
import LineCensus.Proofs.Text.Order
import LineCensus.Report.Json
import LineCensus.Report.Table

/-!
# LineCensus.Proofs.Census.Order — the order in which files are recorded

1. `Tally.sum_perm`, `eraseDups_perm`, `entries_grouped_perm`: files in another order give the same totals and
   the same entries, in another order.
2. `Census.Before`: the order of a report, a strict one on entries of different extensions.
   `eq_sortedByCode_iff`: the entries have one arrangement in this order.
3. `same_of_perm`, `Table.render_congr`, `toJson_congr`: what is compared and shown of a census does not depend
   on the order of its entries.
4. `same_recordAll_of_perm`: hence it does not depend on the order in which the files were recorded.
-/

namespace LineCensus

/-! ## Files in another order -/

theorem Tally.sum_perm {bs bs' : List Breakdown} (h : bs.Perm bs') : sum bs = sum bs' := by
  have hfield : ∀ field : Breakdown → Nat, (bs.map field).sum = (bs'.map field).sum := by
    intro field
    exact (h.map field).sum_eq
  rw [sum, sum, h.length_eq, hfield (·.lines), hfield (·.blank), hfield (·.comments), hfield (·.code)]

theorem eraseDups_perm {as bs : List String} (h : as.Perm bs) : as.eraseDups.Perm bs.eraseDups := by
  rw [List.perm_ext_iff_of_nodup (nodup_eraseDups as) (nodup_eraseDups bs)]
  intro a
  rw [List.mem_eraseDups, List.mem_eraseDups, h.mem_iff]

namespace Census

variable {files files' : List (String × Breakdown)}

theorem under_perm (h : files.Perm files') (key : String) : (under key files).Perm (under key files') :=
  (h.filter _).map _

/-- The totals do not depend on the order of the files. -/
theorem totals_grouped_perm (h : files.Perm files') : (grouped files).totals = (grouped files').totals :=
  Tally.sum_perm (h.map (·.2))

/-- The order of the files changes no more than the order of the entries. -/
theorem entries_grouped_perm (h : files.Perm files') :
    (grouped files).entries.Perm (grouped files').entries := by
  have htally : ∀ key, Tally.sum (under key files) = Tally.sum (under key files') := by
    intro key
    exact Tally.sum_perm (under_perm h key)
  simp only [grouped, htally]
  exact (eraseDups_perm (h.map (·.1))).map _

/-! ## Entries in the order of a report -/

/-- One entry comes before another in a report: it has more code, or as much and the bytes of its extension
come first. -/
def Before (a b : String × Tally) : Prop :=
  b.2.code < a.2.code ∨ a.2.code = b.2.code ∧ Text.encode a.1 < Text.encode b.1

instance (a b : String × Tally) : Decidable (Before a b) :=
  inferInstanceAs (Decidable (_ ∨ _ ∧ _))

theorem Before.asymm {a b : String × Tally} (h : Before a b) : ¬Before b a := by
  intro h'
  rcases h with hcode | ⟨heq, hbytes⟩
  · rcases h' with hcode' | ⟨heq', -⟩
    · exact Nat.lt_asymm hcode hcode'
    · exact Nat.ne_of_lt hcode heq'
  · rcases h' with hcode' | ⟨-, hbytes'⟩
    · exact Nat.ne_of_lt hcode' heq
    · exact List.lt_irrefl _ (List.lt_trans hbytes hbytes')

theorem entryLe_iff {a b : String × Tally} :
    entryLe a b = true ↔ b.2.code < a.2.code ∨ a.2.code = b.2.code ∧ a.1 ≤ b.1 := by
  simp [entryLe]

theorem entryLe_trans (a b c : String × Tally) (hab : entryLe a b = true) (hbc : entryLe b c = true) :
    entryLe a c = true := by
  rw [entryLe_iff] at *
  rcases hab with hab | ⟨hab, hle⟩
  · left
    rcases hbc with hbc | ⟨hbc, -⟩ <;> omega
  · rcases hbc with hbc | ⟨hbc, hle'⟩
    · left
      omega
    · exact .inr ⟨hab.trans hbc, String.le_trans hle hle'⟩

theorem entryLe_total (a b : String × Tally) : (entryLe a b || entryLe b a) = true := by
  rw [Bool.or_eq_true, entryLe_iff, entryLe_iff]
  rcases Nat.lt_trichotomy a.2.code b.2.code with hcode | hcode | hcode
  · exact .inr (.inl hcode)
  · rcases String.le_total a.1 b.1 with hle | hle
    · exact .inl (.inr ⟨hcode, hle⟩)
    · exact .inr (.inr ⟨hcode.symm, hle⟩)
  · exact .inl (.inl hcode)

/-- Of two extensions, the one that is sorted first comes before the other. -/
theorem before_of_entryLe {a b : String × Tally} (h : entryLe a b = true) (hne : a.1 ≠ b.1) : Before a b := by
  rcases entryLe_iff.1 h with hcode | ⟨hcode, hle⟩
  · exact .inl hcode
  · have hlt : a.1 < b.1 := Std.lt_of_le_of_ne hle hne
    exact .inr ⟨hcode, Text.encode_lt_encode_iff.2 hlt⟩

variable {c c' : Census}

theorem sortedByCode_perm (c : Census) : c.sortedByCode.Perm c.entries := List.mergeSort_perm _ _

/-- Entries of different extensions are sorted strictly. -/
theorem pairwise_sortedByCode (hkeys : (c.entries.map (·.1)).Nodup) : c.sortedByCode.Pairwise Before := by
  have hsorted : c.sortedByCode.Pairwise fun a b => entryLe a b = true :=
    List.pairwise_mergeSort entryLe_trans entryLe_total c.entries
  have hdifferent : c.sortedByCode.Pairwise fun a b => a.1 ≠ b.1 := by
    have hnodup : (c.sortedByCode.map (·.1)).Nodup := (c.sortedByCode_perm.map (·.1)).nodup_iff.2 hkeys
    exact List.pairwise_map.1 hnodup
  exact (hsorted.and hdifferent).imp fun h => before_of_entryLe h.1 h.2

/-- The entries have one arrangement in the order of a report. -/
theorem eq_sortedByCode_iff (hkeys : (c.entries.map (·.1)).Nodup) {arrangement : List (String × Tally)} :
    arrangement.Perm c.entries ∧ arrangement.Pairwise Before ↔ arrangement = c.sortedByCode := by
  constructor
  · rintro ⟨hperm, horder⟩
    have hsame : arrangement.Perm c.sortedByCode := hperm.trans c.sortedByCode_perm.symm
    refine hsame.eq_of_pairwise ?_ horder (pairwise_sortedByCode hkeys)
    intro a b _ _ hab hba
    exact absurd hba hab.asymm
  · rintro rfl
    exact ⟨c.sortedByCode_perm, pairwise_sortedByCode hkeys⟩

/-- Entries in another order are sorted alike. -/
theorem sortedByCode_eq_of_perm (hkeys : (c.entries.map (·.1)).Nodup) (h : c.entries.Perm c'.entries) :
    c.sortedByCode = c'.sortedByCode := by
  have hkeys' : (c'.entries.map (·.1)).Nodup := (h.map (·.1)).nodup_iff.1 hkeys
  exact (eq_sortedByCode_iff hkeys').1 ⟨c.sortedByCode_perm.trans h, pairwise_sortedByCode hkeys⟩

/-! ## Comparing and showing -/

/-- Censuses whose entries differ in order only are the same. -/
theorem same_of_perm (hkeys : (c.entries.map (·.1)).Nodup) (htotals : c.totals = c'.totals)
    (h : c.entries.Perm c'.entries) : c.same c' = true := by
  have hkeys' : (c'.entries.map (·.1)).Nodup := (h.map (·.1)).nodup_iff.1 hkeys
  rw [same, Bool.and_eq_true, Bool.and_eq_true, beq_iff_eq, beq_iff_eq, List.all_eq_true]
  refine ⟨⟨htotals, h.length_eq⟩, ?_⟩
  rintro ⟨key, tally⟩ hmem
  have hget : c'.get? key = some tally := by
    rw [get?, find?_of_mem hkeys' (h.mem_iff.1 hmem), Option.map_some]
  exact beq_iff_eq.2 hget

theorem toJson_congr (htotals : c.totals = c'.totals) (hsorted : c.sortedByCode = c'.sortedByCode) :
    c.toJson = c'.toJson := by
  rw [toJson, toJson, htotals, hsorted]

end Census

theorem Table.render_congr {c c' : Census} (htotals : c.totals = c'.totals)
    (hsorted : c.sortedByCode = c'.sortedByCode) (colors : Bool) : render colors c = render colors c' := by
  have hbody : body c = body c' := by rw [body, body, hsorted]
  have htotal : total c = total c' := by rw [total, total, htotals]
  simp only [render, renderLines, hbody, htotal]

namespace Census

variable {files files' : List (String × Breakdown)}

/-- The order in which files are recorded makes no difference to a census but for the order of its entries, and
none to the entries as they are sorted, to the table and to the document. The entries are sorted in the one
arrangement in which each comes strictly before the next, by more code or else by the bytes of the extension. -/
theorem same_recordAll_of_perm (h : files.Perm files') :
    (empty.recordAll files).same (empty.recordAll files') = true ∧
      (empty.recordAll files).sortedByCode = (empty.recordAll files').sortedByCode ∧
      (∀ colors, Table.render colors (empty.recordAll files) = Table.render colors (empty.recordAll files')) ∧
      (empty.recordAll files).toJson.render = (empty.recordAll files').toJson.render ∧
      ∀ arrangement, arrangement.Perm (empty.recordAll files).entries ∧ arrangement.Pairwise Before ↔
        arrangement = (empty.recordAll files).sortedByCode := by
  rw [recordAll_eq_grouped, recordAll_eq_grouped]
  have hkeys : ((grouped files).entries.map (·.1)).Nodup := nodup_keys_grouped files
  have htotals : (grouped files).totals = (grouped files').totals := totals_grouped_perm h
  have hentries : (grouped files).entries.Perm (grouped files').entries := entries_grouped_perm h
  have hsorted : (grouped files).sortedByCode = (grouped files').sortedByCode :=
    sortedByCode_eq_of_perm hkeys hentries
  refine ⟨same_of_perm hkeys htotals hentries, hsorted, Table.render_congr htotals hsorted, ?_, ?_⟩
  · rw [toJson_congr htotals hsorted]
  · intro arrangement
    exact eq_sortedByCode_iff hkeys

/-- Five files of four extensions. -/
def someFiles : List (String × Breakdown) :=
  [(".b", ⟨3, 1, 0, 2⟩), (".é", ⟨4, 0, 0, 4⟩), (".a", ⟨9, 1, 1, 7⟩), (".b", ⟨2, 0, 0, 2⟩), (".z", ⟨5, 0, 1, 4⟩)]

/-- Recorded the other way round, the entries stand in another order and are sorted alike. Of the three with as
much code, `.é` comes last: its bytes are greater. -/
theorem same_recordAll_someFiles :
    someFiles.Perm someFiles.reverse ∧
      (empty.recordAll someFiles).entries ≠ (empty.recordAll someFiles.reverse).entries ∧
      (empty.recordAll someFiles).same (empty.recordAll someFiles.reverse) = true ∧
      (empty.recordAll someFiles.reverse).sortedByCode =
        [(".a", ⟨1, 9, 1, 1, 7⟩), (".b", ⟨2, 5, 1, 0, 4⟩), (".z", ⟨1, 5, 0, 1, 4⟩), (".é", ⟨1, 4, 0, 0, 4⟩)] := by
  have hperm : someFiles.Perm someFiles.reverse := by decide +kernel
  rcases same_recordAll_of_perm hperm with ⟨hsame, hsorted, -, -, harrangement⟩
  refine ⟨hperm, by decide +kernel, hsame, ?_⟩
  rw [← hsorted]
  exact ((harrangement _).1 (by decide +kernel)).symm

end Census

end LineCensus
