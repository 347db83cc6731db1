import Mathlib.Algebra.Ring.Nat
import Mathlib.Data.List.Induction
import LineCensus.Census.Basic

/-!
# LineCensus.Proofs.Census.Record — what recorded files come to

1. `Tally.sum`: the number of some files and the sums of their lines. `lines_sum`: the parts add up.
2. `eraseDups_concat`: how a list without its repetitions grows.
3. `Census.grouped`: the census of files said at once. A key stands where it was first recorded.
4. `record_grouped`, `recordAll_eq_grouped`: recording one file, and all of them, gives this census.
5. `keys_grouped`, `find?_of_mem`: the keys of the entries are all different, so an entry is found by its key.
6. `lines_totals_grouped`, `lines_entries_grouped`: the parts of every tally add up to its lines.
-/

namespace LineCensus

namespace Tally

/-- The number of files and the sums of their lines. -/
def sum (files : List Breakdown) : Tally :=
  ⟨files.length, (files.map (·.lines)).sum, (files.map (·.blank)).sum, (files.map (·.comments)).sum,
    (files.map (·.code)).sum⟩

theorem sum_nil : sum [] = zero := rfl

theorem sum_concat (files : List Breakdown) (b : Breakdown) : sum (files ++ [b]) = (sum files).add b := by
  simp [sum, add]

/-- If the parts of every file add up to its lines, so do the parts of their tally. -/
theorem lines_sum {files : List Breakdown} (h : ∀ b ∈ files, b.lines = b.blank + b.comments + b.code) :
    (sum files).lines = (sum files).blank + (sum files).comments + (sum files).code := by
  induction files with
  | nil => rfl
  | cons b rest ih =>
    have hb := h b List.mem_cons_self
    have hrest := ih fun b' hb' => h b' (List.mem_cons_of_mem b hb')
    simp only [sum, List.map_cons, List.sum_cons] at hrest ⊢
    omega

end Tally

/-! ## Lists without repetitions -/

section

variable {α : Type} [BEq α] [LawfulBEq α]

/-- An element that is there already adds nothing, and a new one stands at the end. -/
theorem eraseDups_concat (as : List α) (a : α) :
    (as ++ [a]).eraseDups = if a ∈ as then as.eraseDups else as.eraseDups ++ [a] := by
  rw [List.eraseDups_append, List.removeAll]
  by_cases ha : a ∈ as
  · simp [ha]
  · simp [ha, List.eraseDups_cons]

theorem nodup_eraseDups (as : List α) : as.eraseDups.Nodup := by
  induction as using List.reverseRecOn with
  | nil => exact .nil
  | append_singleton as a ih =>
    rw [eraseDups_concat]
    split
    · exact ih
    · rename_i ha
      have hnew : a ∉ as.eraseDups := mt List.mem_eraseDups.1 ha
      rw [List.nodup_append]
      refine ⟨ih, List.pairwise_singleton _ a, ?_⟩
      intro b hb c hc heq
      obtain rfl := List.mem_singleton.1 hc
      exact hnew (heq ▸ hb)

end

namespace Census

/-! ## Files by their keys -/

/-- The files that were recorded under a key. -/
def under (key : String) (files : List (String × Breakdown)) : List Breakdown :=
  (files.filter (·.1 == key)).map (·.2)

/-- The census of files: the keys in the order in which they were first recorded, each with the files under
it. -/
def grouped (files : List (String × Breakdown)) : Census where
  totals := .sum (files.map (·.2))
  entries := (files.map (·.1)).eraseDups.map fun key => (key, .sum (under key files))

theorem under_concat (key : String) (files : List (String × Breakdown)) (extension : String)
    (b : Breakdown) :
    under key (files ++ [(extension, b)]) =
      if extension = key then under key files ++ [b] else under key files := by
  unfold under
  by_cases hkey : extension = key <;> simp [hkey]

theorem under_eq_nil {key : String} {files : List (String × Breakdown)} (h : key ∉ files.map (·.1)) :
    under key files = [] := by
  unfold under
  rw [List.map_eq_nil_iff, List.filter_eq_nil_iff]
  intro file hfile hkey
  exact h (List.mem_map.2 ⟨file, hfile, beq_iff_eq.1 hkey⟩)

/-- Recording in a list of entries changes the entry of the key, or adds one at the end. -/
theorem recordEntry_map (extension : String) (b : Breakdown) {keys : List String} (hkeys : keys.Nodup)
    (tally : String → Tally) :
    recordEntry extension b (keys.map fun key => (key, tally key)) =
      keys.map (fun key => (key, if extension = key then (tally key).add b else tally key)) ++
        if extension ∈ keys then [] else [(extension, Tally.zero.add b)] := by
  induction keys with
  | nil => rfl
  | cons key rest ih =>
    rcases List.nodup_cons.1 hkeys with ⟨hkey, hrest⟩
    rw [List.map_cons, recordEntry]
    by_cases heq : key = extension
    · subst heq
      -- the key does not come again, so the entries behind it stay
      have hsame : ∀ k ∈ rest, (k, if key = k then (tally k).add b else tally k) = (k, tally k) := by
        intro k hk
        have hne : key ≠ k := fun h => hkey (h ▸ hk)
        rw [if_neg hne]
      simp [List.map_congr_left hsame]
    · rw [if_neg heq, ih hrest]
      simp [Ne.symm heq]

/-! ## Recording -/

/-- Recording one more file gives the census of all the files. -/
theorem record_grouped (files : List (String × Breakdown)) (extension : String) (b : Breakdown) :
    (grouped files).record extension b = grouped (files ++ [(extension, b)]) := by
  have htotals : (Tally.sum (files.map (·.2))).add b = .sum ((files ++ [(extension, b)]).map (·.2)) := by
    rw [List.map_append, List.map_singleton, Tally.sum_concat]
  have hkeys : ((files ++ [(extension, b)]).map (·.1)).eraseDups =
      (files.map (·.1)).eraseDups ++ if extension ∈ files.map (·.1) then [] else [extension] := by
    rw [List.map_append, List.map_singleton, eraseDups_concat]
    split <;> simp
  have htally : ∀ key, Tally.sum (under key (files ++ [(extension, b)])) =
      if extension = key then (Tally.sum (under key files)).add b else .sum (under key files) := by
    intro key
    rw [under_concat]
    split
    · exact Tally.sum_concat _ b
    · rfl
  have hentries : recordEntry extension b (grouped files).entries =
      (grouped (files ++ [(extension, b)])).entries := by
    simp only [grouped]
    rw [recordEntry_map extension b (nodup_eraseDups _), hkeys, List.map_append]
    simp only [htally, List.mem_eraseDups]
    congr 1
    split
    · rfl
    · -- no file was recorded under a new key before
      rename_i hnew
      rw [List.map_singleton, if_pos rfl, under_eq_nil hnew, Tally.sum_nil]
  rw [record, hentries]
  simp only [grouped, htotals]

/-- Recording more files gives the census of all the files. -/
theorem recordAll_grouped (seen files : List (String × Breakdown)) :
    (grouped seen).recordAll files = grouped (seen ++ files) := by
  -- each file that is recorded moves from the files to come to the files seen
  induction files generalizing seen with
  | nil => simp [recordAll]
  | cons file rest ih =>
    have hrest := ih (seen ++ [file])
    rw [List.append_assoc, List.singleton_append] at hrest
    rw [recordAll, List.foldl_cons, record_grouped]
    exact hrest

/-- Recording files into an empty census gives their census. -/
theorem recordAll_eq_grouped (files : List (String × Breakdown)) :
    empty.recordAll files = grouped files := recordAll_grouped [] files

/-! ## Entries by their keys -/

/-- The keys of the entries are those under which files were recorded. -/
theorem keys_grouped (files : List (String × Breakdown)) :
    (grouped files).entries.map (·.1) = (files.map (·.1)).eraseDups := by
  rw [grouped, List.map_map]
  exact List.map_id _

/-- No two entries have one key. -/
theorem nodup_keys_grouped (files : List (String × Breakdown)) :
    ((grouped files).entries.map (·.1)).Nodup := by
  rw [keys_grouped]
  exact nodup_eraseDups _

/-- Where no two entries have one key, an entry is found by its key. -/
theorem find?_of_mem {entries : List (String × Tally)} (hkeys : (entries.map (·.1)).Nodup)
    {key : String} {tally : Tally} (h : (key, tally) ∈ entries) :
    entries.find? (·.1 == key) = some (key, tally) := by
  induction entries with
  | nil => cases h
  | cons entry rest ih =>
    rcases List.nodup_cons.1 hkeys with ⟨hnew, hrest⟩
    rcases List.mem_cons.1 h with rfl | hmem
    · exact List.find?_cons_of_pos (beq_self_eq_true key)
    · -- the entry in front has another key
      have hkey : key ∈ rest.map (·.1) := List.mem_map.2 ⟨(key, tally), hmem, rfl⟩
      have hne : entry.1 ≠ key := by
        intro heq
        rw [← heq] at hkey
        exact hnew hkey
      rw [List.find?_cons_of_neg (by rwa [beq_iff_eq])]
      exact ih hrest hmem

/-! ## The parts of tallies -/

section

variable {files : List (String × Breakdown)}
  (h : ∀ file ∈ files, file.2.lines = file.2.blank + file.2.comments + file.2.code)

include h

theorem lines_totals_grouped :
    (grouped files).totals.lines =
      (grouped files).totals.blank + (grouped files).totals.comments + (grouped files).totals.code := by
  apply Tally.lines_sum
  intro b hb
  rcases List.mem_map.1 hb with ⟨file, hfile, rfl⟩
  exact h file hfile

theorem lines_entries_grouped :
    ∀ entry ∈ (grouped files).entries,
      entry.2.lines = entry.2.blank + entry.2.comments + entry.2.code := by
  intro entry hentry
  rcases List.mem_map.1 hentry with ⟨key, -, rfl⟩
  apply Tally.lines_sum
  intro b hb
  rcases List.mem_map.1 hb with ⟨file, hfile, rfl⟩
  exact h file (List.mem_filter.1 hfile).1

end

end Census

end LineCensus
