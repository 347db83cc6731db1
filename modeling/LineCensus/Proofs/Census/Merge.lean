import LineCensus.Proofs.Census.Balance

/-!
# LineCensus.Proofs.Census.Merge — adding censuses

1. `Tally.plus`: the sum of two tallies. `sum_append`: it is the tally of all the files.
2. `Census.plus`, `plusAll`: censuses added entry by entry. An entry of both is added up where the first census
   has it, and the other entries of the second come behind.
3. `plus_grouped`, `plusAll_grouped`: the sum of the censuses of parts is the census of all the files, one part
   after the other.
-/

namespace LineCensus

namespace Tally

/-- The files of both. -/
def plus (t u : Tally) : Tally :=
  ⟨t.files + u.files, t.lines + u.lines, t.blank + u.blank, t.comments + u.comments, t.code + u.code⟩

theorem sum_append (files more : List Breakdown) : sum (files ++ more) = (sum files).plus (sum more) := by
  simp [sum, plus]

end Tally

/-- What holds of an element does not depend on how often it comes. -/
theorem eraseDups_filter {α : Type} [BEq α] [LawfulBEq α] (keep : α → Bool) (as : List α) :
    (as.filter keep).eraseDups = as.eraseDups.filter keep := by
  induction as using List.reverseRecOn with
  | nil => rfl
  | append_singleton as a ih =>
    rw [List.filter_append, eraseDups_concat]
    by_cases hkeep : keep a = true
    · -- the last element stays, and was there before it was kept or not at all
      have hmem : a ∈ as.filter keep ↔ a ∈ as := by rw [List.mem_filter, and_iff_left hkeep]
      rw [List.filter_singleton, hkeep, cond_true, eraseDups_concat, ih]
      simp only [hmem]
      split
      · rfl
      · rw [List.filter_append, List.filter_singleton, hkeep, cond_true]
    · have hdrop : [a].filter keep = [] := List.filter_cons_of_neg hkeep
      rw [hdrop, List.append_nil, ih]
      split
      · rfl
      · rw [List.filter_append, hdrop, List.append_nil]

namespace Census

/-! ## Two censuses -/

/-- The entries of both, where those of one key are added, and both totals. -/
def plus (a b : Census) : Census where
  totals := a.totals.plus b.totals
  entries :=
    a.entries.map (fun entry => (entry.1, entry.2.plus ((b.get? entry.1).getD .zero))) ++
      b.entries.filter fun entry => (a.get? entry.1).isNone

/-- Adds censuses one after the other. -/
def plusAll (c : Census) (parts : List Census) : Census := parts.foldl plus c

section

variable (files more : List (String × Breakdown)) (key : String)

theorem under_append : under key (files ++ more) = under key files ++ under key more := by
  rw [under, under, under, List.filter_append, List.map_append]

/-- A key without an entry has the tally of no file. -/
theorem getD_get?_grouped : ((grouped files).get? key).getD .zero = .sum (under key files) := by
  rw [get?_grouped]
  split
  · rfl
  · rename_i hnew
    rw [under_eq_nil hnew]
    rfl

theorem isNone_get?_grouped : ((grouped files).get? key).isNone = !(files.map (·.1)).elem key := by
  rw [get?_grouped]
  by_cases hkey : key ∈ files.map (·.1)
  · simp [hkey]
  · simp [hkey]

end

/-- The sum of two censuses is the census of the files of both. -/
theorem plus_grouped (files more : List (String × Breakdown)) :
    (grouped files).plus (grouped more) = grouped (files ++ more) := by
  have htotals : (grouped files).totals.plus (grouped more).totals = (grouped (files ++ more)).totals := by
    simp only [grouped]
    rw [List.map_append, Tally.sum_append]
  -- the keys of the first files, and those of the others that are new
  have hkeys : ((files ++ more).map (·.1)).eraseDups =
      (files.map (·.1)).eraseDups ++ (more.map (·.1)).eraseDups.filter (!(files.map (·.1)).elem ·) := by
    rw [List.map_append, List.eraseDups_append, List.removeAll, eraseDups_filter]
  have hold : (grouped files).entries.map
        (fun entry => (entry.1, entry.2.plus (((grouped more).get? entry.1).getD .zero))) =
      (files.map (·.1)).eraseDups.map fun key => (key, Tally.sum (under key (files ++ more))) := by
    simp only [getD_get?_grouped, under_append, Tally.sum_append]
    rw [grouped, List.map_map]
    rfl
  have hnew : (grouped more).entries.filter (fun entry => ((grouped files).get? entry.1).isNone) =
      ((more.map (·.1)).eraseDups.filter (!(files.map (·.1)).elem ·)).map
        fun key => (key, Tally.sum (under key (files ++ more))) := by
    simp only [isNone_get?_grouped]
    rw [grouped, List.filter_map]
    apply List.map_congr_left
    intro key hkey
    -- under a new key there is none of the first files
    have hnone : key ∉ files.map (·.1) := by
      have hfilter := (List.mem_filter.1 hkey).2
      simpa using hfilter
    rw [under_append, under_eq_nil hnone, List.nil_append]
  rw [plus, htotals, hold, hnew, ← List.map_append, ← hkeys]
  rfl

/-! ## Any number of censuses -/

/-- The sum of the censuses of parts is the census of all their files. -/
theorem plusAll_grouped (files : List (String × Breakdown)) (parts : List (List (String × Breakdown))) :
    (grouped files).plusAll (parts.map grouped) = grouped (files ++ parts.flatten) := by
  induction parts generalizing files with
  | nil => rw [List.flatten_nil, List.append_nil]; rfl
  | cons part rest ih =>
    have hrest := ih (files ++ part)
    rw [List.append_assoc] at hrest
    rw [plusAll, List.map_cons, List.foldl_cons, plus_grouped]
    exact hrest

end Census

end LineCensus
