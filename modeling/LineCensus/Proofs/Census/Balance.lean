import Mathlib.Data.List.Basic
import LineCensus.Proofs.Census.Record

/-!
# LineCensus.Proofs.Census.Balance — what every census keeps

A census holds two accounts of the same files, the totals and the entries, and every file that is recorded goes
into both.

1. `Tally.total`: tallies added up. `total_recordEntry`: a file that is recorded adds itself to what the entries
   come to, whether its entry is there or not.
2. `Census.Balanced`: the totals are what the entries come to. `Balanced.record`, `Balanced.recordAll`: recording
   one file keeps this, and so does recording many.
3. `pairwise_idxOf_eraseDups`: in a list without its repetitions, elements stand in the order of their first
   places.
4. `get?_grouped`: the tally under a key is that of the files recorded under it.
5. `recordAll_keeps_accounts`: all of it, of every census that files were recorded in.
-/

namespace LineCensus

/-! ## Tallies added up -/

namespace Tally

/-- Tallies added up, number by number. -/
def total (tallies : List Tally) : Tally :=
  ⟨(tallies.map (·.files)).sum, (tallies.map (·.lines)).sum, (tallies.map (·.blank)).sum,
    (tallies.map (·.comments)).sum, (tallies.map (·.code)).sum⟩

/-- A file may be added to the first tally. -/
theorem total_add_cons (t : Tally) (b : Breakdown) (rest : List Tally) :
    total (t.add b :: rest) = (total (t :: rest)).add b := by
  simp only [total, add, List.map_cons, List.sum_cons, Tally.mk.injEq]
  omega

/-- A file may be added to the tallies behind the first. -/
theorem total_cons_add (t : Tally) (b : Breakdown) {rest rest' : List Tally}
    (h : total rest' = (total rest).add b) : total (t :: rest') = (total (t :: rest)).add b := by
  simp only [total, add, List.map_cons, List.sum_cons, Tally.mk.injEq] at h ⊢
  omega

end Tally

namespace Census

/-- Recording a file adds it to what the entries come to. -/
theorem total_recordEntry (extension : String) (b : Breakdown) (entries : List (String × Tally)) :
    Tally.total ((recordEntry extension b entries).map (·.2)) =
      (Tally.total (entries.map (·.2))).add b := by
  induction entries with
  | nil =>
    -- the file begins an entry of its own
    show Tally.total [Tally.zero.add b] = (Tally.total []).add b
    rw [Tally.total_add_cons]
    rfl
  | cons entry rest ih =>
    rcases entry with ⟨key, tally⟩
    rw [recordEntry]
    split
    · exact Tally.total_add_cons tally b (rest.map (·.2))
    · exact Tally.total_cons_add tally b ih

/-! ## The balance -/

/-- The totals are what the entries come to. -/
def Balanced (c : Census) : Prop := c.totals = .total (c.entries.map (·.2))

theorem balanced_empty : empty.Balanced := rfl

/-- Recording a file keeps the balance: it goes into the totals and into one entry. -/
theorem Balanced.record {c : Census} (h : c.Balanced) (extension : String) (b : Breakdown) :
    (c.record extension b).Balanced := by
  show c.totals.add b = .total ((recordEntry extension b c.entries).map (·.2))
  rw [total_recordEntry]
  exact congrArg (·.add b) h

/-- Recording files one after the other keeps the balance. -/
theorem Balanced.recordAll {c : Census} (h : c.Balanced) (files : List (String × Breakdown)) :
    (c.recordAll files).Balanced := by
  induction files generalizing c with
  | nil => exact h
  | cons file rest ih => exact ih (h.record file.1 file.2)

/-! ## The order of the keys -/

/-- What is left of a list without its repetitions stands in the order of the first places. -/
theorem pairwise_idxOf_eraseDups (as : List String) :
    as.eraseDups.Pairwise fun a b => as.idxOf a < as.idxOf b := by
  induction as using List.reverseRecOn with
  | nil => exact .nil
  | append_singleton as a ih =>
    -- elements of the front keep their first places, and a new one comes behind all of them
    have hfront : ∀ b, b ∈ as → (as ++ [a]).idxOf b = as.idxOf b := by
      intro b hb
      exact List.idxOf_append_of_mem hb
    have hkept : as.eraseDups.Pairwise fun b c => (as ++ [a]).idxOf b < (as ++ [a]).idxOf c := by
      refine ih.imp_of_mem ?_
      intro b c hb hc hlt
      rw [hfront b (List.mem_eraseDups.1 hb), hfront c (List.mem_eraseDups.1 hc)]
      exact hlt
    rw [eraseDups_concat]
    split
    · exact hkept
    · rename_i hnew
      rw [List.pairwise_append]
      refine ⟨hkept, List.pairwise_singleton _ a, ?_⟩
      intro b hb c hc
      obtain rfl := List.mem_singleton.1 hc
      have hmem : b ∈ as := List.mem_eraseDups.1 hb
      rw [hfront b hmem, List.idxOf_append_of_notMem hnew]
      exact Nat.lt_of_lt_of_le (List.idxOf_lt_length_of_mem hmem) (Nat.le_add_right _ _)

/-! ## The entry of a key -/

/-- The tally under a key is that of the files recorded under it; a key under which none was recorded has no
tally. -/
theorem get?_grouped (files : List (String × Breakdown)) (key : String) :
    (grouped files).get? key =
      if key ∈ files.map (·.1) then some (.sum (under key files)) else none := by
  have hnodup : ((grouped files).entries.map (·.1)).Nodup := nodup_keys_grouped files
  by_cases hkey : key ∈ files.map (·.1)
  · have hentry : (key, Tally.sum (under key files)) ∈ (grouped files).entries :=
      List.mem_map.2 ⟨key, List.mem_eraseDups.2 hkey, rfl⟩
    rw [get?, find?_of_mem hnodup hentry, if_pos hkey]
    rfl
  · have hnone : (grouped files).entries.find? (·.1 == key) = none := by
      rw [List.find?_eq_none]
      intro entry hentry heq
      have hmem : entry.1 ∈ (grouped files).entries.map (·.1) := List.mem_map_of_mem hentry
      rw [keys_grouped, List.mem_eraseDups, beq_iff_eq.1 heq] at hmem
      exact hkey hmem
    rw [get?, hnone, if_neg hkey]
    rfl

/-! ## All of it -/

/-- A census that files were recorded in, one after the other: each extension has one entry, in the order in
which the extensions were first recorded, and no other entry is there. Under an extension stands what was recorded
under it, and nothing else. The totals are the sums over all files and the sums over all entries. The census is
empty if nothing was recorded, which the number of files tells as well. If the parts of every file add up to its
lines, so do those of every entry and of the totals. -/
theorem recordAll_keeps_accounts (files : List (String × Breakdown)) :
    let c := empty.recordAll files
    let keys := c.entries.map (·.1)
    (keys.Nodup ∧ (∀ key, key ∈ keys ↔ key ∈ files.map (·.1)) ∧
        keys.Pairwise fun a b => (files.map (·.1)).idxOf a < (files.map (·.1)).idxOf b) ∧
      (∀ key, c.get? key = if key ∈ files.map (·.1) then some (.sum (under key files)) else none) ∧
      c.totals = .sum (files.map (·.2)) ∧ c.totals = .total (c.entries.map (·.2)) ∧
      (c.isEmpty = true ↔ files = []) ∧ (files = [] ↔ c.totals.files = 0) ∧
      ((∀ file ∈ files, file.2.lines = file.2.blank + file.2.comments + file.2.code) →
        (∀ entry ∈ c.entries, entry.2.lines = entry.2.blank + entry.2.comments + entry.2.code) ∧
          c.totals.lines = c.totals.blank + c.totals.comments + c.totals.code) := by
  intro c keys
  have hgrouped : c = grouped files := recordAll_eq_grouped files
  have hkeys : keys = (files.map (·.1)).eraseDups := by
    show c.entries.map (·.1) = _
    rw [hgrouped, keys_grouped]
  have htotals : c.totals = .sum (files.map (·.2)) := by
    rw [hgrouped]
    rfl
  have hbalanced : c.Balanced := balanced_empty.recordAll files
  have hempty : c.isEmpty = true ↔ files = [] := by
    have hnil : c.isEmpty = true ↔ keys = [] := by
      show c.entries.isEmpty = true ↔ c.entries.map (·.1) = []
      rw [List.isEmpty_iff, List.map_eq_nil_iff]
    rw [hnil, hkeys]
    cases files with
    | nil => simp
    | cons file rest => simp [List.eraseDups_cons]
  refine ⟨⟨?_, ?_, ?_⟩, ?_, htotals, hbalanced, hempty, ?_, ?_⟩
  · rw [hkeys]
    exact nodup_eraseDups _
  · intro key
    rw [hkeys, List.mem_eraseDups]
  · rw [hkeys]
    exact pairwise_idxOf_eraseDups _
  · intro key
    rw [hgrouped]
    exact get?_grouped files key
  · have hfiles : c.totals.files = (files.map (·.2)).length := congrArg Tally.files htotals
    rw [hfiles, List.length_map, List.length_eq_zero_iff]
  · intro hparts
    rw [hgrouped]
    exact ⟨lines_entries_grouped hparts, lines_totals_grouped hparts⟩

/-- Three files of two extensions, the first and the last of one. -/
def interleaved : List (String × Breakdown) :=
  [(".b", ⟨3, 1, 0, 2⟩), (".a", ⟨9, 1, 1, 7⟩), (".b", ⟨2, 0, 2, 0⟩)]

/-- The third file goes into the entry of the first, and the parts of all of them add up. -/
theorem recordAll_keeps_accounts_interleaved :
    (∀ file ∈ interleaved, file.2.lines = file.2.blank + file.2.comments + file.2.code) ∧
      (empty.recordAll interleaved).get? ".b" = some ⟨2, 5, 1, 2, 2⟩ ∧
      (empty.recordAll interleaved).get? ".c" = none ∧
      (empty.recordAll interleaved).totals = ⟨3, 14, 2, 3, 9⟩ ∧
      ∀ entry ∈ (empty.recordAll interleaved).entries,
        entry.2.lines = entry.2.blank + entry.2.comments + entry.2.code := by
  have hparts : ∀ file ∈ interleaved, file.2.lines = file.2.blank + file.2.comments + file.2.code := by
    decide
  rcases recordAll_keeps_accounts interleaved with ⟨-, hget, htotals, -, -, -, hlines⟩
  refine ⟨hparts, ?_, ?_, ?_, (hlines hparts).1⟩
  · rw [hget]
    decide +kernel
  · rw [hget]
    decide +kernel
  · rw [htotals]
    decide

end Census

end LineCensus
