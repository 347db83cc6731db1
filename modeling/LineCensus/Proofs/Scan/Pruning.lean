import Mathlib.Data.List.Basic
import LineCensus.Proofs.Scan.Found

/-!
# LineCensus.Proofs.Scan.Pruning — leaving out directories is leaving out files afterwards

The walk does not go into directories that it does not enter. The same files come out if it goes everywhere and files
are judged by the directories on the way to them.

1. `Filter.keeps`: whether a file below a root is kept, by the names that lead to it. `found_eq_filter`: the files that
   are found are the files kept among all.
2. `Path.below`: the names behind a root, as a path shows them. `Filter.admits`: whether a path below a root is kept.
3. `scan_eq_filter`: a scan is the scan of everything with only the paths left that are kept.
4. `Filter.Narrows`: a filter that lets less through. `scan_sublist`: it leaves a part of the scan, in the same order.
-/

namespace LineCensus

/-! ## Files -/

/-- Whether a file below a root is kept: every directory on the way is entered, and the file is counted. -/
def Filter.keeps (f : Filter) (root : Bytes) (r : Regular) : Bool :=
  r.names.dropLast.all f.enters && f.includes (Path.joinAll root r.names)

namespace Listing

variable {f : Filter} {root : Bytes}

/-- Every file that is found has a name. -/
theorem names_ne_nil_of_mem_found {l : Listing} {r : Regular} (h : r ∈ l.found f root) : r.names ≠ [] := by
  induction l generalizing root r with
  | nil => cases h
  | leaf name lf rest ih =>
    cases lf with
    | file content locked =>
      rcases List.mem_append.1 h with h | h
      · split at h
        · obtain rfl := List.mem_singleton.1 h
          exact List.cons_ne_nil name []
        · cases h
      · exact ih h
    | link target => exact ih h
    | fifo => exact ih h
  | dir name locked below rest _ ih =>
    rcases List.mem_append.1 h with h | h
    · split at h
      · rcases List.mem_map.1 h with ⟨s, -, rfl⟩
        exact List.cons_ne_nil name s.names
      · cases h
    · exact ih h

/-- A file further down is kept if the first directory on the way is entered and the file is kept from there. -/
theorem keeps_under (f : Filter) (root : Bytes) (name : Name) {r : Regular} (hne : r.names ≠ []) :
    f.keeps root (r.under name) = (f.enters name && f.keeps (Path.join root name) r) := by
  have hdrop : (r.under name).names.dropLast = name :: r.names.dropLast := List.dropLast_cons_of_ne_nil hne
  have hpath : Path.joinAll root (r.under name).names = Path.joinAll (Path.join root name) r.names := rfl
  rw [Filter.keeps, Filter.keeps, hdrop, hpath, List.all_cons, Bool.and_assoc]

/-- The files that are found are those kept among all files. -/
theorem found_eq_filter (l : Listing) : l.found f root = (l.found .keepAll root).filter (f.keeps root) := by
  induction l generalizing root with
  | nil => rfl
  | leaf name lf rest ih =>
    cases lf with
    | file content locked =>
      rw [found, found, List.filter_append, ← ih]
      congr 1
      -- a file in the directory itself has no directory on the way
      have hkeeps : f.keeps root ⟨[name], content, locked⟩ = f.includes (Path.join root name) := rfl
      have hall : Filter.keepAll.includes (Path.join root name) = true := rfl
      rw [hall, if_pos rfl, List.filter_cons, List.filter_nil, hkeeps]
    | link target => exact ih
    | fifo => exact ih
  | dir name locked below rest ihbelow ih =>
    rw [found, found, List.filter_append, ← ih]
    congr 1
    cases locked with
    | true => simp
    | false =>
      have hall : Filter.keepAll.enters name = true := rfl
      rw [Bool.not_false, Bool.and_true, hall, Bool.and_true, if_pos rfl, List.filter_map]
      -- what is found below is judged by its own names, and by the name of this directory
      have hcongr : (below.found .keepAll (Path.join root name)).filter (f.keeps root ∘ (·.under name)) =
          (below.found .keepAll (Path.join root name)).filter
            fun r => f.enters name && f.keeps (Path.join root name) r := by
        apply List.filter_congr
        intro r hr
        exact keeps_under f root name (names_ne_nil_of_mem_found hr)
      rw [hcongr]
      cases henters : f.enters name with
      | true =>
        simp only [Bool.true_and, if_true]
        rw [ihbelow]
      | false => simp

end Listing

/-! ## Paths -/

/-- The names behind a root on a path below it. -/
def Path.below (root path : Bytes) : List Name := (split path).drop (stem root).length

theorem Path.below_joinAll {names : List Name} (h : ∀ n ∈ names, isName n = true) (hne : names ≠ [])
    (root : Bytes) : below root (joinAll root names) = names := by
  rw [below, split_joinAll h hne, List.drop_left]

/-- Whether a path below a root is kept: the names strictly between are those of directories that are entered, and the
path is that of a file that is counted. -/
def Filter.admits (f : Filter) (root path : Bytes) : Bool :=
  (Path.below root path).dropLast.all f.enters && f.includes path

namespace FileSystem

variable {fs : FileSystem} {f f' : Filter} {root : Bytes} {listing : Listing}

/-- A scan of a root is the scan of everything below it, with only the paths left that are kept. -/
theorem scan_eq_filter (hopen : fs.openDirectory root = .ok listing) (f : Filter) :
    ∃ all, fs.scan .keepAll root = .ok all ∧ fs.scan f root = .ok (all.filter (f.admits root)) := by
  have hl : listing.WellFormed := wellFormed_openDirectory hopen
  refine ⟨_, scan_eq_found hopen, ?_⟩
  rw [scan_eq_found hopen, Listing.found_eq_filter, List.filter_map, List.filter_map]
  congr 3
  apply List.filter_congr
  intro r hr
  have hscanned := (Listing.mem_found_iff hl).1 hr
  have hbelow : Path.below root (Path.joinAll root r.names) = r.names :=
    Path.below_joinAll (hscanned.isName hl) (Listing.names_ne_nil_of_mem_found hr) root
  show f.keeps root r = f.admits root (Path.joinAll root r.names)
  rw [Filter.keeps, Filter.admits, hbelow]

end FileSystem

/-! ## Narrower filters -/

/-- Whatever a filter lets through, another lets through too. -/
structure Filter.Narrows (f' f : Filter) : Prop where
  enters : ∀ name, f'.enters name = true → f.enters name = true
  includes : ∀ path, f'.includes path = true → f.includes path = true

theorem Filter.Narrows.admits {f f' : Filter} (h : f'.Narrows f) {root path : Bytes}
    (hadmits : f'.admits root path = true) : f.admits root path = true := by
  rw [Filter.admits, Bool.and_eq_true, List.all_eq_true] at hadmits ⊢
  rcases hadmits with ⟨hbetween, hincludes⟩
  exact ⟨fun name hname => h.enters name (hbetween name hname), h.includes path hincludes⟩

namespace FileSystem

variable {fs : FileSystem} {f f' : Filter} {root : Bytes} {listing : Listing}

/-- A narrower filter leaves a part of the scan, in the same order. -/
theorem scan_sublist (hopen : fs.openDirectory root = .ok listing) (h : f'.Narrows f) :
    ∃ paths paths', fs.scan f root = .ok paths ∧ fs.scan f' root = .ok paths' ∧ paths'.Sublist paths := by
  rcases scan_eq_filter hopen f with ⟨all, hall, hscan⟩
  rcases scan_eq_filter hopen f' with ⟨all', hall', hscan'⟩
  obtain rfl : all = all' := Except.ok.inj (hall.symm.trans hall')
  refine ⟨_, _, hscan, hscan', ?_⟩
  exact List.monotone_filter_right all fun path hadmits => h.admits hadmits

end FileSystem

end LineCensus
