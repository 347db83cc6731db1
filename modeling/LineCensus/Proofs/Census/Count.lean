import Mathlib.Data.List.Basic
import LineCensus.Proofs.Census.Partition
import LineCensus.Proofs.Census.Record
import LineCensus.Proofs.Scan.Read

/-!
# LineCensus.Proofs.Census.Count — the census of a scan

1. `Listing.measured`: what is counted below a directory. `census_eq_grouped`: its census is that of these files.
2. `FileSystem.isText`, `FileSystem.measured?`: whether a file is counted, and as what, said of its path.
3. `count_eq_grouped`: the census of a root is that of the files at the paths of its scan, each by itself.
   `exists_scan_of_count`: so it is with every census that succeeds.
4. `count_tallies_text`: what the totals and the entries are, and in which order the entries stand.
-/

namespace LineCensus

namespace Listing

/-- What the files that are found below a directory are counted as. -/
def measured (f : Filter) (registry : Registry) (root : Bytes) (l : Listing) : List (String × Breakdown) :=
  (l.found f root).filterMap fun r => (r.candidate root).measured? registry

/-- The census of a directory is that of the files that are counted below it. -/
theorem census_eq_grouped (rules : Rules) (registry : Registry) (root : Bytes) (l : Listing) :
    (countListing rules registry root l).census = Census.grouped (l.measured rules.filter registry root) := by
  show census (readings registry (walk rules.filter root l)) = _
  rw [census, Census.recordAll_eq_grouped, filterMap_readings]
  rfl

end Listing

namespace FileSystem

/-! ## One file -/

/-- Whether all of the file at a path can be read and is well-formed. -/
def isText (fs : FileSystem) (path : Bytes) : Bool := (fs.readText? path).isSome

/-- The extension under which the file at a path is counted and its breakdown, if it is text. -/
def measured? (fs : FileSystem) (registry : Registry) (path : Bytes) : Option (String × Breakdown) :=
  (fs.readText? path).map fun text =>
    (Path.key path, Breakdown.measure text (Path.key path) registry)

variable {fs : FileSystem} {registry : Registry}

/-- The keys of the files that are counted are the keys of the paths with text. -/
theorem keys_measured (paths : List Bytes) :
    (paths.filterMap (fs.measured? registry)).map (·.1) = (paths.filter fs.isText).map Path.key := by
  induction paths with
  | nil => rfl
  | cons path rest ih =>
    cases htext : fs.readText? path with
    | none =>
      have hnone : fs.measured? registry path = none := by rw [measured?, htext, Option.map_none]
      have hnot : ¬fs.isText path = true := by simp [isText, htext]
      rw [List.filterMap_cons_none hnone, List.filter_cons_of_neg hnot, ih]
    | some text =>
      have hsome : fs.measured? registry path =
          some (Path.key path, Breakdown.measure text (Path.key path) registry) := by
        rw [measured?, htext, Option.map_some]
      have his : fs.isText path = true := by simp [isText, htext]
      rw [List.filterMap_cons_some hsome, List.filter_cons_of_pos his, List.map_cons, List.map_cons, ih]

/-- A file that is to be found below a root is counted as the file at its path. -/
theorem measured?_candidate (registry : Registry) {f : Filter} {root : Bytes} {listing : Listing}
    (hopen : fs.openDirectory root = .ok listing) {r : Regular} (h : listing.Scanned f root r) :
    (r.candidate root).measured? registry = fs.measured? registry (Path.joinAll root r.names) := by
  rw [measured?, readText?_candidate hopen h]
  rfl

/-- The parts of every file that is counted add up to its lines. -/
theorem lines_of_mem_measured {paths : List Bytes} {file : String × Breakdown}
    (h : file ∈ paths.filterMap (fs.measured? registry)) :
    file.2.lines = file.2.blank + file.2.comments + file.2.code := by
  rcases List.mem_filterMap.1 h with ⟨path, -, hfile⟩
  rcases Option.map_eq_some_iff.1 hfile with ⟨text, -, rfl⟩
  exact (Breakdown.blank_add_comments_add_code text (Path.key path) registry).symm

/-! ## All files -/

variable {rules : Rules} {root : Bytes} {paths : List Bytes}

/-- The census of a root is that of the files at the paths of its scan. -/
theorem count_eq_grouped (registry : Registry) (h : fs.scan rules.filter root = .ok paths) :
    ∃ counted, fs.count rules registry root = .ok counted ∧
      counted.census = Census.grouped (paths.filterMap (fs.measured? registry)) := by
  rcases exists_openDirectory_of_scan h with ⟨listing, hopen, rfl⟩
  have hl : listing.WellFormed := wellFormed_openDirectory hopen
  refine ⟨countListing rules registry root listing, by rw [count, hopen]; rfl, ?_⟩
  rw [Listing.census_eq_grouped, Listing.measured, List.map_map, List.filterMap_map]
  congr 1
  -- file by file, the walk hands over the text that is read at the path
  apply List.filterMap_congr
  intro r hr
  exact measured?_candidate registry hopen ((Listing.mem_found_iff hl).1 hr)

/-- A census that succeeds is that of the files at the paths of a scan. -/
theorem exists_scan_of_count {counted : Counted} (h : fs.count rules registry root = .ok counted) :
    ∃ listing, fs.openDirectory root = .ok listing ∧
      counted.census = Census.grouped
        ((((listing.found rules.filter root).map (·.names)).map (Path.joinAll root)).filterMap
          (fs.measured? registry)) := by
  cases hopen : fs.openDirectory root with
  | error failure =>
    rw [count, hopen] at h
    cases h
  | ok listing =>
    have hscan := scan_eq_found (f := rules.filter) hopen
    rcases count_eq_grouped registry hscan with ⟨counted', hcount, hcensus⟩
    rw [h] at hcount
    obtain rfl := Except.ok.inj hcount
    exact ⟨listing, rfl, hcensus⟩

/-- The census of a root that can be scanned: the totals are the sums over the files with text at the paths
of the scan, each measured by itself. There is an entry for the key of each such file, in the order in which
the keys first come, with the sums over the files of that key. Lines are blank lines, comments and code
throughout. -/
theorem count_tallies_text (registry : Registry) (h : fs.scan rules.filter root = .ok paths) :
    ∃ counted, fs.count rules registry root = .ok counted ∧
      let files := paths.filterMap (fs.measured? registry)
      let keys := ((paths.filter fs.isText).map Path.key).eraseDups
      let totals := counted.census.totals
      totals = .sum (files.map (·.2)) ∧
        counted.census.entries = keys.map (fun key => (key, .sum (Census.under key files))) ∧
        (∀ key, key ∈ counted.census.entries.map (·.1) ↔
          ∃ path ∈ paths, fs.isText path = true ∧ Path.key path = key) ∧
        totals.lines = totals.blank + totals.comments + totals.code ∧
        ∀ entry ∈ counted.census.entries,
          entry.2.lines = entry.2.blank + entry.2.comments + entry.2.code := by
  rcases count_eq_grouped registry h with ⟨counted, hcount, hcensus⟩
  have hmem : ∀ key, key ∈ ((paths.filter fs.isText).map Path.key).eraseDups ↔
      ∃ path ∈ paths, fs.isText path = true ∧ Path.key path = key := by
    intro key
    rw [List.mem_eraseDups, List.mem_map]
    simp only [List.mem_filter, and_assoc]
  have hparts : ∀ file ∈ paths.filterMap (fs.measured? registry),
      file.2.lines = file.2.blank + file.2.comments + file.2.code :=
    fun _ hfile => lines_of_mem_measured hfile
  refine ⟨counted, hcount, ?_⟩
  intro files keys totals
  have htotals : totals = .sum (files.map (·.2)) := congrArg Census.totals hcensus
  have hentries : counted.census.entries = keys.map (fun key => (key, .sum (Census.under key files))) := by
    rw [hcensus, Census.grouped, keys_measured]
  refine ⟨htotals, hentries, ?_, ?_, ?_⟩
  · intro key
    rw [hentries, List.map_map]
    simpa [keys] using hmem key
  · rw [htotals]
    exact Census.lines_totals_grouped hparts
  · intro entry hentry
    rw [hcensus] at hentry
    exact Census.lines_entries_grouped hparts entry hentry

/-- The files `a.x`, which is no text, `b.y`, `c.x` and `d.y`, which is locked. -/
def someText : FileSystem where
  top :=
    .leaf [0x61, 0x2e, 0x78] (.file [0xff] false)
      (.leaf [0x62, 0x2e, 0x79] (.file [0x31] false)
        (.leaf [0x63, 0x2e, 0x78] (.file [0x32, 0x0a, 0x0a] false)
          (.leaf [0x64, 0x2e, 0x79] (.file [0x33] true) .nil)))
  wellFormed := by decide
  here := []

/-- All four files are scanned, and `.y` stands before `.x`: the first file that would be counted under `.x`
is none. -/
theorem count_tallies_someText :
    someText.scan Rules.empty.filter [0x2f] =
        .ok [[0x2f, 0x61, 0x2e, 0x78], [0x2f, 0x62, 0x2e, 0x79], [0x2f, 0x63, 0x2e, 0x78],
          [0x2f, 0x64, 0x2e, 0x79]] ∧
      ∃ counted, someText.count Rules.empty .empty [0x2f] = .ok counted ∧
        counted.census.totals = ⟨2, 3, 1, 0, 2⟩ ∧
        counted.census.entries = [(".y", ⟨1, 1, 0, 0, 1⟩), (".x", ⟨1, 2, 1, 0, 1⟩)] := by
  have hscan : someText.scan Rules.empty.filter [0x2f] =
      .ok [[0x2f, 0x61, 0x2e, 0x78], [0x2f, 0x62, 0x2e, 0x79], [0x2f, 0x63, 0x2e, 0x78],
        [0x2f, 0x64, 0x2e, 0x79]] := by decide +kernel
  refine ⟨hscan, ?_⟩
  rcases count_tallies_text .empty hscan with ⟨counted, hcount, htotals, hentries, -⟩
  refine ⟨counted, hcount, ?_, ?_⟩
  · rw [htotals]
    decide +kernel
  · rw [hentries]
    decide +kernel

end FileSystem

end LineCensus
