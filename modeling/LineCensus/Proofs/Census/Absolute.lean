import Mathlib.Data.List.Basic
import LineCensus.Proofs.Census.Count
import LineCensus.Proofs.FileTree.Idle
import LineCensus.Proofs.Scan.Root

/-!
# LineCensus.Proofs.Census.Absolute — what a root is called makes no difference

A census is taken of the directory that a path leads to. The path itself is put in front of the names of files, and
neither rules nor keys look at more than the last name.

1. `Filter.ByName`: a filter that looks at the names of files only. `Rules.byName_filter`: rules make such filters.
2. `found_congr`, `census_countListing_congr`: below one directory the same files are found and counted, whatever the
   directory is called.
3. `count_absolute`: hence a path and its absolute form have the same census.
-/

namespace LineCensus

/-! ## Names of files -/

/-- A filter looks at no more than the name of a file, whatever directory the file is in. -/
def Filter.ByName (f : Filter) : Prop :=
  ∀ path path' name, Path.isName name = true → f.includes (Path.join path name) = f.includes (Path.join path' name)

theorem Path.fileName?_join {name : Name} (h : isName name = true) (path : Bytes) :
    fileName? (join path name) = some name :=
  @fileName?_joinAll [name] (by simpa using h) (List.cons_ne_nil name []) path

theorem Path.extension?_join {name : Name} (h : isName name = true) (path : Bytes) :
    extension? (join path name) = nameExtension? name := by
  rw [extension?, fileName?_join h, Option.bind_some]

/-- Rules look at the name of a file and its extension. -/
theorem Rules.byName_filter (rules : Rules) : rules.filter.ByName := by
  intro path path' name hname
  have hbinary : hasBinaryExtension (Path.join path name) = hasBinaryExtension (Path.join path' name) := by
    rw [hasBinaryExtension, hasBinaryExtension, Path.extension?_join hname, Path.extension?_join hname]
  show rules.includes (Path.join path name) = rules.includes (Path.join path' name)
  rw [Rules.includes, Rules.includes, hbinary, Path.fileName?_join hname, Path.fileName?_join hname]

/-- The key of a file below a directory does not depend on the path of the directory. -/
theorem Path.key_joinAll_congr {names : List Name} (h : ∀ n ∈ names, isName n = true) (hne : names ≠ [])
    (path path' : Bytes) : key (joinAll path names) = key (joinAll path' names) := by
  have hextension : extension? (joinAll path names) = extension? (joinAll path' names) := by
    rw [extension?, extension?, fileName?_joinAll h hne, fileName?_joinAll h hne]
  rw [key, key, hextension]

/-! ## One directory under two paths -/

namespace Listing

variable {f : Filter}

/-- Whatever a directory is called, the same files are found below it. -/
theorem found_congr (hf : f.ByName) {l : Listing} (hl : l.WellFormed) (root root' : Bytes) :
    l.found f root = l.found f root' := by
  induction l generalizing root root' with
  | nil => rfl
  | leaf name lf rest ih =>
    rcases hl with ⟨hname, -, hwf⟩
    cases lf with
    | file content locked => rw [found, found, hf root root' name hname, ih hwf root root']
    | link target => exact ih hwf root root'
    | fifo => exact ih hwf root root'
  | dir name locked below rest ihbelow ih =>
    rcases hl with ⟨-, -, hbelow, hwf⟩
    rw [found, found, ihbelow hbelow (Path.join root name) (Path.join root' name), ih hwf root root']

/-- A file is counted as the same, whatever the directory above it is called. -/
theorem measured?_candidate_congr {l : Listing} (hl : l.WellFormed) {root : Bytes} {r : Regular}
    (hr : r ∈ l.found f root) (registry : Registry) (root' : Bytes) :
    (r.candidate root).measured? registry = (r.candidate root').measured? registry := by
  have hscanned : Scanned f root l r := (mem_found_iff hl).1 hr
  have hkey : Path.key (r.candidate root).path = Path.key (r.candidate root').path :=
    Path.key_joinAll_congr (hscanned.isName hl) hscanned.names_ne_nil root root'
  have htext : (r.candidate root).text? = (r.candidate root').text? := rfl
  rw [Candidate.measured?, Candidate.measured?, htext, hkey]

/-- Whatever a directory is called, its census is the same. -/
theorem census_countListing_congr {l : Listing} (hl : l.WellFormed) (rules : Rules) (registry : Registry)
    (root root' : Bytes) :
    (countListing rules registry root l).census = (countListing rules registry root' l).census := by
  rw [census_eq_grouped, census_eq_grouped, measured, measured]
  congr 1
  rw [← found_congr rules.byName_filter hl root root']
  exact List.filterMap_congr fun r hr => measured?_candidate_congr hl hr registry root'

end Listing

/-! ## Absolute paths -/

namespace FileSystem

variable {fs : FileSystem} {rules : Rules} {registry : Registry} {root : Bytes}

/-- A census can be taken under an absolute path if one can be taken under the path itself, and then it is the same,
with its entries in the same order. Both paths open the same directory, and the files that are found below it have the
same names from there on. Where the path is not absolute itself, it is seen from the working directory, which has to
stand, as it does in every file system that is built around it (`stands_built`). -/
theorem count_absolute (rules : Rules) (registry : Registry) {path : Bytes} (hne : path ≠ [])
    (hstands : Path.isAbsolute path = false → fs.Stands) :
    let whole := Path.absolute fs.workingPath path
    ((∃ counted, fs.count rules registry whole = .ok counted) ↔ ∃ counted, fs.count rules registry path = .ok counted) ∧
      (∀ counted counted', fs.count rules registry whole = .ok counted → fs.count rules registry path = .ok counted' →
        counted.census = counted'.census) ∧
      (∀ listing, fs.openDirectory whole = .ok listing ↔ fs.openDirectory path = .ok listing) ∧
      ∀ paths paths', fs.scan rules.filter whole = .ok paths → fs.scan rules.filter path = .ok paths' →
        ∃ files : List (List Name), paths = files.map (Path.joinAll whole) ∧ paths' = files.map (Path.joinAll path) := by
  intro whole
  have hopen : ∀ listing, fs.openDirectory whole = .ok listing ↔ fs.openDirectory path = .ok listing :=
    fun _ => openDirectory_absolute hne hstands
  refine ⟨?_, ?_, hopen, ?_⟩
  · simp only [count_eq_ok_iff, hopen]
    constructor
    · rintro ⟨_, listing, hlisting, -⟩
      exact ⟨_, listing, hlisting, rfl⟩
    · rintro ⟨_, listing, hlisting, -⟩
      exact ⟨_, listing, hlisting, rfl⟩
  · intro counted counted' hwhole hpath
    rcases count_eq_ok_iff.1 hwhole with ⟨listing, hlisting, rfl⟩
    rcases count_eq_ok_iff.1 hpath with ⟨listing', hlisting', rfl⟩
    obtain rfl : listing = listing' := Except.ok.inj (((hopen listing).1 hlisting).symm.trans hlisting')
    exact Listing.census_countListing_congr (wellFormed_openDirectory hlisting') rules registry whole path
  · intro paths paths' hwhole hpath
    rcases exists_openDirectory_of_scan hwhole with ⟨listing, hlisting, rfl⟩
    rcases exists_openDirectory_of_scan hpath with ⟨listing', hlisting', rfl⟩
    obtain rfl : listing = listing' := Except.ok.inj (((hopen listing).1 hlisting).symm.trans hlisting')
    have hfound : listing.found rules.filter whole = listing.found rules.filter path :=
      Listing.found_congr rules.byName_filter (wellFormed_openDirectory hlisting') whole path
    exact ⟨_, by rw [hfound], rfl⟩

/-- The working directory `t` with the file `s/d/a.x` and the link `l` to `s/d`. -/
def crossing : FileSystem where
  top :=
    .dir [0x74] false
      (.leaf [0x6c] (.link [0x73, 0x2f, 0x64])
        (.dir [0x73] false
          (.dir [0x64] false (.leaf [0x61, 0x2e, 0x78] (.file [0x31] false) .nil) .nil)
          .nil))
      .nil
  wellFormed := by decide
  here := [[0x74]]

/-- The path `./l//../d/.` goes through the link and up from where it leads. Its absolute form is `/t/l/../d`, and has the
census of the one file. -/
theorem count_absolute_crossing :
    crossing.Stands ∧
      Path.absolute crossing.workingPath [0x2e, 0x2f, 0x6c, 0x2f, 0x2f, 0x2e, 0x2e, 0x2f, 0x64, 0x2f, 0x2e] =
        [0x2f, 0x74, 0x2f, 0x6c, 0x2f, 0x2e, 0x2e, 0x2f, 0x64] ∧
      ∃ counted, crossing.count .empty .empty [0x2f, 0x74, 0x2f, 0x6c, 0x2f, 0x2e, 0x2e, 0x2f, 0x64] = .ok counted ∧
        counted.census = ⟨⟨1, 1, 0, 0, 1⟩, [(".x", ⟨1, 1, 0, 0, 1⟩)]⟩ := by
  have hstands : crossing.Stands := ⟨by decide, _, _, rfl⟩
  have hwhole : Path.absolute crossing.workingPath [0x2e, 0x2f, 0x6c, 0x2f, 0x2f, 0x2e, 0x2e, 0x2f, 0x64, 0x2f, 0x2e] =
      [0x2f, 0x74, 0x2f, 0x6c, 0x2f, 0x2e, 0x2e, 0x2f, 0x64] := by decide
  refine ⟨hstands, hwhole, ?_⟩
  rcases @count_absolute crossing .empty .empty
      [0x2e, 0x2f, 0x6c, 0x2f, 0x2f, 0x2e, 0x2e, 0x2f, 0x64, 0x2f, 0x2e] (by decide) fun _ => hstands with
    ⟨hiff, hsame, -, -⟩
  rw [hwhole] at hiff hsame
  have hopen : crossing.openDirectory [0x2e, 0x2f, 0x6c, 0x2f, 0x2f, 0x2e, 0x2e, 0x2f, 0x64, 0x2f, 0x2e] =
      .ok (.leaf [0x61, 0x2e, 0x78] (.file [0x31] false) .nil) := by rfl
  obtain ⟨counted', hcount'⟩ : ∃ counted', crossing.count .empty .empty
      [0x2e, 0x2f, 0x6c, 0x2f, 0x2f, 0x2e, 0x2e, 0x2f, 0x64, 0x2f, 0x2e] = .ok counted' :=
    ⟨_, count_eq_ok_iff.2 ⟨_, hopen, rfl⟩⟩
  rcases hiff.2 ⟨counted', hcount'⟩ with ⟨counted, hcount⟩
  refine ⟨counted, hcount, ?_⟩
  rw [hsame counted counted' hcount hcount']
  rcases count_eq_ok_iff.1 hcount' with ⟨listing, hlisting, rfl⟩
  obtain rfl := Except.ok.inj (hopen.symm.trans hlisting)
  decide +kernel

end FileSystem

end LineCensus
