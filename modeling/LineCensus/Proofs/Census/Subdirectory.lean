import LineCensus.Proofs.Census.Count
import LineCensus.Proofs.Census.Merge
import LineCensus.Proofs.Census.Order
import LineCensus.Proofs.Scan.Root

/-!
# LineCensus.Proofs.Census.Subdirectory — the census of a directory and those of the directories in it

1. `Listing.foundAt`, `measuredAt`: the files found at one entry, and what they are counted as. `measured_eq_flatMap`:
   what is counted below a directory is counted entry by entry.
2. `openDirectory_join`, `census_join`: a directory in a directory, as a root of its own.
3. `filesIn`, `censusesIn`: what is counted of files in a root, and the censuses of directories in it.
4. `exists_parts`: what is counted below a directory is what is counted of its own files and below the directories
   in it, in another order.
5. `count_additive`: hence a census is the sum of those of the directories in it, and of the files beside them.
-/

namespace LineCensus

namespace Listing

variable {f : Filter} {registry : Registry} {root : Bytes}

/-- The files found at an entry. -/
def foundAt (f : Filter) (root : Bytes) (name : Name) : Entry → List Regular
  | .leaf (.file content locked) =>
    if f.includes (Path.join root name) then [⟨[name], content, locked⟩] else []
  | .leaf (.link _) | .leaf .fifo => []
  | .dir locked below =>
    if f.enters name && !locked then (below.found f (Path.join root name)).map (·.under name) else []

/-- The files below a directory are found entry by entry. -/
theorem found_eq_flatMap (l : Listing) :
    l.found f root = l.entries.flatMap fun entry => foundAt f root entry.1 entry.2 := by
  induction l with
  | nil => rfl
  | leaf name lf rest ih =>
    rw [entries, List.flatMap_cons, ← ih]
    cases lf <;> rfl
  | dir name locked below rest _ ih =>
    rw [entries, List.flatMap_cons, ← ih]
    rfl

/-- What the files found at an entry are counted as. -/
def measuredAt (f : Filter) (registry : Registry) (root : Bytes) (name : Name) (e : Entry) :
    List (String × Breakdown) :=
  (foundAt f root name e).filterMap fun r => (r.candidate root).measured? registry

theorem measured_eq_flatMap (l : Listing) :
    l.measured f registry root = l.entries.flatMap fun entry => measuredAt f registry root entry.1 entry.2 := by
  rw [measured, found_eq_flatMap, List.filterMap_flatMap]
  rfl

/-- Below a directory that is entered the files are counted as they are with this directory as the root. -/
theorem measuredAt_dir {name : Name} {locked : Bool} {below : Listing} :
    measuredAt f registry root name (.dir locked below) =
      if f.enters name && !locked then below.measured f registry (Path.join root name) else [] := by
  rw [measuredAt, foundAt]
  split
  · rw [List.filterMap_map]
    rfl
  · rfl

end Listing

namespace FileSystem

variable {fs : FileSystem} {rules : Rules} {registry : Registry} {root : Bytes} {listing : Listing}

/-! ## The entries of a root -/

/-- A directory in a root can be opened by its path, unless it is locked. -/
theorem openDirectory_join (hopen : fs.openDirectory root = .ok listing) {name : Name} {locked : Bool}
    {below : Listing} (hfind : listing.find? name = some (.dir locked below)) :
    fs.openDirectory (Path.join root name) =
      if locked then .error (.rootUnreadable (Path.join root name) ResolveFault.denied.message) else .ok below := by
  have hname : Path.isName name = true :=
    (wellFormed_openDirectory hopen).isName name (Listing.mem_names_of_find? hfind)
  rcases openDirectory_eq_ok_iff.1 hopen with ⟨trail, hresolve, hunlocked, rfl⟩
  have hdescend : fs.descend trail [name] = .done (.dir (⟨name, locked, below⟩ :: trail)) := by
    rw [descend_name hname hunlocked hfind]
    rfl
  have hjoin : fs.resolve (Path.joinAll root [name]) = .ok (.dir (⟨name, locked, below⟩ :: trail)) :=
    resolve_joinAll hresolve (by simpa using hname) (List.cons_ne_nil name []) hdescend
  have hpath : fs.resolve (Path.join root name) = .ok (.dir (⟨name, locked, below⟩ :: trail)) := hjoin
  rw [openDirectory, hpath]
  rfl

/-- The census of a directory in a root is that of the files below it, unless it is locked. -/
theorem census_join (rules : Rules) (registry : Registry) (hopen : fs.openDirectory root = .ok listing)
    {name : Name} {locked : Bool} {below : Listing} (hfind : listing.find? name = some (.dir locked below)) :
    (fs.count rules registry (Path.join root name)).toOption.map (·.census) =
      if locked then none else some (Census.grouped (below.measured rules.filter registry (Path.join root name))) := by
  rw [count, openDirectory_join hopen hfind]
  cases locked with
  | true => rfl
  | false => exact congrArg some (Listing.census_eq_grouped rules registry _ below)

/-! ## Files and directories in a root -/

/-- What the files of some names in a root are counted as, each at its path if it is included. -/
def filesIn (fs : FileSystem) (rules : Rules) (registry : Registry) (root : Bytes) (names : List Name) :
    List (String × Breakdown) :=
  ((names.map (Path.join root)).filter rules.includes).filterMap (fs.measured? registry)

/-- The censuses of the directories of some names in a root, each taken at its path if its name is not ignored; one
that fails is left out. -/
def censusesIn (fs : FileSystem) (rules : Rules) (registry : Registry) (root : Bytes) (names : List Name) :
    List Census :=
  (names.filter rules.enters).filterMap fun name =>
    (fs.count rules registry (Path.join root name)).toOption.map (·.census)

theorem filesIn_cons (name : Name) (names : List Name) :
    fs.filesIn rules registry root (name :: names) =
      fs.filesIn rules registry root [name] ++ fs.filesIn rules registry root names := by
  unfold filesIn
  rw [← List.filterMap_append, ← List.filter_append, ← List.map_append, List.singleton_append]

theorem censusesIn_cons (name : Name) (names : List Name) :
    fs.censusesIn rules registry root (name :: names) =
      fs.censusesIn rules registry root [name] ++ fs.censusesIn rules registry root names := by
  unfold censusesIn
  rw [← List.filterMap_append, ← List.filter_append, List.singleton_append]

/-- The files found at a file in a root are the file itself, if it is included. -/
theorem measuredAt_file (hopen : fs.openDirectory root = .ok listing) {name : Name} {content : Bytes} {locked : Bool}
    (hfind : listing.find? name = some (.leaf (.file content locked))) :
    Listing.measuredAt rules.filter registry root name (.leaf (.file content locked)) =
      fs.filesIn rules registry root [name] := by
  show (if rules.includes (Path.join root name) then [Regular.mk [name] content locked] else []).filterMap _ =
    ([Path.join root name].filter rules.includes).filterMap _
  by_cases hincludes : rules.includes (Path.join root name) = true
  · have hscanned : listing.Scanned rules.filter root ⟨[name], content, locked⟩ :=
      Listing.scanned_singleton_iff.2 ⟨hfind, hincludes⟩
    have hmeasured := measured?_candidate registry hopen hscanned
    rw [if_pos hincludes, List.filter_cons_of_pos hincludes, List.filterMap_cons, List.filterMap_cons, hmeasured]
    rfl
  · rw [if_neg hincludes, List.filter_cons_of_neg hincludes]
    rfl

/-- The files found at a directory in a root are those of its own census, if there is one. -/
theorem measuredAt_directory (rules : Rules) (registry : Registry) (hopen : fs.openDirectory root = .ok listing)
    {name : Name} {locked : Bool} {below : Listing} (hfind : listing.find? name = some (.dir locked below)) :
    ∃ parts : List (List (String × Breakdown)),
      fs.censusesIn rules registry root [name] = parts.map Census.grouped ∧
        Listing.measuredAt rules.filter registry root name (.dir locked below) = parts.flatten := by
  have hcensus := census_join rules registry hopen hfind
  have hmeasured : Listing.measuredAt rules.filter registry root name (.dir locked below) =
      if rules.enters name && !locked then below.measured rules.filter registry (Path.join root name) else [] :=
    Listing.measuredAt_dir
  rw [hmeasured, censusesIn]
  cases henters : rules.enters name with
  | false =>
    refine ⟨[], ?_, rfl⟩
    simp [henters]
  | true =>
    cases locked with
    | true =>
      -- a directory that cannot be listed cannot be opened either
      refine ⟨[], ?_, rfl⟩
      simp [henters, hcensus]
    | false =>
      refine ⟨[below.measured rules.filter registry (Path.join root name)], ?_, ?_⟩
      · simp [henters, hcensus]
      · rw [List.flatten_singleton]
        rfl

/-- What is counted at some entries of a root is what is counted of the files among them and in the censuses of the
directories among them, in another order. -/
theorem exists_parts (rules : Rules) (registry : Registry) (hopen : fs.openDirectory root = .ok listing)
    {entries : List (Name × Entry)} (hentries : ∀ entry ∈ entries, listing.find? entry.1 = some entry.2) :
    ∃ parts : List (List (String × Breakdown)),
      fs.censusesIn rules registry root ((entries.filter (·.2.isDirectory)).map (·.1)) = parts.map Census.grouped ∧
        (entries.flatMap fun entry => Listing.measuredAt rules.filter registry root entry.1 entry.2).Perm
          (fs.filesIn rules registry root ((entries.filter (·.2.isFile)).map (·.1)) ++ parts.flatten) := by
  induction entries with
  | nil => exact ⟨[], rfl, .nil⟩
  | cons entry rest ih =>
    rcases entry with ⟨name, e⟩
    have hfind : listing.find? name = some e := hentries (name, e) List.mem_cons_self
    rcases ih fun entry hentry => hentries entry (List.mem_cons_of_mem _ hentry) with ⟨parts, hparts, hperm⟩
    rw [List.flatMap_cons]
    cases e with
    | dir locked below =>
      rcases measuredAt_directory rules registry hopen hfind with ⟨front, hfront, hbelow⟩
      refine ⟨front ++ parts, ?_, ?_⟩
      · rw [List.filter_cons_of_pos rfl, List.map_cons, censusesIn_cons, hfront, hparts, List.map_append]
      · -- what is below this directory moves behind the files
        rw [List.filter_cons_of_neg (by simp [Entry.isFile]), List.flatten_append, hbelow]
        exact (hperm.append_left _).trans (List.perm_append_comm_assoc _ _ _)
    | leaf lf =>
      refine ⟨parts, ?_, ?_⟩
      · rw [List.filter_cons_of_neg (by simp [Entry.isDirectory]), hparts]
      · cases lf with
        | file content locked =>
          rw [List.filter_cons_of_pos rfl, List.map_cons, filesIn_cons, measuredAt_file hopen hfind, List.append_assoc]
          exact hperm.append_left _
        | link target => exact hperm
        | fifo => exact hperm

/-! ## The sum -/

/-- A census is the sum of the census of the files directly in the root, each recorded at its path if it is included
and is text, and of the censuses of the directories directly in the root, each taken with that directory as the root
if its name is not ignored and it succeeds. Links are none of these directories. The sum is the same but for the order
of its entries. -/
theorem count_additive {counted : Counted} (h : fs.count rules registry root = .ok counted) :
    ∃ listing, fs.openDirectory root = .ok listing ∧
      let files := listing.namesOf Entry.isFile
      let directories := listing.namesOf Entry.isDirectory
      let own := Census.empty.recordAll (fs.filesIn rules registry root files)
      counted.census.same (own.plusAll (fs.censusesIn rules registry root directories)) = true ∧
        (files.Pairwise (· < ·) ∧ ∀ name, name ∈ files ↔
          ∃ content locked, listing.find? name = some (.leaf (.file content locked))) ∧
        directories.Pairwise (· < ·) ∧ ∀ name, name ∈ directories ↔
          ∃ locked below, listing.find? name = some (.dir locked below) := by
  rcases count_eq_ok_iff.1 h with ⟨listing, hopen, rfl⟩
  have hl : listing.WellFormed := wellFormed_openDirectory hopen
  refine ⟨listing, hopen, ?_⟩
  intro files directories own
  refine ⟨?_, ⟨Listing.pairwise_namesOf hl _, ?_⟩, Listing.pairwise_namesOf hl _, ?_⟩
  · have hentries : ∀ entry ∈ listing.entries, listing.find? entry.1 = some entry.2 :=
      fun _ hentry => (Listing.mem_entries_iff hl).1 hentry
    rcases exists_parts rules registry hopen hentries with ⟨parts, hparts, hperm⟩
    rw [← Listing.measured_eq_flatMap] at hperm
    have hsum : own.plusAll (fs.censusesIn rules registry root directories) =
        Census.grouped (fs.filesIn rules registry root files ++ parts.flatten) := by
      have hcensuses : fs.censusesIn rules registry root directories = parts.map Census.grouped := hparts
      have hown : own = Census.grouped (fs.filesIn rules registry root files) := Census.recordAll_eq_grouped _
      rw [hown, hcensuses, Census.plusAll_grouped]
    rw [hsum, Listing.census_eq_grouped]
    exact Census.same_of_perm (Census.nodup_keys_grouped _) (Census.totals_grouped_perm hperm)
      (Census.entries_grouped_perm hperm)
  · intro name
    exact Listing.mem_namesOf_isFile_iff hl
  · intro name
    exact Listing.mem_namesOf_isDirectory_iff hl

/-- The directory `b`, the locked directory `k`, the link `l` to `b`, the file `m.y`, the file `n.y`, which is no text,
and the directories `r` and `s`. -/
def branches : Listing :=
  .dir [0x62] false (.leaf [0x61, 0x2e, 0x78] (.file [0x32, 0x0a, 0x0a] false) .nil)
    (.dir [0x6b] true (.leaf [0x61, 0x2e, 0x78] (.file [0x31] false) .nil)
      (.leaf [0x6c] (.link [0x62])
        (.leaf [0x6d, 0x2e, 0x79] (.file [0x33] false)
          (.leaf [0x6e, 0x2e, 0x79] (.file [0xff] false)
            (.dir [0x72] false (.leaf [0x61, 0x2e, 0x78] (.file [0x31] false) .nil)
              (.dir [0x73] false (.leaf [0x61, 0x2e, 0x79] (.file [0x34] false) .nil) .nil))))))

/-- All of these in the directory `d`, with a link `r` to it beside. -/
def branching : FileSystem where
  top := .dir [0x64] false branches (.leaf [0x72] (.link [0x64]) .nil)
  wellFormed := by decide
  here := []

/-- With `r` ignored and the link `r` as the root, `m.y` and the directories `b` and `s` are counted. The walk comes to
`b` first, and in the sum `m.y` is first. -/
theorem count_additive_branching :
    ∃ counted, branching.count (Rules.empty.addDirectory "r") .empty [0x2f, 0x72] = .ok counted ∧
      counted.census.entries = [(".x", ⟨1, 2, 1, 0, 1⟩), (".y", ⟨2, 2, 0, 0, 2⟩)] ∧
      counted.census.same ⟨⟨3, 4, 1, 0, 3⟩, [(".y", ⟨2, 2, 0, 0, 2⟩), (".x", ⟨1, 2, 1, 0, 1⟩)]⟩ = true := by
  have hopen : branching.openDirectory [0x2f, 0x72] = .ok branches := by rfl
  have hcount : branching.count (Rules.empty.addDirectory "r") .empty [0x2f, 0x72] =
      .ok (countListing (Rules.empty.addDirectory "r") .empty [0x2f, 0x72] branches) :=
    count_eq_ok_iff.2 ⟨branches, hopen, rfl⟩
  refine ⟨_, hcount, by decide +kernel, ?_⟩
  rcases count_additive hcount with ⟨listing, hlisting, hsame, -⟩
  obtain rfl := Except.ok.inj (hopen.symm.trans hlisting)
  have hsum : (Census.empty.recordAll (branching.filesIn (Rules.empty.addDirectory "r") .empty [0x2f, 0x72]
        (branches.namesOf Entry.isFile))).plusAll
      (branching.censusesIn (Rules.empty.addDirectory "r") .empty [0x2f, 0x72] (branches.namesOf Entry.isDirectory)) =
      ⟨⟨3, 4, 1, 0, 3⟩, [(".y", ⟨2, 2, 0, 0, 2⟩), (".x", ⟨1, 2, 1, 0, 1⟩)]⟩ := by decide +kernel
  rw [← hsum]
  exact hsame

end FileSystem

end LineCensus
