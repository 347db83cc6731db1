import LineCensus.Scan
import LineCensus.Proofs.FileTree.Resolve

/-!
# LineCensus.Proofs.Scan.Found — which files a scan finds

1. `Regular`: a regular file below a directory, by the names that lead to it. `Listing.Scanned`: what it
   takes for it to be found.
2. `Listing.found`: the files in the order of the walk. `candidates_walk`: these are the files that the walk
   reports.
3. `mem_found_iff`: the files found are those that `Scanned` describes.
4. `pairwise_found`: their names rise in the order of lists of names. Hence `nodup_joinAll_found`: no path is
   found twice.
5. `scan_eq_found`, `scan_finds_exactly`: both for the root of a scan.
-/

namespace LineCensus

/-- A regular file below a directory: the names that lead to it, and what it holds. -/
structure Regular where
  names : List Name
  content : Bytes
  locked : Bool
deriving DecidableEq, Repr

namespace Regular

/-- The file seen from the directory above. -/
def under (name : Name) (r : Regular) : Regular := { r with names := name :: r.names }

theorem under_eq_iff {s : Regular} {name head : Name} {more : List Name} {content : Bytes} {locked : Bool} :
    s.under name = ⟨head :: more, content, locked⟩ ↔ name = head ∧ s = ⟨more, content, locked⟩ := by
  rcases s with ⟨names, content', locked'⟩
  simp [under, and_assoc]

/-- The file with its path, for the path of the directory. -/
def candidate (root : Bytes) (r : Regular) : Candidate :=
  ⟨Path.joinAll root r.names, r.content, r.locked⟩

end Regular

namespace Listing

variable {f : Filter} {root : Bytes}

/-! ## What is to be found -/

/-- A file is to be found: it is there, every directory between is a directory itself, can be listed and is
entered because of its name, and the file is to be counted because of its path. -/
structure Scanned (f : Filter) (root : Bytes) (l : Listing) (r : Regular) : Prop where
  file : l.lookup? r.names = some (.leaf (.file r.content r.locked))
  between : ∀ dirs d, dirs ++ [d] <+: r.names → dirs ++ [d] ≠ r.names →
    (∃ below, l.lookup? (dirs ++ [d]) = some (.dir false below)) ∧ f.enters d = true
  included : f.includes (Path.joinAll root r.names) = true

theorem not_scanned_nil {l : Listing} {content : Bytes} {locked : Bool} :
    ¬Scanned f root l ⟨[], content, locked⟩ := by
  intro h
  cases h.file

/-- A file directly in the directory has no directory in between. -/
theorem scanned_singleton_iff {l : Listing} {name : Name} {content : Bytes} {locked : Bool} :
    Scanned f root l ⟨[name], content, locked⟩ ↔
      l.find? name = some (.leaf (.file content locked)) ∧ f.includes (Path.join root name) = true := by
  constructor
  · intro h
    exact ⟨h.file, h.included⟩
  · rintro ⟨hfile, hincluded⟩
    refine ⟨hfile, ?_, hincluded⟩
    intro dirs d hprefix hne
    -- a prefix of one name that is not empty is that name
    rcases hprefix with ⟨rest, hrest⟩
    cases dirs with
    | nil =>
      rcases List.cons.inj hrest with ⟨rfl, -⟩
      exact absurd rfl hne
    | cons a dirs => simp at hrest

theorem lookup_cons_cons {l : Listing} {name next : Name} {more : List Name} :
    l.lookup? (name :: next :: more) =
      match l.find? name with
      | some (.dir _ below) => below.lookup? (next :: more)
      | _ => none := rfl

/-- A file further down is to be found below the first directory on the way, which is entered. -/
theorem scanned_cons_iff {l : Listing} {name next : Name} {more : List Name} {content : Bytes}
    {locked : Bool} :
    Scanned f root l ⟨name :: next :: more, content, locked⟩ ↔
      ∃ below, l.find? name = some (.dir false below) ∧ f.enters name = true ∧
        Scanned f (Path.join root name) below ⟨next :: more, content, locked⟩ := by
  constructor
  · intro h
    rcases h.between [] name ⟨next :: more, rfl⟩ (by simp) with ⟨⟨below, hbelow⟩, henters⟩
    have hfind : l.find? name = some (.dir false below) := hbelow
    refine ⟨below, hfind, henters, ?_, ?_, h.included⟩
    · have hfile := h.file
      rw [lookup_cons_cons, hfind] at hfile
      exact hfile
    · intro dirs d hprefix hne
      have hup := h.between (name :: dirs) d ((List.prefix_cons_inj name).2 hprefix)
        fun heq => hne (List.cons.inj heq).2
      cases dirs <;> simpa [lookup?, hfind] using hup
  · rintro ⟨below, hfind, henters, h⟩
    refine ⟨?_, ?_, h.included⟩
    · rw [lookup_cons_cons, hfind]
      exact h.file
    · intro dirs d hprefix hne
      cases dirs with
      | nil =>
        rcases hprefix with ⟨rest, hrest⟩
        rcases List.cons.inj hrest with ⟨rfl, -⟩
        exact ⟨⟨below, hfind⟩, henters⟩
      | cons a dirs =>
        rcases hprefix with ⟨rest, hrest⟩
        rcases List.cons.inj hrest with ⟨rfl, hrest'⟩
        have hdown := h.between dirs d ⟨rest, hrest'⟩ fun heq => hne (congrArg (a :: ·) heq)
        cases dirs <;> simpa [lookup?, hfind] using hdown

/-- Whether a file is to be found depends on the entry of its first name only. -/
theorem scanned_congr {l l' : Listing} {name : Name} (h : l.find? name = l'.find? name)
    {more : List Name} {content : Bytes} {locked : Bool} :
    Scanned f root l ⟨name :: more, content, locked⟩ ↔
      Scanned f root l' ⟨name :: more, content, locked⟩ := by
  cases more with
  | nil => rw [scanned_singleton_iff, scanned_singleton_iff, h]
  | cons next more => rw [scanned_cons_iff, scanned_cons_iff, h]

/-- The first name of a file that is to be found is the name of an entry. -/
theorem Scanned.exists_cons {l : Listing} {r : Regular} (h : Scanned f root l r) :
    ∃ name more, r.names = name :: more ∧ name ∈ l.names := by
  rcases r with ⟨names, content, locked⟩
  cases names with
  | nil => exact absurd h not_scanned_nil
  | cons name more =>
    refine ⟨name, more, rfl, ?_⟩
    cases more with
    | nil => exact mem_names_of_find? h.file
    | cons next more =>
      rcases scanned_cons_iff.1 h with ⟨below, hfind, -, -⟩
      exact mem_names_of_find? hfind

theorem Scanned.names_ne_nil {l : Listing} {r : Regular} (h : Scanned f root l r) : r.names ≠ [] := by
  rcases h.exists_cons with ⟨name, more, hnames, -⟩
  rw [hnames]
  exact List.cons_ne_nil name more

/-- What is to be found in a listing that begins with an entry that is no directory. -/
theorem scanned_leaf_iff {name : Name} {lf : Leaf} {rest : Listing} (hrest : ∀ n ∈ rest.names, name < n)
    {r : Regular} :
    Scanned f root (.leaf name lf rest) r ↔
      (r.names = [name] ∧ lf = .file r.content r.locked ∧ f.includes (Path.join root name) = true) ∨
        Scanned f root rest r := by
  rcases r with ⟨names, content, locked⟩
  cases names with
  | nil => simp [not_scanned_nil]
  | cons head more =>
    by_cases hhead : name = head
    · -- the names behind are greater, so the file is this entry or none
      subst hhead
      have hnone : rest.find? name = none := find?_eq_none_of_lt hrest
      have hnot : ¬Scanned f root rest ⟨name :: more, content, locked⟩ := by
        cases more with
        | nil => simp [scanned_singleton_iff, hnone]
        | cons next more => simp [scanned_cons_iff, hnone]
      cases more with
      | nil => simp [scanned_singleton_iff, hnone, find?]
      | cons next more => simp [scanned_cons_iff, hnone, find?]
    · have hfind : (leaf name lf rest).find? head = rest.find? head := if_neg hhead
      rw [scanned_congr hfind]
      simp [Ne.symm hhead]

/-- What is to be found in a listing that begins with a directory. -/
theorem scanned_dir_iff {name : Name} {locked : Bool} {below rest : Listing}
    (hrest : ∀ n ∈ rest.names, name < n) {r : Regular} :
    Scanned f root (.dir name locked below rest) r ↔
      (locked = false ∧ f.enters name = true ∧
          ∃ s, Scanned f (Path.join root name) below s ∧ s.under name = r) ∨
        Scanned f root rest r := by
  rcases r with ⟨names, content, lock⟩
  cases names with
  | nil => simp [not_scanned_nil, Regular.under]
  | cons head more =>
    simp only [Regular.under_eq_iff]
    by_cases hhead : name = head
    · -- the names behind are greater, so the file is in this directory or nowhere
      subst hhead
      have hnone : rest.find? name = none := find?_eq_none_of_lt hrest
      cases more with
      | nil => simp [scanned_singleton_iff, hnone, find?, not_scanned_nil]
      | cons next more => simp [scanned_cons_iff, hnone, find?, and_assoc]
    · have hfind : (dir name locked below rest).find? head = rest.find? head := if_neg hhead
      rw [scanned_congr hfind]
      simp [hhead]

/-! ## What is found -/

/-- The files found below the directory at `root`, in the order of the walk. -/
def found (f : Filter) (root : Bytes) : Listing → List Regular
  | .nil => []
  | .leaf name (.file content locked) rest =>
    (if f.includes (Path.join root name) then [⟨[name], content, locked⟩] else []) ++ rest.found f root
  | .leaf _ (.link _) rest | .leaf _ .fifo rest => rest.found f root
  | .dir name locked below rest =>
    (if f.enters name && !locked then (below.found f (Path.join root name)).map (·.under name) else [])
      ++ rest.found f root

theorem candidates_append (as bs : List Visit) :
    candidates (as ++ bs) = candidates as ++ candidates bs := List.filterMap_append

/-- The files that the walk reports. -/
theorem candidates_walk (l : Listing) :
    candidates (walk f root l) = (l.found f root).map (·.candidate root) := by
  induction l generalizing root with
  | nil => rfl
  | leaf name lf rest ih =>
    rw [walk, candidates_append, ih]
    cases lf with
    | file content locked =>
      rw [found, List.map_append]
      congr 1
      by_cases hincludes : f.includes (Path.join root name) = true
      · simp [visitLeaf, hincludes, candidates, Visit.candidate?, Regular.candidate, Path.joinAll]
      · simp [visitLeaf, hincludes, candidates]
    | link target => rfl
    | fifo => rfl
  | dir name locked below rest ihbelow ih =>
    rw [walk, candidates_append, ih, found, List.map_append]
    congr 1
    cases henters : f.enters name with
    | false => rfl
    | true =>
      cases locked with
      | true => rfl
      | false =>
        simp only [Bool.not_true, Bool.false_eq_true, if_false, Bool.not_false, Bool.and_self, if_true]
        rw [ihbelow, List.map_map]
        rfl

/-- The files found in a well-formed directory are those that are to be found. -/
theorem mem_found_iff {l : Listing} (hl : l.WellFormed) {r : Regular} :
    r ∈ l.found f root ↔ Scanned f root l r := by
  induction l generalizing root r with
  | nil =>
    constructor
    · intro h
      cases h
    · intro h
      rcases h.exists_cons with ⟨_, _, -, hmem⟩
      cases hmem
  | leaf name lf rest ih =>
    rcases hl with ⟨-, hrest, hwf⟩
    rw [scanned_leaf_iff hrest, ← ih hwf]
    cases lf with
    | file content locked =>
      rcases r with ⟨names, content', locked'⟩
      rw [found, List.mem_append]
      apply or_congr_left
      by_cases hincludes : f.includes (Path.join root name) = true
      · rw [if_pos hincludes, List.mem_singleton, Regular.mk.injEq, Leaf.file.injEq, eq_comm (a := content),
          eq_comm (a := locked)]
        simp [hincludes]
      · simp [hincludes]
    | link target => simp [found]
    | fifo => simp [found]
  | dir name locked below rest ihbelow ih =>
    rcases hl with ⟨-, hrest, hbelow, hwf⟩
    rw [scanned_dir_iff hrest, ← ih hwf, found, List.mem_append]
    apply or_congr_left
    -- with the files below known to be found, both sides say the same of name and lock
    simp only [← ihbelow hbelow]
    cases locked <;> cases f.enters name <;> simp

/-- The names on the way to a file that is to be found are names of entries. -/
theorem Scanned.isName {l : Listing} (hl : l.WellFormed) {r : Regular} (h : Scanned f root l r) :
    ∀ n ∈ r.names, Path.isName n = true := by
  rcases r with ⟨names, content, locked⟩
  induction names generalizing root l with
  | nil => exact absurd h not_scanned_nil
  | cons name more ih =>
    rcases h.exists_cons with ⟨_, _, heq, hmem⟩
    rcases List.cons.inj heq with ⟨rfl, -⟩
    have hname : Path.isName name = true := hl.isName name hmem
    intro n hn
    rcases List.mem_cons.1 hn with rfl | hn
    · exact hname
    · cases more with
      | nil => cases hn
      | cons next more =>
        rcases scanned_cons_iff.1 h with ⟨below, hfind, -, hbelow⟩
        exact ih (hl.of_find?_dir hfind) hbelow n hn

/-- Names that begin with the name of an entry come before those of the files behind the entry. -/
theorem lt_of_mem_found {name : Name} {more names : List Name} {rest : Listing} (hwf : rest.WellFormed)
    (hrest : ∀ n ∈ rest.names, name < n) (h : names ∈ (rest.found f root).map (·.names)) :
    name :: more < names := by
  rcases List.mem_map.1 h with ⟨r, hr, rfl⟩
  rcases ((mem_found_iff hwf).1 hr).exists_cons with ⟨head, tail, hnames, hmem⟩
  rw [hnames]
  exact List.cons_lt_cons_iff.2 (.inl (hrest head hmem))

/-- The files are found in the order of the lists of their names. -/
theorem pairwise_found {l : Listing} (hl : l.WellFormed) :
    ((l.found f root).map (·.names)).Pairwise (· < ·) := by
  induction l generalizing root with
  | nil => exact .nil
  | leaf name lf rest ih =>
    rcases hl with ⟨-, hrest, hwf⟩
    cases lf with
    | file content locked =>
      rw [found, List.map_append, List.pairwise_append]
      refine ⟨?_, ih hwf, ?_⟩
      · split
        · exact List.pairwise_singleton _ _
        · exact .nil
      · intro names hnames names' hnames'
        split at hnames
        · obtain rfl := List.mem_singleton.1 hnames
          exact lt_of_mem_found hwf hrest hnames'
        · cases hnames
    | link target => exact ih hwf
    | fifo => exact ih hwf
  | dir name locked below rest ihbelow ih =>
    rcases hl with ⟨-, hrest, hbelow, hwf⟩
    rw [found, List.map_append, List.pairwise_append]
    refine ⟨?_, ih hwf, ?_⟩
    · split
      · -- the names below come in order, and one more name in front of each keeps it
        have horder : ((below.found f (Path.join root name)).map (·.names)).Pairwise (· < ·) :=
          ihbelow hbelow
        rw [List.pairwise_map] at horder
        rw [List.map_map, List.pairwise_map]
        exact horder.imp fun hlt => List.cons_lt_cons_iff.2 (.inr ⟨rfl, hlt⟩)
      · exact .nil
    · intro names hnames names' hnames'
      split at hnames
      · rw [List.map_map] at hnames
        rcases List.mem_map.1 hnames with ⟨s, -, rfl⟩
        exact lt_of_mem_found hwf hrest hnames'
      · cases hnames

/-- Names that come in order lead to paths that are all different. -/
theorem nodup_joinAll_found {l : Listing} (hl : l.WellFormed) :
    (((l.found f root).map (·.names)).map (Path.joinAll root)).Nodup := by
  have hnames : ∀ names ∈ (l.found f root).map (·.names), ∀ n ∈ names, Path.isName n = true := by
    intro names hmem
    rcases List.mem_map.1 hmem with ⟨r, hr, rfl⟩
    exact ((mem_found_iff hl).1 hr).isName hl
  rw [List.Nodup, List.pairwise_map]
  refine (pairwise_found hl).imp_of_mem ?_
  intro names names' hmem hmem' hlt heq
  have hsame : names = names' := Path.joinAll_injective (hnames names hmem) (hnames names' hmem') heq
  exact List.lt_irrefl names (hsame ▸ hlt)

end Listing

/-! ## The root of a scan -/

namespace FileSystem

variable {fs : FileSystem} {f : Filter} {root : Bytes} {listing : Listing}

/-- A scan gives the paths of the files found below the root. -/
theorem scan_eq_found (h : fs.openDirectory root = .ok listing) :
    fs.scan f root = .ok (((listing.found f root).map (·.names)).map (Path.joinAll root)) := by
  rw [scan, visits, h]
  simp only [Except.map]
  rw [Listing.candidates_walk, List.map_map, List.map_map]
  rfl

/-- A root that is scanned can be opened. -/
theorem exists_openDirectory_of_scan {paths : List Bytes} (h : fs.scan f root = .ok paths) :
    ∃ listing, fs.openDirectory root = .ok listing ∧
      paths = ((listing.found f root).map (·.names)).map (Path.joinAll root) := by
  cases hopen : fs.openDirectory root with
  | error failure => simp [scan, visits, hopen, Except.map] at h
  | ok listing =>
    rw [scan_eq_found hopen] at h
    exact ⟨listing, rfl, (Except.ok.inj h).symm⟩

/-- A scan of a root that can be opened gives the paths of the files to be found below it, each once, in the
order of the lists of the names that lead to them. -/
theorem scan_finds_exactly (h : fs.openDirectory root = .ok listing) :
    ∃ files : List (List Name),
      fs.scan f root = .ok (files.map (Path.joinAll root)) ∧
        files.Pairwise (· < ·) ∧
        (files.map (Path.joinAll root)).Nodup ∧
        ∀ names, names ∈ files ↔
          ∃ content locked, listing.Scanned f root ⟨names, content, locked⟩ := by
  have hl : listing.WellFormed := wellFormed_openDirectory h
  refine ⟨(listing.found f root).map (·.names), scan_eq_found h, Listing.pairwise_found hl,
    Listing.nodup_joinAll_found hl, ?_⟩
  intro names
  rw [List.mem_map]
  constructor
  · rintro ⟨r, hr, rfl⟩
    exact ⟨r.content, r.locked, (Listing.mem_found_iff hl).1 hr⟩
  · rintro ⟨content, locked, hscanned⟩
    exact ⟨_, (Listing.mem_found_iff hl).2 hscanned, rfl⟩

/-- A directory with one of everything: `a/z`, the file `a!`, a locked directory, a link, a pipe, and `s/x`. -/
def sampleBelow : Listing :=
  .dir [0x61] false (.leaf [0x7a] (.file [0x31] false) .nil)
    (.leaf [0x61, 0x21] (.file [0x32] true)
      (.dir [0x6c] true (.leaf [0x78] (.file [] false) .nil)
        (.leaf [0x6d] (.link [0x2f, 0x64])
          (.leaf [0x70] .fifo
            (.dir [0x73] false (.leaf [0x78] (.file [] false) .nil) .nil)))))

/-- The directory at `d`, with a link `r` to it beside. -/
def sample : FileSystem where
  top := .dir [0x64] false sampleBelow (.leaf [0x72] (.link [0x64]) .nil)
  wellFormed := by decide
  here := []

/-- Below the link as the root, with `s` not entered, `r/a/z` comes before `r/a!`, though the paths compare
the other way. Nothing else is found. -/
theorem scan_finds_sample :
    sample.openDirectory [0x72] = .ok sampleBelow ∧
      sample.scan (Filter.prune [0x73]) [0x72] =
        .ok [[0x72, 0x2f, 0x61, 0x2f, 0x7a], [0x72, 0x2f, 0x61, 0x21]] ∧
      ∃ files : List (List Name),
        sample.scan (Filter.prune [0x73]) [0x72] = .ok (files.map (Path.joinAll [0x72])) ∧
          files.Pairwise (· < ·) ∧
          (files.map (Path.joinAll [0x72])).Nodup ∧
          ∀ names, names ∈ files ↔
            ∃ content locked,
              sampleBelow.Scanned (Filter.prune [0x73]) [0x72] ⟨names, content, locked⟩ := by
  have hopen : sample.openDirectory [0x72] = .ok sampleBelow := by rfl
  have hscan : sample.scan (Filter.prune [0x73]) [0x72] =
      .ok [[0x72, 0x2f, 0x61, 0x2f, 0x7a], [0x72, 0x2f, 0x61, 0x21]] := by rfl
  exact ⟨hopen, hscan, scan_finds_exactly hopen⟩

end FileSystem

end LineCensus
