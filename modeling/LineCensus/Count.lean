import LineCensus.Scan

/-!
# LineCensus.Count — the census of a directory

1. `Candidate.text?`: the text of a file, if it can be read and is one.
2. `Candidate.measured?`: the extension it is counted under and its breakdown.
3. `Reading`, `readings`: the files that a walk reported, each read once.
4. `census`: the census of files.
5. `Counted`, `countListing`, `FileSystem.count`: the census of a root, with the log: first what the walk
   met, then the files, then that it is finished.
-/

namespace LineCensus

namespace Candidate

/-- The text of a file that can be read and is well-formed. -/
def text? (c : Candidate) : Option (List Char) :=
  if c.locked then none else Text.decode? c.content

/-- The extension a file is counted under and its breakdown, unless it cannot be read. -/
def measured? (registry : Registry) (c : Candidate) : Option (String × Breakdown) :=
  c.text?.map fun text =>
    (Path.key c.path, Breakdown.measure text (Path.key c.path) registry)

end Candidate

/-- A file with what it is counted as; nothing if it cannot be read. -/
structure Reading where
  candidate : Candidate
  measured : Option (String × Breakdown)
deriving DecidableEq, Repr

namespace Reading

/-- Reads a file. -/
def ofCandidate (registry : Registry) (c : Candidate) : Reading := ⟨c, c.measured? registry⟩

/-- What is logged of a file: that it cannot be read, or that its comments overlap its blank lines. -/
def event? (r : Reading) : Option Event :=
  match r.measured with
  | none => some (.unreadableFile r.candidate.path)
  | some (extension, b) =>
    if b.overlaps then some (.overlap extension b.lines b.blank b.comments) else none

end Reading

/-! ## The census of a walk -/

/-- What the files come to that a walk reported. -/
def readings (registry : Registry) (visits : List Visit) : List Reading :=
  (candidates visits).map (Reading.ofCandidate registry)

/-- The census of files. -/
def census (files : List Reading) : Census := Census.empty.recordAll (files.filterMap (·.measured))

/-! ## The census of a root -/

/-- A census with what was logged on the way. -/
structure Counted where
  census : Census
  events : List Event
deriving Repr

/-- The census of an open directory under the path of the root. -/
def countListing (rules : Rules) (registry : Registry) (root : Bytes) (listing : Listing) : Counted :=
  let visits := walk rules.filter root listing
  let files := readings registry visits
  let result := LineCensus.census files
  ⟨result, visits.filterMap Visit.event? ++ files.filterMap Reading.event?
    ++ [.complete root files.length result.totals.files]⟩

namespace FileSystem

/-- The census of a root. -/
def count (fs : FileSystem) (rules : Rules) (registry : Registry) (root : Bytes) :
    Except Failure Counted :=
  (fs.openDirectory root).map (countListing rules registry root)

end FileSystem

end LineCensus
