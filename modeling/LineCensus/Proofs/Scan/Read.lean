import LineCensus.Count
import LineCensus.Proofs.Scan.Found

/-!
# LineCensus.Proofs.Scan.Read — reading the files that a scan found

The walk hands every file over together with its content. Here the files are read by their paths instead:

1. `descend_of_scanned`: the names of a file that is to be found lead to it.
2. `readFile_of_scanned`: so does its path, for any root.
3. `FileSystem.readText?`: the text of a file, read by its path. `readText?_candidate`: it is the text that
   the walk hands over.
4. `filterMap_readings`: what is counted of a walk is counted file by file.
-/

namespace LineCensus

namespace FileSystem

variable {fs : FileSystem} {f : Filter} {root : Bytes} {listing : Listing}

/-- The names of a file that is to be found below a directory lead from there to the file. -/
theorem descend_of_scanned {t : Trail} (hl : (fs.listingOf t).WellFormed) (hlocked : isLocked t = false)
    {r : Regular} (h : (fs.listingOf t).Scanned f root r) :
    fs.descend t r.names = .done (.leaf (.file r.content r.locked)) := by
  rcases r with ⟨names, content, locked⟩
  induction names generalizing t root with
  | nil => exact absurd h Listing.not_scanned_nil
  | cons name more ih =>
    have hname : Path.isName name = true := h.isName hl name List.mem_cons_self
    cases more with
    | nil =>
      rcases Listing.scanned_singleton_iff.1 h with ⟨hfind, -⟩
      exact descend_name hname hlocked hfind
    | cons next more =>
      -- the directory below is not locked, so the way goes on there
      rcases Listing.scanned_cons_iff.1 h with ⟨below, hfind, -, hbelow⟩
      rw [descend_name hname hlocked hfind]
      exact ih (hl.of_find?_dir hfind) rfl hbelow

/-- A file that is to be found below a root is read by its path. -/
theorem readFile_of_scanned (hopen : fs.openDirectory root = .ok listing) {r : Regular}
    (h : listing.Scanned f root r) :
    fs.readFile (Path.joinAll root r.names) = if r.locked then .error .denied else .ok r.content := by
  have hl : listing.WellFormed := wellFormed_openDirectory hopen
  rcases openDirectory_eq_ok_iff.1 hopen with ⟨t, hresolve, hlocked, rfl⟩
  have hfile : fs.resolve (Path.joinAll root r.names) = .ok (.leaf (.file r.content r.locked)) :=
    resolve_joinAll hresolve (h.isName hl) h.names_ne_nil (descend_of_scanned hl hlocked h)
  rw [readFile, hfile]
  cases r.locked <;> rfl

/-- The text of the file at a path, if all of it can be read and is well-formed. -/
def readText? (fs : FileSystem) (path : Bytes) : Option (List Char) :=
  match fs.readFile path with
  | .ok content => Text.decode? content
  | .error _ => none

/-- The file that the walk hands over has the text that is read at its path. -/
theorem readText?_candidate (hopen : fs.openDirectory root = .ok listing) {r : Regular}
    (h : listing.Scanned f root r) :
    fs.readText? (Path.joinAll root r.names) = (r.candidate root).text? := by
  rw [readText?, readFile_of_scanned hopen h]
  unfold Candidate.text?
  cases hlocked : r.locked <;> simp [Regular.candidate, hlocked]

end FileSystem

/-- What is counted of a walk is what is counted of each file that it finds. -/
theorem filterMap_readings (f : Filter) (registry : Registry) (root : Bytes) (l : Listing) :
    (readings registry (walk f root l)).filterMap (·.measured) =
      (l.found f root).filterMap fun r => (r.candidate root).measured? registry := by
  rw [readings, Listing.candidates_walk, List.map_map, List.filterMap_map]
  rfl

end LineCensus
