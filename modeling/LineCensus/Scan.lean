import LineCensus.Event
import LineCensus.FileTree.Resolve
import LineCensus.Ignore.Filter

/-!
# LineCensus.Scan — walking through a directory

The walk goes through each directory in the order of names, and through a directory below before the names
after it. Links, pipes and the like are passed over.

1. `Visit`: what the walk reports, a file, a directory left out or a directory that cannot be listed.
2. `walk`: everything the walk reports below a directory.
3. `scan`: the paths of the files, for a root given by its path.
-/

namespace LineCensus

/-- A regular file that is to be counted. -/
structure Candidate where
  path : Bytes
  content : Bytes
  locked : Bool
deriving DecidableEq, Repr

/-- What the walk reports. -/
inductive Visit where
  /-- A file that is to be counted. -/
  | file (candidate : Candidate)
  /-- A directory that is not entered because of its name. -/
  | ignored (path : Bytes)
  /-- A directory that is entered and cannot be listed. -/
  | unreadable (path : Bytes)
deriving DecidableEq, Repr

namespace Visit

/-- The file that is reported, if it is one. -/
def candidate? : Visit → Option Candidate
  | .file candidate => some candidate
  | _ => none

/-- The event that is logged, if there is one. -/
def event? : Visit → Option Event
  | .file _ => none
  | .ignored path => some (.ignoredDirectory path)
  | .unreadable path => some (.unreadableEntry path)

end Visit

/-! ## The walk -/

/-- What is reported of an entry that is no directory. -/
def visitLeaf (f : Filter) (path : Bytes) : Leaf → List Visit
  | .file content locked => if f.includes path then [.file ⟨path, content, locked⟩] else []
  | .link _ | .fifo => []

/-- What is reported of the entries of the directory at `path`. -/
def walk (f : Filter) (path : Bytes) : Listing → List Visit
  | .nil => []
  | .leaf name l rest => visitLeaf f (Path.join path name) l ++ walk f path rest
  | .dir name locked below rest =>
    (if !f.enters name then [.ignored (Path.join path name)]
      else if locked then [.unreadable (Path.join path name)]
      else walk f (Path.join path name) below)
    ++ walk f path rest

/-- The files among what is reported. -/
def candidates (visits : List Visit) : List Candidate := visits.filterMap Visit.candidate?

namespace FileSystem

/-- What is reported below a root. The root itself is entered whatever its name. -/
def visits (fs : FileSystem) (f : Filter) (root : Bytes) : Except Failure (List Visit) :=
  (fs.openDirectory root).map (walk f root)

/-- The paths of the files below a root, in the order of the walk. -/
def scan (fs : FileSystem) (f : Filter) (root : Bytes) : Except Failure (List Bytes) :=
  (fs.visits f root).map fun visits => (candidates visits).map (·.path)

end FileSystem

end LineCensus
