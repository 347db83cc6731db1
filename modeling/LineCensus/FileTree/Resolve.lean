import LineCensus.FileTree.Listing
import LineCensus.Failure

/-!
# LineCensus.FileTree.Resolve — where a path leads

1. `FileSystem`: the listing of the root, well-formed, and the working directory.
2. `Trail`: the directories passed on the way, innermost first.
3. `descend`: follows pieces of a path through directories, up to a link.
4. `resolve`: follows a path and the links on it, at most forty of them.
5. `openDirectory`, `readFile`: what a census needs of a file system, the listing of a root and the
   content of a file.
-/

namespace LineCensus

/-- A tree of files below the root, well-formed at every level, and a working directory. -/
structure FileSystem where
  top : Listing
  wellFormed : top.WellFormed
  here : List Name

/-- A directory that is passed on the way. -/
structure Passed where
  name : Name
  locked : Bool
  listing : Listing
deriving Repr

/-- The directories passed on the way from the root, innermost first. -/
abbrev Trail := List Passed

/-- Where a path leads. -/
inductive Place where
  | dir (trail : Trail)
  | leaf (leaf : Leaf)
deriving Repr

/-- Why a path leads nowhere. -/
inductive ResolveFault where
  /-- A name does not exist. -/
  | missing
  /-- The path goes on behind something that is no directory. -/
  | notDirectory
  /-- A locked directory is passed through, or what is locked is read. -/
  | denied
  /-- A name is longer than 255 bytes. -/
  | nameTooLong
  /-- There are too many links on the way. -/
  | tooManyLinks
  /-- The path holds a zero byte. -/
  | zeroByte
  /-- A directory or a pipe is read like a file. -/
  | notFile
deriving DecidableEq, Repr

namespace ResolveFault

/-- A line of text for each cause. -/
def message : ResolveFault → String
  | .missing => "No such file or directory"
  | .notDirectory => "Not a directory"
  | .denied => "Permission denied"
  | .nameTooLong => "File name too long"
  | .tooManyLinks => "Too many levels of symbolic links"
  | .zeroByte => "file name contained an unexpected NUL byte"
  | .notFile => "Is a directory"

end ResolveFault

/-- The greatest number of links on the way. -/
def linkLimit : Nat := 40

namespace FileSystem

/-- The listing at the inner end of a trail. -/
def listingOf (fs : FileSystem) : Trail → Listing
  | [] => fs.top
  | p :: _ => p.listing

/-- Whether the directory at the inner end of a trail is locked. -/
def isLocked : Trail → Bool
  | [] => false
  | p :: _ => p.locked

/-! ## Following pieces -/

/-- What following pieces comes to. -/
inductive Descent where
  | done (place : Place)
  | fault (cause : ResolveFault)
  /-- A link in the directory at the end of the trail, and the pieces behind it. -/
  | link (target : Bytes) (trail : Trail) (rest : List Name)

/-- Follows pieces from the directory at the end of a trail. An empty piece, as between two slashes or
behind the last one, asks for no more than a directory. -/
def descend (fs : FileSystem) (trail : Trail) : List Name → Descent
  | [] => .done (.dir trail)
  | piece :: rest =>
    if piece.isEmpty then fs.descend trail rest
    else if isLocked trail then .fault .denied
    else if piece = Path.dot then fs.descend trail rest
    else if piece = Path.dotDot then fs.descend trail.tail rest
    else if nameLimit < piece.length then .fault .nameTooLong
    else
      match (fs.listingOf trail).find? piece with
      | none => .fault .missing
      | some (.dir locked below) => fs.descend (⟨piece, locked, below⟩ :: trail) rest
      | some (.leaf (.link target)) => .link target trail rest
      | some (.leaf l) => if rest.isEmpty then .done (.leaf l) else .fault .notDirectory

/-- Where a path begins when it is met in the directory at the end of a trail. -/
def startOf (trail : Trail) (path : Bytes) : Trail := if Path.isAbsolute path then [] else trail

/-- Follows pieces, and at most `links` links on the way. -/
def follow (fs : FileSystem) : (links : Nat) → Trail → List Name → Except ResolveFault Place
  | links, trail, pieces =>
    match fs.descend trail pieces with
    | .done place => .ok place
    | .fault cause => .error cause
    | .link target trail rest =>
      match links with
      | 0 => .error .tooManyLinks
      | links + 1 =>
        if target.isEmpty then .error .missing
        else fs.follow links (startOf trail target) (Path.split target ++ rest)

/-- The trail that leads through directories of the given names, as far as there are such. -/
def trailThrough (fs : FileSystem) (trail : Trail) : List Name → Trail
  | [] => trail
  | name :: rest =>
    match (fs.listingOf trail).find? name with
    | some (.dir locked below) => fs.trailThrough (⟨name, locked, below⟩ :: trail) rest
    | _ => trail

/-- The trail of the working directory. -/
def workingTrail (fs : FileSystem) : Trail := fs.trailThrough [] fs.here

/-- The path of the working directory. -/
def workingPath (fs : FileSystem) : Bytes := fs.here.foldl Path.join [Path.slash]

/-- Where a path leads. -/
def resolve (fs : FileSystem) (path : Bytes) : Except ResolveFault Place :=
  if path.contains 0 then .error .zeroByte
  else if path.isEmpty then .error .missing
  else fs.follow linkLimit (startOf fs.workingTrail path) (Path.split path)

/-! ## Roots and files -/

/-- The listing of the directory a path leads to, as the root of a census. -/
def openDirectory (fs : FileSystem) (path : Bytes) : Except Failure Listing :=
  match fs.resolve path with
  | .error .missing => .error (.rootMissing path)
  | .error cause => .error (.rootUnreadable path cause.message)
  | .ok (.leaf _) => .error (.rootNotDirectory path)
  | .ok (.dir trail) =>
    if isLocked trail then .error (.rootUnreadable path ResolveFault.denied.message)
    else .ok (fs.listingOf trail)

/-- The content of the file a path leads to. -/
def readFile (fs : FileSystem) (path : Bytes) : Except ResolveFault Bytes :=
  match fs.resolve path with
  | .error cause => .error cause
  | .ok (.leaf (.file content false)) => .ok content
  | .ok (.leaf (.file _ true)) => .error .denied
  | .ok (.leaf _) | .ok (.dir _) => .error .notFile

end FileSystem

end LineCensus
