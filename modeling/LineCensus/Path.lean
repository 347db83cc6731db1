import LineCensus.Census.Basic
import LineCensus.Text.Utf8

/-!
# LineCensus.Path — paths as bytes between slashes

1. `Path.split`, `Path.join`: the pieces between slashes, and a path with one more name. `Path.isName`: the
   names that entries of directories have.
2. `Path.fileName?`: the last piece, where empty pieces and single dots at the end do not count. A path that
   ends in two dots has none.
3. `Path.extension?`: what follows the last dot of a name, unless the name has no dot but a leading one.
4. `Path.key`: the extension a file is counted under.
5. `Path.absolute`: a path seen from a working directory, without what means nothing in it.
-/

namespace LineCensus

/-- A name of a file or directory. -/
abbrev Name := Bytes

/-- The greatest number of bytes in a name. -/
def nameLimit : Nat := 255

namespace Path

/-- The byte between names. -/
def slash : UInt8 := 0x2f

/-- The byte before an extension. -/
def dotByte : UInt8 := 0x2e

/-- The name of the directory itself. -/
def dot : Name := [dotByte]

/-- The name of the directory above. -/
def dotDot : Name := [dotByte, dotByte]

/-! ## Pieces -/

/-- The pieces between slashes, empty ones included. -/
def split (path : Bytes) : List Name :=
  path.foldr
    (fun b pieces =>
      if b = slash then [] :: pieces
      else match pieces with
        | [] => [[b]]
        | p :: rest => (b :: p) :: rest)
    [[]]

/-- A path with one more name behind it. -/
def join (path : Bytes) (name : Name) : Bytes :=
  if path.getLast? = some slash then path ++ name else path ++ slash :: name

/-- Whether a path begins at the root of the file system. -/
def isAbsolute (path : Bytes) : Bool := path.head? == some slash

/-- A piece that names nothing of its own. -/
def isIdle (piece : Name) : Bool := piece.isEmpty || piece == dot

/-- Whether an entry of a directory can have a name: it is not too long, holds neither a slash nor a zero
byte, and names something of its own. -/
def isName (name : Name) : Bool :=
  !isIdle name && name != dotDot && !name.contains slash && !name.contains 0 && name.length ≤ nameLimit

/-! ## Names and extensions -/

/-- The name of what the path leads to. -/
def fileName? (path : Bytes) : Option Name :=
  match ((split path).filter (!isIdle ·)).getLast? with
  | some name => if name = dotDot then none else some name
  | none => none

/-- What stands before and after the last dot of a name. -/
def cutAtLastDot? (name : Name) : Option (Bytes × Bytes) :=
  if name.contains dotByte then
    some ((name.reverse.dropWhile (· != dotByte)).tail.reverse,
      (name.reverse.takeWhile (· != dotByte)).reverse)
  else none

/-- The extension of a name, without its dot. -/
def nameExtension? (name : Name) : Option Bytes :=
  match cutAtLastDot? name with
  | some (stem, extension) => if stem.isEmpty then none else some extension
  | none => none

/-- The extension of a path, without its dot. -/
def extension? (path : Bytes) : Option Bytes := (fileName? path).bind nameExtension?

/-- The extension a file is counted under, with its dot. -/
def key (path : Bytes) : String :=
  match extension? path with
  | some extension => String.ofList ('.' :: Text.decodeLossy extension)
  | none => noExtension

/-! ## Absolute paths -/

/-- Where an absolute path begins: two slashes in front stay two, any other number is one. -/
def root (path : Bytes) : Bytes :=
  if (path.takeWhile (· == slash)).length = 2 then [slash, slash] else [slash]

/-- The path from the root of the file system, seen from the directory `here`, which is absolute itself.
Empty pieces and single dots go; two dots and a slash at the end stay. -/
def absolute (here path : Bytes) : Bytes :=
  let pieces := (split path).filter (!isIdle ·)
  let start := if isAbsolute path then root path else here
  let body := pieces.foldl join start
  if path.getLast? = some slash ∧ body.getLast? ≠ some slash then body ++ [slash] else body

end Path

end LineCensus
