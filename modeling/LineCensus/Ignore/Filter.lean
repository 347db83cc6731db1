import LineCensus.Ignore.Binary
import LineCensus.Ignore.Rules
import LineCensus.Path

/-!
# LineCensus.Ignore.Filter — deciding what is counted and what is entered

1. `Filter`: two decisions, on the path of a file and on the name of a directory.
2. `Filter.keepAll`: everything is counted, and every directory is entered.
3. `Rules.filter`: files of binary formats, files without a name, and whatever the rules leave out.
-/

namespace LineCensus

/-- Decides which files are counted, by their paths, and which directories are entered, by their names. -/
structure Filter where
  includes : Bytes → Bool
  enters : Name → Bool

namespace Filter

/-- Counts every file and enters every directory. -/
def keepAll : Filter := ⟨fun _ => true, fun _ => true⟩

/-- Counts every file and enters every directory but those of one name. -/
def prune (name : Name) : Filter := ⟨fun _ => true, (· != name)⟩

end Filter

/-- Whether the extension of a path belongs to a format that holds no text. -/
def hasBinaryExtension (path : Bytes) : Bool :=
  match (Path.extension? path).bind Text.decode? with
  | some extension => isBinaryExtension extension
  | none => false

namespace Rules

/-- Whether a file is counted. -/
def includes (r : Rules) (path : Bytes) : Bool :=
  !hasBinaryExtension path &&
    match Path.fileName? path with
    | some name => !r.matchesName (Text.decodeLossy name)
    | none => false

/-- Whether a directory is entered. -/
def enters (r : Rules) (name : Name) : Bool :=
  !r.ignoresDirectory (String.ofList (Text.decodeLossy name))

/-- The decisions made by the rules. -/
def filter (r : Rules) : Filter := ⟨r.includes, r.enters⟩

end Rules

end LineCensus
