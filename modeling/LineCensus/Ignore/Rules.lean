import LineCensus.Comment.Grammar
import LineCensus.Ignore.NameSet

/-!
# LineCensus.Ignore.Rules — what a census leaves out

1. `Rules`: the names of directories that are not entered, and patterns of file names that are not counted.
2. `addDirectory`, `addPattern`, `addExtension`: one more rule. A text that is no pattern changes nothing.
3. `Rules.default`: the rules in force unless they are turned off.
-/

namespace LineCensus

/-- The names of directories and the patterns of file names to leave out. -/
structure Rules where
  directories : NameSet
  patterns : List Pattern

/-! ## The rules in force from the start -/

/-- Directories of dependencies, build results and tools. -/
def defaultDirectories : List String :=
  ["node_modules", "bower_components", ".git", ".svn", ".hg", "dist", "build", "out", "target",
   "coverage", ".next", ".nuxt", "vendor", "__pycache__", ".pytest_cache", ".mypy_cache", ".tox",
   ".venv", "venv", ".idea", ".vscode", ".cache"]

/-- Patterns of the names of generated files and lock files. -/
def defaultPatterns : List String :=
  [r"package-lock\.json$", r"npm-shrinkwrap\.json$", r"pnpm-lock\.yaml$", r"\.lock$",
   r"\.min\.js$", r"\.min\.css$", r"\.bundle\.js$", r"\.map$", r"^\.DS_Store$"]

namespace Rules

/-! ## Adding rules -/

/-- Nothing is left out by name. -/
def empty : Rules := ⟨.empty, []⟩

/-- Leaves out the directories of a name. -/
def addDirectory (r : Rules) (name : String) : Rules :=
  { r with directories := r.directories.insert name }

/-- Leaves out the files whose names a pattern matches. -/
def addPattern (r : Rules) (pattern : String) : Except Failure Rules :=
  (Pattern.require pattern).map fun p => { r with patterns := r.patterns ++ [p] }

/-- The text of a pattern for the names that end in a dot and an extension, which may be given with leading
dots. -/
def extensionPattern (extension : String) : String :=
  let bare := String.ofList (extension.toList.dropWhile (· == '.'))
  "\\." ++ Pattern.literal bare ++ "$"

/-- Leaves out the files with an extension. -/
def addExtension (r : Rules) (extension : String) : Except Failure Rules :=
  r.addPattern (extensionPattern extension)

/-- Adds directories one after the other. -/
def addDirectories (r : Rules) (names : List String) : Rules := names.foldl addDirectory r

/-- Adds extensions one after the other, up to the first that cannot be added. -/
def addExtensions (r : Rules) (extensions : List String) : Except Failure Rules :=
  extensions.foldlM addExtension r

/-- Adds patterns one after the other, up to the first that is none. -/
def addPatterns (r : Rules) (patterns : List String) : Except Failure Rules :=
  patterns.foldlM addPattern r

/-! ## Asking -/

/-- Whether the directories of a name are left out. -/
def ignoresDirectory (r : Rules) (name : String) : Bool := r.directories.contains name

/-- Whether the files of a name are left out. -/
def matchesName (r : Rules) (name : List Char) : Bool := r.patterns.any (·.occursIn name)

/-! ## The default -/

/-- Every text among the default patterns is a pattern. -/
theorem addPatterns_defaultPatterns_isOk : (empty.addPatterns defaultPatterns).toBool = true := by
  decide +kernel

/-- The rules in force unless they are turned off. -/
def default : Rules :=
  ((empty.addDirectories defaultDirectories).addPatterns defaultPatterns).toOption.getD empty

end Rules

end LineCensus
