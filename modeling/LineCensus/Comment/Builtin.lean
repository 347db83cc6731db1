import LineCensus.Comment.Classifier
import LineCensus.Comment.Registry

/-!
# LineCensus.Comment.Builtin — the languages known from the start

1. `builtinRows`: name, extensions and comment patterns of each language.
2. `Registry.builtin`: the registry of these languages. `rows_builtin`: it holds the whole table.
-/

namespace LineCensus

/-- A language by the texts of its patterns. -/
structure LanguageRow where
  name : String
  extensions : List String
  single : List String
  blockStart : List String
  blockEnd : List String
deriving DecidableEq, Repr

/-- The row of a language, with the texts of its patterns. -/
def Language.row (language : Language) : LanguageRow where
  name := language.name
  extensions := language.extensions
  single := language.grammar.single.map (·.source)
  blockStart := language.grammar.blockStart.map (·.source)
  blockEnd := language.grammar.blockEnd.map (·.source)

/-! ## Shared patterns -/

/-- Two slashes begin a one-line comment. -/
def slashLine : List String := [r"^\s*//"]

/-- A slash and an asterisk open a block. -/
def slashStart : List String := [r"^\s*/\*"]

/-- An asterisk and a slash end a block. -/
def slashEnd : List String := [r"\*/\s*$"]

/-- A number sign begins a one-line comment. -/
def hashLine : List String := [r"^\s*#"]

/-- A language with the comments of C. -/
def slashRow (name : String) (extensions : List String) : LanguageRow :=
  ⟨name, extensions, slashLine, slashStart, slashEnd⟩

/-- A language whose only comments begin with a number sign. -/
def hashRow (name : String) (extensions : List String) : LanguageRow :=
  ⟨name, extensions, hashLine, [], []⟩

/-! ## The table -/

/-- The languages in the order of the table. -/
def builtinRows : List LanguageRow :=
  [slashRow "JavaScript" [".js", ".jsx", ".mjs", ".cjs"],
   slashRow "TypeScript" [".ts", ".tsx", ".mts", ".cts"],
   slashRow "Java" [".java"],
   slashRow "C" [".c", ".h"],
   slashRow "C++" [".cpp", ".cc", ".cxx", ".C", ".hpp", ".hh", ".hxx", ".H"],
   slashRow "C#" [".cs"],
   slashRow "Go" [".go"],
   slashRow "Rust" [".rs"],
   slashRow "Swift" [".swift"],
   slashRow "Kotlin" [".kt", ".kts"],
   slashRow "Scala" [".scala"],
   slashRow "Dart" [".dart"],
   ⟨"PHP", [".php"], slashLine ++ hashLine, slashStart, slashEnd⟩,
   ⟨"Python", [".py", ".pyi"], hashLine, [r#"^\s*""""#, r"^\s*'''"], [r#""""\s*$"#, r"'''\s*$"]⟩,
   ⟨"Ruby", [".rb"], hashLine, [r"^\s*=begin"], [r"^\s*=end"]⟩,
   hashRow "Shell" [".sh", ".bash", ".zsh"],
   hashRow "YAML" [".yaml", ".yml"],
   hashRow "TOML" [".toml"],
   hashRow "R" [".r", ".R"],
   hashRow "Elixir" [".ex", ".exs"],
   ⟨"SQL", [".sql"], [r"^\s*--"], slashStart, slashEnd⟩,
   ⟨"Lua", [".lua"], [r"^\s*--"], [r"^\s*--\[\["], [r"\]\]\s*$"]⟩,
   ⟨"Vim script", [".vim"], [r#"^\s*""#], [], []⟩,
   ⟨"Lisp", [".el", ".clj", ".cljs", ".lisp", ".scm"], [r"^\s*;"], [], []⟩,
   ⟨"Erlang", [".erl", ".hrl"], [r"^\s*%"], [], []⟩,
   ⟨"Haskell", [".hs"], [r"^\s*--"], ["^\\s*\\\x7b-"], ["-\\\x7d\\s*$"]⟩,
   ⟨"OCaml", [".ml", ".mli"], [], [r"^\s*\(\*"], [r"\*\)\s*$"]⟩,
   ⟨"MATLAB", [".m"], [r"^\s*%"], ["^\\s*%\\\x7b"], ["^\\s*%\\\x7d"]⟩,
   ⟨"HTML", [".html", ".htm"], [], [r"^\s*<!--"], [r"-->\s*$"]⟩,
   ⟨"XML", [".xml"], [], [r"^\s*<!--"], [r"-->\s*$"]⟩,
   ⟨"CSS", [".css"], [], slashStart, slashEnd⟩,
   slashRow "SCSS" [".scss"],
   ⟨"Sass", [".sass"], slashLine, [], []⟩,
   slashRow "Less" [".less"]]

namespace Registry

/-- The registry of the rows, one after the other. -/
def ofRows (rows : List LanguageRow) : Except Failure Registry :=
  rows.foldlM (fun r row => r.registerSource row.name row.extensions row.single row.blockStart row.blockEnd)
    empty

/-- Every text in the table is a pattern. -/
theorem ofRows_builtinRows_isOk : (ofRows builtinRows).toBool = true := by decide +kernel

/-- The languages known from the start. -/
def builtin : Registry := (ofRows builtinRows).toOption.getD empty

/-- They are those of the table, in its order, with their names, extensions and patterns. -/
theorem rows_builtin : builtin.languages.map Language.row = builtinRows := by decide +kernel

end Registry

/-- The number of comment lines of a file with the given extension; none if no language owns it. -/
def countComments (lines : List (List Char)) (extension : String) : Nat :=
  ((Registry.builtin.grammar? extension).map (·.countComments lines)).getD 0

end LineCensus
