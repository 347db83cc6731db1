import LineCensus.Report.Table
import LineCensus.Settings

/-!
# LineCensus.Options — what a command line asks for

1. `OutputFormat`: the table or the JSON document, by name in any ASCII case.
2. `Options`: everything a command line says.
3. `Options.override`: settings with what the command line leaves out besides.

Arguments are texts. So a path that is not well-formed UTF-8 cannot be given on a command line here, neither as the root
nor as the settings file, though such paths are scanned and counted below a root.
-/

namespace LineCensus

/-- How a census is reported. -/
inductive OutputFormat where
  | text | json
deriving DecidableEq, Repr

namespace OutputFormat

/-- The format of a name. -/
def ofString? (name : String) : Option OutputFormat :=
  if name.toLower = "text" then some .text
  else if name.toLower = "json" then some .json
  else none

/-- What is said about a name that is no format. -/
def unknownMessage (name : String) : String := "Unknown output format: " ++ name

end OutputFormat

namespace ColorMode

/-- The mode of a name. -/
def ofString? (name : String) : Option ColorMode :=
  if name = "auto" then some .auto
  else if name = "always" then some .always
  else if name = "never" then some .never
  else none

end ColorMode

/-- What a command line says. -/
structure Options where
  path : String := "."
  excludedDirectories : List String := []
  excludedExtensions : List String := []
  excludedPatterns : List String := []
  noDefaultIgnores : Bool := false
  config : Option String := none
  format : OutputFormat := .text
  color : ColorMode := .auto
  verbose : Bool := false
  quiet : Bool := false
deriving DecidableEq, Repr

namespace Options

/-- Settings with what the command line leaves out besides. -/
def override (o : Options) (s : Settings) : Settings where
  useDefaults := s.useDefaults && !o.noDefaultIgnores
  directories := s.directories ++ o.excludedDirectories
  extensions := s.extensions ++ o.excludedExtensions
  patterns := s.patterns ++ o.excludedPatterns

end Options

end LineCensus
