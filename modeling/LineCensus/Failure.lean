import LineCensus.Text.Utf8

/-!
# LineCensus.Failure — why a census, a setting or a pattern fails

1. `Failure`: the causes, each with what it concerns and the reason given by whatever lies below.
2. `Failure.message`: the line shown to the user.
3. `Failure.reason?`: the reason given from below, if the cause has one.
-/

namespace LineCensus

/-- A path as it is shown: broken character sequences are replaced. -/
def shownPath (path : Bytes) : String := String.ofList (Text.decodeLossy path)

/-- Why something fails. -/
inductive Failure where
  /-- The root does not exist. -/
  | rootMissing (path : Bytes)
  /-- The root is no directory. -/
  | rootNotDirectory (path : Bytes)
  /-- The root cannot be reached or listed. -/
  | rootUnreadable (path : Bytes) (reason : String)
  /-- A text is no pattern. -/
  | badPattern (pattern reason : String)
  /-- The settings file cannot be read. -/
  | settingsUnreadable (path : Bytes) (reason : String)
  /-- Input or output fails. -/
  | inputOutput (reason : String)
  /-- The settings file is malformed. -/
  | badSettings (reason : String)
  /-- A report cannot be written. -/
  | badReport (reason : String)
deriving DecidableEq, Repr

namespace Failure

/-- The line shown to the user. -/
def message : Failure → String
  | .rootMissing path => "Path does not exist: " ++ shownPath path
  | .rootNotDirectory path => "Not a directory: " ++ shownPath path
  | .rootUnreadable path _ => "Failed to read directory: " ++ shownPath path
  | .badPattern pattern _ => "Invalid file pattern: " ++ pattern
  | .settingsUnreadable path _ => "Failed to read config file: " ++ shownPath path
  | .inputOutput reason => "IO error: " ++ reason
  | .badSettings reason => "TOML parse error: " ++ reason
  | .badReport reason => "JSON serialization error: " ++ reason

/-- The reason given from below. -/
def reason? : Failure → Option String
  | .rootMissing _ | .rootNotDirectory _ => none
  | .rootUnreadable _ reason | .badPattern _ reason | .settingsUnreadable _ reason
  | .inputOutput reason | .badSettings reason | .badReport reason => some reason

end Failure

end LineCensus
