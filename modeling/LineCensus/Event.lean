import LineCensus.Failure

/-!
# LineCensus.Event — what is logged

1. `Level`: how urgent an event is.
2. `Event`: what happened, with what it concerns.
3. `Event.level`, `Event.message`, `Event.details`: how it is logged.
4. `Event.target`: which part of the program it comes from.
5. `Event.line`: the line of the log.
-/

namespace LineCensus

/-- How urgent an event is. -/
inductive Level where
  | debug | warn
deriving DecidableEq, Repr

/-- What happened. -/
inductive Event where
  /-- A directory was not entered because of its name. -/
  | ignoredDirectory (path : Bytes)
  /-- A directory could not be listed. -/
  | unreadableEntry (path : Bytes)
  /-- A file could not be read, or its bytes are no text. -/
  | unreadableFile (path : Bytes)
  /-- A census is finished. -/
  | complete (root : Bytes) (candidates counted : Nat)
  /-- Settings were read. -/
  | settingsLoaded (path : Bytes)
  /-- More lines of a file were counted as blank or comments than there are. -/
  | overlap (extension : String) (lines blank comments : Nat)
deriving DecidableEq, Repr

/-- A value that goes with an event. -/
inductive Detail where
  | text (value : String)
  | number (value : Nat)
deriving DecidableEq, Repr

namespace Level

/-- The name of a level. -/
def name : Level → String
  | .debug => "DEBUG"
  | .warn => "WARN"

end Level

namespace Event

/-- How urgent the event is. -/
def level : Event → Level
  | .overlap .. => .warn
  | _ => .debug

/-- The text of the event. -/
def message : Event → String
  | .ignoredDirectory _ => "skipping ignored directory"
  | .unreadableEntry _ => "skipping unreadable entry"
  | .unreadableFile _ => "skipping unreadable file"
  | .complete .. => "scan complete"
  | .settingsLoaded _ => "loaded config"
  | .overlap .. => "comment grammar overlapped blank lines; clamping code to 0"

/-- What the event concerns, by name. -/
def details : Event → List (String × Detail)
  | .ignoredDirectory path | .unreadableFile path | .settingsLoaded path =>
    [("path", .text (shownPath path))]
  | .unreadableEntry _ => []
  | .complete root candidates counted =>
    [("root", .text (shownPath root)), ("candidates", .number candidates), ("counted", .number counted)]
  | .overlap extension lines blank comments =>
    [("extension", .text extension), ("lines", .number lines), ("blank", .number blank),
      ("comments", .number comments)]

/-- A detail as it is logged. -/
def shownDetail : String × Detail → String
  | (name, .text value) => " " ++ name ++ "=" ++ value
  | (name, .number value) => " " ++ name ++ "=" ++ String.ofList (Nat.toDigits 10 value)

/-- The part of the program that the event comes from. Log filters tell events apart by it. -/
def target : Event → String
  | .settingsLoaded _ => "linecount::config::loader"
  | .ignoredDirectory _ | .unreadableEntry _ => "linecount::scanner::directory"
  | .unreadableFile _ | .complete .. => "linecount::counter::line_counter"
  | .overlap .. => "linecount::counter::sloc"

/-- The line of the log, without the time and the target, which stand around its level, and without colours. -/
def line (e : Event) : String :=
  e.level.name ++ " " ++ e.message ++ String.join (e.details.map shownDetail)

end Event

end LineCensus
