import LineCensus.Count
import LineCensus.LogFilter
import LineCensus.Report.Json

/-!
# LineCensus.Program — from a command line to what is printed

1. `World`: what the program asks of its surroundings, the content of a settings file and the listing of a
   root.
2. `render`: a census in the format asked for.
3. `prepare`: loads the settings and builds the rules.
4. `runOptions`: prepares, counts and renders. The first of these that fails is the failure of the run.
5. `run`, `Outcome.logged`: the same from the arguments on, and what is logged of it.
6. `transcript`: all that a run leaves behind, with the lines of the log and the complaints on the error output.
-/

namespace LineCensus

/-- What the program asks of its surroundings. -/
structure World where
  /-- The path of the working directory. -/
  here : Bytes
  /-- The content of a file, or why it cannot be read. -/
  readFile : Bytes → Except String Bytes
  /-- The listing of a root, or why there is none. -/
  openDirectory : Bytes → Except Failure Listing

/-- The settings in the file at a path. -/
def World.settings (w : World) (path : Bytes) : Except Failure Settings :=
  Settings.load path (w.readFile path)

namespace FileSystem

/-- A file system as surroundings. -/
def world (fs : FileSystem) : World where
  here := fs.workingPath
  readFile path := (fs.readFile path).mapError ResolveFault.message
  openDirectory := fs.openDirectory

end FileSystem

/-- What a run comes to. -/
structure Outcome where
  exitCode : Nat
  stdout : List Char
  /-- Why the run failed. -/
  failure : Option Failure
  /-- What was logged, if everything is. -/
  events : List Event
deriving Repr

/-- The exit code of a finished census. -/
def exitSuccess : Nat := 0

/-- The exit code of a run that fails. -/
def exitFailure : Nat := 1

/-- The exit code of a command line that is not understood. -/
def exitUsage : Nat := 2

/-- The line that tells the version. -/
def versionLine : String := "linecount 0.1.0\n"

/-- The text that tells how the program is used, shortened: what is printed on request goes on with a line for each
option. That text is made by the reader of command lines and is left out here. -/
def helpText : String :=
  "Count blank, comment and code lines per file extension\n\nUsage: linecount [OPTIONS] [PATH]\n"

/-! ## Reports -/

/-- A census in the format asked for. Colours are used only on request, since the output is taken to be no
terminal. -/
def render (format : OutputFormat) (color : ColorMode) (c : Census) : List Char :=
  match format with
  | .text => Table.render (color == .always) c
  | .json => Json.render c.toJson

/-- What is printed of a census: the JSON document ends its line. -/
def printed (format : OutputFormat) (color : ColorMode) (c : Census) : List Char :=
  match format with
  | .text => render .text color c
  | .json => render .json color c ++ ['\n']

/-- The line above a table. -/
def headerLine (root : Bytes) : List Char :=
  "\nCounting lines in: ".toList ++ Text.decodeLossy root ++ ['\n']

/-- The line below a table. -/
def summaryLine (c : Census) : List Char :=
  "Analyzed ".toList ++ Nat.toDigits 10 c.totals.files ++ " files\n\n".toList

/-! ## Runs -/

/-- The settings of a run, with what is logged about them. -/
def loadSettings (w : World) (o : Options) : Except Failure (Settings × List Event) :=
  match o.config with
  | none => .ok ({}, [])
  | some path =>
    let path := Text.encode path
    (w.settings path).map fun s => (s, [.settingsLoaded path])

/-- What is logged while the rules of a run are made, and the rules. -/
def prepare (w : World) (o : Options) : List Event × Except Failure Rules :=
  match loadSettings w o with
  | .error failure => ([], .error failure)
  | .ok (base, events) => (events, (o.override base).build)

/-- The path of the root of a run. -/
def rootPath (w : World) (o : Options) : Bytes := Path.absolute w.here (Text.encode o.path)

/-- The outcome of a failure. -/
def failed (stdout : List Char) (failure : Failure) (events : List Event) : Outcome :=
  ⟨exitFailure, stdout, some failure, events⟩

/-- Runs with the given options. -/
def runOptions (w : World) (o : Options) : Outcome :=
  let (events, rules) := prepare w o
  match rules with
  | .error failure => failed [] failure events
  | .ok rules =>
    let root := rootPath w o
    let framed := !o.quiet && o.format == .text
    let header := if framed then headerLine root else []
    match w.openDirectory root with
    | .error failure => failed header failure events
    | .ok listing =>
      let counted := countListing rules Registry.builtin root listing
      let footer := if framed then summaryLine counted.census else []
      ⟨exitSuccess, header ++ printed o.format o.color counted.census ++ footer, none,
        events ++ counted.events⟩

/-- Runs with the given arguments. -/
def run (w : World) (arguments : List String) : Outcome :=
  match Options.parse arguments with
  | .error .help => ⟨exitSuccess, helpText.toList, none, []⟩
  | .error .version => ⟨exitSuccess, versionLine.toList, none, []⟩
  | .error _ => ⟨exitUsage, [], none, []⟩
  | .ok o => runOptions w o

/-- Whether an event of a run with the given arguments and log filter is logged. All of them are debug events but for
warnings. -/
def debugWanted (logFilter : Option String) (arguments : List String) : Event → Bool :=
  match Options.parse arguments with
  | .error _ => fun _ => false
  | .ok o => (LogFilter.ofRun o.verbose logFilter).logs

namespace Outcome

/-- What is logged of a run. -/
def logged (outcome : Outcome) (wanted : Event → Bool) : List Event := outcome.events.filter wanted

/-- The number of debug lines in the log of a run. -/
def debugLines (outcome : Outcome) (wanted : Event → Bool) : Nat :=
  (outcome.logged wanted).countP (·.level == .debug)

end Outcome

/-! ## The process -/

/-- What a process leaves behind. -/
structure Transcript where
  exitCode : Nat
  stdout : List Char
  /-- The lines on the error output. -/
  stderr : List String
deriving DecidableEq, Repr

/-- The complaint about a command line. Its wording is that of `Stop.message`, and the usage that is printed behind it is
left out. -/
def Stop.complaint (stop : Stop) : List String :=
  match stop with
  | .help | .version => []
  | stop => ["error: " ++ stop.message]

/-- Runs with the given arguments and log filter. -/
def transcript (w : World) (logFilter : Option String) (arguments : List String) : Transcript :=
  let outcome := run w arguments
  let complaint :=
    match Options.parse arguments with
    | .error stop => stop.complaint
    | .ok _ => []
  let log := (outcome.logged (debugWanted logFilter arguments)).map Event.line
  let failure := outcome.failure.toList.map fun failure => "Error: " ++ failure.message
  ⟨outcome.exitCode, outcome.stdout, complaint ++ log ++ failure⟩

end LineCensus
