import LineCensus.Options.Basic

/-!
# LineCensus.Options.CommandLine — reading a command line

An argument is a long option (`--name`, `--name=value`), a cluster of short ones (`-qv`, `-x value`, `-xvalue`,
`-x=value`), the end of options (`--`), or a value. A value goes to the option before it that waits for one, else
it is the path.

1. `Stop`: why a command line asks for no census.
2. `Switch`, `Setting`: the options without and with a value, by their names.
3. `Line`: what was read so far. The value given last is kept back until the next known option, path or the
   end; only then it is judged, so that an argument nobody knows is complained about first.
4. `Line.feed`: takes one argument.
5. `Options.parse`: reads a whole command line.
-/

namespace LineCensus

/-- Why a command line asks for no census. -/
inductive Stop where
  /-- There is no such option, or a second path. -/
  | unknown
  /-- A value is missing, empty where it may not be, or not one of those possible. -/
  | badValue
  /-- A value is not understood. -/
  | refusedValue
  /-- An option that counts once is given twice. -/
  | repeated
  /-- A switch is given a value. -/
  | unwantedValue
  /-- Help is asked for. -/
  | help
  /-- The version is asked for. -/
  | version
deriving DecidableEq, Repr

/-- What the user is told, in other words than those of the program: its complaints are worded by a library for command
lines and also name the argument. What counts is which of them it is. -/
def Stop.message : Stop → String
  | .unknown => "unexpected argument"
  | .badValue => "a value is missing or not possible"
  | .refusedValue => "invalid value"
  | .repeated => "an argument cannot be used multiple times"
  | .unwantedValue => "unexpected value for an argument that takes none"
  | .help => "help"
  | .version => "version"

/-- An option without a value. -/
inductive Switch where
  | noDefaultIgnores | verbose | quiet | help | version
deriving DecidableEq, Repr

/-- An option with a value, or the path. -/
inductive Setting where
  | path | excludeDir | excludeExt | excludePattern | config | format | color
deriving DecidableEq, Repr

/-- An option. -/
inductive Choice where
  | switch (s : Switch)
  | setting (s : Setting)
deriving DecidableEq, Repr

namespace Choice

/-- The option of a long name. -/
def ofLong? (name : String) : Option Choice :=
  match name with
  | "exclude-dir" => some (.setting .excludeDir)
  | "exclude-ext" => some (.setting .excludeExt)
  | "exclude-pattern" => some (.setting .excludePattern)
  | "no-default-ignores" => some (.switch .noDefaultIgnores)
  | "config" => some (.setting .config)
  | "format" => some (.setting .format)
  | "color" => some (.setting .color)
  | "verbose" => some (.switch .verbose)
  | "quiet" => some (.switch .quiet)
  | "help" => some (.switch .help)
  | "version" => some (.switch .version)
  | _ => none

/-- The option of a letter. -/
def ofShort? (letter : Char) : Option Choice :=
  match letter with
  | 'x' => some (.setting .excludePattern)
  | 'c' => some (.setting .config)
  | 'f' => some (.setting .format)
  | 'v' => some (.switch .verbose)
  | 'q' => some (.switch .quiet)
  | 'h' => some (.switch .help)
  | 'V' => some (.switch .version)
  | _ => none

end Choice

/-! ## What was read so far -/

/-- What was read so far: the options, those of them that may not come again, the option whose value is
kept back, and whether options have ended. -/
structure Line where
  options : Options := {}
  given : List Choice := []
  /-- The option kept back, with its value as soon as there is one. -/
  kept : Option (Setting × Option String) := none
  ended : Bool := false
deriving Repr

namespace Line

/-- The parts of a text between commas. -/
def splitCommas (value : String) : List String :=
  (value.toList.foldr
    (fun c parts =>
      if c = ',' then [] :: parts
      else match parts with
        | [] => [[c]]
        | p :: rest => (c :: p) :: rest)
    [[]]).map String.ofList

/-- Notes an option that may come only once. -/
def once (l : Line) (choice : Choice) : Except Stop Line :=
  if l.given.contains choice then .error .repeated
  else .ok { l with given := choice :: l.given }

/-- Judges a value and takes it over. -/
def store (l : Line) (setting : Setting) (value : String) : Except Stop Line :=
  let o := l.options
  match setting with
  | .excludeDir =>
    .ok { l with options.excludedDirectories := o.excludedDirectories ++ splitCommas value }
  | .excludeExt =>
    .ok { l with options.excludedExtensions := o.excludedExtensions ++ splitCommas value }
  | .excludePattern => .ok { l with options.excludedPatterns := o.excludedPatterns ++ [value] }
  | .path => do
    let l ← l.once (.setting .path)
    if value.isEmpty then .error .badValue else pure { l with options.path := value }
  | .config => do
    let l ← l.once (.setting .config)
    if value.isEmpty then .error .badValue else pure { l with options.config := some value }
  | .format => do
    let l ← l.once (.setting .format)
    match OutputFormat.ofString? value with
    | some format => pure { l with options.format := format }
    | none => .error .refusedValue
  | .color => do
    let l ← l.once (.setting .color)
    match ColorMode.ofString? value with
    | some color => pure { l with options.color := color }
    | none => .error .badValue

/-- Takes over what is kept back. -/
def settle (l : Line) : Except Stop Line :=
  match l.kept with
  | none => .ok l
  | some (_, none) => .error .badValue
  | some (setting, some value) => { l with kept := none }.store setting value

/-- Turns a switch on. -/
def turn (l : Line) (switch : Switch) : Except Stop Line := do
  let l ← l.settle
  match switch with
  | .help => .error .help
  | .version => .error .version
  | .noDefaultIgnores => do
    let l ← l.once (.switch switch)
    pure { l with options.noDefaultIgnores := true }
  | .verbose => do
    let l ← l.once (.switch switch)
    pure { l with options.verbose := true }
  | .quiet => do
    let l ← l.once (.switch switch)
    pure { l with options.quiet := true }

/-- Takes an option with its value, or without one if the next argument is to be its value. -/
def take (l : Line) (setting : Setting) (value : Option String) : Except Stop Line := do
  let l ← l.settle
  match value with
  | some value => l.store setting value
  | none => pure { l with kept := some (setting, none) }

/-! ## Arguments -/

/-- Takes a long option behind its hyphens. -/
def feedLong (l : Line) (text : List Char) : Except Stop Line :=
  let name := text.takeWhile (· != '=')
  let value := match text.dropWhile (· != '=') with
    | _ :: value => some (String.ofList value)
    | [] => none
  match Choice.ofLong? (String.ofList name) with
  | none => .error .unknown
  | some (.setting setting) => l.take setting value
  | some (.switch switch) => if value.isSome then .error .unwantedValue else l.turn switch

/-- Takes a cluster of short options behind its hyphen. What follows a letter that takes a value is that
value, without one equals sign in front. -/
def feedShort (l : Line) : List Char → Except Stop Line
  | [] => .ok l
  | letter :: rest =>
    match Choice.ofShort? letter with
    | none => .error .unknown
    | some (.switch switch) => do
      let l ← l.turn switch
      l.feedShort rest
    | some (.setting setting) =>
      l.take setting
        (match rest with
        | [] => none
        | '=' :: value => some (String.ofList value)
        | value => some (String.ofList value))

/-- Takes a value: it goes to the option that waits for one, or it is the path. -/
def feedValue (l : Line) (value : String) : Except Stop Line :=
  match l.ended, l.kept with
  | false, some (setting, none) => .ok { l with kept := some (setting, some value) }
  | _, _ =>
    if l.given.contains (.setting .path) || l.kept.any (·.1 == .path) then .error .unknown
    else do
      let l ← l.settle
      pure { l with kept := some (.path, some value) }

/-- Takes one argument. -/
def feed (l : Line) (argument : String) : Except Stop Line :=
  if l.ended then l.feedValue argument
  else
    match argument.toList with
    | ['-', '-'] => .ok { l with ended := true }
    | '-' :: '-' :: text => l.feedLong text
    | ['-'] => l.feedValue argument
    | '-' :: text => l.feedShort text
    | _ => l.feedValue argument

end Line

namespace Options

/-- Reads a command line, without the name of the program. -/
def parse (arguments : List String) : Except Stop Options := do
  let l ← arguments.foldlM Line.feed {}
  let l ← l.settle
  pure l.options

end Options

end LineCensus
