import LineCensus.Event
import LineCensus.Ignore.Rules
import LineCensus.Toml.Document

/-!
# LineCensus.Settings — what to leave out, as users write it

1. `Settings`: whether the default rules are in force, and what is left out besides.
2. `Settings.build`: the rules they come to: the default ones, then directories, extensions and patterns.
3. `Settings.ofDocument`: the settings under the key `ignore` of a document. What is not given has its default,
   and other keys mean nothing. An array gives the four settings in order, and a date gives none of them.
4. `Settings.load`: the settings in the content of a file.
-/

namespace LineCensus

/-- What to leave out. -/
structure Settings where
  useDefaults : Bool := true
  directories : List String := []
  extensions : List String := []
  patterns : List String := []
deriving DecidableEq, Repr

namespace Settings

/-! ## Rules -/

/-- The rules that settings come to. -/
def build (s : Settings) : Except Failure Rules := do
  let rules := if s.useDefaults then Rules.default else Rules.empty
  let rules := rules.addDirectories s.directories
  let rules ← rules.addExtensions s.extensions
  rules.addPatterns s.patterns

/-! ## Documents -/

/-- A truth value. -/
def truth (key : String) : Toml.Value → Except Toml.Fault Bool
  | .boolean b => .ok b
  | _ => .error (.wrongKind key)

/-- A text. -/
def text (key : String) : Toml.Value → Except Toml.Fault String
  | .text s => .ok s
  | _ => .error (.wrongKind key)

/-- An array of texts. -/
def texts (key : String) : Toml.Value → Except Toml.Fault (List String)
  | .array values => values.mapM (text key)
  | _ => .error (.wrongKind key)

/-- The settings from the values given for them. -/
def ofValues (useDefaults directories extensions patterns : Option Toml.Value) :
    Except Toml.Fault Settings := do
  let useDefaults ← (useDefaults.map (truth "use_defaults")).getD (pure true)
  let directories ← (directories.map (texts "directories")).getD (pure [])
  let extensions ← (extensions.map (texts "extensions")).getD (pure [])
  let patterns ← (patterns.map (texts "patterns")).getD (pure [])
  pure { useDefaults, directories, extensions, patterns }

/-- The settings that a value stands for. -/
def ofValue : Toml.Value → Except Toml.Fault Settings
  | .table fields =>
    let get (key : String) := Toml.Fields.get? fields key
    ofValues (get "use_defaults") (get "directories") (get "extensions") (get "patterns")
  | .array values => ofValues values[0]? values[1]? values[2]? values[3]?
  | .dateTime _ => .ok {}
  | _ => .error (.wrongKind "ignore")

/-- The settings of a document. -/
def ofDocument (fields : Toml.Fields) : Except Toml.Fault Settings :=
  match fields.get? "ignore" with
  | some v => ofValue v
  | none => .ok {}

/-- The settings in a text. -/
def parse (text : List Char) : Except Toml.Fault Settings := do
  let fields ← Toml.parse text
  ofDocument fields

/-! ## Files -/

/-- The settings in the content of the file at `path`, or the reason why it cannot be read. -/
def load (path : Bytes) (content : Except String Bytes) : Except Failure Settings :=
  match content with
  | .error reason => .error (.settingsUnreadable path reason)
  | .ok bytes =>
    match Text.decode? bytes with
    | none => .error (.settingsUnreadable path "stream did not contain valid UTF-8")
    | some text => (parse text).mapError fun fault => .badSettings fault.message

end Settings

end LineCensus
