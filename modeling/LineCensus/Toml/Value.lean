/-!
# LineCensus.Toml.Value — the values of a settings document

1. `Value`: texts, truth values, arrays and tables. Of numbers and dates only the kind and the literal are
   kept, since no setting is one.
2. `Fields`, `Fields.get?`: the fields of a table by their keys.
3. `Fault`: why a text is no document, or a document holds no settings.
-/

namespace LineCensus.Toml

/-- A value. -/
inductive Value where
  | text (s : String)
  | integer (literal : String)
  | float (literal : String)
  | boolean (b : Bool)
  | dateTime (literal : String)
  | array (values : List Value)
  | table (fields : List (String × Value))
deriving Repr

/-- The fields of a table, in the order in which they were written. -/
abbrev Fields := List (String × Value)

/-- The field of a key. -/
def Fields.get? (fields : Fields) (key : String) : Option Value :=
  (fields.find? (·.1 == key)).map (·.2)

/-- Why a text is no document, or a document holds no settings. -/
inductive Fault where
  /-- Something else stands where the grammar asks for a sign, a key, a value or the end of a line. -/
  | unexpected
  /-- A text is not closed. -/
  | unclosedText
  /-- A character cannot stand in a text or comment. -/
  | badCharacter
  /-- A backslash stands before something that has no escaped meaning. -/
  | badEscape
  /-- A value is no number, truth value or date. -/
  | badScalar
  /-- A key is defined twice, or a table is extended that is complete. -/
  | repeatedKey
  /-- Arrays and tables are nested too deeply. -/
  | tooDeep
  /-- A setting has a value of another kind. -/
  | wrongKind (key : String)
deriving DecidableEq, Repr

/-- A line of text for each cause. -/
def Fault.message : Fault → String
  | .unexpected => "unexpected input"
  | .unclosedText => "unclosed string"
  | .badCharacter => "invalid character"
  | .badEscape => "invalid escape sequence"
  | .badScalar => "invalid value"
  | .repeatedKey => "duplicate key"
  | .tooDeep => "recursion limit exceeded"
  | .wrongKind key => "invalid type for key " ++ key

end LineCensus.Toml
