/-!
# LineCensus.Unicode.RunTable — a function on code points, constant on runs

The character database assigns a value to each code point, and neighbours mostly share theirs:

1. `words`: the words of the text that a table is written as.
2. `RunTable`: where each run begins and the value on it, in rising order.
3. `RunTable.lookup?`: the value at a code point, by bisection.
4. `RunTable.ofGaps`, `RunTable.ofRuns`: the two written forms of a table, one for a set of code
   points (how many are skipped, how many more than one follow) and one for a partition of the
   code space (how many, which value).
-/

namespace LineCensus.Unicode

/-- The words of a text, between spaces and line ends. -/
def words (text : String) : List String :=
  (text.splitOn "\n").flatMap fun line => (line.splitOn " ").filter (!·.isEmpty)

/-- The first code point of each run and the value on that run, in rising order. -/
structure RunTable (α : Type) where
  runs : Array (Nat × α)

namespace RunTable

variable {α : Type}

/-! ## Look-up -/

/-- The index of the last run that begins at or before `code`, between `lo` and `hi`. -/
def locate (runs : Array (Nat × α)) (code lo hi : Nat) : Nat :=
  if lo + 1 < hi then
    let mid := (lo + hi) / 2
    match runs[mid]? with
    | some (first, _) => if first ≤ code then locate runs code mid hi else locate runs code lo mid
    | none => lo
  else lo
termination_by hi - lo

/-- The value at `code`: none before the first run. -/
def lookup? (t : RunTable α) (code : Nat) : Option α :=
  match t.runs[locate t.runs code 0 t.runs.size]? with
  | some (first, value) => if first ≤ code then some value else none
  | none => none

/-- The code points at which the value may change. -/
def boundaries (t : RunTable α) : List Nat := t.runs.toList.map (·.1)

/-! ## Written forms -/

/-- The decimal numbers among the words of a text. -/
def numbers (text : String) : List Nat := (words text).filterMap String.toNat?

/-- A set of code points: of each pair, how many code points to skip and how many more than one
belong to the set after that. -/
def ofGaps (text : String) : RunTable Bool :=
  ⟨go 0 #[] (numbers text)⟩
where
  go (at_ : Nat) (runs : Array (Nat × Bool)) : List Nat → Array (Nat × Bool)
    | skip :: extra :: rest =>
      let first := at_ + skip
      let next := first + extra + 1
      go next ((runs.push (first, true)).push (next, false)) rest
    | _ => runs

/-- A partition of the code space from zero on: of each pair, how many code points and the name of
the class they belong to. -/
def ofRuns (text : String) : RunTable String :=
  ⟨go 0 #[] (words text)⟩
where
  go (at_ : Nat) (runs : Array (Nat × String)) : List String → Array (Nat × String)
    | count :: name :: rest => go (at_ + count.toNat?.getD 0) (runs.push (at_, name)) rest
    | _ => runs

end RunTable

end LineCensus.Unicode
