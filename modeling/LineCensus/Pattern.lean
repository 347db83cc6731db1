import LineCensus.Pattern.Reader
import LineCensus.Pattern.Search

/-!
# LineCensus.Pattern — compiled patterns

1. `Pattern`: the text of a pattern with its nodes, which were read from it.
2. `Pattern.compile`: reads a pattern, or tells why it is none.
3. `Pattern.occursIn`, `Pattern.after?`: whether it matches somewhere, and the text after its leftmost match.
4. `Pattern.literal`: the text of a pattern that matches just the given text.
-/

namespace LineCensus

/-- A pattern: its text and the nodes read from it. -/
structure Pattern where
  source : String
  node : Pattern.Node
  node_eq : Pattern.readNode source.toList = .ok node

namespace Pattern

/-- Reads a pattern. -/
def compile (source : String) : Except Fault Pattern :=
  match h : readNode source.toList with
  | .ok node => .ok ⟨source, node, h⟩
  | .error fault => .error fault

/-- Whether the pattern matches somewhere in the text. -/
def occursIn (p : Pattern) (text : List Char) : Bool := p.node.occursIn text

/-- The text after the leftmost, most preferred match, if there is a match. -/
def after? (p : Pattern) (text : List Char) : Option (List Char) := p.node.after? text

/-- The text of a pattern that matches the given text: a backslash goes before each character with a
meaning of its own. -/
def literal (text : String) : String :=
  String.ofList (text.toList.flatMap fun c => if isMeta c then ['\\', c] else [c])

/-! ## Small facts -/

/-- A pattern is known by its text. -/
theorem ext_source {p q : Pattern} (h : p.source = q.source) : p = q := by
  cases p with
  | mk source node hn =>
    cases q with
    | mk source' node' hn' =>
      subst h
      obtain rfl : node = node' := by simpa [hn] using hn'
      rfl

/-- A compiled pattern has the text it was compiled from. -/
theorem source_of_compile {source : String} {p : Pattern} (h : compile source = .ok p) :
    p.source = source := by
  unfold compile at h
  split at h
  · injection h with h
    subst h
    rfl
  · cases h

/-- The text of a pattern compiles to it. -/
theorem compile_source (p : Pattern) : compile p.source = .ok p := by
  cases hcompile : compile p.source with
  | ok q => rw [ext_source (source_of_compile hcompile)]
  | error fault =>
    unfold compile at hcompile
    split at hcompile
    · cases hcompile
    · rename_i hread
      rw [p.node_eq] at hread
      cases hread

end Pattern

end LineCensus
