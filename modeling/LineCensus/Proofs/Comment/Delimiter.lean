import LineCensus.Pattern
import LineCensus.Comment.Classifier
import LineCensus.Proofs.Pattern.Search
import LineCensus.Proofs.Pattern.Sequence
import LineCensus.Proofs.Text.Trim

/-!
# LineCensus.Proofs.Comment.Delimiter — comments told by delimiters alone

A classifier that knows no patterns: it trims a text and looks whether a delimiter stands at its start or at
its end.

1. `Marker`: a delimiter and the end of a text at which it counts. `Marker.ofSource?` reads one off the text
   of a pattern.
2. `Delimiters`: the delimiters of a language, with `classify` and `countComments`.
3. `Marker.occursIn_node`, `after?_leading`: the pattern of a marker finds what the marker holds of.
-/

namespace LineCensus

open Text (trim trimStart trimEnd isSolid)
open Unicode (isBlank)

/-! ## Markers -/

/-- A delimiter, and where it counts. -/
inductive Marker where
  /-- At the start of a text, behind white space. -/
  | leading (d : List Char)
  /-- At the end of a text, in front of white space. -/
  | trailing (d : List Char)
deriving DecidableEq, Repr

namespace Marker

/-- The delimiter. -/
def text : Marker → List Char
  | leading d | trailing d => d

/-- Whether the delimiter stands where it counts. -/
def holds : Marker → List Char → Bool
  | leading d, line => d.isPrefixOf (trimStart line)
  | trailing d, line => d.isSuffixOf (trimEnd line)

/-- A text without the backslashes that make the characters behind them literal. -/
def unescape : List Char → List Char
  | '\\' :: c :: rest => c :: unescape rest
  | c :: rest => c :: unescape rest
  | [] => []

/-- White space at the start of a text, as patterns write it. -/
def startSource : List Char := ['^', '\\', 's', '*']

/-- White space at the end of a text, as patterns write it. -/
def endSource : List Char := ['\\', 's', '*', '$']

/-- The marker that a pattern is written as: white space at an end of the text, and a delimiter. -/
def ofSource? (source : String) : Option Marker :=
  let cs := source.toList
  if startSource.isPrefixOf cs then some (.leading (unescape (cs.drop startSource.length)))
  else if endSource.isSuffixOf cs then
    some (.trailing (unescape (cs.take (cs.length - endSource.length))))
  else none

end Marker

/-! ## Delimiters of a language -/

/-- The delimiters of one-line comments, and of the openings and ends of blocks. Openings stand at the start
of a line. -/
structure Delimiters where
  single : List Marker
  opening : List (List Char)
  closing : List Marker
deriving DecidableEq, Repr

namespace Delimiters

/-- What stands behind an opening at the start of a line. -/
def afterOpening? (d : Delimiters) (line : List Char) : Option (List Char) :=
  d.opening.findSome? fun o =>
    if o.isPrefixOf (trimStart line) then some ((trimStart line).drop o.length) else none

/-- The state behind a text in which a block is open. -/
def stateAfter (d : Delimiters) (text : List Char) : BlockState :=
  if d.closing.any (·.holds text) then .normal else .inBlock

/-- The kind of a line and the state after it. -/
def classify (d : Delimiters) (line : List Char) (state : BlockState) : LineKind × BlockState :=
  if (trim line).isEmpty then (.blank, state)
  else
    match state with
    | .inBlock => (.comment, d.stateAfter line)
    | .normal =>
      match d.afterOpening? line with
      | some rest => (.comment, d.stateAfter rest)
      | none => (if d.single.any (·.holds line) then .comment else .code, .normal)

/-- The number of comment lines from a state on. -/
def countFrom (d : Delimiters) (state : BlockState) : List (List Char) → Nat
  | [] => 0
  | line :: rest =>
    let (kind, next) := d.classify line state
    (if kind = .comment then 1 else 0) + d.countFrom next rest

/-- The number of comment lines of a file. -/
def countComments (d : Delimiters) (lines : List (List Char)) : Nat := d.countFrom .normal lines

/-- The delimiter of an opening. -/
def openingOf? : Marker → Option (List Char)
  | .leading d => some d
  | .trailing _ => none

/-- The delimiters that the patterns of a grammar are written as. -/
def ofGrammar? (g : Grammar) : Option Delimiters := do
  let single ← g.single.mapM fun p => Marker.ofSource? p.source
  let opening ← g.blockStart.mapM fun p => (Marker.ofSource? p.source).bind openingOf?
  let closing ← g.blockEnd.mapM fun p => Marker.ofSource? p.source
  pure ⟨single, opening, closing⟩

end Delimiters

/-! ## The patterns of markers -/

namespace Marker

open Pattern

/-- Any white space. -/
def blanks : Node := .loop (.set .blank) true

/-- The pattern of a marker. -/
def node : Marker → Node
  | leading d => Piece.sequence (.look .textStart :: blanks :: spelled d)
  | trailing d => Piece.sequence (spelled d ++ [blanks, .look .textEnd])

theorem match_blanks_iff {p q : Spot} :
    Match blanks p q ↔ ∃ ws : List Char, ws.all isBlank = true ∧ p.Spans q ws := match_loop_set_iff

theorem match_leading_iff {d : List Char} {p q : Spot} :
    Match (leading d).node p q ↔
      p.past = [] ∧ ∃ ws : List Char, ws.all isBlank = true ∧ p.Spans q (ws ++ d) := by
  rw [node, match_sequence_iff]
  constructor
  · rintro ⟨m, hstart, k, hblank, hd⟩
    rcases match_textStart_iff.1 hstart with ⟨rfl, hpast⟩
    rcases match_blanks_iff.1 hblank with ⟨ws, hws, hspans⟩
    exact ⟨hpast, ws, hws, hspans.trans (matchAll_spelled_iff.1 hd)⟩
  · rintro ⟨hpast, ws, hws, hspans⟩
    rcases Spot.Spans.split ws d hspans with ⟨k, hk, hd⟩
    exact ⟨p, match_textStart_iff.2 ⟨rfl, hpast⟩, k, match_blanks_iff.2 ⟨ws, hws, hk⟩,
      matchAll_spelled_iff.2 hd⟩

theorem match_trailing_iff {d : List Char} {p q : Spot} :
    Match (trailing d).node p q ↔
      q.rest = [] ∧ ∃ ws : List Char, ws.all isBlank = true ∧ p.Spans q (d ++ ws) := by
  rw [node, match_sequence_iff, matchAll_append_iff]
  constructor
  · rintro ⟨m, hd, k, hblank, e, hend, rfl⟩
    rcases match_textEnd_iff.1 hend with ⟨rfl, hrest⟩
    rcases match_blanks_iff.1 hblank with ⟨ws, hws, hspans⟩
    exact ⟨hrest, ws, hws, (matchAll_spelled_iff.1 hd).trans hspans⟩
  · rintro ⟨hrest, ws, hws, hspans⟩
    rcases Spot.Spans.split d ws hspans with ⟨k, hd, hk⟩
    exact ⟨k, matchAll_spelled_iff.2 hd, q, match_blanks_iff.2 ⟨ws, hws, hk⟩, q,
      match_textEnd_iff.2 ⟨rfl, hrest⟩, rfl⟩

/-- The pattern of a leading delimiter matches in a text up to what follows the delimiter. -/
theorem exists_match_leading_iff {d line rest : List Char} (hd : isSolid d = true) :
    (∃ p q : Spot, p.whole = line ∧ Match (leading d).node p q ∧ q.rest = rest) ↔
      trimStart line = d ++ rest := by
  rw [Text.trimStart_eq_append_iff hd]
  constructor
  · rintro ⟨p, q, hwhole, hmatch, rfl⟩
    rcases match_leading_iff.1 hmatch with ⟨hpast, ws, hws, hspans⟩
    refine ⟨ws, hws, ?_⟩
    rw [← hwhole, hspans.whole_eq, hpast, List.reverse_nil, List.nil_append]
  · rintro ⟨ws, hws, rfl⟩
    refine ⟨⟨[], ws ++ d ++ rest⟩, ⟨(ws ++ d).reverse ++ [], rest⟩, rfl, ?_, rfl⟩
    exact match_leading_iff.2 ⟨rfl, ws, hws, rfl, rfl⟩

/-- A search for a leading delimiter gives what stands behind it. -/
theorem after?_leading {d : List Char} (hd : isSolid d = true) (line : List Char) :
    (leading d).node.after? line =
      if d.isPrefixOf (trimStart line) then some ((trimStart line).drop d.length) else none := by
  split
  · rename_i hprefix
    rcases List.isPrefixOf_iff_prefix.1 hprefix with ⟨rest, hrest⟩
    rw [← hrest, List.drop_left]
    rcases (exists_match_leading_iff hd).2 hrest.symm with ⟨p, q, hp, hmatch, -⟩
    refine Node.after?_eq_some ⟨p, q, hp, hmatch⟩ ?_
    intro p' q' hp' hmatch'
    -- all matches are followed by what follows the delimiter
    have hrest' := (exists_match_leading_iff hd).1 ⟨p', q', hp', hmatch', rfl⟩
    exact (List.append_cancel_left (hrest.trans hrest')).symm
  · rename_i hprefix
    rw [Node.after?_eq_none_iff]
    rintro ⟨p, q, hp, hmatch⟩
    have hrest := (exists_match_leading_iff hd).1 ⟨p, q, hp, hmatch, rfl⟩
    exact hprefix (List.isPrefixOf_iff_prefix.2 ⟨q.rest, hrest.symm⟩)

/-- The pattern of a marker occurs in the texts that the marker holds of. -/
theorem occursIn_node {m : Marker} (hm : isSolid m.text = true) (line : List Char) :
    m.node.occursIn line = m.holds line := by
  cases m with
  | leading d =>
    have hd : isSolid d = true := hm
    rw [Node.occursIn, after?_leading hd, holds]
    cases d.isPrefixOf (trimStart line) <;> rfl
  | trailing d =>
    have hd : isSolid d = true := hm
    rw [Bool.eq_iff_iff, Node.occursIn_iff, holds, List.isSuffixOf_iff_suffix]
    constructor
    · rintro ⟨p, q, rfl, hmatch⟩
      rcases match_trailing_iff.1 hmatch with ⟨hrest, ws, hws, hspans⟩
      refine ⟨p.past.reverse, ((Text.trimEnd_eq_append_iff hd).2 ⟨ws, hws, ?_⟩).symm⟩
      rw [hspans.whole_eq, hrest, List.append_nil, ← List.append_assoc]
    · rintro ⟨front, hfront⟩
      rcases (Text.trimEnd_eq_append_iff hd).1 hfront.symm with ⟨ws, hws, rfl⟩
      refine ⟨⟨front.reverse, d ++ ws⟩, ⟨(d ++ ws).reverse ++ front.reverse, []⟩, ?_, ?_⟩
      · simp [Spot.whole]
      · exact match_trailing_iff.2 ⟨rfl, ws, hws, rfl, by simp⟩

end Marker

end LineCensus
