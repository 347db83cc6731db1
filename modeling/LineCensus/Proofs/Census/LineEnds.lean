import LineCensus.Proofs.Census.Partition
import LineCensus.Proofs.Text.Lines

/-!
# LineCensus.Proofs.Census.LineEnds — the breakdown of a file and its line ends

1. `Registry.kinds_append`: the kinds of lines behind others, if no block is open between them.
2. `measure_congr`: a breakdown is made of the lines only.
3. `measure_append_of_normal`: a breakdown of two texts is the sum of theirs.
4. `measure_lineEnds`: what it does to a breakdown to change the line ends of a text, to finish its last line, and to
   write another text behind it.
-/

namespace LineCensus

namespace Registry

/-- No block is open behind some lines of a file. Without a grammar there are no blocks. -/
def ClosesBlocks (r : Registry) (extension : String) (lines : List (List Char)) : Prop :=
  ∀ g, r.grammar? extension = some g → (g.classifyAll .normal lines).2 = .normal

/-- Behind lines that leave no block open the kinds are those of a file of its own. -/
theorem kinds_append {r : Registry} {extension : String} {lines : List (List Char)} (h : r.ClosesBlocks extension lines)
    (more : List (List Char)) :
    r.kinds extension (lines ++ more) = r.kinds extension lines ++ r.kinds extension more := by
  cases hgrammar : r.grammar? extension with
  | none => simp only [kinds, hgrammar, List.map_append]
  | some g =>
    have hclosed : (g.classifyAll .normal lines).2 = .normal := h g hgrammar
    simp only [kinds, hgrammar]
    rw [Grammar.classifyAll_append, hclosed]

end Registry

namespace Breakdown

variable {extension : String} {registry : Registry} {s t : List Char}

/-- Texts with the same lines have the same breakdown. -/
theorem measure_congr (h : Text.lines s = Text.lines t) :
    measure s extension registry = measure t extension registry := by
  rw [measure_eq_count_kinds, measure_eq_count_kinds, h]

/-- Lines and blank lines of two texts add up, whatever is open between them. -/
theorem lines_blank_measure_append (h : Text.EndsLine s) (t : List Char) (extension : String) (registry : Registry) :
    (measure (s ++ t) extension registry).lines =
        (measure s extension registry).lines + (measure t extension registry).lines ∧
      (measure (s ++ t) extension registry).blank =
        (measure s extension registry).blank + (measure t extension registry).blank := by
  simp only [measure_eq_count_kinds, Registry.count_blank_kinds]
  rw [Text.lines_append h, List.length_append, List.countP_append]
  exact ⟨rfl, rfl⟩

/-- Comments and code of two texts add up if no block is open between them. -/
theorem comments_code_measure_append (h : Text.EndsLine s) (hclosed : registry.ClosesBlocks extension (Text.lines s)) :
    (measure (s ++ t) extension registry).comments =
        (measure s extension registry).comments + (measure t extension registry).comments ∧
      (measure (s ++ t) extension registry).code =
        (measure s extension registry).code + (measure t extension registry).code := by
  simp only [measure_eq_count_kinds]
  rw [Text.lines_append h, Registry.kinds_append hclosed, List.count_append, List.count_append]
  exact ⟨rfl, rfl⟩

/-- Line ends do not matter. With a carriage return before each line feed a text has the same breakdown, unless it
holds such a pair already. With a line feed behind its last line it has the same breakdown, unless that line is
finished or ends in a carriage return. If no line is left unfinished, another text behind it adds its lines and its
blank lines, and also its comments and code if no block is open in between; without a grammar none is. -/
theorem measure_lineEnds (extension : String) (registry : Registry) :
    (∀ s : List Char, ¬['\r', '\n'] <:+: s →
      measure (Text.withReturns s) extension registry = measure s extension registry) ∧
    (∀ s : List Char, s ≠ [] → s.getLast? ≠ some '\n' → s.getLast? ≠ some '\r' →
      measure (s ++ ['\n']) extension registry = measure s extension registry) ∧
    ∀ s : List Char, Text.EndsLine s → ∀ t : List Char,
      let first := measure s extension registry
      let second := measure t extension registry
      let both := measure (s ++ t) extension registry
      Text.lines (s ++ t) = Text.lines s ++ Text.lines t ∧
        both.lines = first.lines + second.lines ∧
        both.blank = first.blank + second.blank ∧
        (registry.ClosesBlocks extension (Text.lines s) →
          both.comments = first.comments + second.comments ∧ both.code = first.code + second.code) ∧
        (registry.grammar? extension = none →
          both.comments = first.comments + second.comments ∧ both.code = first.code + second.code) := by
  refine ⟨?_, ?_, ?_⟩
  · intro s hpair
    exact measure_congr (Text.lines_withReturns hpair)
  · intro s hne hnewline hreturn
    exact measure_congr (Text.lines_append_newline hne hnewline hreturn)
  · intro s hends t first second both
    have hcounted := lines_blank_measure_append hends t extension registry
    refine ⟨Text.lines_append hends t, hcounted.1, hcounted.2, ?_, ?_⟩
    · intro hclosed
      exact comments_code_measure_append hends hclosed
    · intro hnone
      apply comments_code_measure_append hends
      intro g hgrammar
      rw [hnone] at hgrammar
      cases hgrammar

/-- In C a block that is closed in a text does not reach the next one. A carriage return inside a line is left there,
and one at the end of a text as well. -/
theorem measure_lineEnds_block :
    let s := ['/', '*', 'a', '\r', 'b', '\n', '\n', '*', '/', '\n']
    let t := ['c', '\n', '/', '*', 'd', '\r']
    measure ['/', '*', 'a', '\r', 'b', '\r', '\n', '\r', '\n', '*', '/', '\r', '\n'] ".c" .builtin = ⟨3, 1, 2, 0⟩ ∧
      measure (t ++ ['e'] ++ ['\n']) ".c" .builtin = measure (t ++ ['e']) ".c" .builtin ∧
      (measure (s ++ t) ".c" .builtin).comments = 3 ∧ (measure (s ++ t) ".c" .builtin).code = 1 := by
  intro s t
  rcases measure_lineEnds ".c" .builtin with ⟨hreturns, hnewline, happend⟩
  have hpair : ¬['\r', '\n'] <:+: s := by decide
  have hends : Text.EndsLine s := .inr rfl
  -- together, so that the grammar of C is looked up once
  have hruns : (Registry.builtin.grammar? ".c").map (fun g => (g.classifyAll .normal (Text.lines s)).2) = some .normal ∧
      measure s ".c" .builtin = ⟨3, 1, 2, 0⟩ ∧ measure t ".c" .builtin = ⟨2, 0, 1, 1⟩ := by
    decide +kernel
  rcases hruns with ⟨hstate, hs, ht⟩
  have hclosed : Registry.builtin.ClosesBlocks ".c" (Text.lines s) := by
    intro g hgrammar
    rw [hgrammar] at hstate
    exact Option.some.inj hstate
  have hsum := (happend s hends t).2.2.2.1 hclosed
  simp only [hs, ht] at hsum
  refine ⟨?_, ?_, hsum.1, hsum.2⟩
  · have hreturned := hreturns s hpair
    rw [hs] at hreturned
    exact hreturned
  · exact hnewline (t ++ ['e']) (by decide) (by decide) (by decide)

end Breakdown

end LineCensus
