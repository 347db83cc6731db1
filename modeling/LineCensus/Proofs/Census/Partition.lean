import LineCensus.Count
import LineCensus.Proofs.Comment.Run

/-!
# LineCensus.Proofs.Census.Partition — the parts of a file add up to its lines

Blank lines are counted apart from comments, and code is what the two counts leave. All three are read off
one labelling of the lines here:

1. `Registry.kinds`: the kinds of the lines under an extension, by its grammar, or blank and code only.
2. `measure_eq_count_kinds`: a breakdown is made of the counts of the three kinds.
3. `blank_add_comments_add_code`: the counts add up, so nothing is ever cut off at zero.
-/

namespace LineCensus

namespace Registry

/-- The kinds of the lines of a file under an extension. The file begins outside any block. -/
def kinds (r : Registry) (extension : String) (lines : List (List Char)) : List LineKind :=
  match r.grammar? extension with
  | some g => (g.classifyAll .normal lines).1
  | none => lines.map fun line => if Text.isBlankLine line then .blank else .code

variable (r : Registry) (extension : String) (lines : List (List Char))

theorem length_kinds : (r.kinds extension lines).length = lines.length := by
  unfold kinds
  split
  · exact Grammar.length_classifyAll _ _ _
  · exact List.length_map _

/-- The blank kinds are the blank lines, with or without a grammar. -/
theorem count_blank_kinds :
    (r.kinds extension lines).count .blank = lines.countP Text.isBlankLine := by
  unfold kinds
  split
  · exact Grammar.count_blank_classifyAll _ _ _
  · rw [List.count_eq_countP, List.countP_map]
    congr 1
    funext line
    by_cases hblank : Text.isBlankLine line = true <;> simp [hblank]

/-- The comment kinds are what the grammar counts as comments, none without one. -/
theorem count_comment_kinds :
    (r.kinds extension lines).count .comment =
      ((r.grammar? extension).map (·.countComments lines)).getD 0 := by
  unfold kinds
  split
  · rename_i g hg
    rw [hg, Option.map_some, Option.getD_some, Grammar.countComments_eq_count]
  · rename_i hnone
    rw [hnone, Option.map_none, Option.getD_none, List.count_eq_zero]
    intro hmem
    rcases List.mem_map.1 hmem with ⟨line, -, hline⟩
    by_cases hblank : Text.isBlankLine line = true <;> simp [hblank] at hline

end Registry

namespace Breakdown

variable (source : List Char) (extension : String) (registry : Registry)

/-- A breakdown is made of the counts of the three kinds. -/
theorem measure_eq_count_kinds :
    measure source extension registry =
      ⟨(Text.lines source).length,
        (registry.kinds extension (Text.lines source)).count .blank,
        (registry.kinds extension (Text.lines source)).count .comment,
        (registry.kinds extension (Text.lines source)).count .code⟩ := by
  have hblank := registry.count_blank_kinds extension (Text.lines source)
  have hcomment := registry.count_comment_kinds extension (Text.lines source)
  have hlength := registry.length_kinds extension (Text.lines source)
  have hall := count_kinds (registry.kinds extension (Text.lines source))
  -- code is a difference, and the three counts exhaust the lines
  have hcode : (Text.lines source).length -
      ((Text.lines source).countP Text.isBlankLine +
        ((registry.grammar? extension).map (·.countComments (Text.lines source))).getD 0) =
      (registry.kinds extension (Text.lines source)).count .code := by
    omega
  simp only [measure, ofLines]
  rw [hcode, hblank, hcomment]

/-- The parts of a measured file add up to its lines. -/
theorem blank_add_comments_add_code :
    (measure source extension registry).blank + (measure source extension registry).comments +
      (measure source extension registry).code = (measure source extension registry).lines := by
  rw [measure_eq_count_kinds, count_kinds, Registry.length_kinds]

/-- A measured file has no more blank lines and comments than lines. -/
theorem overlaps_measure : (measure source extension registry).overlaps = false := by
  have hsum := blank_add_comments_add_code source extension registry
  simp only [overlaps, decide_eq_false_iff_not]
  omega

/-- Blank lines, comments and code of a file are the lines that one run of the classifier labels so, for
any grammars. Hence they add up to the lines, the difference that gives the code is exact, and measuring
logs no warning. -/
theorem measure_partitions_lines (candidate : Candidate) :
    let lines := Text.lines source
    let kinds := registry.kinds extension lines
    let b := measure source extension registry
    kinds.length = lines.length ∧
      b = ⟨lines.length, kinds.count .blank, kinds.count .comment, kinds.count .code⟩ ∧
      b.lines = b.blank + b.comments + b.code ∧
      b.overlaps = false ∧
      Reading.event? ⟨candidate, some (extension, b)⟩ = none := by
  intro lines kinds b
  have hoverlaps : b.overlaps = false := overlaps_measure source extension registry
  refine ⟨registry.length_kinds extension lines, measure_eq_count_kinds source extension registry,
    (blank_add_comments_add_code source extension registry).symm, hoverlaps, ?_⟩
  simp [Reading.event?, hoverlaps]

end Breakdown

end LineCensus
