import LineCensus.Proofs.Census.Partition
import LineCensus.Proofs.Comment.Owner

/-!
# LineCensus.Proofs.Census.BlankLines — blank lines put in and taken out

A blank line has its kind from itself and hands the state on as it was. So any two runs over lines that differ in blank
lines only are compared with the run over the lines that are not blank.

1. `Text.withoutBlank`: the lines that are not blank. `classifyAll_withoutBlank`, `kinds_withoutBlank`: they have the
   kinds that they have among the blank ones, and leave the same state.
2. `LineEdit`, `oldLines`, `newLines`: lines that stay, are put in and are taken out, and what stood there before and
   stands there afterwards. `withoutBlank_newLines`: if no other lines than blank ones come and go, the lines that are
   not blank stay.
3. `length_newLines`, `countP_newLines`, `count_newLines`: what this does to each number of a breakdown.
4. `Grammar.exists_kind_of_keep`: a line that stays has the kind it had.
5. `measure_blankEdits`: all of it, for single lines and for files.
-/

namespace LineCensus

/-! ## Lines without the blank ones -/

namespace Text

/-- The lines that are not blank. -/
def withoutBlank (lines : List (List Char)) : List (List Char) := lines.filter (!isBlankLine ·)

theorem withoutBlank_cons_of_blank {line : List Char} (h : isBlankLine line = true) (rest : List (List Char)) :
    withoutBlank (line :: rest) = withoutBlank rest := List.filter_cons_of_neg (by simp [h])

theorem withoutBlank_cons_of_not_blank {line : List Char} (h : isBlankLine line = false) (rest : List (List Char)) :
    withoutBlank (line :: rest) = line :: withoutBlank rest := List.filter_cons_of_pos (by simp [h])

/-- Every line is blank or is not. -/
theorem countP_add_length_withoutBlank (lines : List (List Char)) :
    lines.countP isBlankLine + (withoutBlank lines).length = lines.length := by
  have hsplit := List.length_eq_countP_add_countP isBlankLine (l := lines)
  have hrest : (withoutBlank lines).length = lines.countP (!isBlankLine ·) := List.countP_eq_length_filter.symm
  simp only [Bool.not_eq_true, Bool.decide_eq_false] at hsplit
  omega

end Text

namespace Grammar

variable (g : Grammar)

/-- A blank line is blank in every state, and the state stays. -/
theorem classify_of_blank {line : List Char} (h : Text.isBlankLine line = true) (state : BlockState) :
    g.classify line state = (.blank, state) := if_pos h

/-- Without the blank lines the others have the same kinds, and the state at the end is the same. -/
theorem classifyAll_withoutBlank (state : BlockState) (lines : List (List Char)) :
    g.classifyAll state (Text.withoutBlank lines) =
      ((g.classifyAll state lines).1.filter (· != .blank), (g.classifyAll state lines).2) := by
  induction lines generalizing state with
  | nil => rfl
  | cons line rest ih =>
    by_cases hblank : Text.isBlankLine line = true
    · -- the line is passed over, and the rest begins in the same state
      rw [Text.withoutBlank_cons_of_blank hblank, ih, classifyAll_cons, classify_of_blank g hblank]
      simp
    · have hkind : (g.classify line state).1 ≠ .blank := by
        intro hkind
        exact hblank ((g.classify_fst_eq_blank_iff line state).1 hkind)
      rw [Text.withoutBlank_cons_of_not_blank (by simpa using hblank), classifyAll_cons, ih, classifyAll_cons]
      simp [hkind]

end Grammar

/-- The kinds of a file without its blank lines are those of the others. -/
theorem Registry.kinds_withoutBlank (r : Registry) (extension : String) (lines : List (List Char)) :
    r.kinds extension (Text.withoutBlank lines) = (r.kinds extension lines).filter (· != .blank) := by
  unfold kinds
  split
  · rw [Grammar.classifyAll_withoutBlank]
  · -- without a grammar the kind of a line is its own
    rw [Text.withoutBlank, List.filter_map]
    congr 2
    funext line
    by_cases hblank : Text.isBlankLine line = true <;> simp [hblank]

/-! ## Edits -/

/-- A line that stays, one that is put in, or one that is taken out. -/
inductive LineEdit where
  | keep (line : List Char)
  | insert (line : List Char)
  | delete (line : List Char)
deriving DecidableEq, Repr

namespace LineEdit

/-- The line that stood there before. -/
def old? : LineEdit → Option (List Char)
  | keep line | delete line => some line
  | insert _ => none

/-- The line that stands there afterwards. -/
def new? : LineEdit → Option (List Char)
  | keep line | insert line => some line
  | delete _ => none

/-- Whether a line is put in. -/
def isInsertion : LineEdit → Bool
  | insert _ => true
  | keep _ | delete _ => false

/-- Whether a line is taken out. -/
def isDeletion : LineEdit → Bool
  | delete _ => true
  | keep _ | insert _ => false

/-- Whether the line stays or is blank. -/
def sparesText : LineEdit → Bool
  | keep _ => true
  | insert line | delete line => Text.isBlankLine line

end LineEdit

variable {script : List LineEdit}

/-- The lines before the edits. -/
def oldLines (script : List LineEdit) : List (List Char) := script.filterMap (·.old?)

/-- The lines after the edits. -/
def newLines (script : List LineEdit) : List (List Char) := script.filterMap (·.new?)

theorem oldLines_append_keep (front : List LineEdit) (line : List Char) (back : List LineEdit) :
    oldLines (front ++ .keep line :: back) = oldLines front ++ line :: oldLines back := List.filterMap_append

theorem newLines_append_keep (front : List LineEdit) (line : List Char) (back : List LineEdit) :
    newLines (front ++ .keep line :: back) = newLines front ++ line :: newLines back := List.filterMap_append

/-- Edits that spare the text leave the lines that are not blank as they are. -/
theorem withoutBlank_newLines (h : ∀ e ∈ script, e.sparesText = true) :
    Text.withoutBlank (newLines script) = Text.withoutBlank (oldLines script) := by
  induction script with
  | nil => rfl
  | cons e rest ih =>
    have hrest := ih (fun e' he' => h e' (List.mem_cons_of_mem e he'))
    have hspares : e.sparesText = true := h e List.mem_cons_self
    cases e with
    | keep line =>
      show Text.withoutBlank (line :: newLines rest) = Text.withoutBlank (line :: oldLines rest)
      by_cases hblank : Text.isBlankLine line = true
      · rw [Text.withoutBlank_cons_of_blank hblank, Text.withoutBlank_cons_of_blank hblank, hrest]
      · have hnot : Text.isBlankLine line = false := by simpa using hblank
        rw [Text.withoutBlank_cons_of_not_blank hnot, Text.withoutBlank_cons_of_not_blank hnot, hrest]
    | insert line =>
      show Text.withoutBlank (line :: newLines rest) = Text.withoutBlank (oldLines rest)
      rw [Text.withoutBlank_cons_of_blank hspares, hrest]
    | delete line =>
      show Text.withoutBlank (newLines rest) = Text.withoutBlank (line :: oldLines rest)
      rw [Text.withoutBlank_cons_of_blank hspares, hrest]

/-! ## Numbers of lines -/

/-- Lines are put in and taken out one by one. -/
theorem length_newLines (script : List LineEdit) :
    (newLines script).length + script.countP (·.isDeletion) =
      (oldLines script).length + script.countP (·.isInsertion) := by
  induction script with
  | nil => rfl
  | cons e rest ih =>
    rw [List.countP_cons, List.countP_cons]
    cases e with
    | keep line =>
      show (newLines rest).length + 1 + (_ + 0) = (oldLines rest).length + 1 + (_ + 0)
      omega
    | insert line =>
      show (newLines rest).length + 1 + (_ + 0) = (oldLines rest).length + (_ + 1)
      omega
    | delete line =>
      show (newLines rest).length + (_ + 1) = (oldLines rest).length + 1 + (_ + 0)
      omega

/-- If the text is spared, blank lines come and go as lines do. -/
theorem countP_newLines (h : ∀ e ∈ script, e.sparesText = true) :
    (newLines script).countP Text.isBlankLine + script.countP (·.isDeletion) =
      (oldLines script).countP Text.isBlankLine + script.countP (·.isInsertion) := by
  have hlines := length_newLines script
  have hold := Text.countP_add_length_withoutBlank (oldLines script)
  have hnew := Text.countP_add_length_withoutBlank (newLines script)
  rw [withoutBlank_newLines h] at hnew
  omega

/-! ## Kinds of lines -/

/-- Kinds that are not blank come as often afterwards as before, however the kinds of lines are found, if the lines that
are not blank have theirs without the blank ones too. -/
theorem count_newLines (kinds : List (List Char) → List LineKind)
    (hkinds : ∀ lines, kinds (Text.withoutBlank lines) = (kinds lines).filter (· != .blank))
    (h : ∀ e ∈ script, e.sparesText = true) {kind : LineKind} (hkind : kind ≠ .blank) :
    (kinds (newLines script)).count kind = (kinds (oldLines script)).count kind := by
  have hcount : ∀ lines, (kinds (Text.withoutBlank lines)).count kind = (kinds lines).count kind := by
    intro lines
    rw [hkinds]
    exact List.count_filter (by simpa using hkind)
  rw [← hcount, withoutBlank_newLines h, hcount]

namespace Grammar

variable (g : Grammar) (state : BlockState)

/-- If the text is spared, the lines before and afterwards leave the same state. -/
theorem classifyAll_newLines_snd (h : ∀ e ∈ script, e.sparesText = true) :
    (g.classifyAll state (newLines script)).2 = (g.classifyAll state (oldLines script)).2 := by
  have hstate : ∀ lines, (g.classifyAll state (Text.withoutBlank lines)).2 = (g.classifyAll state lines).2 := by
    intro lines
    rw [classifyAll_withoutBlank]
  rw [← hstate, withoutBlank_newLines h, hstate]

/-- If the text is spared, comments are counted as before, and the state at the end is the same. -/
theorem countFrom_newLines (h : ∀ e ∈ script, e.sparesText = true) :
    g.countFrom (newLines script) state = g.countFrom (oldLines script) state := by
  have hkinds : ∀ lines, (g.classifyAll state (Text.withoutBlank lines)).1 =
      (g.classifyAll state lines).1.filter (· != .blank) := by
    intro lines
    rw [classifyAll_withoutBlank]
  have hcomment : LineKind.comment ≠ .blank := by decide
  have hcount := count_newLines (fun lines => (g.classifyAll state lines).1) hkinds h hcomment
  rw [countFrom_eq_classifyAll, countFrom_eq_classifyAll, hcount, classifyAll_newLines_snd g state h]

/-- A line that stays has one kind before and afterwards, since the lines in front of it leave the same state. -/
theorem exists_kind_of_keep {front back : List LineEdit} {line : List Char}
    (h : ∀ e ∈ front ++ .keep line :: back, e.sparesText = true) :
    ∃ kind, (g.classifyAll state (oldLines (front ++ .keep line :: back))).1[(oldLines front).length]? = some kind ∧
      (g.classifyAll state (newLines (front ++ .keep line :: back))).1[(newLines front).length]? = some kind := by
  have hfront : ∀ e ∈ front, e.sparesText = true := by
    intro e he
    exact h e (List.mem_append_left _ he)
  refine ⟨(g.classify line (g.classifyAll state (oldLines front)).2).1, ?_, ?_⟩
  · rw [oldLines_append_keep, getElem?_classifyAll_append]
  · rw [newLines_append_keep, getElem?_classifyAll_append, classifyAll_newLines_snd g state hfront]

end Grammar

/-! ## Files -/

namespace Breakdown

/-- Blank lines are transparent. If no other lines than blank ones are put in and taken out, then under any grammar and
from either state each line that stays has the kind it had, and the comments and the state at the end are the same. The
breakdown of a file keeps its comments and its code, with or without a grammar, and its lines and its blank lines change
by the numbers of lines put in and taken out. -/
theorem measure_blankEdits (script : List LineEdit) (h : ∀ e ∈ script, e.sparesText = true) :
    (∀ (g : Grammar) (state : BlockState),
      (∀ front line back, script = front ++ .keep line :: back →
        ∃ kind, (g.classifyAll state (oldLines script)).1[(oldLines front).length]? = some kind ∧
          (g.classifyAll state (newLines script)).1[(newLines front).length]? = some kind) ∧
      g.countFrom (newLines script) state = g.countFrom (oldLines script) state ∧
      g.countComments (newLines script) = g.countComments (oldLines script)) ∧
    ∀ (s t : List Char) (extension : String) (registry : Registry),
      Text.lines s = oldLines script → Text.lines t = newLines script →
        let before := measure s extension registry
        let after := measure t extension registry
        after.comments = before.comments ∧ after.code = before.code ∧
          after.lines + script.countP (·.isDeletion) = before.lines + script.countP (·.isInsertion) ∧
          after.blank + script.countP (·.isDeletion) = before.blank + script.countP (·.isInsertion) := by
  constructor
  · intro g state
    refine ⟨?_, g.countFrom_newLines state h, ?_⟩
    · rintro front line back rfl
      exact g.exists_kind_of_keep state h
    · rw [Grammar.countComments, g.countFrom_newLines .normal h]
      rfl
  · intro s t extension registry hs ht before after
    have hcount : ∀ kind, kind ≠ .blank → (registry.kinds extension (newLines script)).count kind =
        (registry.kinds extension (oldLines script)).count kind := by
      intro kind hkind
      exact count_newLines (registry.kinds extension) (registry.kinds_withoutBlank extension) h hkind
    have hbefore : before = ⟨_, _, _, _⟩ := measure_eq_count_kinds s extension registry
    have hafter : after = ⟨_, _, _, _⟩ := measure_eq_count_kinds t extension registry
    rw [hbefore, hafter, hs, ht]
    simp only [Registry.count_blank_kinds]
    exact ⟨hcount .comment (by decide), hcount .code (by decide), length_newLines script, countP_newLines h⟩

/-- A block whose end is matched by blank text, with a blank line put into it and another one taken out. -/
def spacedBlock : List LineEdit :=
  [.keep "< a".toList, .insert "  ".toList, .keep "b".toList, .delete [], .keep ">".toList, .insert [],
    .keep "c".toList]

/-- A language whose blocks end at a line that holds nothing but maybe a sign. -/
def openEnded : LanguageRow := ⟨"A", [".a"], [], ["^<"], [r"^\s*>?$"]⟩

/-- The blank lines do not end the block, so `b` is a comment before and afterwards. -/
theorem measure_blankEdits_spacedBlock :
    let registry := Registry.empty.attempt openEnded
    let s := "< a\nb\n\n>\nc".toList
    let t := "< a\n  \nb\n>\n\nc".toList
    (∀ e ∈ spacedBlock, e.sparesText = true) ∧
      Text.lines s = oldLines spacedBlock ∧ Text.lines t = newLines spacedBlock ∧
      measure s ".a" registry = ⟨5, 1, 3, 1⟩ ∧
      (measure t ".a" registry).comments = 3 ∧ (measure t ".a" registry).code = 1 ∧
      (measure t ".a" registry).lines + 1 = 5 + 2 ∧ (measure t ".a" registry).blank + 1 = 1 + 2 := by
  intro registry s t
  have hspares : ∀ e ∈ spacedBlock, e.sparesText = true := by decide
  have hs : Text.lines s = oldLines spacedBlock := by decide
  have ht : Text.lines t = newLines spacedBlock := by decide
  have hmeasure : measure s ".a" registry = ⟨5, 1, 3, 1⟩ := by decide +kernel
  have hedits := (measure_blankEdits spacedBlock hspares).2 s t ".a" registry hs ht
  simp only [hmeasure] at hedits
  exact ⟨hspares, hs, ht, hmeasure, hedits⟩

end Breakdown

end LineCensus
