import LineCensus.Census.Breakdown
import LineCensus.Comment.Builtin
import LineCensus.Proofs.Comment.Delimiter
import LineCensus.Proofs.Comment.Run

/-!
# LineCensus.Proofs.Comment.Table — the languages of the table, without patterns

1. `Delimiters.Fits`: the patterns of a grammar are those of delimiters. Every grammar of the table fits the
   delimiters that its patterns are written as.
2. `classify_eq_of_fits`: such a grammar classifies every line as its delimiters do.
3. `classify_pad`: white space around a line changes nothing for such a grammar.
4. `classify_builtin`: both for all languages of the table, with the comments of their files.
-/

namespace LineCensus

open Text (trim trimStart trimEnd isSolid)
open Unicode (isBlank)

/-! ## Grammars and their delimiters -/

namespace Delimiters

/-- The patterns of a grammar are those of the delimiters, none of which holds white space. -/
def Fits (d : Delimiters) (g : Grammar) : Prop :=
  (g.single.map (·.node) = d.single.map Marker.node ∧
    g.blockStart.map (·.node) = d.opening.map (fun o => (Marker.leading o).node) ∧
    g.blockEnd.map (·.node) = d.closing.map Marker.node) ∧
  (∀ m ∈ d.single, isSolid m.text = true) ∧ (∀ o ∈ d.opening, isSolid o = true) ∧
    ∀ m ∈ d.closing, isSolid m.text = true

instance (d : Delimiters) (g : Grammar) : Decidable (d.Fits g) :=
  inferInstanceAs (Decidable ((_ ∧ _ ∧ _) ∧ _ ∧ _ ∧ _))

/-- Some of the patterns occur in a line if some of their markers hold of it. -/
theorem any_occursIn_eq {ps : List Pattern} {ms : List Marker}
    (hnodes : ps.map (·.node) = ms.map Marker.node) (hsolid : ∀ m ∈ ms, isSolid m.text = true)
    (line : List Char) : ps.any (·.occursIn line) = ms.any (·.holds line) := by
  calc ps.any (·.occursIn line)
      = (ps.map (·.node)).any (·.occursIn line) := by
        rw [List.any_map]
        rfl
    _ = ms.any fun m => m.node.occursIn line := by
        rw [hnodes, List.any_map]
        rfl
    _ = ms.any (·.holds line) := by
        rw [Bool.eq_iff_iff, List.any_eq_true, List.any_eq_true]
        constructor
        · rintro ⟨m, hm, hoccurs⟩
          exact ⟨m, hm, by rwa [Marker.occursIn_node (hsolid m hm)] at hoccurs⟩
        · rintro ⟨m, hm, hholds⟩
          exact ⟨m, hm, by rwa [Marker.occursIn_node (hsolid m hm)]⟩

/-- The first opening pattern that matches is that of the first opening at the start of the line. -/
theorem findSome?_after?_eq {ps : List Pattern} {os : List (List Char)}
    (hnodes : ps.map (·.node) = os.map fun o => (Marker.leading o).node)
    (hsolid : ∀ o ∈ os, isSolid o = true) (line : List Char) :
    ps.findSome? (·.after? line) = os.findSome? fun o =>
      if o.isPrefixOf (trimStart line) then some ((trimStart line).drop o.length) else none := by
  have hps : ps.findSome? (·.after? line) = (ps.map (·.node)).findSome? (·.after? line) := by
    rw [List.findSome?_map]
    rfl
  rw [hps, hnodes]
  clear hps hnodes
  induction os with
  | nil => rfl
  | cons o os ih =>
    simp only [List.map_cons, List.findSome?_cons]
    rw [Marker.after?_leading (hsolid o List.mem_cons_self),
      ih fun o' ho' => hsolid o' (List.mem_cons_of_mem o ho')]

variable {d : Delimiters} {g : Grammar}

/-- A grammar whose patterns are those of delimiters classifies every line as the delimiters do. -/
theorem classify_eq_of_fits (h : d.Fits g) (line : List Char) (state : BlockState) :
    g.classify line state = d.classify line state := by
  rcases h with ⟨⟨hsingle, hopening, hclosing⟩, hsolid, hsolid', hsolid''⟩
  have hstate : ∀ text, g.stateAfter text = d.stateAfter text := by
    intro text
    rw [Grammar.stateAfter, stateAfter, Grammar.closes, any_occursIn_eq hclosing hsolid'']
  have hafter : g.afterStart? line = d.afterOpening? line :=
    findSome?_after?_eq hopening hsolid' line
  have hone : g.isSingle line = d.single.any (·.holds line) := any_occursIn_eq hsingle hsolid line
  unfold Grammar.classify classify
  rw [hafter, hone]
  simp only [hstate]
  rfl

/-- Counting comments by equal classifiers gives equal numbers. -/
theorem countComments_eq_of_fits (h : d.Fits g) (lines : List (List Char)) :
    g.countComments lines = d.countComments lines := by
  -- the state changes from line to line, so the lines are counted from any state
  have hcount : ∀ state, (g.classifyAll state lines).1.count .comment = d.countFrom state lines := by
    induction lines with
    | nil =>
      intro state
      rfl
    | cons line rest ih =>
      intro state
      rw [Grammar.classifyAll_cons, List.count_cons, ih, countFrom, classify_eq_of_fits h]
      simp only [beq_iff_eq]
      omega
  rw [Grammar.countComments_eq_count, hcount, countComments]

/-! ## Padded lines -/

/-- White space around a line does not change what a marker says of it. -/
theorem holds_pad {m : Marker} (hm : isSolid m.text = true) {us vs : List Char}
    (hus : us.all isBlank = true) (hvs : vs.all isBlank = true) (line : List Char) :
    m.holds (us ++ line ++ vs) = m.holds line := by
  by_cases hblank : line.all isBlank = true
  · -- nothing but white space: nothing is left after trimming
    have hall : (us ++ line ++ vs).all isBlank = true := by simp [hus, hvs, hblank]
    cases m with
    | leading d =>
      simp only [Marker.holds, Text.trimStart_eq_nil_of_blank hall, Text.trimStart_eq_nil_of_blank hblank]
    | trailing d =>
      simp only [Marker.holds, Text.trimEnd_eq_nil_of_blank hall, Text.trimEnd_eq_nil_of_blank hblank]
  · rw [Bool.not_eq_true] at hblank
    cases m with
    | leading d =>
      rw [Bool.eq_iff_iff, Marker.holds, Marker.holds, List.append_assoc,
        Text.trimStart_append_of_blank hus, Text.trimStart_append hblank,
        List.isPrefixOf_iff_prefix, List.isPrefixOf_iff_prefix]
      exact Text.prefix_append_blank_iff hm hvs
    | trailing d =>
      rw [Bool.eq_iff_iff, Marker.holds, Marker.holds, Text.trimEnd_append_of_blank hvs,
        Text.trimEnd_append hblank, List.isSuffixOf_iff_suffix, List.isSuffixOf_iff_suffix]
      exact Text.suffix_blank_append_iff hm hus

/-- White space behind a line stays behind what follows an opening. -/
theorem afterOpening?_pad (hsolid : ∀ o ∈ d.opening, isSolid o = true) {us vs : List Char}
    (hus : us.all isBlank = true) (hvs : vs.all isBlank = true) {line : List Char}
    (hline : line.all isBlank = false) :
    d.afterOpening? (us ++ line ++ vs) = (d.afterOpening? line).map (· ++ vs) := by
  have htrim : trimStart (us ++ line ++ vs) = trimStart line ++ vs := by
    rw [List.append_assoc, Text.trimStart_append_of_blank hus, Text.trimStart_append hline]
  unfold afterOpening?
  rw [htrim]
  generalize d.opening = os at hsolid
  induction os with
  | nil => rfl
  | cons o os ih =>
    rw [List.findSome?_cons, List.findSome?_cons]
    have hiff : o.isPrefixOf (trimStart line ++ vs) = o.isPrefixOf (trimStart line) := by
      rw [Bool.eq_iff_iff, List.isPrefixOf_iff_prefix, List.isPrefixOf_iff_prefix]
      exact Text.prefix_append_blank_iff (hsolid o List.mem_cons_self) hvs
    by_cases hprefix : o.isPrefixOf (trimStart line) = true
    · -- the opening ends in front of the white space behind the line
      have hlength : o.length ≤ (trimStart line).length :=
        (List.isPrefixOf_iff_prefix.1 hprefix).length_le
      simp [hiff, hprefix, List.drop_append_of_le_length hlength]
    · have hothers := ih fun o' ho' => hsolid o' (List.mem_cons_of_mem o ho')
      simpa [hiff, hprefix] using hothers

/-- White space around a line changes neither its kind nor the state after it. -/
theorem classify_pad (h : d.Fits g) {us vs : List Char} (hus : us.all isBlank = true)
    (hvs : vs.all isBlank = true) (line : List Char) (state : BlockState) :
    d.classify (us ++ line ++ vs) state = d.classify line state := by
  rcases h with ⟨-, hsingle, hopening, hclosing⟩
  have hany : ∀ ms : List Marker, (∀ m ∈ ms, isSolid m.text = true) → ∀ us' text : List Char,
      us'.all isBlank = true → ms.any (·.holds (us' ++ text ++ vs)) = ms.any (·.holds text) := by
    intro ms hms us' text hus'
    rw [Bool.eq_iff_iff, List.any_eq_true, List.any_eq_true]
    constructor
    · rintro ⟨m, hm, hholds⟩
      exact ⟨m, hm, by rwa [holds_pad (hms m hm) hus' hvs] at hholds⟩
    · rintro ⟨m, hm, hholds⟩
      exact ⟨m, hm, by rwa [holds_pad (hms m hm) hus' hvs]⟩
  have hstate : ∀ us' text, us'.all isBlank = true →
      d.stateAfter (us' ++ text ++ vs) = d.stateAfter text := by
    intro us' text hus'
    rw [stateAfter, stateAfter, hany _ hclosing us' text hus']
  -- a line is blank with the white space around it or without
  have hempty := Text.isBlankLine_pad hus hvs line
  unfold Text.isBlankLine at hempty
  unfold classify
  rw [hempty]
  by_cases hblank : (trim line).isEmpty = true
  · simp [hblank]
  · have hline : line.all isBlank = false := by
      rw [← Bool.not_eq_true, ← Text.isBlankLine_iff]
      exact hblank
    rw [if_neg hblank, if_neg hblank]
    cases state with
    | inBlock =>
      simp only
      rw [hstate us line hus]
    | normal =>
      simp only
      rw [afterOpening?_pad hopening hus hvs hline, hany _ hsingle us line hus]
      cases d.afterOpening? line with
      | none => rfl
      | some rest =>
        -- only the white space behind the line comes behind the opening
        simp only [Option.map_some]
        rw [← hstate [] rest rfl, List.nil_append]

end Delimiters

/-! ## The table -/

namespace Grammar

/-- The patterns of a grammar are written as delimiters and are read as such. -/
def isDelimited (g : Grammar) : Bool := (Delimiters.ofGrammar? g).any fun d => decide (d.Fits g)

theorem exists_fits_of_isDelimited {g : Grammar} (h : g.isDelimited = true) :
    ∃ d, Delimiters.ofGrammar? g = some d ∧ d.Fits g := by
  unfold isDelimited at h
  cases hd : Delimiters.ofGrammar? g with
  | none => simp [hd] at h
  | some d => exact ⟨d, rfl, by simpa [hd] using h⟩

end Grammar

namespace Registry

/-- All patterns of the table are written as delimiters and are read as such. -/
theorem all_isDelimited_builtin :
    (builtin.languages.all fun language => language.grammar.isDelimited) = true := by
  decide +kernel

/-- Every language of the table owns the extensions it lists. -/
theorem owners_builtin :
    (builtin.languages.zipIdx.all fun (language, place) =>
      language.extensions.all fun extension =>
        builtin.owners.find? (·.1 == extension) == some (extension, place)) = true := by
  decide +kernel

theorem grammar?_builtin {language : Language} (hlanguage : language ∈ builtin.languages)
    {extension : String} (hextension : extension ∈ language.extensions) :
    builtin.grammar? extension = some language.grammar := by
  rcases List.mem_iff_getElem?.1 hlanguage with ⟨place, hplace⟩
  have hzip : (language, place) ∈ builtin.languages.zipIdx :=
    List.mk_mem_zipIdx_iff_getElem?.2 hplace
  have howner := List.all_eq_true.1 (List.all_eq_true.1 owners_builtin _ hzip) extension hextension
  rw [beq_iff_eq] at howner
  rw [grammar?, language?, howner, Option.bind_some, hplace, Option.map_some]

/-- Every language of the table classifies lines as the delimiters do that its patterns are written as.
Hence comments of its files are counted by delimiters, and white space around a line does not matter. -/
theorem classify_builtin :
    ∀ language ∈ builtin.languages, ∃ d, Delimiters.ofGrammar? language.grammar = some d ∧
      (∀ line state, language.grammar.classify line state = d.classify line state) ∧
      (∀ extension ∈ language.extensions,
        (∀ lines, countComments lines extension = d.countComments lines) ∧
          ∀ source, (Breakdown.measure source extension builtin).comments =
            d.countComments (Text.lines source)) ∧
      ∀ line state, ∀ us vs : List Char, us.all isBlank = true → vs.all isBlank = true →
        language.grammar.classify (us ++ line ++ vs) state = language.grammar.classify line state := by
  intro language hlanguage
  obtain ⟨d, hd, hfits⟩ := Grammar.exists_fits_of_isDelimited
    (List.all_eq_true.1 all_isDelimited_builtin language hlanguage)
  have hclassify := Delimiters.classify_eq_of_fits hfits
  refine ⟨d, hd, hclassify, ?_, ?_⟩
  · intro extension hextension
    have hgrammar := grammar?_builtin hlanguage hextension
    constructor
    · intro lines
      rw [countComments, hgrammar, Option.map_some, Option.getD_some,
        Delimiters.countComments_eq_of_fits hfits]
    · intro source
      simp only [Breakdown.measure, Breakdown.ofLines]
      rw [hgrammar, Option.map_some, Option.getD_some, Delimiters.countComments_eq_of_fits hfits]
  · intro line state us vs hus hvs
    rw [hclassify, hclassify, Delimiters.classify_pad hfits hus hvs]

/-- In Lua two hyphens begin a comment and, with two brackets behind them, a block. -/
theorem classify_builtin_lua :
    ∃ language ∈ builtin.languages, ".lua" ∈ language.extensions ∧
      ∃ d, Delimiters.ofGrammar? language.grammar = some d ∧
        language.grammar.classify "--[[ a ]] b".toList .normal = d.classify "--[[ a ]] b".toList .normal ∧
        countComments ["--[[ a".toList, "b ]] ".toList, "c".toList] ".lua" =
          d.countComments ["--[[ a".toList, "b ]] ".toList, "c".toList] ∧
        language.grammar.classify ("\t".toList ++ "-- a".toList ++ "\r".toList) .normal =
          language.grammar.classify "-- a".toList .normal := by
  have hexists : ∃ language ∈ builtin.languages, ".lua" ∈ language.extensions := by decide +kernel
  rcases hexists with ⟨language, hmem, hlua⟩
  rcases classify_builtin language hmem with ⟨d, hd, hclassify, hcount, hpad⟩
  exact ⟨language, hmem, hlua, d, hd, hclassify _ _, (hcount _ hlua).1 _, hpad _ _ _ _ rfl rfl⟩

/-- In MATLAB the end of a block stands at the start of its line. -/
example : (builtin.grammar? ".m").bind Delimiters.ofGrammar? =
    some ⟨[.leading ['%']], [['%', '\x7b']], [.leading ['%', '\x7d']]⟩ := by
  decide +kernel

end Registry

end LineCensus
