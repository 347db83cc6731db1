import LineCensus.Pattern
import LineCensus.Proofs.Pattern.Search
import LineCensus.Proofs.Pattern.Sequence

/-!
# LineCensus.Proofs.Pattern.Literal — patterns that are texts

1. `escapeChar`: a character as it is written in a pattern that means just this character.
2. `readParts_escapeChar`, `readParts_escaped`: reading takes such a text character by character, whatever the
   characters are, and whatever was read before or comes behind.
3. `ending`, `readNode_escaped_dollar`: the pattern of a text at the end of a name, and what it is read as. Only
   its size can make it fail.
4. `occursIn_ending`, `occursIn_exactly`: what such patterns occur in.
-/

namespace LineCensus.Pattern

/-- A character as it is written in a pattern that means just this character. -/
def escapeChar (c : Char) : List Char := if isMeta c then ['\\', c] else [c]

theorem toList_literal (text : String) : (literal text).toList = text.toList.flatMap escapeChar :=
  String.toList_ofList

/-! ## Single characters -/

namespace Piece

/-- The piece of a character that means itself. -/
def plain (c : Char) : Piece := ⟨.set (.single c), 0, Weight.char c, false⟩

theorem ofChar_default (c : Char) : ofChar {} c false = .ok (plain c) := rfl

end Piece

theorem readEscape_of_isMeta {c : Char} (h : isMeta c = true) (flags : Flags) (rest : List Char) :
    readEscape flags (c :: rest) = .ok (.char c false, rest) := by
  have hescapable : isEscapable c = true := by simp [isEscapable, h]
  simp [readEscape, hescapable]

namespace Reader

variable {r : Reader} {c : Char} {rest : List Char}

/-- A backslash takes the meaning from the character behind it. -/
theorem step_backslash (hflags : r.flags = {}) (h : isMeta c = true) :
    r.step '\\' (c :: rest) = .ok (r.add (.plain c), rest) := by
  show readEscape r.flags (c :: rest) >>= _ = _
  rw [readEscape_of_isMeta h, hflags]
  rfl

/-- A character without a meaning of its own stands for itself. -/
theorem step_plain (hflags : r.flags = {}) (h : isMeta c = false) :
    r.step c rest = .ok (r.add (.plain c), rest) := by
  unfold step
  split
  -- the last case is that of the characters that are not listed
  case h_13 =>
    rw [hflags, Piece.ofChar_default]
    rfl
  all_goals exact absurd h (by decide)

/-- A part that can be read takes one round. -/
theorem readParts_cons (hflags : r.flags = {}) (fuel : Nat) {next : Reader} {more : List Char}
    (h : r.step c rest = .ok (next, more)) :
    readParts (fuel + 1) r (c :: rest) = readParts fuel next more := by
  have hskip : r.flags.skipSpace (c :: rest) = c :: rest := by rw [hflags]; rfl
  rw [readParts, hskip]
  simp only [h]
  rfl

/-- A character as it is written in a pattern is read as one piece. -/
theorem readParts_escapeChar (hflags : r.flags = {}) (fuel : Nat) :
    readParts (fuel + 1) r (escapeChar c ++ rest) = readParts fuel (r.add (.plain c)) rest := by
  unfold escapeChar
  split
  · rename_i h
    exact readParts_cons hflags fuel (step_backslash hflags h)
  · rename_i h
    exact readParts_cons hflags fuel (step_plain hflags (Bool.not_eq_true _ ▸ h))

/-- Adds pieces one after the other. -/
def addAll (r : Reader) (ps : List Piece) : Reader :=
  { r with branches := { r.branches with pieces := ps.reverse ++ r.branches.pieces } }

theorem addAll_cons (r : Reader) (p : Piece) (ps : List Piece) :
    r.addAll (p :: ps) = (r.add p).addAll ps := by
  simp [addAll, add, Branches.add]

/-- A text as it is written in a pattern is read as one piece for each of its characters. -/
theorem readParts_escaped (hflags : r.flags = {}) (text : List Char) (fuel : Nat) :
    readParts (text.length + fuel) r (text.flatMap escapeChar ++ rest) =
      readParts fuel (r.addAll (text.map .plain)) rest := by
  induction text generalizing r with
  | nil =>
    rw [List.length_nil, Nat.zero_add]
    rfl
  | cons c text ih =>
    have hfuel : (c :: text).length + fuel = text.length + fuel + 1 := by
      rw [List.length_cons]
      omega
    have hflags' : (r.add (.plain c)).flags = {} := hflags
    rw [hfuel, List.flatMap_cons, List.append_assoc, readParts_escapeChar hflags, ih hflags',
      List.map_cons, addAll_cons]

/-- Where nothing is left, reading is done. -/
theorem readParts_nil (hflags : r.flags = {}) (fuel : Nat) : readParts fuel r [] = .ok r := by
  cases fuel with
  | zero => rfl
  | succ fuel =>
    have hskip : r.flags.skipSpace [] = [] := by rw [hflags]; rfl
    rw [readParts, hskip]

end Reader

/-! ## The end of a name -/

/-- The pattern of the names that end with a text. -/
def ending (text : List Char) : Node := Piece.sequence (spelled text ++ [.look .textEnd])

/-- The pattern of a single name. -/
def exactly (text : List Char) : Node :=
  Piece.sequence (.look .textStart :: spelled text ++ [.look .textEnd])

namespace Piece

/-- The pieces of a text with the end of the name behind it. -/
def endingPieces (text : List Char) : List Piece := text.map plain ++ [ofAssertion .textEnd]

theorem maxDepth_eq_zero {ps : List Piece} (h : ∀ p ∈ ps, p.depth = 0) : maxDepth ps = 0 := by
  unfold maxDepth
  induction ps with
  | nil => rfl
  | cons p ps ih =>
    rw [List.foldl_cons, h p List.mem_cons_self]
    exact ih fun q hq => h q (List.mem_cons_of_mem p hq)

/-- The size of the pattern of the names that end with a text. -/
def endingWeight (text : List Char) : Nat :=
  Weight.total (text.map Weight.char ++ [Weight.state]) + Weight.frame

theorem ofSequence_endingPieces {text : List Char} (hne : text ≠ []) :
    ofSequence (endingPieces text) =
      ⟨ending text, 1, Weight.total (text.map Weight.char ++ [Weight.state]), false⟩ := by
  have hkept : (endingPieces text).filter (!·.isNothing) = endingPieces text := by
    rw [List.filter_eq_self]
    intro p hp
    rcases List.mem_append.1 hp with hp | hp
    · rcases List.mem_map.1 hp with ⟨c, -, rfl⟩
      rfl
    · obtain rfl := List.mem_singleton.1 hp
      rfl
  have hdepth : maxDepth (endingPieces text) = 0 := by
    apply maxDepth_eq_zero
    intro p hp
    rcases List.mem_append.1 hp with hp | hp
    · rcases List.mem_map.1 hp with ⟨c, -, rfl⟩
      rfl
    · obtain rfl := List.mem_singleton.1 hp
      rfl
  -- there are at least two pieces, so they make a sequence
  have hsequence : ofSequence (endingPieces text) =
      ⟨sequence (((endingPieces text).filter (!·.isNothing)).map (·.node)), 1 + maxDepth (endingPieces text),
        Weight.total (((endingPieces text).filter (!·.isNothing)).map (·.weight)), false⟩ := by
    cases text with
    | nil => exact absurd rfl hne
    | cons c text => cases text <;> rfl
  have hnodes : (endingPieces text).map (·.node) = spelled text ++ [.look .textEnd] := by
    simp [endingPieces, spelled, plain, ofAssertion, Function.comp_def]
  have hweights : (endingPieces text).map (·.weight) = text.map Weight.char ++ [Weight.state] := by
    simp [endingPieces, plain, ofAssertion, Function.comp_def]
  rw [hsequence, hkept, hdepth, hnodes, hweights]
  rfl

end Piece

namespace Reader

/-- Behind a text and the end of the name. -/
def afterEnding (text : List Char) : Reader :=
  (addAll {} (text.map .plain)).add (.ofAssertion .textEnd)

theorem readParts_escaped_dollar (text : List Char) (fuel : Nat) :
    readParts (text.length + (fuel + 1)) {} (text.flatMap escapeChar ++ ['$']) =
      .ok (afterEnding text) := by
  have hdollar : (addAll {} (text.map .plain)).step '$' [] = .ok (afterEnding text, []) := rfl
  rw [readParts_escaped rfl, readParts_cons rfl fuel hdollar, readParts_nil rfl]

theorem finish_afterEnding {text : List Char} (hne : text ≠ []) :
    (afterEnding text).finish =
      if Weight.limit < Piece.endingWeight text then .error .tooLarge else .ok (ending text) := by
  have hpieces : (afterEnding text).branches.finish = Piece.ofSequence (Piece.endingPieces text) := by
    simp [afterEnding, addAll, add, Branches.add, Branches.finish, Piece.endingPieces]
  have haround : (afterEnding text).around.isEmpty = true := rfl
  have hdepth : ¬depthLimit < 1 := by decide
  simp only [finish, haround, hpieces, Piece.ofSequence_endingPieces hne, hdepth]
  rfl

end Reader

theorem length_le_flatMap_escapeChar (text : List Char) :
    text.length ≤ (text.flatMap escapeChar).length := by
  induction text with
  | nil => exact Nat.le_refl 0
  | cons c text ih =>
    have hchar : 1 ≤ (escapeChar c).length := by
      unfold escapeChar
      split <;> simp
    rw [List.flatMap_cons, List.length_append, List.length_cons]
    omega

/-- A text as it is written in a pattern, with a dollar sign behind it, is read as the pattern of the names
that end with the text, unless this would be too large. -/
theorem readNode_escaped_dollar {text : List Char} (hne : text ≠ []) :
    readNode (text.flatMap escapeChar ++ ['$']) =
      if Weight.limit < Piece.endingWeight text then .error .tooLarge else .ok (ending text) := by
  have hlength := length_le_flatMap_escapeChar text
  have htotal : (text.flatMap escapeChar ++ ['$']).length + 1 =
      text.length + ((text.flatMap escapeChar).length - text.length + 1 + 1) := by
    rw [List.length_append, List.length_singleton]
    omega
  rw [readNode, htotal, Reader.readParts_escaped_dollar]
  exact Reader.finish_afterEnding hne

/-! ## What occurs -/

theorem occursIn_ending {d text : List Char} : (ending d).occursIn text = true ↔ d <:+ text := by
  rw [Node.occursIn_iff]
  constructor
  · rintro ⟨p, q, rfl, hmatch⟩
    rw [ending, match_sequence_iff, matchAll_append_iff] at hmatch
    rcases hmatch with ⟨m, hd, hend⟩
    rcases match_textEnd_iff.1 (matchAll_singleton_iff.1 hend) with ⟨rfl, hrest⟩
    have hspans := matchAll_spelled_iff.1 hd
    refine ⟨p.past.reverse, ?_⟩
    rw [hspans.whole_eq, hrest, List.append_nil]
  · rintro ⟨front, rfl⟩
    refine ⟨⟨front.reverse, d⟩, ⟨d.reverse ++ front.reverse, []⟩, by simp [Spot.whole], ?_⟩
    rw [ending, match_sequence_iff, matchAll_append_iff]
    exact ⟨_, matchAll_spelled_iff.2 ⟨rfl, by simp⟩,
      matchAll_singleton_iff.2 (match_textEnd_iff.2 ⟨rfl, rfl⟩)⟩

theorem occursIn_exactly {d text : List Char} : (exactly d).occursIn text = true ↔ text = d := by
  rw [Node.occursIn_iff]
  constructor
  · rintro ⟨p, q, rfl, hmatch⟩
    rw [exactly, match_sequence_iff, List.cons_append] at hmatch
    rcases hmatch with ⟨m, hstart, hmatch⟩
    rcases match_textStart_iff.1 hstart with ⟨rfl, hpast⟩
    rcases matchAll_append_iff.1 hmatch with ⟨m, hd, hend⟩
    rcases match_textEnd_iff.1 (matchAll_singleton_iff.1 hend) with ⟨rfl, hrest⟩
    have hspans := matchAll_spelled_iff.1 hd
    rw [hspans.whole_eq, hpast, hrest, List.append_nil, List.reverse_nil, List.nil_append]
  · rintro rfl
    refine ⟨⟨[], text⟩, ⟨text.reverse, []⟩, rfl, ?_⟩
    rw [exactly, match_sequence_iff, List.cons_append]
    refine ⟨_, match_textStart_iff.2 ⟨rfl, rfl⟩, ?_⟩
    exact matchAll_append_iff.2 ⟨_, matchAll_spelled_iff.2 ⟨by simp, by simp⟩,
      matchAll_singleton_iff.2 (match_textEnd_iff.2 ⟨rfl, rfl⟩)⟩

end LineCensus.Pattern
