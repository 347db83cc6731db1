import LineCensus.Proofs.Path.Pieces

/-!
# LineCensus.Proofs.Path.FileName — the name at the end of a path

The name of a file is found among the pieces of its path. Here it is said of the bytes:

1. `IsIdleTail`: separators, each maybe with a single dot behind it. `pieces_append_idleTail`: behind a path they make
   no difference.
2. `EndsIn`, `IsIdlePath`: a path ends in a piece, or has none. `endsIn_iff`, `isIdlePath_iff`: both by the pieces.
   `slash_induction`: paths grow by a slash and the text behind it, which carries the converse directions.
3. `fileName?_eq_some_iff`, `fileName?_eq_none_iff`: the name of a path, and paths that have none.
-/

namespace LineCensus.Path

variable {path : Bytes} {piece name : Name}

/-! ## Behind a name -/

/-- Separators, each with nothing or a single dot behind it. -/
def IsIdleTail (tail : Bytes) : Prop :=
  ∃ parts : List Name, (∀ part ∈ parts, part = [] ∨ part = dot) ∧ tail = parts.flatMap (slash :: ·)

theorem isIdleTail_nil : IsIdleTail [] := ⟨[], by simp, rfl⟩

theorem IsIdleTail.append {tail : Bytes} (h : IsIdleTail tail) (hpiece : piece = [] ∨ piece = dot) :
    IsIdleTail (tail ++ slash :: piece) := by
  rcases h with ⟨parts, hparts, rfl⟩
  refine ⟨parts ++ [piece], ?_, by simp⟩
  intro part hpart
  rcases List.mem_append.1 hpart with hpart | hpart
  · exact hparts part hpart
  · obtain rfl := List.mem_singleton.1 hpart
    exact hpiece

theorem isIdle_iff : isIdle piece = true ↔ piece = [] ∨ piece = dot := by
  simp [isIdle]

/-- A piece that names nothing is no piece of a path. -/
theorem pieces_of_idle (h : piece = [] ∨ piece = dot) : pieces piece = [] := by
  rcases h with rfl | rfl
  · exact pieces_nil
  · rfl

theorem pieces_append_idleTail {tail : Bytes} (h : IsIdleTail tail) (path : Bytes) :
    pieces (path ++ tail) = pieces path := by
  rcases h with ⟨parts, hparts, rfl⟩
  induction parts generalizing path with
  | nil => rw [List.flatMap_nil, List.append_nil]
  | cons part rest ih =>
    have hpart : pieces part = [] := pieces_of_idle (hparts part List.mem_cons_self)
    have hrest := ih (path ++ slash :: part) (fun other hother => hparts other (List.mem_cons_of_mem part hother))
    rw [List.append_assoc, pieces_append_slash, hpart, List.append_nil] at hrest
    rw [List.flatMap_cons]
    exact hrest

/-! ## The end of a path -/

/-- A path ends in a piece that names something, but for separators and single dots behind it. -/
def EndsIn (path : Bytes) (piece : Name) : Prop :=
  ∃ front tail, path = front ++ piece ++ tail ∧ (front = [] ∨ front.getLast? = some slash) ∧
    (slash ∉ piece ∧ piece ≠ [] ∧ piece ≠ dot) ∧ IsIdleTail tail

/-- A path holds nothing but separators and single dots. -/
def IsIdlePath (path : Bytes) : Prop :=
  ∃ first tail, path = first ++ tail ∧ (first = [] ∨ first = dot) ∧ IsIdleTail tail

/-- What holds of text without a slash, and of a path with a slash and such text behind it, holds of all paths. -/
theorem slash_induction {P : Bytes → Prop} (single : ∀ piece, slash ∉ piece → P piece)
    (step : ∀ front piece, slash ∉ piece → P front → P (front ++ slash :: piece)) (path : Bytes) : P path := by
  induction hlength : path.length using Nat.strongRecOn generalizing path with
  | ind length ih =>
    by_cases hslash : slash ∈ path
    · -- the last slash is the first one seen from the end
      rcases List.eq_append_cons_of_mem (List.mem_reverse.2 hslash) with ⟨back, front, hreverse, hback⟩
      have hpath : path = front.reverse ++ slash :: back.reverse := by
        rw [← List.reverse_reverse path, hreverse]
        simp
      have hfront : front.reverse.length < length := by
        rw [← hlength, hpath, List.length_append, List.length_cons]
        omega
      rw [hpath]
      exact step _ _ (by simpa using hback) (ih _ hfront front.reverse rfl)
    · exact single path hslash

theorem pieces_of_not_mem (h : slash ∉ piece) : pieces piece = if isIdle piece then [] else [piece] := by
  rw [pieces, split_of_not_mem h]
  cases hidle : isIdle piece with
  | true => simp [hidle]
  | false => simp [hidle]

/-- A path ends in the last of its pieces. -/
theorem endsIn_iff : EndsIn path piece ↔ (pieces path).getLast? = some piece := by
  constructor
  · rintro ⟨front, tail, rfl, hfront, ⟨hslash, hempty, hdot⟩, htail⟩
    have hidle : isIdle piece = false := by simp [isIdle, hempty, hdot]
    have hpieces : pieces piece = [piece] := pieces_single hslash hidle
    rw [pieces_append_idleTail htail]
    rcases hfront with rfl | hfront
    · rw [List.nil_append, hpieces, List.getLast?_singleton]
    · rcases List.getLast?_eq_some_iff.1 hfront with ⟨before, rfl⟩
      rw [List.append_assoc, List.singleton_append, pieces_append_slash, hpieces, List.getLast?_concat]
  · induction path using slash_induction with
    | single text hslash =>
      intro hlast
      rw [pieces_of_not_mem hslash] at hlast
      split at hlast
      · cases hlast
      · rename_i hidle
        obtain rfl : text = piece := by simpa using hlast
        rw [isIdle_iff, not_or] at hidle
        exact ⟨[], [], by simp, .inl rfl, ⟨hslash, hidle.1, hidle.2⟩, isIdleTail_nil⟩
    | step before text hslash ih =>
      intro hlast
      rw [pieces_append_slash, pieces_of_not_mem hslash] at hlast
      split at hlast
      · -- the text behind the slash names nothing, so the end is that of the path in front of it
        rename_i hidle
        rw [List.append_nil] at hlast
        rcases ih hlast with ⟨front, tail, rfl, hfront, hpiece, htail⟩
        exact ⟨front, tail ++ slash :: text, by simp, hfront, hpiece, htail.append (isIdle_iff.1 hidle)⟩
      · rename_i hidle
        obtain rfl : text = piece := by simpa using hlast
        rw [isIdle_iff, not_or] at hidle
        exact ⟨before ++ [slash], [], by simp, .inr (by simp), ⟨hslash, hidle.1, hidle.2⟩, isIdleTail_nil⟩

/-- A path that holds nothing but separators and single dots has no piece. -/
theorem isIdlePath_iff : IsIdlePath path ↔ pieces path = [] := by
  constructor
  · rintro ⟨first, tail, rfl, hfirst, htail⟩
    rw [pieces_append_idleTail htail, pieces_of_idle hfirst]
  · induction path using slash_induction with
    | single text hslash =>
      intro hnone
      rw [pieces_of_not_mem hslash] at hnone
      split at hnone
      · rename_i hidle
        exact ⟨text, [], by simp, isIdle_iff.1 hidle, isIdleTail_nil⟩
      · cases hnone
    | step before text hslash ih =>
      intro hnone
      rw [pieces_append_slash, pieces_of_not_mem hslash, List.append_eq_nil_iff] at hnone
      rcases ih hnone.1 with ⟨first, tail, rfl, hfirst, htail⟩
      have hidle : isIdle text = true := by
        by_cases hidle : isIdle text = true
        · exact hidle
        · rw [if_neg hidle] at hnone
          cases hnone.2
      exact ⟨first, tail ++ slash :: text, by simp, hfirst, htail.append (isIdle_iff.1 hidle)⟩

/-! ## The name of a path -/

theorem fileName?_eq (path : Bytes) :
    fileName? path = (pieces path).getLast?.filter (· != dotDot) := by
  unfold fileName? pieces
  cases ((split path).filter (!isIdle ·)).getLast? with
  | none => rfl
  | some name =>
    by_cases hname : name = dotDot
    · subst hname
      rfl
    · exact (if_neg hname).trans (if_pos (bne_iff_ne.2 hname)).symm

/-- The name of a path is what it ends in, but two dots are no name. -/
theorem fileName?_eq_some_iff : fileName? path = some name ↔ EndsIn path name ∧ name ≠ dotDot := by
  rw [fileName?_eq, Option.filter_eq_some_iff, endsIn_iff, bne_iff_ne]

/-- A path has no name if it holds nothing but separators and single dots, or ends in two dots. -/
theorem fileName?_eq_none_iff : fileName? path = none ↔ IsIdlePath path ∨ EndsIn path dotDot := by
  rw [fileName?_eq, isIdlePath_iff, endsIn_iff, Option.filter_eq_none_iff, ← List.getLast?_eq_none_iff]
  cases (pieces path).getLast? with
  | none => simp
  | some name => simp

end LineCensus.Path
