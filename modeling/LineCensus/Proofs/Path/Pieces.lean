import LineCensus.Proofs.Path.Split

/-!
# LineCensus.Proofs.Path.Pieces — the pieces of a path that name something

Two paths with the same such pieces differ in empty pieces and single dots only. These are the pieces that
`Path.absolute` keeps and from which `Path.fileName?` takes the last one.

1. `pieces`, `mem_pieces`: the pieces and what each of them is.
2. `pieces_join`, `pieces_joinAll`: names put behind a path. Hence `fileName?_joinAll`: the name of a file below a
   directory does not depend on the path of the directory.
3. `zero_mem_iff`: a zero byte is in some piece.
4. `pieces_absolute`, `isAbsolute_absolute`: the pieces of an absolute path are those of the directory it is seen from
   and its own.
-/

namespace LineCensus.Path

/-- The pieces of a path that name something. -/
def pieces (path : Bytes) : List Name := (split path).filter (!isIdle ·)

/-! ## Pieces -/

theorem slash_not_mem_of_mem_split {path : Bytes} {piece : Name} (h : piece ∈ split path) : slash ∉ piece := by
  induction path generalizing piece with
  | nil =>
    obtain rfl : piece = [] := List.mem_singleton.1 h
    exact List.not_mem_nil
  | cons b path ih =>
    rw [split_cons] at h
    by_cases hb : b = slash
    · rw [if_pos hb] at h
      rcases List.mem_cons.1 h with rfl | h
      · exact List.not_mem_nil
      · exact ih h
    · rw [if_neg hb] at h
      cases hsplit : split path with
      | nil => exact absurd hsplit (split_ne_nil path)
      | cons first rest =>
        rw [hsplit] at h ih
        rcases List.mem_cons.1 h with rfl | h
        · -- the byte belongs to the first piece
          intro hmem
          rcases List.mem_cons.1 hmem with hslash | hmem
          · exact hb hslash.symm
          · exact ih List.mem_cons_self hmem
        · exact ih (List.mem_cons_of_mem first h)

theorem mem_pieces {path : Bytes} {piece : Name} (h : piece ∈ pieces path) :
    slash ∉ piece ∧ isIdle piece = false := by
  rcases List.mem_filter.1 h with ⟨hsplit, hidle⟩
  exact ⟨slash_not_mem_of_mem_split hsplit, by simpa using hidle⟩

theorem pieces_nil : pieces [] = [] := rfl

theorem pieces_append_slash (a b : Bytes) : pieces (a ++ slash :: b) = pieces a ++ pieces b := by
  rw [pieces, split_append_slash, List.filter_append]
  rfl

/-- A piece by itself. -/
theorem pieces_single {piece : Name} (hslash : slash ∉ piece) (hidle : isIdle piece = false) :
    pieces piece = [piece] := by
  rw [pieces, split_of_not_mem hslash]
  exact List.filter_cons_of_pos (by rw [hidle]; rfl)

theorem isIdle_of_isName {name : Name} (h : isName name = true) : isIdle name = false := by
  rcases isName_iff.1 h with ⟨hne, hdot, -⟩
  simp [isIdle, hne, hdot]

/-! ## Pieces behind a path -/

theorem pieces_join {piece : Name} (hslash : slash ∉ piece) (hidle : isIdle piece = false) (path : Bytes) :
    pieces (join path piece) = pieces path ++ [piece] := by
  have hpiece : pieces piece = [piece] := pieces_single hslash hidle
  unfold join
  split
  · -- the slash is there, and only an empty piece stands behind it
    rename_i hlast
    rcases List.getLast?_eq_some_iff.1 hlast with ⟨front, rfl⟩
    have hfront : pieces (front ++ [slash]) = pieces front := by
      rw [pieces_append_slash, pieces_nil, List.append_nil]
    rw [hfront, List.append_assoc, List.singleton_append, pieces_append_slash, hpiece]
  · rw [pieces_append_slash, hpiece]

theorem pieces_joinAll {names : List Name} (h : ∀ n ∈ names, slash ∉ n ∧ isIdle n = false) (path : Bytes) :
    pieces (joinAll path names) = pieces path ++ names := by
  induction names generalizing path with
  | nil => rw [List.append_nil]; rfl
  | cons name names ih =>
    rcases h name List.mem_cons_self with ⟨hslash, hidle⟩
    have hrest := ih (fun n hn => h n (List.mem_cons_of_mem name hn)) (join path name)
    rw [pieces_join hslash hidle, List.append_assoc] at hrest
    exact hrest

/-- The name of what lies below a directory is the last of the names that lead there. -/
theorem fileName?_joinAll {names : List Name} (h : ∀ n ∈ names, isName n = true) (hne : names ≠ [])
    (path : Bytes) : fileName? (joinAll path names) = some (names.getLast hne) := by
  have hpieces : pieces (joinAll path names) = pieces path ++ names := by
    refine pieces_joinAll (fun n hn => ?_) path
    rcases isName_iff.1 (h n hn) with ⟨-, -, -, hslash, -⟩
    exact ⟨hslash, isIdle_of_isName (h n hn)⟩
  have hlast : (pieces (joinAll path names)).getLast? = some (names.getLast hne) := by
    rw [hpieces, List.getLast?_append, List.getLast?_eq_some_getLast hne, Option.some_or]
  have hdotDot : names.getLast hne ≠ dotDot := (isName_iff.1 (h _ (List.getLast_mem hne))).2.2.1
  unfold fileName?
  unfold pieces at hlast
  rw [hlast]
  exact if_neg hdotDot

/-! ## Bytes of a path -/

theorem mem_iff_of_split {path : Bytes} {b : UInt8} (hb : b ≠ slash) :
    b ∈ path ↔ ∃ piece ∈ split path, b ∈ piece := by
  induction path with
  | nil => simp [split]
  | cons c path ih =>
    rw [split_cons, List.mem_cons, ih]
    by_cases hc : c = slash
    · rw [if_pos hc]
      simp [hc, hb]
    · rw [if_neg hc]
      cases hsplit : split path with
      | nil => exact absurd hsplit (split_ne_nil path)
      | cons first rest => simp [or_assoc]

/-- A zero byte is in some piece that names something. -/
theorem zero_mem_iff {path : Bytes} : 0 ∈ path ↔ ∃ piece ∈ pieces path, 0 ∈ piece := by
  rw [mem_iff_of_split (by decide)]
  constructor
  · rintro ⟨piece, hsplit, hzero⟩
    have hidle : isIdle piece = false := by
      have hne : piece ≠ [] := List.ne_nil_of_mem hzero
      have hdot : piece ≠ dot := by
        rintro rfl
        exact absurd hzero (by decide)
      simp [isIdle, hne, hdot]
    exact ⟨piece, List.mem_filter.2 ⟨hsplit, by rw [hidle]; rfl⟩, hzero⟩
  · rintro ⟨piece, hpiece, hzero⟩
    exact ⟨piece, (List.mem_filter.1 hpiece).1, hzero⟩

/-! ## Absolute paths -/

/-- Where the pieces of a path are put behind: the root of the file system, or the directory it is seen from. -/
def origin (here path : Bytes) : Bytes := if isAbsolute path then root path else here

/-- An absolute path is its origin with the pieces behind it, and maybe a slash at the end. -/
theorem absolute_eq (here path : Bytes) :
    absolute here path = joinAll (origin here path) (pieces path) ∨
      absolute here path = joinAll (origin here path) (pieces path) ++ [slash] := by
  show (if path.getLast? = some slash ∧ (joinAll (origin here path) (pieces path)).getLast? ≠ some slash then
    joinAll (origin here path) (pieces path) ++ [slash] else joinAll (origin here path) (pieces path)) = _ ∨ _
  by_cases hslash :
      path.getLast? = some slash ∧ (joinAll (origin here path) (pieces path)).getLast? ≠ some slash
  · exact .inr (if_pos hslash)
  · exact .inl (if_neg hslash)

theorem pieces_root (path : Bytes) : pieces (root path) = [] := by
  unfold root
  split <;> rfl

/-- The pieces of an absolute path: those of the directory that the path is seen from, unless it is absolute itself,
and its own. -/
theorem pieces_absolute (here path : Bytes) :
    pieces (absolute here path) = (if isAbsolute path then [] else pieces here) ++ pieces path := by
  have horigin : pieces (origin here path) = if isAbsolute path then [] else pieces here := by
    unfold origin
    split
    · exact pieces_root path
    · rfl
  have hbody : pieces (joinAll (origin here path) (pieces path)) = pieces (origin here path) ++ pieces path :=
    pieces_joinAll (fun _ hn => mem_pieces hn) _
  rw [← horigin, ← hbody]
  rcases absolute_eq here path with habsolute | habsolute
  · rw [habsolute]
  · -- the slash at the end is no piece
    rw [habsolute, pieces_append_slash, pieces_nil, List.append_nil]

/-- What begins like an absolute path is one. -/
theorem isAbsolute_of_prefix {a b : Bytes} (h : a <+: b) (ha : isAbsolute a = true) : isAbsolute b = true := by
  rcases h with ⟨rest, rfl⟩
  cases a with
  | nil => cases ha
  | cons c a => exact ha

theorem isAbsolute_absolute {here : Bytes} (h : isAbsolute here = true) (path : Bytes) :
    isAbsolute (absolute here path) = true := by
  have horigin : isAbsolute (origin here path) = true := by
    unfold origin root
    split
    · split <;> rfl
    · exact h
  have hbody := isAbsolute_of_prefix (prefix_joinAll _ (pieces path)) horigin
  rcases absolute_eq here path with habsolute | habsolute
  · rw [habsolute]
    exact hbody
  · rw [habsolute]
    exact isAbsolute_of_prefix (List.prefix_append _ _) hbody

end LineCensus.Path
