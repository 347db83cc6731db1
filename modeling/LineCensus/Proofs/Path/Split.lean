import LineCensus.Path

/-!
# LineCensus.Proofs.Path.Split — the pieces of paths built from names

1. `split_append_slash`: a slash separates pieces.
2. `isName_iff`: what it takes to be a name of an entry.
3. `stem`: the pieces of a path in front of a further name.
4. `split_joinAll`: the pieces of a path with names behind it. Hence `joinAll_injective`: the names are
   known from the path.
-/

namespace LineCensus.Path

/-! ## Pieces -/

theorem split_cons (b : UInt8) (path : Bytes) :
    split (b :: path) =
      if b = slash then [] :: split path
      else match split path with
        | [] => [[b]]
        | p :: rest => (b :: p) :: rest := rfl

theorem split_ne_nil (path : Bytes) : split path ≠ [] := by
  cases path with
  | nil => simp [split]
  | cons b path =>
    rw [split_cons]
    split
    · simp
    · split <;> simp

/-- A slash separates pieces. -/
theorem split_append_slash (a b : Bytes) : split (a ++ slash :: b) = split a ++ split b := by
  induction a with
  | nil => rfl
  | cons c a ih =>
    rw [List.cons_append, split_cons, split_cons, ih]
    by_cases hc : c = slash
    · simp [hc]
    · rw [if_neg hc, if_neg hc]
      cases ha : split a with
      | nil => exact absurd ha (split_ne_nil a)
      | cons p rest => rfl

/-- Text without a slash is one piece. -/
theorem split_of_not_mem {name : Name} (h : slash ∉ name) : split name = [name] := by
  induction name with
  | nil => rfl
  | cons b name ih =>
    rcases not_or.1 (mt List.mem_cons.2 h) with ⟨hb, hname⟩
    rw [split_cons, if_neg (Ne.symm hb), ih hname]

/-! ## Names -/

theorem isName_iff {name : Name} :
    isName name = true ↔ name ≠ [] ∧ name ≠ dot ∧ name ≠ dotDot ∧ slash ∉ name ∧ 0 ∉ name ∧
      name.length ≤ nameLimit := by
  simp [isName, isIdle, and_assoc]

/-- The last byte of a name is no slash. -/
theorem getLast?_ne_slash {name : Name} (h : isName name = true) (path : Bytes) :
    (path ++ name).getLast? ≠ some slash := by
  rcases isName_iff.1 h with ⟨hne, -, -, hslash, -, -⟩
  rw [List.getLast?_append, List.getLast?_eq_some_getLast hne, Option.some_or]
  intro hlast
  exact hslash (Option.some.inj hlast ▸ List.getLast_mem hne)

/-! ## Paths and names behind them -/

/-- A path with names behind it. -/
def joinAll (path : Bytes) (names : List Name) : Bytes := names.foldl join path

/-- The pieces of a path in front of a further name: what stands behind a slash at the end is no piece. -/
def stem (path : Bytes) : List Name :=
  if path.getLast? = some slash then (split path).dropLast else split path

/-- Behind the pieces in front of a further name there is no more than an empty piece. -/
theorem split_eq_stem (path : Bytes) : split path = stem path ∨ split path = stem path ++ [[]] := by
  unfold stem
  split
  · rename_i hlast
    rcases List.getLast?_eq_some_iff.1 hlast with ⟨front, rfl⟩
    have hsplit : split (front ++ [slash]) = split front ++ [[]] := split_append_slash front []
    right
    rw [hsplit, List.dropLast_concat]
  · exact .inl rfl

theorem split_join {name : Name} (h : isName name = true) (path : Bytes) :
    split (join path name) = stem path ++ [name] := by
  rcases isName_iff.1 h with ⟨-, -, -, hslash, -, -⟩
  unfold join stem
  split
  · -- the path ends in a slash, behind which the name takes the place of an empty piece
    rename_i hlast
    rcases List.getLast?_eq_some_iff.1 hlast with ⟨front, rfl⟩
    have hend : split [slash] = [[], []] := rfl
    rw [List.append_assoc, List.singleton_append, split_append_slash, split_append_slash,
      split_of_not_mem hslash]
    simp [split]
  · rw [split_append_slash, split_of_not_mem hslash]

theorem stem_join {name : Name} (h : isName name = true) (path : Bytes) :
    stem (join path name) = stem path ++ [name] := by
  -- a name does not end in a slash, so the new path has no empty piece at its end
  have hlast : (join path name).getLast? ≠ some slash := by
    unfold join
    split
    · exact getLast?_ne_slash h path
    · have hcons : path ++ slash :: name = (path ++ [slash]) ++ name := by simp
      rw [hcons]
      exact getLast?_ne_slash h _
  rw [stem, if_neg hlast, split_join h]

theorem stem_joinAll {names : List Name} (h : ∀ n ∈ names, isName n = true) (path : Bytes) :
    stem (joinAll path names) = stem path ++ names := by
  induction names generalizing path with
  | nil => simp [joinAll]
  | cons name names ih =>
    have hrest := ih (fun n hn => h n (List.mem_cons_of_mem name hn)) (join path name)
    rw [stem_join (h name List.mem_cons_self), List.append_assoc] at hrest
    exact hrest

/-- The names behind a path are its last pieces. -/
theorem split_joinAll {names : List Name} (h : ∀ n ∈ names, isName n = true) (hne : names ≠ [])
    (path : Bytes) : split (joinAll path names) = stem path ++ names := by
  induction names generalizing path with
  | nil => exact absurd rfl hne
  | cons name names ih =>
    have hname := h name List.mem_cons_self
    cases names with
    | nil => exact split_join hname path
    | cons next names =>
      have hrest := ih (fun n hn => h n (List.mem_cons_of_mem name hn)) (List.cons_ne_nil _ _)
        (join path name)
      rw [stem_join hname, List.append_assoc] at hrest
      exact hrest

/-- The names behind a path are known from the whole. -/
theorem joinAll_injective {names names' : List Name} (h : ∀ n ∈ names, isName n = true)
    (h' : ∀ n ∈ names', isName n = true) {path : Bytes}
    (heq : joinAll path names = joinAll path names') : names = names' := by
  have hstem := congrArg stem heq
  rw [stem_joinAll h, stem_joinAll h'] at hstem
  exact List.append_cancel_left hstem

/-! ## What a path keeps when names are put behind it -/

theorem prefix_joinAll (path : Bytes) (names : List Name) : path <+: joinAll path names := by
  induction names generalizing path with
  | nil => exact List.prefix_refl path
  | cons name names ih =>
    have hjoin : path <+: join path name := by
      unfold join
      split <;> exact List.prefix_append _ _
    exact hjoin.trans (ih (join path name))

theorem isAbsolute_joinAll {path : Bytes} (hne : path ≠ []) (names : List Name) :
    isAbsolute (joinAll path names) = isAbsolute path := by
  rcases prefix_joinAll path names with ⟨rest, hrest⟩
  rw [← hrest]
  cases path with
  | nil => exact absurd rfl hne
  | cons b path => rfl

/-- A byte that no name holds is in the path with names behind it only if it was there, or is a slash. -/
theorem mem_joinAll {b : UInt8} {path : Bytes} {names : List Name} (h : b ∈ joinAll path names) :
    b ∈ path ∨ b = slash ∨ ∃ n ∈ names, b ∈ n := by
  induction names generalizing path with
  | nil => exact .inl h
  | cons name names ih =>
    rcases ih h with hjoin | hslash | ⟨n, hn, hb⟩
    · have hmem : b ∈ path ∨ b = slash ∨ b ∈ name := by
        unfold join at hjoin
        split at hjoin
        · rcases List.mem_append.1 hjoin with hpath | hname
          · exact .inl hpath
          · exact .inr (.inr hname)
        · rcases List.mem_append.1 hjoin with hpath | hname
          · exact .inl hpath
          · exact .inr (List.mem_cons.1 hname)
      rcases hmem with hpath | hslash | hname
      · exact .inl hpath
      · exact .inr (.inl hslash)
      · exact .inr (.inr ⟨name, List.mem_cons_self, hname⟩)
    · exact .inr (.inl hslash)
    · exact .inr (.inr ⟨n, List.mem_cons_of_mem name hn, hb⟩)

theorem zero_not_mem_joinAll {path : Bytes} {names : List Name} (hpath : 0 ∉ path)
    (hnames : ∀ n ∈ names, isName n = true) : 0 ∉ joinAll path names := by
  intro h
  rcases mem_joinAll h with h | h | ⟨n, hn, h⟩
  · exact hpath h
  · cases h
  · rcases isName_iff.1 (hnames n hn) with ⟨-, -, -, -, hzero, -⟩
    exact hzero h

end LineCensus.Path
