import LineCensus.Comment.Classifier

/-!
# LineCensus.Proofs.Comment.Run — one pass over the lines of a file

1. `classify_fst_eq_blank_iff`: the one line kind that grammar and state have no say in.
2. `classifyAll_append`: one list of lines after the other. `length_classifyAll`, `getElem?_classifyAll_append`,
   `count_blank_classifyAll`: every line gets one kind, in its place, and the blank kinds are the blank lines.
3. `countFrom_eq_classifyAll`: counting comments line by line is counting the comment kinds.
4. `count_kinds`: the three kinds exhaust a list of kinds.
-/

namespace LineCensus

/-- The three kinds exhaust a list of kinds. -/
theorem count_kinds (kinds : List LineKind) :
    kinds.count .blank + kinds.count .comment + kinds.count .code = kinds.length := by
  induction kinds with
  | nil => rfl
  | cons kind rest ih =>
    simp only [List.length_cons]
    cases kind <;> simp <;> omega

namespace Grammar

variable (g : Grammar)

/-! ## One line -/

/-- A line is labelled blank exactly when it is blank, whatever the grammar and the state. -/
theorem classify_fst_eq_blank_iff (line : List Char) (state : BlockState) :
    (g.classify line state).1 = .blank ↔ Text.isBlankLine line = true := by
  unfold classify
  split
  · rename_i hblank
    simp [hblank]
  · -- no other branch labels a line blank
    rename_i hblank
    simp only [hblank, Bool.false_eq_true, iff_false]
    cases state with
    | inBlock => simp
    | normal =>
      cases g.afterStart? line with
      | some rest => simp
      | none => by_cases hs : g.isSingle line = true <;> simp [hs]

/-! ## All lines -/

theorem classifyAll_cons (state : BlockState) (line : List Char) (rest : List (List Char)) :
    g.classifyAll state (line :: rest) =
      ((g.classify line state).1 :: (g.classifyAll (g.classify line state).2 rest).1,
        (g.classifyAll (g.classify line state).2 rest).2) := rfl

/-- Lines are classified one list after the other: the second list begins in the state in which the first
one ends. -/
theorem classifyAll_append (state : BlockState) (lines more : List (List Char)) :
    g.classifyAll state (lines ++ more) =
      ((g.classifyAll state lines).1 ++ (g.classifyAll (g.classifyAll state lines).2 more).1,
        (g.classifyAll (g.classifyAll state lines).2 more).2) := by
  induction lines generalizing state with
  | nil => rfl
  | cons line rest ih =>
    rw [List.cons_append, classifyAll_cons, ih, classifyAll_cons]
    rfl

/-- Every line gets one kind. -/
theorem length_classifyAll (state : BlockState) (lines : List (List Char)) :
    (g.classifyAll state lines).1.length = lines.length := by
  induction lines generalizing state with
  | nil => rfl
  | cons line rest ih =>
    rw [classifyAll_cons, List.length_cons, List.length_cons, ih]

/-- The kind of a line comes from the state that the lines in front of it leave. -/
theorem getElem?_classifyAll_append (state : BlockState) (front : List (List Char)) (line : List Char)
    (back : List (List Char)) :
    (g.classifyAll state (front ++ line :: back)).1[front.length]? =
      some (g.classify line (g.classifyAll state front).2).1 := by
  have hlength := g.length_classifyAll state front
  rw [classifyAll_append, classifyAll_cons, List.getElem?_append_right (Nat.le_of_eq hlength), hlength, Nat.sub_self]
  rfl

/-- The blank kinds are the blank lines: the state passes through them unchanged and unused. -/
theorem count_blank_classifyAll (state : BlockState) (lines : List (List Char)) :
    (g.classifyAll state lines).1.count .blank = lines.countP Text.isBlankLine := by
  induction lines generalizing state with
  | nil => rfl
  | cons line rest ih =>
    rw [classifyAll_cons, List.countP_cons, List.count_cons, ih]
    have hkind := g.classify_fst_eq_blank_iff line state
    by_cases hblank : Text.isBlankLine line = true
    · rw [hkind.2 hblank]
      simp [hblank]
    · have hne : (g.classify line state).1 ≠ .blank := fun h => hblank (hkind.1 h)
      simp [hblank, hne]

/-- Counting from `n` comments on adds the comment kinds to `n` and ends in the same state. -/
theorem foldl_classify_eq (lines : List (List Char)) (n : Nat) (state : BlockState) :
    lines.foldl
        (fun (count, state) line =>
          let (kind, next) := g.classify line state
          (if kind = .comment then count + 1 else count, next))
        (n, state) =
      (n + (g.classifyAll state lines).1.count .comment, (g.classifyAll state lines).2) := by
  -- both the count and the state change on the way
  induction lines generalizing n state with
  | nil => rfl
  | cons line rest ih =>
    rw [List.foldl_cons, ih, classifyAll_cons, List.count_cons]
    by_cases hkind : (g.classify line state).1 = .comment
    · simp only [hkind, if_true, beq_self_eq_true]
      congr 1
      omega
    · simp [hkind]

theorem countFrom_eq_classifyAll (lines : List (List Char)) (state : BlockState) :
    g.countFrom lines state =
      ((g.classifyAll state lines).1.count .comment, (g.classifyAll state lines).2) := by
  unfold countFrom
  rw [foldl_classify_eq, Nat.zero_add]

/-- The comments of a file are its comment kinds. -/
theorem countComments_eq_count (lines : List (List Char)) :
    g.countComments lines = (g.classifyAll .normal lines).1.count .comment := by
  rw [countComments, countFrom_eq_classifyAll]

end Grammar

end LineCensus
