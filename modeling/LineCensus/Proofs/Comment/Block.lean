import LineCensus.Comment.Builtin
import LineCensus.Proofs.Comment.Run

/-!
# LineCensus.Proofs.Comment.Block — blocks of lines, found without a state

The classifier carries one bit from line to line. Here the blocks of a file are read off its lines instead:

1. `isOpener`, `isCloser`: what a line would do to a block, said of the line alone.
2. `nextPlace?`: the first place from some place on at which a line has a property.
3. `Block`, `blocksFrom`, `blocks`: a block goes from the next opener to the first closer behind it, or to
   the last line, and the search for the next block goes on behind it.
4. `stateAt`: the state in front of a line. `stateAt_eq_inBlock_iff`: it is that of the block around the line.
5. `classifyAll_eq_labels`: the kinds of all lines and the state at the end, by blocks.
-/

namespace LineCensus

/-! ## Places of lines -/

section

variable {α : Type} {p : α → Bool} {xs : List α} {start i : Nat}

/-- The first place from `start` on at which a property holds. -/
def nextPlace? (p : α → Bool) (xs : List α) (start : Nat) : Option Nat :=
  ((xs.drop start).findIdx? p).map (start + ·)

theorem nextPlace?_eq_none_iff :
    nextPlace? p xs start = none ↔ ∀ j, start ≤ j → (xs[j]?).any p = false := by
  rw [nextPlace?, Option.map_eq_none_iff, List.findIdx?_eq_none_iff]
  constructor
  · intro h j hj
    cases hx : xs[j]? with
    | none => rfl
    | some x =>
      have hmem : x ∈ xs.drop start := by
        refine List.mem_of_getElem? (i := j - start) ?_
        rw [List.getElem?_drop, Nat.add_sub_cancel' hj, hx]
      exact h x hmem
  · intro h x hx
    rcases List.mem_iff_getElem?.1 hx with ⟨k, hk⟩
    rw [List.getElem?_drop] at hk
    have hplace := h (start + k) (Nat.le_add_right start k)
    rw [hk] at hplace
    exact hplace

/-- The place that is found has the property, and no place before it has. -/
theorem of_nextPlace?_eq_some (h : nextPlace? p xs start = some i) :
    start ≤ i ∧ (xs[i]?).any p = true ∧ ∀ j, start ≤ j → j < i → (xs[j]?).any p = false := by
  rcases Option.map_eq_some_iff.1 h with ⟨k, hk, rfl⟩
  rcases List.findIdx?_eq_some_iff_getElem.1 hk with ⟨hlt, hp, hbefore⟩
  refine ⟨Nat.le_add_right start k, ?_, ?_⟩
  · rw [List.length_drop] at hlt
    rw [List.getElem_drop] at hp
    rw [List.getElem?_eq_getElem (by omega)]
    exact hp
  · intro j hj hjk
    have hnot := hbefore (j - start) (by omega)
    rw [List.getElem_drop] at hnot
    have hj' : start + (j - start) = j := Nat.add_sub_cancel' hj
    simp only [hj', Bool.not_eq_true] at hnot
    rw [List.length_drop] at hlt
    rw [List.getElem?_eq_getElem (by omega)]
    exact hnot

theorem lt_length_of_nextPlace? (h : nextPlace? p xs start = some i) : i < xs.length := by
  rcases of_nextPlace?_eq_some h with ⟨-, hany, -⟩
  simpa using Option.isSome_of_any hany

end

/-! ## Blocks -/

/-- A block: its first and last line, and whether the last one ends it. -/
structure Block where
  first : Nat
  last : Nat
  closed : Bool
deriving DecidableEq, Repr

namespace Block

/-- Whether a line is in the block. -/
def covers (b : Block) (i : Nat) : Bool := b.first ≤ i && i ≤ b.last

end Block

namespace Grammar

variable (g : Grammar)

/-- Whether an opening matches. -/
def isStart (line : List Char) : Bool := g.blockStart.any (·.occursIn line)

/-- Whether a line opens a block where none is open: behind the first opening that matches there is no end. -/
def isOpener (line : List Char) : Bool :=
  !Text.isBlankLine line &&
    ((g.blockStart.find? (·.occursIn line)).bind (·.after? line)).any fun rest => !g.closes rest

/-- Whether a line ends a block that is open. -/
def isCloser (line : List Char) : Bool := !Text.isBlankLine line && g.closes line

/-- The blocks from a place on that is outside all blocks. -/
def blocksFrom (lines : List (List Char)) (start : Nat) : List Block :=
  match _hfirst : nextPlace? g.isOpener lines start with
  | none => []
  | some first =>
    match _hlast : nextPlace? g.isCloser lines (first + 1) with
    | none => [⟨first, lines.length - 1, false⟩]
    | some last => ⟨first, last, true⟩ :: blocksFrom lines (last + 1)
termination_by lines.length - start
decreasing_by
  have hfirst := (of_nextPlace?_eq_some _hfirst).1
  have hlast := (of_nextPlace?_eq_some _hlast).1
  have hlength := lt_length_of_nextPlace? _hlast
  omega

/-- The blocks of a file. -/
def blocks (lines : List (List Char)) : List Block := g.blocksFrom lines 0

/-- The kind of the line at a place, by the blocks of the file. -/
def labelAt (blocks : List Block) (i : Nat) (line : List Char) : LineKind :=
  if Text.isBlankLine line then .blank
  else if blocks.any (·.covers i) || g.isStart line || g.isSingle line then .comment
  else .code

/-! ## One line -/

theorem afterStart?_eq_bind (line : List Char) :
    g.afterStart? line = (g.blockStart.find? (·.occursIn line)).bind (·.after? line) := by
  unfold afterStart?
  induction g.blockStart with
  | nil => rfl
  | cons p ps ih =>
    have hoccurs : p.occursIn line = (p.after? line).isSome := rfl
    rw [List.findSome?_cons, List.find?_cons, hoccurs]
    cases hafter : p.after? line with
    | none => exact ih
    | some rest => exact hafter.symm

theorem isSome_afterStart? (line : List Char) : (g.afterStart? line).isSome = g.isStart line :=
  List.isSome_findSome?

/-- The kind of a line that is not blank. Only an open block and the patterns of the line have a say. -/
theorem classify_fst (line : List Char) (state : BlockState) :
    (g.classify line state).1 =
      if Text.isBlankLine line then .blank
      else if state = .inBlock ∨ g.isStart line = true ∨ g.isSingle line = true then .comment
      else .code := by
  unfold classify
  rw [← g.isSome_afterStart? line]
  split
  · rfl
  · cases state with
    | inBlock => simp
    | normal =>
      cases g.afterStart? line with
      | some rest => simp
      | none => simp

/-- Outside a block a line opens one if it is an opener. -/
theorem classify_normal_snd (line : List Char) :
    (g.classify line .normal).2 = if g.isOpener line then .inBlock else .normal := by
  unfold classify isOpener
  rw [← afterStart?_eq_bind]
  by_cases hblank : Text.isBlankLine line = true
  · simp [hblank]
  · cases g.afterStart? line with
    | none => simp [hblank]
    | some rest => cases hcloses : g.closes rest <;> simp [hblank, stateAfter, hcloses]

/-- Inside a block a line ends it if it is a closer. -/
theorem classify_inBlock_snd (line : List Char) :
    (g.classify line .inBlock).2 = if g.isCloser line then .normal else .inBlock := by
  unfold classify isCloser
  by_cases hblank : Text.isBlankLine line = true
  · simp [hblank]
  · simp [hblank, stateAfter]

/-- An opener is not blank and has an opening in it. -/
theorem isStart_of_isOpener {line : List Char} (h : g.isOpener line = true) : g.isStart line = true := by
  unfold isOpener at h
  rw [← afterStart?_eq_bind] at h
  rw [← isSome_afterStart?]
  exact Option.isSome_of_any (Bool.and_eq_true_iff.1 h).2

/-! ## What the blocks are -/

variable (lines : List (List Char))

/-- A block lies behind the place from which it was found and begins with an opener. One that is not ended
goes up to the last line. -/
theorem of_mem_blocksFrom {start : Nat} {b : Block} (h : b ∈ g.blocksFrom lines start) :
    start ≤ b.first ∧ (lines[b.first]?).any g.isOpener = true ∧ b.first ≤ b.last ∧
      b.last < lines.length ∧ (b.closed = false → b.last + 1 = lines.length) := by
  fun_induction blocksFrom g lines start with
  | case1 => cases h
  | case2 start first hfirst hlast =>
    obtain rfl := List.mem_singleton.1 h
    rcases of_nextPlace?_eq_some hfirst with ⟨hstart, hopener, -⟩
    have hlength := lt_length_of_nextPlace? hfirst
    refine ⟨hstart, hopener, ?_, ?_, fun _ => ?_⟩
    · show first ≤ lines.length - 1
      omega
    · show lines.length - 1 < lines.length
      omega
    · show lines.length - 1 + 1 = lines.length
      omega
  | case3 start first hfirst last hlast ih =>
    rcases of_nextPlace?_eq_some hfirst with ⟨hstart, hopener, -⟩
    have hbehind := (of_nextPlace?_eq_some hlast).1
    rcases List.mem_cons.1 h with rfl | h
    · refine ⟨hstart, hopener, Nat.le_of_succ_le hbehind, lt_length_of_nextPlace? hlast, ?_⟩
      intro hclosed
      cases hclosed
    · rcases ih h with ⟨hfirst', hrest⟩
      exact ⟨by omega, hrest⟩

/-- Only the last block can be one that is not ended. -/
theorem exists_open_iff_getLast? {start : Nat} :
    (∃ b ∈ g.blocksFrom lines start, b.closed = false) ↔
      (g.blocksFrom lines start).getLast?.any (!·.closed) = true := by
  fun_induction blocksFrom g lines start with
  | case1 => simp
  | case2 start first hfirst hlast => simp
  | case3 start first hfirst last hlast ih =>
    rw [List.getLast?_cons, Option.any_some]
    cases hrest : g.blocksFrom lines (last + 1) with
    | nil => simp
    | cons b bs =>
      rw [hrest] at ih
      simpa [List.getLast?_cons] using ih

/-! ## The state in front of a line -/

/-- The state in front of the line at a place. -/
def stateAt (i : Nat) : BlockState := (g.classifyAll .normal (lines.take i)).2

variable {lines} {i : Nat} {line : List Char}

theorem stateAt_succ (hline : lines[i]? = some line) :
    g.stateAt lines (i + 1) = (g.classify line (g.stateAt lines i)).2 := by
  rw [stateAt, List.take_add_one, hline, classifyAll_append]
  rfl

/-- The kind of a line depends on the state in front of it. -/
theorem getElem?_classifyAll (hline : lines[i]? = some line) :
    (g.classifyAll .normal lines).1[i]? = some (g.classify line (g.stateAt lines i)).1 := by
  rcases List.getElem?_eq_some_iff.1 hline with ⟨hi, rfl⟩
  have hlength : (lines.take i).length = i := by rw [List.length_take, Nat.min_eq_left (Nat.le_of_lt hi)]
  have hcut : lines.take i ++ lines[i] :: lines.drop (i + 1) = lines := by simp
  have hkind := g.getElem?_classifyAll_append .normal (lines.take i) lines[i] (lines.drop (i + 1))
  rwa [hcut, hlength] at hkind

/-- Outside a block the state stays up to the next opener. -/
theorem stateAt_eq_normal {start : Nat} (hstart : g.stateAt lines start = .normal) (hle : start ≤ i)
    (hi : i ≤ lines.length) (hnone : ∀ j, start ≤ j → j < i → (lines[j]?).any g.isOpener = false) :
    g.stateAt lines i = .normal := by
  induction hle with
  | refl => exact hstart
  | @step i hle ih =>
    have hline : lines[i]? = some lines[i] := List.getElem?_eq_getElem hi
    have hopener := hnone i hle (Nat.lt_succ_self i)
    rw [hline, Option.any_some] at hopener
    have hstay := ih (Nat.le_of_lt hi) fun j hj hji => hnone j hj (Nat.lt_succ_of_lt hji)
    rw [stateAt_succ g hline, hstay, classify_normal_snd, hopener]
    rfl

/-- Inside a block the state stays up to the next closer. -/
theorem stateAt_eq_inBlock {start : Nat} (hstart : g.stateAt lines start = .inBlock) (hle : start ≤ i)
    (hi : i ≤ lines.length) (hnone : ∀ j, start ≤ j → j < i → (lines[j]?).any g.isCloser = false) :
    g.stateAt lines i = .inBlock := by
  induction hle with
  | refl => exact hstart
  | @step i hle ih =>
    have hline : lines[i]? = some lines[i] := List.getElem?_eq_getElem hi
    have hcloser := hnone i hle (Nat.lt_succ_self i)
    rw [hline, Option.any_some] at hcloser
    have hstay := ih (Nat.le_of_lt hi) fun j hj hji => hnone j hj (Nat.lt_succ_of_lt hji)
    rw [stateAt_succ g hline, hstay, classify_inBlock_snd, hcloser]
    rfl

/-- Behind an opener that is met outside a block, a block is open. -/
theorem stateAt_succ_of_isOpener (hstate : g.stateAt lines i = .normal)
    (hopener : (lines[i]?).any g.isOpener = true) : g.stateAt lines (i + 1) = .inBlock := by
  rcases Option.any_eq_true _ _ |>.1 hopener with ⟨line, hline, hline'⟩
  rw [stateAt_succ g hline, hstate, classify_normal_snd, hline']
  rfl

/-- Behind a closer that is met inside a block, no block is open. -/
theorem stateAt_succ_of_isCloser (hstate : g.stateAt lines i = .inBlock)
    (hcloser : (lines[i]?).any g.isCloser = true) : g.stateAt lines (i + 1) = .normal := by
  rcases Option.any_eq_true _ _ |>.1 hcloser with ⟨line, hline, hline'⟩
  rw [stateAt_succ g hline, hstate, classify_inBlock_snd, hline']
  rfl

/-- In front of a line a block is open if one of the blocks begins before the line and does not end before
it. The search for blocks may begin at any place outside a block. -/
theorem stateAt_eq_inBlock_iff {start : Nat} (hstart : g.stateAt lines start = .normal)
    (hle : start ≤ i) (hi : i ≤ lines.length) :
    g.stateAt lines i = .inBlock ↔
      ∃ b ∈ g.blocksFrom lines start, b.first < i ∧ (b.closed = true → i ≤ b.last) := by
  fun_induction blocksFrom g lines start with
  | case1 start hnone =>
    -- no opener: the state stays normal
    have hstate := stateAt_eq_normal g hstart hle hi fun j hj _ => nextPlace?_eq_none_iff.1 hnone j hj
    simp [hstate]
  | case2 start first hfirst hnone =>
    rcases of_nextPlace?_eq_some hfirst with ⟨hstart', hopener, hbefore⟩
    have hlength := lt_length_of_nextPlace? hfirst
    have hnormal : ∀ j, start ≤ j → j ≤ first → g.stateAt lines j = .normal := fun j hj hj' =>
      stateAt_eq_normal g hstart hj (by omega) fun k hk hk' => hbefore k hk (by omega)
    by_cases hin : first < i
    · -- no closer behind the opener: the block stays open
      have hopen := stateAt_succ_of_isOpener g (hnormal first hstart' (Nat.le_refl first)) hopener
      have hstate := stateAt_eq_inBlock g hopen hin hi fun j hj _ =>
        nextPlace?_eq_none_iff.1 hnone j hj
      simp [hstate, hin]
    · have hstate := hnormal i hle (by omega)
      simp [hstate, hin]
  | case3 start first hfirst last hlast ih =>
    rcases of_nextPlace?_eq_some hfirst with ⟨hstart', hopener, hbefore⟩
    rcases of_nextPlace?_eq_some hlast with ⟨hlast', hcloser, hbetween⟩
    have hlength := lt_length_of_nextPlace? hlast
    have hnormal : ∀ j, start ≤ j → j ≤ first → g.stateAt lines j = .normal := fun j hj hj' =>
      stateAt_eq_normal g hstart hj (by omega) fun k hk hk' => hbefore k hk (by omega)
    have hopen := stateAt_succ_of_isOpener g (hnormal first hstart' (Nat.le_refl first)) hopener
    have hinside : ∀ j, first < j → j ≤ last → g.stateAt lines j = .inBlock := fun j hj hj' =>
      stateAt_eq_inBlock g hopen hj (by omega) fun k hk hk' => hbetween k hk (by omega)
    have hclosed := stateAt_succ_of_isCloser g (hinside last (by omega) (Nat.le_refl last)) hcloser
    -- all further blocks begin behind this one
    have hfurther : ∀ b ∈ g.blocksFrom lines (last + 1), last < b.first := fun b hb =>
      (g.of_mem_blocksFrom lines hb).1
    simp only [List.mem_cons, exists_eq_or_imp]
    rcases Nat.lt_or_ge last i with hbehind | hwithin
    · rw [ih hclosed hbehind]
      simp only [iff_or_self, and_imp]
      intro _ hle'
      exact absurd (hle' trivial) (by omega)
    · have hothers : ¬∃ b ∈ g.blocksFrom lines (last + 1), b.first < i ∧ (b.closed = true → i ≤ b.last) := by
        rintro ⟨b, hb, hlt, -⟩
        have hgt := hfurther b hb
        omega
      rcases Nat.lt_or_ge first i with hin | hout
      · have hstate := hinside i hin hwithin
        simp [hstate, hin, hwithin]
      · have hstate := hnormal i hle hout
        simp only [hothers, or_false, hstate]
        simp only [reduceCtorEq, false_iff, not_and]
        intro hlt
        omega

/-! ## All lines -/

/-- A line is in a block, or would begin one or is a one-line comment, exactly if a block is open in front of
it, or it would begin one or is a one-line comment. -/
theorem covers_or_iff (hline : lines[i]? = some line) (other : Prop)
    (hother : g.isStart line = true → other) :
    ((g.blocks lines).any (·.covers i) = true ∨ other) ↔
      g.stateAt lines i = .inBlock ∨ other := by
  have hi : i < lines.length := (List.getElem?_eq_some_iff.1 hline).1
  have hstart : g.stateAt lines 0 = .normal := rfl
  rw [stateAt_eq_inBlock_iff g hstart (Nat.zero_le i) (Nat.le_of_lt hi)]
  constructor
  · rintro (hany | h)
    · rcases List.any_eq_true.1 hany with ⟨b, hb, hcovers⟩
      rcases g.of_mem_blocksFrom lines hb with ⟨-, hopener, -⟩
      simp only [Block.covers, Bool.and_eq_true, decide_eq_true_eq] at hcovers
      rcases Nat.eq_or_lt_of_le hcovers.1 with heq | hlt
      · -- the first line of a block is one that would begin a block
        rw [heq, hline, Option.any_some] at hopener
        exact .inr (hother (g.isStart_of_isOpener hopener))
      · exact .inl ⟨b, hb, hlt, fun _ => hcovers.2⟩
    · exact .inr h
  · rintro (⟨b, hb, hlt, hle⟩ | h)
    · rcases g.of_mem_blocksFrom lines hb with ⟨-, -, -, -, hopen⟩
      refine .inl (List.any_eq_true.2 ⟨b, hb, ?_⟩)
      have hlast : i ≤ b.last := by
        cases hclosed : b.closed with
        | true => exact hle hclosed
        | false =>
          have hend := hopen hclosed
          omega
      simp only [Block.covers, Bool.and_eq_true, decide_eq_true_eq]
      omega
    · exact .inr h

/-- The kind of a line is its label by the blocks. -/
theorem classify_fst_eq_labelAt (hline : lines[i]? = some line) :
    (g.classify line (g.stateAt lines i)).1 = g.labelAt (g.blocks lines) i line := by
  rw [classify_fst, labelAt]
  have hiff := covers_or_iff g hline (g.isStart line = true ∨ g.isSingle line = true) .inl
  simp only [Bool.or_eq_true, or_assoc, hiff]

/-- At the end a block is open if the last block is one that is not ended. -/
theorem classifyAll_snd_eq_inBlock_iff (lines : List (List Char)) :
    (g.classifyAll .normal lines).2 = .inBlock ↔
      ∃ b, (g.blocks lines).getLast? = some b ∧ b.closed = false := by
  have hend : (g.classifyAll .normal lines).2 = g.stateAt lines lines.length := by
    rw [stateAt, List.take_length]
  have hlast : (∃ b, (g.blocks lines).getLast? = some b ∧ b.closed = false) ↔
      ∃ b ∈ g.blocks lines, b.closed = false := by
    rw [blocks, exists_open_iff_getLast?, Option.any_eq_true]
    simp only [Bool.not_eq_true']
  have hstart : g.stateAt lines 0 = .normal := rfl
  rw [hend, hlast, stateAt_eq_inBlock_iff g hstart (Nat.zero_le _) (Nat.le_refl _)]
  constructor
  · rintro ⟨b, hb, -, hle⟩
    -- a block that is ended ends in front of the end of the file
    rcases g.of_mem_blocksFrom lines hb with ⟨-, -, -, hlt, -⟩
    refine ⟨b, hb, ?_⟩
    cases hclosed : b.closed with
    | false => rfl
    | true =>
      have hover := hle hclosed
      omega
  · rintro ⟨b, hb, hopen⟩
    rcases g.of_mem_blocksFrom lines hb with ⟨-, -, hle, hlt, -⟩
    refine ⟨b, hb, by omega, ?_⟩
    rw [hopen]
    intro hclosed
    cases hclosed

/-- Classifying the lines of a file one after the other gives each the kind that the blocks of the file give
it: a line that is not blank is a comment if it is in a block, or an opening or a one-line comment matches,
and code otherwise. The comments are counted accordingly, and at the end a block is open if the last one is
not ended. -/
theorem classifyAll_eq_labels (lines : List (List Char)) :
    let blocks := g.blocks lines
    let kinds := lines.mapIdx (g.labelAt blocks)
    (g.classifyAll .normal lines).1 = kinds ∧
      g.countComments lines = kinds.count .comment ∧
      ((g.classifyAll .normal lines).2 = .inBlock ↔
        ∃ b, blocks.getLast? = some b ∧ b.closed = false) := by
  intro blocks kinds
  have hkinds : (g.classifyAll .normal lines).1 = kinds := by
    apply List.ext_getElem?
    intro i
    rw [List.getElem?_mapIdx]
    cases hline : lines[i]? with
    | none =>
      rw [Option.map_none, List.getElem?_eq_none_iff, length_classifyAll]
      exact List.getElem?_eq_none_iff.1 hline
    | some line => rw [getElem?_classifyAll g hline, classify_fst_eq_labelAt g hline, Option.map_some]
  refine ⟨hkinds, ?_, g.classifyAll_snd_eq_inBlock_iff lines⟩
  rw [countComments_eq_count, hkinds]

/-- In C a block ends at the end of a line only: the fifth line does not end the block that the third opens. -/
example : (Registry.builtin.grammar? ".c").map (·.blocks
      ["a /* b".toList, "/* c */".toList, "/* d".toList, "".toList, "*/ /* e".toList, "*/".toList,
        "/* f".toList, "g".toList]) =
    some [⟨2, 5, true⟩, ⟨6, 7, false⟩] := by
  decide +kernel

end Grammar

end LineCensus
