import LineCensus.Pattern.Search

/-!
# LineCensus.Proofs.Pattern.Match — what a pattern matches

The meaning of patterns, without regard to which of several matches is preferred, and without the
bookkeeping of a search:

1. `Spot`: a position in a text. `Spot.Spans`: one position leads to another through a text.
2. `Match`: a pattern matches from one position to another.
3. `branches`, `nexts`, `reads`: what a state turns into at a position, without and with reading the next
   character. The branches are split as a search splits them, into what is to be done and what is kept.
4. `Run`: going from state to state through a text. `run_of_match` and `match_of_run`: the runs of a
   pattern that leave nothing to be matched are its matches.
-/

namespace LineCensus.Pattern

/-! ## Positions -/

/-- A position in a text: the characters in front of it, nearest first, and those behind it. -/
structure Spot where
  past : List Char
  rest : List Char

namespace Spot

/-- The character in front of a position. -/
def before (p : Spot) : Option Char := p.past.head?

/-- The character behind a position. -/
def after (p : Spot) : Option Char := p.rest.head?

/-- The text around a position. -/
def whole (p : Spot) : List Char := p.past.reverse ++ p.rest

/-- The first position leads to the second through a text. -/
def Spans (p q : Spot) (ws : List Char) : Prop := q.past = ws.reverse ++ p.past ∧ p.rest = ws ++ q.rest

theorem Spans.refl (p : Spot) : p.Spans p [] := ⟨rfl, rfl⟩

theorem Spans.trans {p q r : Spot} {ws vs : List Char} (hpq : p.Spans q ws) (hqr : q.Spans r vs) :
    p.Spans r (ws ++ vs) := by
  refine ⟨?_, ?_⟩
  · rw [hqr.1, hpq.1, List.reverse_append, List.append_assoc]
  · rw [hpq.2, hqr.2, List.append_assoc]

/-- A way through two texts leads through the place between them. -/
theorem Spans.split {p r : Spot} (ws vs : List Char) (h : p.Spans r (ws ++ vs)) :
    ∃ q, p.Spans q ws ∧ q.Spans r vs := by
  refine ⟨⟨ws.reverse ++ p.past, vs ++ r.rest⟩, ⟨rfl, ?_⟩, ?_, rfl⟩
  · rw [h.2, List.append_assoc]
  · rw [h.1, List.reverse_append, List.append_assoc]

theorem Spans.whole_eq {p q : Spot} {ws : List Char} (h : p.Spans q ws) :
    p.whole = p.past.reverse ++ ws ++ q.rest := by
  rw [whole, h.2, List.append_assoc]

/-- The first position is not behind the second. -/
def UpTo (p q : Spot) : Prop := ∃ ws, p.Spans q ws

/-- Every position of a text comes at or behind its start. -/
theorem upTo_of_whole {p : Spot} {text : List Char} (h : p.whole = text) : (⟨[], text⟩ : Spot).UpTo p :=
  ⟨p.past.reverse, by simp, h.symm⟩

/-- A position is another one, or comes behind the character that follows it. -/
theorem UpTo.cases {p q : Spot} (h : p.UpTo q) :
    q = p ∨ ∃ c rest, p.rest = c :: rest ∧ (⟨c :: p.past, rest⟩ : Spot).UpTo q := by
  rcases h with ⟨ws, hpast, hrest⟩
  cases ws with
  | nil =>
    left
    cases p
    cases q
    simp_all
  | cons c ws =>
    right
    exact ⟨c, ws ++ q.rest, hrest, ws, by simp [hpast], rfl⟩

end Spot

/-! ## Matches -/

/-- A pattern matches from one position to another. -/
inductive Match : Node → Spot → Spot → Prop where
  | empty {p : Spot} : Match .empty p p
  | set {s : CharSet} {c : Char} {past rest : List Char} (h : s.contains c = true) :
      Match (.set s) ⟨past, c :: rest⟩ ⟨c :: past, rest⟩
  | look {a : Assertion} {p : Spot} (h : a.holds p.before p.after = true) : Match (.look a) p p
  | cat {a b : Node} {p q r : Spot} (ha : Match a p q) (hb : Match b q r) : Match (.cat a b) p r
  | left {a b : Node} {p q : Spot} (h : Match a p q) : Match (.alt a b) p q
  | right {a b : Node} {p q : Spot} (h : Match b p q) : Match (.alt a b) p q
  | timesNone {body : Node} {p : Spot} : Match (.times body 0) p p
  | timesMore {body : Node} {n : Nat} {p q r : Spot} (h : Match body p q)
      (hmore : Match (.times body n) q r) : Match (.times body (n + 1)) p r
  | upToNone {body : Node} {n : Nat} {greedy : Bool} {p : Spot} : Match (.upTo body n greedy) p p
  | upToMore {body : Node} {n : Nat} {greedy : Bool} {p q r : Spot} (h : Match body p q)
      (hmore : Match (.upTo body n greedy) q r) : Match (.upTo body (n + 1) greedy) p r
  | loopNone {body : Node} {greedy : Bool} {p : Spot} : Match (.loop body greedy) p p
  | loopMore {body : Node} {greedy : Bool} {p q r : Spot} (h : Match body p q)
      (hmore : Match (.loop body greedy) q r) : Match (.loop body greedy) p r

/-- The nodes of a state match one after the other. -/
def MatchAll : State → Spot → Spot → Prop
  | [], p, q => p = q
  | n :: rest, p, q => ∃ m, Match n p m ∧ MatchAll rest m q

/-! ## Steps of a state -/

/-- What the state `todo ++ kept` turns into without reading, most preferred first, split again into what
is to be done and what is kept meanwhile. -/
def branches (before after : Option Char) : (todo kept : State) → List (State × State)
  | [], _ | .set _ :: _, _ => []
  | .empty :: rest, kept | .times _ 0 :: rest, kept | .upTo _ 0 _ :: rest, kept => [(rest, kept)]
  | .look a :: rest, kept => if a.holds before after then [(rest, kept)] else []
  | .cat a b :: rest, kept => [(a :: b :: rest, kept)]
  | .alt a b :: rest, kept => [(a :: rest, kept), (b :: rest, kept)]
  | .times body (n + 1) :: rest, kept => [(body :: .times body n :: rest, kept)]
  | .upTo body (n + 1) greedy :: rest, kept =>
    let more := (body :: .upTo body n greedy :: rest, kept)
    if greedy then [more, (rest, kept)] else [(rest, kept), more]
  | .loop body greedy :: rest, kept =>
    let more := ([body], .loop body greedy :: rest ++ kept)
    if greedy then [more, (rest, kept)] else [(rest, kept), more]

/-- The states that a state turns into without reading. -/
def nexts (before after : Option Char) (s : State) : List State :=
  (branches before after s []).map fun b => b.1 ++ b.2

/-- The state behind the next character, if the state reads that character. -/
def reads (after : Option Char) : State → List State
  | .set s :: rest => if after.any s.contains then [rest] else []
  | _ => []

/-- What is kept does not matter for the states that follow. -/
theorem nexts_append (before after : Option Char) (n : Node) (rest kept : State) :
    nexts before after (n :: rest ++ kept) =
      (branches before after (n :: rest) kept).map fun b => b.1 ++ b.2 := by
  cases n with
  | empty | set | cat | alt => simp [nexts, branches]
  | look a => by_cases h : a.holds before after = true <;> simp [nexts, branches, h]
  | times body count => cases count <;> simp [nexts, branches]
  | upTo body count greedy => cases count <;> cases greedy <;> simp [nexts, branches]
  | loop body greedy => cases greedy <;> simp [nexts, branches]

/-! ## Runs -/

/-- Goes from a state at one position to a state at another. -/
inductive Run : State → Spot → State → Spot → Prop where
  | done {s : State} {p : Spot} : Run s p s p
  | next {s s' t : State} {p q : Spot} (h : s' ∈ nexts p.before p.after s) (hrun : Run s' p t q) :
      Run s p t q
  | read {cs : CharSet} {c : Char} {past rest : List Char} {s t : State} {q : Spot}
      (h : cs.contains c = true) (hrun : Run s ⟨c :: past, rest⟩ t q) :
      Run (.set cs :: s) ⟨past, c :: rest⟩ t q

theorem Run.trans {s t u : State} {p q r : Spot} (hst : Run s p t q) (htu : Run t q u r) :
    Run s p u r := by
  induction hst with
  | done => exact htu
  | next h _ ih => exact .next h (ih htu)
  | read h _ ih => exact .read h (ih htu)

/-- A match takes its node off the front of a state. -/
theorem run_of_match {n : Node} {p q : Spot} (h : Match n p q) (rest : State) :
    Run (n :: rest) p rest q := by
  -- the rest changes on the way: behind the first part of a match stands its second part
  induction h generalizing rest with
  | empty | timesNone => exact .next (by simp [nexts, branches]) .done
  | set h => exact .read h .done
  | look h => exact .next (by simp [nexts, branches, h]) .done
  | @cat a b p q r _ _ iha ihb =>
    have hstep : Run (.cat a b :: rest) p (a :: b :: rest) p :=
      .next (by simp [nexts, branches]) .done
    exact hstep.trans ((iha (b :: rest)).trans (ihb rest))
  | left _ ih => exact .next (by simp [nexts, branches]) (ih rest)
  | right _ ih => exact .next (by simp [nexts, branches]) (ih rest)
  | @timesMore body n p q r _ _ ih ihmore =>
    have hstep : Run (.times body (n + 1) :: rest) p (body :: .times body n :: rest) p :=
      .next (by simp [nexts, branches]) .done
    exact hstep.trans ((ih _).trans (ihmore rest))
  | @upToNone body n greedy p =>
    refine .next ?_ .done
    cases n <;> cases greedy <;> simp [nexts, branches]
  | @upToMore body n greedy p q r _ _ ih ihmore =>
    have hstep : Run (.upTo body (n + 1) greedy :: rest) p (body :: .upTo body n greedy :: rest) p :=
      .next (by cases greedy <;> simp [nexts, branches]) .done
    exact hstep.trans ((ih _).trans (ihmore rest))
  | @loopNone body greedy p => exact .next (by cases greedy <;> simp [nexts, branches]) .done
  | @loopMore body greedy p q r _ _ ih ihmore =>
    have hstep : Run (.loop body greedy :: rest) p (body :: .loop body greedy :: rest) p :=
      .next (by cases greedy <;> simp [nexts, branches]) .done
    exact hstep.trans ((ih _).trans (ihmore rest))

/-- A state matches whatever a state matches that it turns into. -/
theorem matchAll_of_mem_nexts {s s' : State} {p q : Spot} (h : s' ∈ nexts p.before p.after s)
    (hs' : MatchAll s' p q) : MatchAll s p q := by
  -- every way to go on is one rule of `Match` for the first node, read backwards
  cases s with
  | nil => simp [nexts, branches] at h
  | cons n rest =>
    cases n with
    | empty =>
      obtain rfl : s' = rest := by simpa [nexts, branches] using h
      exact ⟨p, .empty, hs'⟩
    | set cs => simp [nexts, branches] at h
    | look a =>
      by_cases ha : a.holds p.before p.after = true
      · obtain rfl : s' = rest := by simpa [nexts, branches, ha] using h
        exact ⟨p, .look ha, hs'⟩
      · simp [nexts, branches, ha] at h
    | cat a b =>
      obtain rfl : s' = a :: b :: rest := by simpa [nexts, branches] using h
      rcases hs' with ⟨m, hm, k, hk, hrest⟩
      exact ⟨k, .cat hm hk, hrest⟩
    | alt a b =>
      obtain rfl | rfl : s' = a :: rest ∨ s' = b :: rest := by simpa [nexts, branches] using h
      · rcases hs' with ⟨m, hm, hrest⟩
        exact ⟨m, .left hm, hrest⟩
      · rcases hs' with ⟨m, hm, hrest⟩
        exact ⟨m, .right hm, hrest⟩
    | times body count =>
      cases count with
      | zero =>
        obtain rfl : s' = rest := by simpa [nexts, branches] using h
        exact ⟨p, .timesNone, hs'⟩
      | succ count =>
        obtain rfl : s' = body :: .times body count :: rest := by simpa [nexts, branches] using h
        rcases hs' with ⟨m, hm, k, hk, hrest⟩
        exact ⟨k, .timesMore hm hk, hrest⟩
    | upTo body count greedy =>
      cases count with
      | zero =>
        obtain rfl : s' = rest := by simpa [nexts, branches] using h
        exact ⟨p, .upToNone, hs'⟩
      | succ count =>
        obtain rfl | rfl : s' = rest ∨ s' = body :: .upTo body count greedy :: rest := by
          cases greedy <;> simpa [nexts, branches, or_comm] using h
        · exact ⟨p, .upToNone, hs'⟩
        · rcases hs' with ⟨m, hm, k, hk, hrest⟩
          exact ⟨k, .upToMore hm hk, hrest⟩
    | loop body greedy =>
      obtain rfl | rfl : s' = rest ∨ s' = body :: .loop body greedy :: rest := by
        cases greedy <;> simpa [nexts, branches, or_comm] using h
      · exact ⟨p, .loopNone, hs'⟩
      · rcases hs' with ⟨m, hm, k, hk, hrest⟩
        exact ⟨k, .loopMore hm hk, hrest⟩

theorem matchAll_of_run {s : State} {p q : Spot} (h : Run s p [] q) : MatchAll s p q := by
  generalize ht : ([] : State) = t at h
  induction h with
  | done =>
    subst ht
    rfl
  | next hnext _ ih => exact matchAll_of_mem_nexts hnext (ih ht)
  | read hc _ ih => exact ⟨_, .set hc, ih ht⟩

/-- A run that takes a pattern to nothing is a match. -/
theorem match_of_run {n : Node} {p q : Spot} (h : Run [n] p [] q) : Match n p q := by
  rcases matchAll_of_run h with ⟨m, hm, rfl⟩
  exact hm

end LineCensus.Pattern
