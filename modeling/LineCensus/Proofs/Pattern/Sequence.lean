import LineCensus.Pattern.Reader
import LineCensus.Proofs.Pattern.Match

/-!
# LineCensus.Proofs.Pattern.Sequence — patterns that spell out a text

1. `match_sequence_iff`: a sequence matches if its nodes match one after the other.
2. `spelled`, `matchAll_spelled_iff`: the nodes that spell out a text match that text only.
3. `match_loop_set_iff`: any number of characters of a set.
4. `match_textStart_iff`, `match_textEnd_iff`: the ends of a text.
-/

namespace LineCensus.Pattern

variable {p q : Spot}

/-! ## One node after the other -/

theorem matchAll_singleton_iff {n : Node} : MatchAll [n] p q ↔ Match n p q := by
  constructor
  · rintro ⟨m, hm, rfl⟩
    exact hm
  · intro h
    exact ⟨q, h, rfl⟩

theorem matchAll_append_iff {as bs : List Node} :
    MatchAll (as ++ bs) p q ↔ ∃ m, MatchAll as p m ∧ MatchAll bs m q := by
  induction as generalizing p with
  | nil =>
    constructor
    · intro h
      exact ⟨p, rfl, h⟩
    · rintro ⟨m, rfl, h⟩
      exact h
  | cons n as ih =>
    constructor
    · rintro ⟨k, hk, hrest⟩
      rcases ih.1 hrest with ⟨m, has, hbs⟩
      exact ⟨m, ⟨k, hk, has⟩, hbs⟩
    · rintro ⟨m, ⟨k, hk, has⟩, hbs⟩
      exact ⟨k, hk, ih.2 ⟨m, has, hbs⟩⟩

/-- A sequence matches if its nodes match one after the other. -/
theorem match_sequence_iff {ns : List Node} : Match (Piece.sequence ns) p q ↔ MatchAll ns p q := by
  induction ns generalizing p with
  | nil =>
    constructor
    · intro h
      cases h
      rfl
    · rintro rfl
      exact .empty
  | cons n ns ih =>
    cases ns with
    | nil => exact matchAll_singleton_iff.symm
    | cons k ns =>
      constructor
      · intro h
        cases h with
        | cat hn hrest => exact ⟨_, hn, ih.1 hrest⟩
      · rintro ⟨m, hn, hrest⟩
        exact .cat hn (ih.2 hrest)

/-! ## Texts -/

/-- The nodes that spell out a text. -/
def spelled (text : List Char) : List Node := text.map fun c => .set (.single c)

theorem match_single_iff {c : Char} : Match (.set (.single c)) p q ↔ p.Spans q [c] := by
  constructor
  · intro h
    cases h with
    | set h =>
      rw [CharSet.contains_single, decide_eq_true_iff] at h
      subst h
      exact ⟨rfl, rfl⟩
  · rintro ⟨hpast, hrest⟩
    cases p
    cases q
    simp only [List.reverse_singleton, List.cons_append, List.nil_append] at hpast hrest
    subst hpast hrest
    exact .set (by simp)

/-- The nodes that spell out a text match that text only. -/
theorem matchAll_spelled_iff {text : List Char} : MatchAll (spelled text) p q ↔ p.Spans q text := by
  induction text generalizing p with
  | nil =>
    constructor
    · rintro rfl
      exact .refl p
    · rintro ⟨hpast, hrest⟩
      cases p
      cases q
      simp only [List.reverse_nil, List.nil_append] at hpast hrest
      subst hpast hrest
      rfl
  | cons c text ih =>
    constructor
    · rintro ⟨m, hc, hrest⟩
      exact (match_single_iff.1 hc).trans (ih.1 hrest)
    · intro h
      rcases Spot.Spans.split [c] text h with ⟨m, hc, hrest⟩
      exact ⟨m, match_single_iff.2 hc, ih.2 hrest⟩

/-- Any number of characters of a set. -/
theorem match_loop_set_iff {s : CharSet} {greedy : Bool} :
    Match (.loop (.set s) greedy) p q ↔ ∃ ws, ws.all s.contains = true ∧ p.Spans q ws := by
  constructor
  · intro h
    generalize hn : Node.loop (.set s) greedy = n at h
    induction h with
    | loopNone => exact ⟨[], rfl, .refl _⟩
    | loopMore hset _ _ ih =>
      rcases Node.loop.inj hn with ⟨rfl, rfl⟩
      rcases ih rfl with ⟨ws, hws, hspans⟩
      cases hset with
      | @set _ c past rest hc =>
        have hstep : (⟨past, c :: rest⟩ : Spot).Spans ⟨c :: past, rest⟩ [c] := ⟨rfl, rfl⟩
        exact ⟨c :: ws, by simpa [hc] using hws, hstep.trans hspans⟩
    | _ => cases hn
  · rintro ⟨ws, hws, hspans⟩
    induction ws generalizing p with
    | nil =>
      obtain rfl := matchAll_spelled_iff.2 hspans
      exact .loopNone
    | cons c ws ih =>
      obtain ⟨hc, hws⟩ : s.contains c = true ∧ ws.all s.contains = true := by simpa using hws
      rcases hspans with ⟨hpast, hrest⟩
      cases p
      simp only [List.cons_append] at hrest
      subst hrest
      exact .loopMore (.set hc) (ih hws ⟨by simp [hpast], rfl⟩)

/-! ## The ends of a text -/

theorem match_look_iff {a : Assertion} :
    Match (.look a) p q ↔ p = q ∧ a.holds p.before p.after = true := by
  constructor
  · intro h
    cases h with
    | look h => exact ⟨rfl, h⟩
  · rintro ⟨rfl, h⟩
    exact .look h

theorem match_textStart_iff : Match (.look .textStart) p q ↔ p = q ∧ p.past = [] := by
  rw [match_look_iff]
  simp [Assertion.holds, Spot.before]

theorem match_textEnd_iff : Match (.look .textEnd) p q ↔ p = q ∧ p.rest = [] := by
  rw [match_look_iff]
  simp [Assertion.holds, Spot.after]

end LineCensus.Pattern
