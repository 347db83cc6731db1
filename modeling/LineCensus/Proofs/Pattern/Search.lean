import LineCensus.Proofs.Pattern.Closure

/-!
# LineCensus.Proofs.Pattern.Search — a search finds a match exactly when there is one

1. `sound_sweep`, `run_of_sweep`: a sweep meets what can be reached from its states and nothing else, and
   hands on every run that reads the next character.
2. `reached_of_searchFrom`: what a search under way gives is the end of a match.
3. `Pending.step`, `isSome_searchFrom`: a match under way, or still to begin, is handed from position to
   position until it ends, so that the search gives something.
4. `exists_match_of_after?`, `occursIn_iff`: both for a whole text.

Which match is preferred is not said here. For a pattern whose matches all have one end, these facts
determine the result.
-/

namespace LineCensus.Pattern

variable {before after : Option Char}

/-! ## All states at one position -/

theorem sweep_eq_closeAll (states : List State) :
    sweep before after states =
      closeAll before after (states.map fun s => (s, [])) Front.empty := by
  rw [sweep, closeAll, List.foldl_map]

theorem sound_sweep {Good : State → Prop}
    (hnext : ∀ s, Good s → ∀ s' ∈ nexts before after s, Good s') {states : List State}
    (hgood : ∀ s ∈ states, Good s) : (sweep before after states).Sound after Good := by
  rw [sweep_eq_closeAll]
  refine closeAll_rule (fun b hb g hg => ?_) ?_
  · rcases List.mem_map.1 hb with ⟨s, hs, rfl⟩
    refine sound_close hnext ?_ hg
    rw [List.append_nil]
    exact hgood s hs
  · exact ⟨by simp [Front.empty], by simp [Front.empty], by simp [Front.empty]⟩

/-- Unless it finds a match, a sweep meets all its states and settles whatever it meets. -/
theorem settled_sweep (states : List State) :
    (sweep before after states).found = true ∨
      (∀ s ∈ states, s ∈ (sweep before after states).seen) ∧
        ∀ s ∈ (sweep before after states).seen, (sweep before after states).Settled before after s := by
  rw [sweep_eq_closeAll]
  have hbranch : ∀ b ∈ states.map fun s => (s, []), ∀ g, Front.empty.Extends g →
      (close before after b.1 b.2 g).found = true ∨
        b.1 ++ b.2 ∈ (close before after b.1 b.2 g).seen ∧
          g.Settles before after (close before after b.1 b.2 g) := by
    intro b hb g _
    rcases List.mem_map.1 hb with ⟨s, -, rfl⟩
    exact settles_close (.inl rfl)
  rcases settles_closeAll _ _ hbranch with hfound | ⟨hmem, hsettles⟩
  · exact .inl hfound
  · refine .inr ⟨?_, ?_⟩
    · intro s hs
      simpa using hmem _ (List.mem_map_of_mem hs)
    · intro s hs
      exact (hsettles s hs).resolve_left List.not_mem_nil

/-- A run to the end of a pattern from one of the states of a sweep ends here, or goes on from a state that
the sweep hands on. -/
theorem run_of_sweep {states : List State} {p q : Spot} {s : State} (hs : s ∈ states)
    (hrun : Run s p [] q) :
    (sweep p.before p.after states).found = true ∨
      ∃ c rest, p.rest = c :: rest ∧
        ∃ r ∈ (sweep p.before p.after states).ready, Run r ⟨c :: p.past, rest⟩ [] q := by
  rcases settled_sweep states with hfound | ⟨hmem, hsettled⟩
  · exact .inl hfound
  · right
    have hseen := hmem s hs
    clear hs hmem
    -- the run stays among the states met until it reads
    generalize ht : ([] : State) = t at hrun ⊢
    induction hrun with
    | done =>
      subst ht
      exact absurd rfl (hsettled _ hseen).ne_nil
    | next hnext _ ih => exact ih hsettled ((hsettled _ hseen).nexts _ hnext) ht
    | @read cs c past rest s t q hc hrun _ =>
      refine ⟨c, rest, rfl, s, (hsettled _ hseen).reads s ?_, hrun⟩
      simp [reads, Spot.after, hc]

/-! ## Along a text -/

/-- A state is reached at a position of a text by an attempt begun at some position of the text. -/
def Reached (node : Node) (text : List Char) (s : State) (p : Spot) : Prop :=
  ∃ start : Spot, start.whole = text ∧ Run [node] start s p

/-- The states of a search at one position: those under way, and a new attempt if none was successful. -/
def searchStates (node : Node) (threads : List State) (best : Option (List Char)) : List State :=
  if best.isNone then threads ++ [[node]] else threads

variable {node : Node} {text : List Char}

theorem searchFrom_nil (threads : List State) (best : Option (List Char)) :
    searchFrom node threads before best [] =
      if (sweep before none (searchStates node threads best)).found then some [] else best := rfl

/-- The result of a search after one more position. -/
def bestAt (front : Front) (best : Option (List Char)) (here : List Char) : Option (List Char) :=
  if front.found then some here else best

theorem searchFrom_cons (threads : List State) (best : Option (List Char)) (c : Char)
    (rest : List Char) :
    searchFrom node threads before best (c :: rest) =
      let front := sweep before (some c) (searchStates node threads best)
      let best := bestAt front best (c :: rest)
      if best.isSome && front.ready.isEmpty then best
      else searchFrom node front.ready.reverse (some c) best rest := rfl

theorem mem_searchStates {threads : List State} {best : Option (List Char)} {s : State} :
    s ∈ searchStates node threads best ↔ s ∈ threads ∨ (best = none ∧ s = [node]) := by
  unfold searchStates
  cases best <;> simp

theorem reached_of_mem_searchStates {threads : List State} (best : Option (List Char)) {p : Spot}
    (hwhole : p.whole = text) (hthreads : ∀ s ∈ threads, Reached node text s p) :
    ∀ s ∈ searchStates node threads best, Reached node text s p := by
  intro s hs
  rcases mem_searchStates.1 hs with hs | ⟨-, rfl⟩
  · exact hthreads s hs
  · exact ⟨p, hwhole, .done⟩

/-- A sweep of reached states finds reached states. -/
theorem sound_sweep_of_reached {states : List State} {p : Spot}
    (h : ∀ s ∈ states, Reached node text s p) :
    (sweep p.before p.after states).Sound p.after (Reached node text · p) := by
  refine sound_sweep ?_ h
  rintro s ⟨start, hstart, hrun⟩ s' hs'
  exact ⟨start, hstart, hrun.trans (.next hs' .done)⟩

/-- What a search under way gives is the text behind a match. -/
theorem reached_of_searchFrom (rest past : List Char) (threads : List State)
    (best : Option (List Char)) (hwhole : (⟨past, rest⟩ : Spot).whole = text)
    (hthreads : ∀ s ∈ threads, Reached node text s ⟨past, rest⟩)
    (hbest : ∀ r ∈ best, ∃ q : Spot, q.rest = r ∧ Reached node text [] q) :
    ∀ r ∈ searchFrom node threads past.head? best rest,
      ∃ q : Spot, q.rest = r ∧ Reached node text [] q := by
  -- by induction on what is still to be read: the states under way are reached, the result is one
  induction rest generalizing past threads best with
  | nil =>
    have hsound := sound_sweep_of_reached (reached_of_mem_searchStates best hwhole hthreads)
    intro r hr
    rw [searchFrom_nil] at hr
    split at hr
    · rename_i hfound
      obtain rfl := Option.some.inj hr
      exact ⟨⟨past, []⟩, rfl, hsound.found hfound⟩
    · exact hbest r hr
  | cons c rest ih =>
    have hsound := sound_sweep_of_reached (reached_of_mem_searchStates best hwhole hthreads)
    have hbest' : ∀ r ∈ bestAt (sweep past.head? (some c) (searchStates node threads best)) best
        (c :: rest), ∃ q : Spot, q.rest = r ∧ Reached node text [] q := by
      intro r hr
      unfold bestAt at hr
      split at hr
      · rename_i hfound
        obtain rfl := Option.some.inj hr
        exact ⟨⟨past, c :: rest⟩, rfl, hsound.found hfound⟩
      · exact hbest r hr
    intro r hr
    rw [searchFrom_cons] at hr
    dsimp only at hr
    split at hr
    · exact hbest' r hr
    · refine ih (c :: past) _ _ ?_ ?_ hbest' r hr
      · simpa [Spot.whole] using hwhole
      · intro s hs
        rcases hsound.ready s (List.mem_reverse.1 hs) with ⟨t, ⟨start, hstart, hrun⟩, ht⟩
        -- `t` reads `c` and becomes `s`
        unfold reads at ht
        split at ht
        · rename_i cs after
          by_cases hc : cs.contains c = true
          · simp only [Spot.after, List.head?_cons, Option.any_some, hc, if_true,
              List.mem_singleton] at ht
            subst ht
            exact ⟨start, hstart, hrun.trans (.read hc .done)⟩
          · simp [Spot.after, hc] at ht
        · simp at ht

/-- A match is under way at a position, or one begins there or further on. -/
def Pending (node : Node) (threads : List State) (p : Spot) : Prop :=
  (∃ s ∈ threads, ∃ q, Run s p [] q) ∨ ∃ start q, p.UpTo start ∧ Run [node] start [] q

/-- A pending match ends at this position, or is pending at the next. -/
theorem Pending.step {threads : List State} {p : Spot} (h : Pending node threads p) :
    (sweep p.before p.after (searchStates node threads none)).found = true ∨
      ∃ c rest, p.rest = c :: rest ∧
        Pending node (sweep p.before p.after (searchStates node threads none)).ready.reverse
          ⟨c :: p.past, rest⟩ := by
  have hsweep : ∀ s ∈ searchStates node threads none, ∀ q, Run s p [] q →
      (sweep p.before p.after (searchStates node threads none)).found = true ∨
        ∃ c rest, p.rest = c :: rest ∧
          Pending node (sweep p.before p.after (searchStates node threads none)).ready.reverse
            ⟨c :: p.past, rest⟩ := by
    intro s hs q hrun
    refine (run_of_sweep hs hrun).imp_right ?_
    rintro ⟨c, rest, hrest, r, hr, hrun'⟩
    exact ⟨c, rest, hrest, .inl ⟨r, List.mem_reverse.2 hr, q, hrun'⟩⟩
  rcases h with ⟨s, hs, q, hrun⟩ | ⟨start, q, hstart, hrun⟩
  · exact hsweep s (mem_searchStates.2 (.inl hs)) q hrun
  · -- a match that begins here is that of the new attempt; one that begins further on can wait
    rcases hstart.cases with rfl | ⟨c, rest, hrest, hstart⟩
    · exact hsweep [node] (mem_searchStates.2 (.inr ⟨rfl, rfl⟩)) q hrun
    · exact .inr ⟨c, rest, hrest, .inr ⟨start, q, hstart, hrun⟩⟩

/-- A search gives something if it has a result or a match is pending. -/
theorem isSome_searchFrom (rest past : List Char) (threads : List State) (best : Option (List Char))
    (h : best.isSome = true ∨ Pending node threads ⟨past, rest⟩) :
    (searchFrom node threads past.head? best rest).isSome = true := by
  induction rest generalizing past threads best with
  | nil =>
    rw [searchFrom_nil]
    split
    · rfl
    · rename_i hfound
      rcases h with hbest | hpending
      · exact hbest
      · cases best with
        | some r => rfl
        | none =>
          rcases hpending.step with hfound' | ⟨c, rest, hrest, -⟩
          · exact absurd hfound' hfound
          · cases hrest
  | cons c rest ih =>
    rw [searchFrom_cons]
    dsimp only
    split
    · -- the search stops early only with a result
      rename_i hstop
      exact (Bool.and_eq_true_iff.1 hstop).1
    · refine ih (c :: past) _ _ ?_
      unfold bestAt
      split
      · exact .inl rfl
      · rename_i hfound
        cases best with
        | some r => exact .inl rfl
        | none =>
          right
          have hpending : Pending node threads ⟨past, c :: rest⟩ := by simpa using h
          rcases hpending.step with hfound' | ⟨c', rest', hrest, hpending'⟩
          · exact absurd hfound' hfound
          · rcases List.cons.inj hrest with ⟨rfl, rfl⟩
            exact hpending'

/-! ## A whole text -/

namespace Node

/-- What a search gives is the text behind a match. -/
theorem exists_match_of_after? {r : List Char} (h : node.after? text = some r) :
    ∃ p q : Spot, p.whole = text ∧ q.rest = r ∧ Match node p q := by
  obtain ⟨q, hq, start, hstart, hrun⟩ :=
    reached_of_searchFrom text [] [] none rfl (by simp) (by simp) r h
  exact ⟨start, q, hstart, hq, match_of_run hrun⟩

/-- A pattern occurs in a text exactly when it matches between two positions of the text. -/
theorem occursIn_iff : node.occursIn text = true ↔ ∃ p q : Spot, p.whole = text ∧ Match node p q := by
  constructor
  · intro h
    rcases Option.isSome_iff_exists.1 h with ⟨r, hr⟩
    rcases exists_match_of_after? hr with ⟨p, q, hp, -, hmatch⟩
    exact ⟨p, q, hp, hmatch⟩
  · rintro ⟨p, q, hp, hmatch⟩
    refine isSome_searchFrom text [] [] none (.inr (.inr ⟨p, q, ?_, run_of_match hmatch []⟩))
    exact Spot.upTo_of_whole hp

/-- If all matches in a text end in front of the same text, and there is one, a search gives that text. -/
theorem after?_eq_some {r : List Char} (hmatch : ∃ p q : Spot, p.whole = text ∧ Match node p q)
    (hend : ∀ p q : Spot, p.whole = text → Match node p q → q.rest = r) :
    node.after? text = some r := by
  rcases Option.isSome_iff_exists.1 (occursIn_iff.2 hmatch) with ⟨r', hr'⟩
  rcases exists_match_of_after? hr' with ⟨p, q, hp, hq, hpq⟩
  rw [hr', ← hq, hend p q hp hpq]

theorem after?_eq_none_iff : node.after? text = none ↔ ¬∃ p q : Spot, p.whole = text ∧ Match node p q := by
  rw [← occursIn_iff, occursIn, Bool.not_eq_true, Option.isSome_eq_false_iff, Option.isNone_iff_eq_none]

end Node

end LineCensus.Pattern
