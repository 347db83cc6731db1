import LineCensus.Proofs.Pattern.Match

/-!
# LineCensus.Proofs.Pattern.Closure — all that is met at one position

Following a state through everything that reads no character is a depth-first traversal, in which a state
that was met before is passed over:

1. `close_cons`: a state is met, reads if it can, and its branches are followed one after the other.
   `close_rule`: the induction over a traversal that comes from it.
2. `Front.Extends`: nothing that was met is forgotten.
3. `Front.Sound`: nothing is met that cannot be reached.
4. `Front.Settles`: whatever is newly met has all states behind it met as well, unless a match was found.
   This needs that a loop's own state is met before its body is followed, which is why `kept` has to be
   among the states met.
-/

namespace LineCensus.Pattern

variable {before after : Option Char}

/-! ## One state at a time -/

namespace Front

/-- A state is met, and reads the next character if it can. -/
def enter (after : Option Char) (f : Front) (s : State) : Front :=
  { f with seen := s :: f.seen, ready := reads after s ++ f.ready }

end Front

/-- Follows branches one after the other. -/
def closeAll (before after : Option Char) (bs : List (State × State)) (f : Front) : Front :=
  bs.foldl (fun f b => close before after b.1 b.2 f) f

theorem close_of_found {todo kept : State} {f : Front} (h : f.found = true) :
    close before after todo kept f = f := by
  unfold close
  simp [h]

theorem close_of_seen {todo kept : State} {f : Front} (h : todo ++ kept ∈ f.seen) :
    close before after todo kept f = f := by
  unfold close
  simp [h]

/-- The end of a pattern is a match. -/
theorem close_nil_nil {f : Front} (hfound : f.found = false) (hseen : [] ∉ f.seen) :
    close before after [] [] f = { f with found := true } := by
  unfold close
  simp [hfound, hseen]

/-- Where only what was kept is left, nothing is left to be done. -/
theorem close_nil_cons {n : Node} {rest : State} {f : Front} :
    close before after [] (n :: rest) f = f := by
  unfold close
  simp

/-- A new state is entered and its branches are followed. -/
theorem close_cons {n : Node} {rest kept : State} {f : Front} (hfound : f.found = false)
    (hseen : n :: rest ++ kept ∉ f.seen) :
    close before after (n :: rest) kept f =
      closeAll before after (branches before after (n :: rest) kept)
        (f.enter after (n :: rest ++ kept)) := by
  have hskip : (f.found || f.seen.contains (n :: rest ++ kept)) = false := by
    simp only [hfound, Bool.false_or]
    simpa using hseen
  rw [close.eq_def, hskip]
  -- once it is clear that the state is new, both sides compute, node by node
  cases n with
  | empty | cat | alt => simp [closeAll, branches, Front.enter, Front.meet, reads]
  | set s =>
    by_cases h : after.any s.contains = true <;>
      simp [closeAll, branches, Front.enter, Front.meet, Front.push, reads, h]
  | look a =>
    by_cases h : a.holds before after = true <;>
      simp [closeAll, branches, Front.enter, Front.meet, reads, h]
  | times body count =>
    cases count <;> simp [closeAll, branches, Front.enter, Front.meet, reads]
  | upTo body count greedy =>
    cases count <;> cases greedy <;> simp [closeAll, branches, Front.enter, Front.meet, reads]
  | loop body greedy =>
    cases greedy <;> simp [closeAll, branches, Front.enter, Front.meet, reads]

/-- The branches of a state are narrower than the state. -/
theorem breadth_lt_of_mem_branches {todo kept : State} {b : State × State}
    (h : b ∈ branches before after todo kept) : breadth b.1 < breadth todo := by
  unfold branches at h
  split at h
  · simp at h
  · simp at h
  · obtain rfl := List.mem_singleton.1 h
    simp [breadth, Node.breadth]
  · obtain rfl := List.mem_singleton.1 h
    simp [breadth, Node.breadth]
  · obtain rfl := List.mem_singleton.1 h
    simp [breadth, Node.breadth]
  · split at h
    · obtain rfl := List.mem_singleton.1 h
      simp [breadth, Node.breadth]
    · simp at h
  · obtain rfl := List.mem_singleton.1 h
    simp only [breadth, Node.breadth]
    omega
  · -- both sides of an alternative
    obtain rfl | rfl : b = _ ∨ b = _ := by simpa using h
    · simp only [breadth, Node.breadth]
      omega
    · simp only [breadth, Node.breadth]
      omega
  · obtain rfl := List.mem_singleton.1 h
    simp only [breadth, Node.breadth, Nat.succ_mul]
    omega
  · -- one more time, or no more
    rename_i body n greedy rest
    obtain rfl | rfl : b = (body :: .upTo body n greedy :: rest, kept) ∨ b = (rest, kept) := by
      cases greedy <;> simpa [or_comm] using h
    · simp only [breadth, Node.breadth, Nat.succ_mul]
      omega
    · simp only [breadth, Node.breadth]
      omega
  · -- the body alone is narrower than its loop: what comes behind it is kept
    rename_i body greedy rest
    obtain rfl | rfl : b = ([body], .loop body greedy :: rest ++ kept) ∨ b = (rest, kept) := by
      cases greedy <;> simpa [or_comm] using h
    · simp only [breadth, Node.breadth]
      omega
    · simp only [breadth, Node.breadth]
      omega

/-- The front after following a state, by what it is for the branches of the state. A state is passed over
if a match was found, if it was met before, or if it is what was kept and nothing is left to be done. -/
theorem close_rule {motive : State → State → Front → Front → Prop}
    (skip : ∀ todo kept f,
      f.found = true ∨ todo ++ kept ∈ f.seen ∨ (todo = [] ∧ kept ≠ []) → motive todo kept f f)
    (finish : ∀ f, motive [] [] f { f with found := true })
    (enter : ∀ n rest kept f,
      (∀ b ∈ branches before after (n :: rest) kept,
        ∀ g, motive b.1 b.2 g (close before after b.1 b.2 g)) →
      motive (n :: rest) kept f
        (closeAll before after (branches before after (n :: rest) kept)
          (f.enter after (n :: rest ++ kept))))
    (todo kept : State) (f : Front) : motive todo kept f (close before after todo kept f) := by
  by_cases hfound : f.found = true
  · rw [close_of_found hfound]
    exact skip todo kept f (.inl hfound)
  · by_cases hseen : todo ++ kept ∈ f.seen
    · rw [close_of_seen hseen]
      exact skip todo kept f (.inr (.inl hseen))
    · rw [Bool.not_eq_true] at hfound
      match todo, kept with
      | [], [] =>
        rw [close_nil_nil hfound hseen]
        exact finish f
      | [], n :: rest =>
        rw [close_nil_cons]
        exact skip [] (n :: rest) f (.inr (.inr ⟨rfl, List.cons_ne_nil n rest⟩))
      | n :: rest, kept =>
        rw [close_cons hfound hseen]
        exact enter n rest kept f fun b hb g => close_rule skip finish enter b.1 b.2 g
termination_by breadth todo
decreasing_by exact breadth_lt_of_mem_branches hb

/-- What following each branch preserves, following all of them preserves. -/
theorem closeAll_rule {P : Front → Prop} {bs : List (State × State)} {f : Front}
    (step : ∀ b ∈ bs, ∀ g, P g → P (close before after b.1 b.2 g)) (hf : P f) :
    P (closeAll before after bs f) := by
  induction bs generalizing f with
  | nil => exact hf
  | cons b bs ih =>
    exact ih (fun c hc => step c (List.mem_cons_of_mem b hc)) (step b List.mem_cons_self f hf)

/-! ## Nothing is forgotten -/

namespace Front

/-- Nothing that was met is forgotten. -/
structure Extends (f g : Front) : Prop where
  seen : ∀ s ∈ f.seen, s ∈ g.seen
  ready : ∀ s ∈ f.ready, s ∈ g.ready
  found : f.found = true → g.found = true

theorem Extends.refl (f : Front) : f.Extends f := ⟨fun _ h => h, fun _ h => h, id⟩

theorem Extends.trans {f g h : Front} (hfg : f.Extends g) (hgh : g.Extends h) : f.Extends h :=
  ⟨fun s hs => hgh.seen s (hfg.seen s hs), fun s hs => hgh.ready s (hfg.ready s hs),
    fun hf => hgh.found (hfg.found hf)⟩

theorem extends_enter (f : Front) (s : State) : f.Extends (f.enter after s) :=
  ⟨fun _ hs => List.mem_cons_of_mem _ hs, fun _ hs => List.mem_append_right _ hs, id⟩

end Front

theorem extends_close (todo kept : State) (f : Front) :
    f.Extends (close before after todo kept f) := by
  refine close_rule (motive := fun _ _ f g => f.Extends g) ?_ ?_ ?_ todo kept f
  · intro todo kept f _
    exact .refl f
  · intro f
    exact ⟨fun _ h => h, fun _ h => h, fun _ => rfl⟩
  · intro n rest kept f ih
    exact closeAll_rule (fun b hb g hg => hg.trans (ih b hb g)) (f.extends_enter _)

theorem extends_closeAll (bs : List (State × State)) (f : Front) :
    f.Extends (closeAll before after bs f) :=
  closeAll_rule (fun b _ g hg => hg.trans (extends_close b.1 b.2 g)) (.refl f)

/-! ## Nothing unreachable is met -/

/-- Everything that was met is good, and so is everything that comes from it. -/
structure Front.Sound (after : Option Char) (Good : State → Prop) (f : Front) : Prop where
  seen : ∀ s ∈ f.seen, Good s
  ready : ∀ r ∈ f.ready, ∃ s, Good s ∧ r ∈ reads after s
  found : f.found = true → Good []

theorem Front.Sound.enter {Good : State → Prop} {f : Front} (hf : f.Sound after Good) {s : State}
    (hs : Good s) : (f.enter after s).Sound after Good := by
  refine ⟨?_, ?_, hf.found⟩
  · intro t ht
    rcases List.mem_cons.1 ht with rfl | ht
    · exact hs
    · exact hf.seen t ht
  · intro r hr
    rcases List.mem_append.1 hr with hr | hr
    · exact ⟨s, hs, hr⟩
    · exact hf.ready r hr

/-- If what follows a good state is good, then following a good state meets good states only. -/
theorem sound_close {Good : State → Prop}
    (hnext : ∀ s, Good s → ∀ s' ∈ nexts before after s, Good s') {todo kept : State} {f : Front}
    (hgood : Good (todo ++ kept)) (hf : f.Sound after Good) :
    (close before after todo kept f).Sound after Good := by
  revert hgood hf
  refine close_rule
    (motive := fun todo kept f g => Good (todo ++ kept) → f.Sound after Good → g.Sound after Good)
    ?_ ?_ ?_ todo kept f
  · intro todo kept f _ _ hf
    exact hf
  · intro f hgood hf
    exact ⟨hf.seen, hf.ready, fun _ => hgood⟩
  · intro n rest kept f ih hgood hf
    refine closeAll_rule (fun b hb g hg => ih b hb g ?_ hg) (hf.enter hgood)
    refine hnext _ hgood _ ?_
    rw [nexts_append]
    exact List.mem_map_of_mem hb

/-! ## Nothing reachable is missed -/

namespace Front

/-- Everything directly behind a state was met, and it is not the end of the pattern. -/
structure Settled (before after : Option Char) (f : Front) (s : State) : Prop where
  ne_nil : s ≠ []
  nexts : ∀ s' ∈ nexts before after s, s' ∈ f.seen
  reads : ∀ r ∈ reads after s, r ∈ f.ready

theorem Settled.mono {f g : Front} (h : f.Extends g) {s : State} (hs : f.Settled before after s) :
    g.Settled before after s :=
  ⟨hs.ne_nil, fun s' hs' => h.seen s' (hs.nexts s' hs'), fun r hr => h.ready r (hs.reads r hr)⟩

/-- The second front has settled whatever it has met beyond the first. -/
def Settles (before after : Option Char) (f g : Front) : Prop :=
  ∀ s ∈ g.seen, s ∈ f.seen ∨ g.Settled before after s

theorem Settles.trans {f g h : Front} (hfg : f.Settles before after g)
    (hgh : g.Settles before after h) (hext : g.Extends h) : f.Settles before after h := by
  intro s hs
  rcases hgh s hs with hs | hs
  · exact (hfg s hs).imp_right (Settled.mono hext)
  · exact .inr hs

end Front

/-- A branch keeps what its state keeps, or the whole state. -/
theorem kept_of_mem_branches {todo kept : State} {b : State × State}
    (h : b ∈ branches before after todo kept) : b.2 = kept ∨ b.2 = todo ++ kept := by
  cases todo with
  | nil => simp [branches] at h
  | cons n rest =>
    cases n with
    | set s => simp [branches] at h
    | empty | cat => simp_all [branches]
    | look a => by_cases ha : a.holds before after = true <;> simp_all [branches]
    | alt a b => rcases (by simpa [branches] using h) with rfl | rfl <;> exact .inl rfl
    | times body count => cases count <;> simp_all [branches]
    | upTo body count greedy =>
      left
      cases count with
      | zero => simp_all [branches]
      | succ count => cases greedy <;> rcases (by simpa [branches] using h) with rfl | rfl <;> rfl
    | loop body greedy =>
      -- the body of a loop is followed while the loop's own state is kept
      cases greedy <;> rcases (by simpa [branches] using h) with rfl | rfl <;> simp

/-- Follows branches so that each of them is met and all is settled that is met on the way. -/
theorem settles_closeAll (bs : List (State × State)) (f : Front)
    (h : ∀ b ∈ bs, ∀ g, f.Extends g →
      (close before after b.1 b.2 g).found = true ∨
        b.1 ++ b.2 ∈ (close before after b.1 b.2 g).seen ∧
          g.Settles before after (close before after b.1 b.2 g)) :
    (closeAll before after bs f).found = true ∨
      (∀ b ∈ bs, b.1 ++ b.2 ∈ (closeAll before after bs f).seen) ∧
        f.Settles before after (closeAll before after bs f) := by
  induction bs generalizing f with
  | nil => exact .inr ⟨fun _ hb => absurd hb List.not_mem_nil, fun _ hs => .inl hs⟩
  | cons b bs ih =>
    have hext : f.Extends (close before after b.1 b.2 f) := extends_close _ _ _
    have hext' : (close before after b.1 b.2 f).Extends (closeAll before after (b :: bs) f) :=
      extends_closeAll bs _
    rcases h b List.mem_cons_self f (.refl f) with hfound | ⟨hmem, hsettles⟩
    · exact .inl (hext'.found hfound)
    · rcases ih _ (fun c hc g hg => h c (List.mem_cons_of_mem b hc) g (hext.trans hg)) with
        hfound | ⟨hmems, hsettles'⟩
      · exact .inl hfound
      · refine .inr ⟨?_, hsettles.trans hsettles' hext'⟩
        intro c hc
        rcases List.mem_cons.1 hc with rfl | hc
        · exact hext'.seen _ hmem
        · exact hmems c hc

/-- Following a state meets it and settles all that is met on the way, unless a match is found. -/
theorem settles_close {todo kept : State} {f : Front} (hkept : kept = [] ∨ kept ∈ f.seen) :
    (close before after todo kept f).found = true ∨
      todo ++ kept ∈ (close before after todo kept f).seen ∧
        f.Settles before after (close before after todo kept f) := by
  revert hkept
  refine close_rule
    (motive := fun todo kept f g => kept = [] ∨ kept ∈ f.seen →
      g.found = true ∨ todo ++ kept ∈ g.seen ∧ f.Settles before after g)
    ?_ ?_ ?_ todo kept f
  · -- a state that is passed over leaves the front as it is
    intro todo kept f hskip hkept
    have hstay : f.Settles before after f := fun _ hs => .inl hs
    rcases hskip with hfound | hseen | ⟨rfl, hne⟩
    · exact .inl hfound
    · exact .inr ⟨hseen, hstay⟩
    · exact .inr ⟨hkept.resolve_left hne, hstay⟩
  · intro f _
    exact .inl rfl
  · intro n rest kept f ih hkept
    -- every branch keeps the state entered here or what was met before it
    have hbranches := settles_closeAll (branches before after (n :: rest) kept)
      (f.enter after (n :: rest ++ kept)) fun b hb g hg => by
        refine ih b hb g ?_
        rcases kept_of_mem_branches hb with heq | heq
        · rw [heq]
          exact hkept.imp_right fun h => hg.seen _ (List.mem_cons_of_mem _ h)
        · rw [heq]
          exact .inr (hg.seen _ List.mem_cons_self)
    have hext : (f.enter after (n :: rest ++ kept)).Extends
        (closeAll before after (branches before after (n :: rest) kept)
          (f.enter after (n :: rest ++ kept))) := extends_closeAll _ _
    rcases hbranches with hfound | ⟨hmems, hsettles⟩
    · exact .inl hfound
    · refine .inr ⟨hext.seen _ List.mem_cons_self, ?_⟩
      intro s hs
      rcases hsettles s hs with hs | hs
      · rcases List.mem_cons.1 hs with rfl | hs
        · -- the state entered here is settled: each of its branches was met
          refine .inr ⟨List.cons_ne_nil _ _, ?_, ?_⟩
          · intro s' hs'
            rw [nexts_append] at hs'
            rcases List.mem_map.1 hs' with ⟨b, hb, rfl⟩
            exact hmems b hb
          · intro r hr
            exact hext.ready r (List.mem_append_left _ hr)
        · exact .inl hs
      · exact .inr hs

end LineCensus.Pattern
