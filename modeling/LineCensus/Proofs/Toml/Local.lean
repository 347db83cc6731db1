import LineCensus.Toml.Document

/-!
# LineCensus.Proofs.Toml.Local — reading without what follows

A reader looks no further than the end of the line in which it ends. So what it reads of one text it reads of any text
that goes on behind that line, with more steps at hand if it counts them.

1. `Ended`: a text that ends with a line feed. No reader that stops within a text has passed the end of it.
2. `Local`: a reader that goes forward and does not depend on what follows. Readers are put together by `Local.bind`,
   `local_of_head`, `local_of_cons` and `local_of_find`, as their definitions are.
3. `skips_skipComment`, `skips_skipLines`: what stands between values is passed over that way.
4. `IsStart`: a character that is not passed over. `skipLines_blanks`: the blanks in front of it are.
-/

namespace LineCensus.Toml

/-! ## Texts that end with a line -/

/-- The text ends with a line feed. -/
def Ended (text : List Char) : Prop := text.getLast? = some '\n'

variable {text rest : List Char}

theorem Ended.ne_nil (h : Ended text) : text ≠ [] := by
  rintro rfl
  cases h

theorem Ended.of_suffix (h : Ended rest) (hsuffix : rest <:+ text) : Ended text := by
  rcases hsuffix with ⟨front, rfl⟩
  rw [Ended, List.getLast?_append, h]
  rfl

/-- What is left ends with the line too, unless the line feed is gone. -/
theorem Ended.tail {c : Char} (h : Ended (c :: text)) (hc : c ≠ '\n') : Ended text := by
  cases text with
  | nil => exact absurd (Option.some.inj h) hc
  | cons d more => rwa [Ended, List.getLast?_cons_cons] at h

theorem Ended.dropWhile {p : Char → Bool} (h : Ended text) (hp : p '\n' = false) : Ended (text.dropWhile p) := by
  induction text with
  | nil => exact h
  | cons c more ih =>
    by_cases hc : p c = true
    · have hne : c ≠ '\n' := by
        rintro rfl
        rw [hp] at hc
        cases hc
      rw [List.dropWhile_cons_of_pos hc]
      exact ih (h.tail hne)
    · rw [List.dropWhile_cons_of_neg hc]
      exact h

/-- What follows is not looked at where something is left. -/
theorem dropWhile_append_of_ended {p : Char → Bool} (h : Ended (text.dropWhile p)) (behind : List Char) :
    (text ++ behind).dropWhile p = text.dropWhile p ++ behind ∧ (text ++ behind).takeWhile p = text.takeWhile p := by
  induction text with
  | nil => exact absurd rfl h.ne_nil
  | cons c more ih =>
    by_cases hc : p c = true
    · rw [List.dropWhile_cons_of_pos hc] at h
      rw [List.cons_append, List.dropWhile_cons_of_pos hc, List.dropWhile_cons_of_pos hc, List.takeWhile_cons_of_pos hc,
        List.takeWhile_cons_of_pos hc, (ih h).1, (ih h).2]
      exact ⟨rfl, rfl⟩
    · rw [List.cons_append, List.dropWhile_cons_of_neg hc, List.dropWhile_cons_of_neg hc, List.takeWhile_cons_of_neg hc,
        List.takeWhile_cons_of_neg hc]
      exact ⟨rfl, rfl⟩

/-! ## Readers -/

/-- A reader goes forward, and what it reads in front of the end of a line it reads whatever follows that line. The
second reader is the same one, which may go on for longer. -/
structure Local {α : Type} (read read' : List Char → Except Fault (Rest α)) : Prop where
  suffix : ∀ {text a rest}, read text = .ok (a, rest) → rest <:+ text
  append : ∀ {text a rest}, read text = .ok (a, rest) → Ended rest → ∀ behind,
    read' (text ++ behind) = .ok (a, rest ++ behind)

/-- The same for what is passed over. -/
structure Skips (skip skip' : List Char → Except Fault (List Char)) : Prop where
  suffix : ∀ {text rest}, skip text = .ok rest → rest <:+ text
  append : ∀ {text rest}, skip text = .ok rest → Ended rest → ∀ behind, skip' (text ++ behind) = .ok (rest ++ behind)

section Readers

variable {α β : Type}

theorem bind_eq_ok_iff {x : Except Fault α} {f : α → Except Fault β} {b : β} :
    x >>= f = .ok b ↔ ∃ a, x = .ok a ∧ f a = .ok b := by
  cases x with
  | error fault => simp [bind, Except.bind]
  | ok a => simp [bind, Except.bind]

theorem local_pure (a : α) : Local (fun text => .ok (a, text)) fun text => .ok (a, text) where
  suffix h := by
    cases h
    exact List.suffix_rfl
  append h _ behind := by
    cases h
    rfl

theorem local_error (fault : Fault) {read' : List Char → Except Fault (Rest α)} :
    Local (fun _ => .error fault) read' where
  suffix h := by cases h
  append h := by cases h

theorem local_of_ne_ok {read read' : List Char → Except Fault (Rest α)} (h : ∀ text x, read text ≠ .ok x) :
    Local read read' where
  suffix hread := absurd hread (h _ _)
  append hread := absurd hread (h _ _)

theorem Local.congr {read read' other other' : List Char → Except Fault (Rest α)} (h : Local read read')
    (heq : ∀ text, other text = read text) (heq' : ∀ text, other' text = read' text) : Local other other' := by
  rw [funext heq, funext heq']
  exact h

theorem Local.bind {first first' : List Char → Except Fault (Rest α)}
    {next next' : α → List Char → Except Fault (Rest β)} (hfirst : Local first first')
    (hnext : ∀ a, Local (next a) (next' a)) :
    Local (fun text => first text >>= fun x => next x.1 x.2) fun text => first' text >>= fun x => next' x.1 x.2 where
  suffix h := by
    rcases bind_eq_ok_iff.1 h with ⟨⟨a, middle⟩, ha, hb⟩
    exact ((hnext a).suffix hb).trans (hfirst.suffix ha)
  append h hended behind := by
    rcases bind_eq_ok_iff.1 h with ⟨⟨a, middle⟩, ha, hb⟩
    have hmiddle : Ended middle := hended.of_suffix ((hnext a).suffix hb)
    rw [bind_eq_ok_iff]
    exact ⟨_, hfirst.append ha hmiddle behind, (hnext a).append hb hended behind⟩

/-- What is decided without reading on. -/
theorem local_check {x : Except Fault α} {next next' : α → List Char → Except Fault (Rest β)}
    (hnext : ∀ a, Local (next a) (next' a)) :
    Local (fun text => x >>= fun a => next a text) fun text => x >>= fun a => next' a text := by
  cases x with
  | error fault => exact local_error fault
  | ok a => exact hnext a

theorem Skips.bind {skip skip' : List Char → Except Fault (List Char)} {next next' : List Char → Except Fault (Rest α)}
    (hskip : Skips skip skip') (hnext : Local next next') :
    Local (fun text => skip text >>= next) fun text => skip' text >>= next' where
  suffix h := by
    rcases bind_eq_ok_iff.1 h with ⟨middle, ha, hb⟩
    exact (hnext.suffix hb).trans (hskip.suffix ha)
  append h hended behind := by
    rcases bind_eq_ok_iff.1 h with ⟨middle, ha, hb⟩
    have hmiddle : Ended middle := hended.of_suffix (hnext.suffix hb)
    rw [bind_eq_ok_iff]
    exact ⟨_, hskip.append ha hmiddle behind, hnext.append hb hended behind⟩

theorem Local.map {read read' : List Char → Except Fault (Rest α)} (h : Local read read') (f : α → β) :
    Local (fun text => read text >>= fun x => .ok (f x.1, x.2)) fun text => read' text >>= fun x => .ok (f x.1, x.2) :=
  h.bind fun a => local_pure (f a)

theorem Local.mapResult {read read' : List Char → Except Fault (Rest α)} (h : Local read read') (f : α → β) :
    Local (fun text => (read text).map fun x => (f x.1, x.2)) fun text => (read' text).map fun x => (f x.1, x.2) := by
  have hmap : ∀ x : Except Fault (Rest α), (x.map fun x => (f x.1, x.2)) = x >>= fun x => .ok (f x.1, x.2) := by
    intro x
    cases x <;> rfl
  simp only [hmap]
  exact h.map f

/-- A reader that may go on for as long as there is text. -/
theorem local_of_fuel {read : Nat → List Char → Except Fault (Rest α)}
    (h : ∀ {fuel fuel'}, fuel ≤ fuel' → Local (read fuel) (read fuel')) :
    Local (fun text => read (text.length + 1) text) fun text => read (text.length + 1) text where
  suffix hread := (h (Nat.le_refl _)).suffix hread
  append hread hended behind := by
    have hlength : ∀ text : List Char, text.length + 1 ≤ (text ++ behind).length + 1 := by
      intro text
      rw [List.length_append]
      omega
    exact (h (hlength _)).append hread hended behind

/-- A reader that does something else where a certain character comes first. -/
theorem local_of_head {read read' other other' : List Char → Except Fault (Rest α)} (d : Char)
    (hhead : Local (fun text => read (d :: text)) fun text => read' (d :: text)) (hother : Local other other')
    (heq : ∀ text, text.head? ≠ some d → read text = other text)
    (heq' : ∀ text, text.head? ≠ some d → read' text = other' text) : Local read read' where
  suffix := by
    intro text a rest h
    by_cases hd : text.head? = some d
    · rcases List.head?_eq_some_iff.1 hd with ⟨more, rfl⟩
      exact (hhead.suffix h).trans (List.suffix_cons d more)
    · rw [heq text hd] at h
      exact hother.suffix h
  append := by
    intro text a rest h hended behind
    by_cases hd : text.head? = some d
    · rcases List.head?_eq_some_iff.1 hd with ⟨more, rfl⟩
      exact hhead.append h hended behind
    · rw [heq text hd] at h
      have hne : text ≠ [] := (hended.of_suffix (hother.suffix h)).ne_nil
      -- what is left is behind the first character, so the text has one
      have hd' : (text ++ behind).head? ≠ some d := by
        cases text with
        | nil => exact absurd rfl hne
        | cons c more => exact hd
      rw [heq' _ hd']
      exact hother.append h hended behind

/-- A reader looks at the first character, and never reads nothing. -/
theorem local_of_cons {read read' : List Char → Except Fault (Rest α)} (hnil : ∀ x, read [] ≠ .ok x)
    (hcons : ∀ c, Local (fun text => read (c :: text)) fun text => read' (c :: text)) : Local read read' where
  suffix := by
    intro text a rest h
    cases text with
    | nil => exact absurd h (hnil _)
    | cons c more => exact ((hcons c).suffix h).trans (List.suffix_cons c more)
  append := by
    intro text a rest h hended behind
    cases text with
    | nil => exact absurd h (hnil _)
    | cons c more => exact (hcons c).append h hended behind

/-- A reader that looks for something and reads on from there, or does something else where there is none. -/
theorem local_of_find {γ : Type} (find? : List Char → Option γ) (next next' : γ → Except Fault (Rest α))
    {other other' : List Char → Except Fault (Rest α)} (hother : Local other other')
    (hsuffix : ∀ {text found a rest}, find? text = some found → next found = .ok (a, rest) → rest <:+ text)
    (happend : ∀ {text found a rest}, find? text = some found → next found = .ok (a, rest) → Ended rest → ∀ behind,
      ∃ found', find? (text ++ behind) = some found' ∧ next' found' = .ok (a, rest ++ behind))
    (hnone : ∀ {text}, Ended text → find? text = none → ∀ behind, find? (text ++ behind) = none) :
    Local (fun text => (find? text).elim (other text) next) fun text => (find? text).elim (other' text) next' where
  suffix := by
    intro text a rest h
    cases hfind : find? text with
    | some found =>
      rw [hfind] at h
      exact hsuffix hfind h
    | none =>
      rw [hfind] at h
      exact hother.suffix h
  append := by
    intro text a rest h hended behind
    cases hfind : find? text with
    | some found =>
      rw [hfind] at h
      rcases happend hfind h hended behind with ⟨found', hfind', hnext⟩
      rw [hfind']
      exact hnext
    | none =>
      rw [hfind] at h
      -- something is left, so the text goes on to the end of a line, and nothing is found behind it
      rw [hnone (hended.of_suffix (hother.suffix h)) hfind behind]
      exact hother.append h hended behind

end Readers

/-! ## Between values -/

theorem skipSpace_suffix (text : List Char) : skipSpace text <:+ text := List.dropWhile_suffix isSpace

theorem skipSpace_append (h : Ended (skipSpace text)) (behind : List Char) :
    skipSpace (text ++ behind) = skipSpace text ++ behind := (dropWhile_append_of_ended h behind).1

theorem newline?_suffix (h : newline? text = some rest) : rest <:+ text := by
  unfold newline? at h
  split at h
  · cases h
    exact List.suffix_cons _ _
  · cases h
    exact (List.suffix_cons _ _).trans (List.suffix_cons _ _)
  · cases h

theorem newline?_append (h : newline? text = some rest) (behind : List Char) :
    newline? (text ++ behind) = some (rest ++ behind) := by
  unfold newline? at h
  split at h
  · cases h
    rfl
  · cases h
    rfl
  · cases h

theorem newline?_append_eq_none (hended : Ended text) (h : newline? text = none) (behind : List Char) :
    newline? (text ++ behind) = none := by
  cases text with
  | nil => exact absurd rfl hended.ne_nil
  | cons c more =>
    have hc : c ≠ '\n' := by
      rintro rfl
      cases h
    cases more with
    | nil => exact absurd rfl (hended.tail hc).ne_nil
    | cons d more =>
      have hpair : ¬(c = '\r' ∧ d = '\n') := by
        rintro ⟨rfl, rfl⟩
        cases h
      simp only [List.cons_append]
      unfold newline?
      split
      · next heq => exact absurd (List.cons.inj heq).1 hc
      · next heq =>
        rcases List.cons.inj heq with ⟨hreturn, hrest⟩
        exact absurd ⟨hreturn, (List.cons.inj hrest).1⟩ hpair
      · rfl

theorem skipComment_cons_of_ne {c : Char} (hc : c ≠ '#') (text : List Char) :
    skipComment (c :: text) = .ok (c :: text) := by
  rw [skipComment]
  rintro rest heq
  exact hc (List.cons.inj heq).1

theorem skips_skipComment : Skips skipComment skipComment where
  suffix := by
    intro text rest h
    unfold skipComment at h
    split at h
    · next more =>
      dsimp only at h
      split at h
      · cases h
        exact (List.dropWhile_suffix isPlain).trans (List.suffix_cons _ _)
      · cases h
    · cases h
      exact List.suffix_rfl
  append := by
    intro text rest h hended behind
    cases text with
    | nil =>
      cases h
      exact absurd rfl hended.ne_nil
    | cons c more =>
      by_cases hc : c = '#'
      · subst hc
        simp only [skipComment, List.cons_append] at h ⊢
        split at h
        · next hline =>
          cases h
          -- the comment does not reach the end of the text, so it ends with its line
          rcases dropWhile_append_of_ended hended behind with ⟨hdrop, -⟩
          have hfull : (more.dropWhile isPlain).isEmpty = false := by simpa using hended.ne_nil
          rw [hfull, Bool.false_or, Option.isSome_iff_exists] at hline
          rcases hline with ⟨next, hnext⟩
          rw [hdrop, newline?_append hnext behind, Option.isSome_some, Bool.or_true, if_pos rfl]
        · cases h
      · rw [skipComment_cons_of_ne hc] at h
        cases h
        exact skipComment_cons_of_ne hc (more ++ behind)

/-- Passes on behind the end of a line, if there is one. -/
def skipNext (skip : List Char → Except Fault (List Char)) (text : List Char) : Except Fault (List Char) :=
  match newline? text with
  | some rest => skip rest
  | none => .ok text

theorem skipNext_of_some {skip : List Char → Except Fault (List Char)} (h : newline? text = some rest) :
    skipNext skip text = skip rest := by
  unfold skipNext
  rw [h]

theorem skipNext_of_none {skip : List Char → Except Fault (List Char)} (h : newline? text = none) :
    skipNext skip text = .ok text := by
  unfold skipNext
  rw [h]

theorem skipLines_succ (fuel : Nat) (text : List Char) :
    skipLines (fuel + 1) text = skipComment (skipSpace text) >>= skipNext (skipLines fuel) := rfl

/-- One line after the other is passed over, as long as more can be read. -/
theorem skipLines_suffix (fuel : Nat) (h : skipLines fuel text = .ok rest) : rest <:+ text := by
  induction fuel generalizing text with
  | zero =>
    cases h
    exact List.suffix_rfl
  | succ fuel ih =>
    rw [skipLines_succ] at h
    rcases bind_eq_ok_iff.1 h with ⟨middle, hcomment, hrest⟩
    have hmiddle : middle <:+ text := (skips_skipComment.suffix hcomment).trans (skipSpace_suffix text)
    cases hnext : newline? middle with
    | some next =>
      rw [skipNext_of_some hnext] at hrest
      exact ((ih hrest).trans (newline?_suffix hnext)).trans hmiddle
    | none =>
      rw [skipNext_of_none hnext] at hrest
      cases hrest
      exact hmiddle

theorem length_lt_of_newline? (h : newline? text = some rest) : rest.length < text.length := by
  unfold newline? at h
  split at h <;> cases h <;> simp only [List.length_cons] <;> omega

theorem skipLines_append {fuel fuel' : Nat} (hfuel : text.length < fuel) (hfuel' : text.length < fuel')
    (h : skipLines fuel text = .ok rest) (hended : Ended rest) (behind : List Char) :
    skipLines fuel' (text ++ behind) = .ok (rest ++ behind) := by
  induction fuel generalizing text fuel' with
  | zero => exact absurd hfuel (Nat.not_lt_zero _)
  | succ fuel ih =>
    obtain ⟨fuel', rfl⟩ : ∃ n, fuel' = n + 1 := ⟨fuel' - 1, by omega⟩
    rw [skipLines_succ] at h ⊢
    rcases bind_eq_ok_iff.1 h with ⟨middle, hcomment, hrest⟩
    -- what is left ends with a line, and so does all that it is the rest of
    have hmiddle : middle <:+ skipSpace text := skips_skipComment.suffix hcomment
    have hlength : middle.length ≤ text.length := (hmiddle.trans (skipSpace_suffix text)).length_le
    rw [bind_eq_ok_iff]
    cases hnext : newline? middle with
    | some next =>
      rw [skipNext_of_some hnext] at hrest
      have hshorter : next.length < middle.length := length_lt_of_newline? hnext
      have hmiddleEnded : Ended middle :=
        hended.of_suffix ((skipLines_suffix fuel hrest).trans (newline?_suffix hnext))
      rw [skipSpace_append (hmiddleEnded.of_suffix hmiddle)]
      refine ⟨_, skips_skipComment.append hcomment hmiddleEnded behind, ?_⟩
      rw [skipNext_of_some (newline?_append hnext behind)]
      exact ih (by omega) (by omega) hrest
    | none =>
      rw [skipNext_of_none hnext] at hrest
      cases hrest
      rw [skipSpace_append (hended.of_suffix hmiddle)]
      refine ⟨_, skips_skipComment.append hcomment hended behind, ?_⟩
      exact skipNext_of_none (newline?_append_eq_none hended hnext behind)

theorem skips_skipLines :
    Skips (fun text => skipLines (text.length + 1) text) fun text => skipLines (text.length + 1) text where
  suffix h := skipLines_suffix _ h
  append {text} _ h hended behind := by
    have hlonger : text.length < (text ++ behind).length + 1 := by
      rw [List.length_append]
      omega
    exact skipLines_append (Nat.lt_succ_self _) hlonger h hended behind

/-! ## Where something begins -/

/-- Nothing that may be passed over. -/
def IsStart (c : Char) : Prop := isSpace c = false ∧ c ≠ '#' ∧ c ≠ '\n' ∧ c ≠ '\r'

instance (c : Char) : Decidable (IsStart c) := inferInstanceAs (Decidable (_ ∧ _))

theorem skipSpace_blanks {blanks : List Char} (hblanks : ∀ c ∈ blanks, isSpace c = true) (text : List Char) :
    skipSpace (blanks ++ text) = skipSpace text := List.dropWhile_append_of_pos hblanks

theorem newline?_of_isStart {c : Char} (h : IsStart c) (text : List Char) : newline? (c :: text) = none := by
  rw [newline?]
  · rintro rest heq
    exact h.2.2.1 (List.cons.inj heq).1
  · rintro rest heq
    exact h.2.2.2 (List.cons.inj heq).1

theorem skipSpace_of_isStart {c : Char} (h : IsStart c) (text : List Char) : skipSpace (c :: text) = c :: text :=
  List.dropWhile_cons_of_neg (by simp [h.1])

/-- Blanks are passed over, up to what begins behind them. -/
theorem skipLines_blanks {blanks : List Char} (hblanks : ∀ c ∈ blanks, isSpace c = true) {c : Char} (h : IsStart c)
    (fuel : Nat) (text : List Char) : skipLines (fuel + 1) (blanks ++ c :: text) = .ok (c :: text) := by
  have hskip : skipComment (skipSpace (blanks ++ c :: text)) = .ok (c :: text) := by
    rw [skipSpace_blanks hblanks, skipSpace_of_isStart h, skipComment_cons_of_ne h.2.1]
  rw [skipLines_succ, hskip]
  exact skipNext_of_none (newline?_of_isStart h text)

theorem skipLines_of_isStart {c : Char} (h : IsStart c) (fuel : Nat) (text : List Char) :
    skipLines (fuel + 1) (c :: text) = .ok (c :: text) := by
  have hblanks : ∀ c ∈ ([] : List Char), isSpace c = true := nofun
  exact skipLines_blanks hblanks h fuel text

end LineCensus.Toml
