import LineCensus.Proofs.Toml.Local

/-!
# LineCensus.Proofs.Toml.Strings — strings are read without what follows

1. `readEscape_cons`: an escape by its letter, which means a character (`meaning?`) or announces digits (`digitCount?`).
2. `local_readBasic`, `local_readLiteral`: strings on one line.
3. `lineCharacter`: one character of a string over several lines. `local_readBasicLines`, `local_readLiteralLines`:
   such strings, whose closing quotes are counted, so that there must be something behind them (`closing?_append`).
4. `local_text`: a string of any kind, or something else where none begins.
-/

namespace LineCensus.Toml

variable {text rest : List Char}

/-! ## Strings -/

theorem local_readCode (count : Nat) : Local (readCode count) (readCode count) where
  suffix := by
    intro text c rest h
    unfold readCode at h
    split at h
    · cases h
    · split at h
      · cases h
      · split at h
        · cases h
          exact List.drop_suffix count text
        · cases h
  append := by
    intro text c rest h _ behind
    unfold readCode at h ⊢
    split at h
    · cases h
    · next hlength =>
      have hlong : ¬(text ++ behind).length < count := by
        rw [List.length_append]
        omega
      rw [if_neg hlong, List.take_append_of_le_length (by omega)]
      split at h
      · cases h
      · next code hcode =>
        split at h
        · next hvalid =>
          cases h
          rw [if_pos hvalid, List.drop_append_of_le_length (by omega)]
        · cases h

/-- The character that a letter behind a backslash stands for. -/
def meaning? : Char → Option Char
  | 'b' => some '\x08'
  | 't' => some '\t'
  | 'n' => some '\n'
  | 'f' => some '\x0c'
  | 'r' => some '\r'
  | 'e' => some '\x1b'
  | '"' => some '"'
  | '\\' => some '\\'
  | _ => none

/-- The number of digits behind a letter that announces them. -/
def digitCount? : Char → Option Nat
  | 'x' => some 2
  | 'u' => some 4
  | 'U' => some 8
  | _ => none

theorem readEscape_cons (letter : Char) (text : List Char) :
    readEscape (letter :: text) =
      match meaning? letter, digitCount? letter with
      | some c, _ => .ok (c, text)
      | none, some count => readCode count text
      | none, none => .error .badEscape := by
  unfold readEscape meaning? digitCount?
  grind

theorem local_readEscape : Local readEscape readEscape := by
  apply local_of_cons
  · intro x h
    cases h
  · intro letter
    simp only [readEscape_cons]
    cases meaning? letter with
    | some c => exact local_pure c
    | none =>
      cases digitCount? letter with
      | some count => exact local_readCode count
      | none => exact local_error _

/-- A reader that puts one more character in front of what another one reads. -/
theorem Local.prepend {read read' : List Char → Except Fault (Rest (List Char))} (h : Local read read') (c : Char) :
    Local (fun text => read text >>= fun x => .ok (c :: x.1, x.2)) fun text =>
      read' text >>= fun x => .ok (c :: x.1, x.2) :=
  h.map (c :: ·)

theorem readBasic_cons_plain {c : Char} (hquote : c ≠ '"') (hslash : c ≠ '\\') (fuel : Nat) (text : List Char) :
    readBasic (fuel + 1) (c :: text) =
      if isPlain c then readBasic fuel text >>= fun x => .ok (c :: x.1, x.2) else .error .badCharacter := by
  rw [readBasic]
  · rfl
  · exact hquote
  · exact hslash

theorem local_readBasic {fuel fuel' : Nat} (h : fuel ≤ fuel') : Local (readBasic fuel) (readBasic fuel') := by
  induction fuel generalizing fuel' with
  | zero => exact local_error _
  | succ fuel ih =>
    obtain ⟨fuel', rfl⟩ : ∃ n, fuel' = n + 1 := ⟨fuel' - 1, by omega⟩
    have hrest : Local (readBasic fuel) (readBasic fuel') := ih (by omega)
    apply local_of_cons
    · intro x h
      cases h
    · intro c
      by_cases hquote : c = '"'
      · subst hquote
        exact local_pure []
      by_cases hslash : c = '\\'
      · subst hslash
        exact local_readEscape.bind fun c => hrest.prepend c
      simp only [readBasic_cons_plain hquote hslash]
      split
      · exact hrest.prepend c
      · exact local_error _

theorem readLiteral_suffix {cs : List Char} (h : readLiteral text = .ok (cs, rest)) : rest <:+ text := by
  induction text generalizing cs with
  | nil => cases h
  | cons c more ih =>
    unfold readLiteral at h
    split at h
    · cases h
      exact List.suffix_cons c rest
    · split at h
      · rcases bind_eq_ok_iff.1 h with ⟨⟨cs', rest'⟩, hmore, hrest⟩
        cases hrest
        exact (ih hmore).trans (List.suffix_cons c more)
      · cases h

theorem readLiteral_append {cs : List Char} (h : readLiteral text = .ok (cs, rest)) (behind : List Char) :
    readLiteral (text ++ behind) = .ok (cs, rest ++ behind) := by
  induction text generalizing cs with
  | nil => cases h
  | cons c more ih =>
    rw [List.cons_append]
    unfold readLiteral at h ⊢
    split at h
    · next hquote =>
      cases h
      rw [if_pos hquote]
    · next hquote =>
      rw [if_neg hquote]
      split at h
      · next hplain =>
        rcases bind_eq_ok_iff.1 h with ⟨⟨cs', rest'⟩, hmore, hrest⟩
        cases hrest
        rw [if_pos hplain, ih hmore]
        rfl
      · cases h

theorem local_readLiteral : Local readLiteral readLiteral where
  suffix h := readLiteral_suffix h
  append h _ behind := readLiteral_append h behind

/-! ## Strings over several lines -/

theorem dropNewline_append (hended : Ended text) (behind : List Char) :
    dropNewline (text ++ behind) = dropNewline text ++ behind := by
  unfold dropNewline
  cases h : newline? text with
  | some next =>
    rw [newline?_append h]
    rfl
  | none =>
    rw [newline?_append_eq_none hended h]
    rfl

theorem dropNewline_suffix (text : List Char) : dropNewline text <:+ text := by
  unfold dropNewline
  cases h : newline? text with
  | some next => exact newline?_suffix h
  | none => exact List.suffix_rfl

theorem closing?_suffix {quote : Char} {cs : List Char} (h : closing? quote text = some (cs, rest)) :
    rest <:+ text := by
  unfold closing? at h
  dsimp only at h
  split at h
  · cases h
  · cases h
    exact List.drop_suffix _ text

/-- Where a line's end comes, the quotes in front of a text are all there. -/
theorem closing?_append {quote : Char} (hquote : quote ≠ '\n') (hended : Ended text) (behind : List Char) :
    closing? quote (text ++ behind) = (closing? quote text).map fun x => (x.1, x.2 ++ behind) := by
  have hfeed : ('\n' == quote) = false := by simpa using Ne.symm hquote
  have htake : (text ++ behind).takeWhile (· == quote) = text.takeWhile (· == quote) :=
    (dropWhile_append_of_ended (hended.dropWhile hfeed) behind).2
  have hrun : min 5 (text.takeWhile (· == quote)).length ≤ text.length :=
    Nat.le_trans (Nat.min_le_right _ _) (List.takeWhile_prefix _).length_le
  unfold closing?
  dsimp only
  rw [htake]
  split
  · rfl
  · rw [List.drop_append_of_le_length hrun]
    rfl

theorem continued?_suffix (h : continued? text = some rest) : rest <:+ text := by
  rcases Option.map_eq_some_iff.1 h with ⟨next, hnext, rfl⟩
  exact ((List.dropWhile_suffix _).trans (newline?_suffix hnext)).trans (skipSpace_suffix text)

theorem continued?_append (h : continued? text = some rest) (hended : Ended rest) (behind : List Char) :
    continued? (text ++ behind) = some (rest ++ behind) := by
  rcases Option.map_eq_some_iff.1 h with ⟨next, hnext, rfl⟩
  have hspace : Ended (skipSpace text) :=
    hended.of_suffix ((List.dropWhile_suffix _).trans (newline?_suffix hnext))
  unfold continued?
  rw [skipSpace_append hspace, newline?_append hnext, Option.map_some, (dropWhile_append_of_ended hended behind).1]

theorem continued?_append_eq_none (hended : Ended text) (h : continued? text = none) (behind : List Char) :
    continued? (text ++ behind) = none := by
  have hspace : Ended (skipSpace text) := hended.dropWhile rfl
  unfold continued? at h ⊢
  rw [Option.map_eq_none_iff] at h ⊢
  rw [skipSpace_append hspace]
  exact newline?_append_eq_none hspace h behind

/-- What comes where a string does not end yet. -/
theorem local_closing {quote : Char} (hquote : quote ≠ '\n') {read read' : List Char → Except Fault (Rest (List Char))}
    (h : Local read read') :
    Local
      (fun text => match closing? quote text with
        | some ended => .ok ended
        | none => read text)
      fun text => match closing? quote text with
        | some ended => .ok ended
        | none => read' text := by
  apply (local_of_find (closing? quote) .ok .ok h ?_ ?_ ?_).congr
  · intro text
    cases closing? quote text <;> rfl
  · intro text
    cases closing? quote text <;> rfl
  · intro text ended cs rest hclosing hread
    cases hread
    exact closing?_suffix hclosing
  · intro text ended cs rest hclosing hread hended behind
    cases hread
    rw [closing?_append hquote (hended.of_suffix (closing?_suffix hclosing)), hclosing]
    exact ⟨_, rfl, rfl⟩
  · intro text hended hnone behind
    rw [closing?_append hquote hended, hnone]
    rfl

/-- What comes behind a backslash, which may stand at the end of a line. -/
theorem local_continued {joined joined' other other' : List Char → Except Fault (Rest (List Char))}
    (hjoined : Local joined joined') (hother : Local other other') :
    Local
      (fun text => match continued? text with
        | some rest => joined rest
        | none => other text)
      fun text => match continued? text with
        | some rest => joined' rest
        | none => other' text := by
  apply (local_of_find continued? joined joined' hother ?_ ?_ ?_).congr
  · intro text
    cases continued? text <;> rfl
  · intro text
    cases continued? text <;> rfl
  · intro text next cs rest hnext hread
    exact (hjoined.suffix hread).trans (continued?_suffix hnext)
  · intro text next cs rest hnext hread hended behind
    exact ⟨_, continued?_append hnext (hended.of_suffix (hjoined.suffix hread)) behind,
      hjoined.append hread hended behind⟩
  · intro text hended hnone behind
    exact continued?_append_eq_none hended hnone behind

/-- Reads a character of a string over several lines, where a carriage return stands in front of a line feed only. -/
def lineCharacter (read : List Char → Except Fault (Rest (List Char))) : List Char → Except Fault (Rest (List Char))
  | [] => .error .unclosedText
  | '\r' :: '\n' :: rest => read rest >>= fun x => .ok ('\r' :: '\n' :: x.1, x.2)
  | c :: rest => if c = '\n' || isPlain c then read rest >>= fun x => .ok (c :: x.1, x.2) else .error .badCharacter

theorem local_lineCharacter_cons {read read' : List Char → Except Fault (Rest (List Char))} (h : Local read read')
    (c : Char) : Local (fun text => lineCharacter read (c :: text)) fun text => lineCharacter read' (c :: text) := by
  by_cases hreturn : c = '\r'
  · subst hreturn
    apply local_of_cons
    · intro x hread
      cases hread
    · intro d
      by_cases hfeed : d = '\n'
      · subst hfeed
        exact h.map fun cs => '\r' :: '\n' :: cs
      · apply local_of_ne_ok
        intro text x hread
        unfold lineCharacter at hread
        split at hread
        · next heq => cases heq
        · next heq => exact hfeed (List.cons.inj (List.cons.inj heq).2).1
        · next heq =>
          rcases List.cons.inj heq with ⟨rfl, rfl⟩
          cases hread
  · have hplain : ∀ read text, lineCharacter read (c :: text) =
        if c = '\n' || isPlain c then read text >>= fun x => .ok (c :: x.1, x.2) else .error .badCharacter := by
      intro read text
      unfold lineCharacter
      split
      · next heq => cases heq
      · next heq => exact absurd (List.cons.inj heq).1 hreturn
      · next heq =>
        rcases List.cons.inj heq with ⟨rfl, rfl⟩
        rfl
    simp only [hplain]
    split
    · exact h.prepend c
    · exact local_error _

theorem local_readBasicLines {fuel fuel' : Nat} (h : fuel ≤ fuel') :
    Local (readBasicLines fuel) (readBasicLines fuel') := by
  induction fuel generalizing fuel' with
  | zero => exact local_error _
  | succ fuel ih =>
    obtain ⟨fuel', rfl⟩ : ∃ n, fuel' = n + 1 := ⟨fuel' - 1, by omega⟩
    have hrest : Local (readBasicLines fuel) (readBasicLines fuel') := ih (by omega)
    -- the closing quotes come first, then a backslash, then any other character
    apply local_closing (by decide)
    apply local_of_cons
    · intro x h
      cases h
    · intro c
      by_cases hslash : c = '\\'
      · subst hslash
        exact local_continued hrest (local_readEscape.bind fun c => hrest.prepend c)
      · apply (local_lineCharacter_cons hrest c).congr
        all_goals
          intro text
          split
          · next heq => cases heq
          · next heq => exact absurd (List.cons.inj heq).1 hslash
          · next heq =>
            cases heq
            rfl
          · next hreturn heq =>
            cases heq
            rw [lineCharacter]
            · rfl
            · exact hreturn

theorem local_readLiteralLines {fuel fuel' : Nat} (h : fuel ≤ fuel') :
    Local (readLiteralLines fuel) (readLiteralLines fuel') := by
  induction fuel generalizing fuel' with
  | zero => exact local_error _
  | succ fuel ih =>
    obtain ⟨fuel', rfl⟩ : ∃ n, fuel' = n + 1 := ⟨fuel' - 1, by omega⟩
    have hrest : Local (readLiteralLines fuel) (readLiteralLines fuel') := ih (by omega)
    apply local_closing (by decide)
    apply local_of_cons
    · intro x h
      cases h
    · intro c
      exact local_lineCharacter_cons hrest c

/-! ## Strings of any kind -/

/-- Two quotes in front are no more than they were. -/
theorem head_append_ne {quote : Char} (hquote : quote ≠ '\n') (hended : Ended text)
    (h : ∀ more, text ≠ quote :: quote :: more) (behind more : List Char) :
    text ++ behind ≠ quote :: quote :: more := by
  intro heq
  cases text with
  | nil => exact hended.ne_nil rfl
  | cons c text =>
    rcases List.cons.inj heq with ⟨rfl, hrest⟩
    have htail : Ended text := hended.tail hquote
    cases text with
    | nil => exact htail.ne_nil rfl
    | cons d text =>
      rcases List.cons.inj hrest with ⟨rfl, -⟩
      exact h text rfl

theorem Local.afterNewline {read read' : List Char → Except Fault (Rest (List Char))} (h : Local read read') :
    Local (fun text => read (dropNewline text)) fun text => read' (dropNewline text) where
  suffix hread := (h.suffix hread).trans (dropNewline_suffix _)
  append hread hended behind := by
    rw [dropNewline_append (hended.of_suffix ((h.suffix hread).trans (dropNewline_suffix _)))]
    exact h.append hread hended behind

/-- What stands behind the opening quotes of a string over several lines. -/
theorem local_block {read : Nat → List Char → Except Fault (Rest (List Char))}
    (h : ∀ {fuel fuel'}, fuel ≤ fuel' → Local (read fuel) (read fuel')) :
    Local (fun text => read (text.length + 1) (dropNewline text)) fun text =>
      read (text.length + 1) (dropNewline text) := by
  have hblock : ∀ {fuel fuel'}, fuel ≤ fuel' →
      Local (fun text => read fuel (dropNewline text)) fun text => read fuel' (dropNewline text) := by
    intro fuel fuel' hfuel
    exact (h hfuel).afterNewline
  exact local_of_fuel hblock

theorem readText?_suffix {cs : List Char} (h : readText? text = some (.ok (cs, rest))) : rest <:+ text := by
  unfold readText? at h
  split at h
  · have hsuffix := (local_block local_readBasicLines).suffix (Option.some.inj h)
    exact hsuffix.trans ⟨['"', '"', '"'], rfl⟩
  · exact ((local_of_fuel local_readBasic).suffix (Option.some.inj h)).trans (List.suffix_cons _ _)
  · have hsuffix := (local_block local_readLiteralLines).suffix (Option.some.inj h)
    exact hsuffix.trans ⟨['\'', '\'', '\''], rfl⟩
  · exact (local_readLiteral.suffix (Option.some.inj h)).trans (List.suffix_cons _ _)
  · cases h

theorem readText?_append {cs : List Char} (h : readText? text = some (.ok (cs, rest))) (hended : Ended rest)
    (behind : List Char) : readText? (text ++ behind) = some (.ok (cs, rest ++ behind)) := by
  unfold readText? at h
  split at h
  · exact congrArg some ((local_block local_readBasicLines).append (Option.some.inj h) hended behind)
  · next more hpair =>
    have hmore : Ended more := hended.of_suffix ((local_of_fuel local_readBasic).suffix (Option.some.inj h))
    rw [List.cons_append, readText?, (local_of_fuel local_readBasic).append (Option.some.inj h) hended behind]
    exact head_append_ne (by decide) hmore hpair behind
  · exact congrArg some ((local_block local_readLiteralLines).append (Option.some.inj h) hended behind)
  · next more hpair =>
    have hmore : Ended more := hended.of_suffix (local_readLiteral.suffix (Option.some.inj h))
    rw [List.cons_append, readText?, local_readLiteral.append (Option.some.inj h) hended behind]
    exact head_append_ne (by decide) hmore hpair behind
  · cases h

theorem readText?_cons_eq_none_iff {c : Char} : readText? (c :: text) = none ↔ c ≠ '"' ∧ c ≠ '\'' := by
  unfold readText?
  grind

theorem readText?_append_eq_none (hended : Ended text) (h : readText? text = none) (behind : List Char) :
    readText? (text ++ behind) = none := by
  cases text with
  | nil => exact absurd rfl hended.ne_nil
  | cons c more =>
    rw [List.cons_append, readText?_cons_eq_none_iff]
    exact readText?_cons_eq_none_iff.1 h

/-- What comes where no string stands. -/
theorem local_text {α : Type} {f : List Char → α} {other other' : List Char → Except Fault (Rest α)}
    (hother : Local other other') :
    Local
      (fun text => match readText? text with
        | some result => result.map fun x => (f x.1, x.2)
        | none => other text)
      fun text => match readText? text with
        | some result => result.map fun x => (f x.1, x.2)
        | none => other' text := by
  apply (local_of_find readText? (Except.map fun x => (f x.1, x.2)) (Except.map fun x => (f x.1, x.2)) hother
    ?_ ?_ ?_).congr
  · intro text
    cases readText? text <;> rfl
  · intro text
    cases readText? text <;> rfl
  · intro text result a rest hresult hread
    cases result with
    | error fault => cases hread
    | ok x =>
      cases hread
      exact readText?_suffix hresult
  · intro text result a rest hresult hread hended behind
    cases result with
    | error fault => cases hread
    | ok x =>
      cases hread
      exact ⟨_, readText?_append hresult hended behind, rfl⟩
  · intro text hended hnone behind
    exact readText?_append_eq_none hended hnone behind

end LineCensus.Toml
