import Mathlib.Data.List.Forall2
import LineCensus.Proofs.Report.Spelling
import LineCensus.Proofs.Toml.Values

/-!
# LineCensus.Proofs.Toml.Spelled — strings and arrays of strings are read as they were written

A string is written between quotes, with its quotes, backslashes and control characters escaped. There is often more
than one escape for a character, and every one of them is read.

1. `SpellsChar`, `SpellsText`: what is written for a character and for a text. `spellsText_escape`: every text can be
   written.
2. `readBasic_spelled`: what was written is read up to the closing quote.
3. `Quotes`, `bracketed`: strings with their quotes, and arrays of them. `readValue_quoted`, `readValue_bracketed`: they
   are read as values.
-/

namespace LineCensus.Toml

/-! ## Characters -/

/-- What may be written for a character between quotes: the character itself, a backslash and its letter, or a backslash
and its number in hexadecimal digits. -/
inductive SpellsChar (c : Char) : List Char → Prop where
  | plain : isPlain c = true → c ≠ '"' → c ≠ '\\' → SpellsChar c [c]
  | letter {letter : Char} : meaning? letter = some c → SpellsChar c ['\\', letter]
  | number {letter : Char} {digits : List Char} : digitCount? letter = some digits.length →
      hexNumber? digits = some c.toNat → SpellsChar c ('\\' :: letter :: digits)

/-- A character with an escape where there has to be one. -/
def escape (c : Char) : List Char :=
  if c = '"' then ['\\', '"']
  else if c = '\\' then ['\\', '\\']
  else if isPlain c then [c]
  else '\\' :: 'u' :: Json.fourHex c.toNat

theorem hexNumber?_fourHex_control {c : Char} (h : isPlain c = false) :
    hexNumber? (Json.fourHex c.toNat) = some c.toNat := by
  have hcontrol : c.toNat < 0x20 ∨ c.toNat = 0x7f := by
    simp only [isPlain, Bool.or_eq_false_iff, Bool.and_eq_false_iff, decide_eq_false_iff_not, bne_eq_false_iff_eq] at h
    omega
  rcases hcontrol with hlow | hdelete
  · exact Json.hexNumber?_fourHex hlow
  · rw [hdelete]
    decide

theorem spellsChar_escape (c : Char) : SpellsChar c (escape c) := by
  unfold escape
  split
  · next hquote =>
    subst hquote
    exact .letter rfl
  split
  · next hslash =>
    subst hslash
    exact .letter rfl
  split
  · next hquote hslash hplain => exact .plain hplain hquote hslash
  · next hplain => exact .number rfl (hexNumber?_fourHex_control (by simpa using hplain))

/-- What was written for a character is read as this character. -/
theorem readBasic_char {c : Char} {written : List Char} (h : SpellsChar c written) (fuel : Nat) (rest : List Char) :
    readBasic (fuel + 1) (written ++ rest) = readBasic fuel rest >>= fun x => .ok (c :: x.1, x.2) := by
  cases h with
  | plain hplain hquote hslash =>
    rw [List.singleton_append, readBasic_cons_plain hquote hslash, if_pos hplain]
  | @letter letter hmeaning =>
    have hescape : readEscape (letter :: rest) = .ok (c, rest) := by rw [readEscape_cons, hmeaning]
    show (readEscape (letter :: rest) >>= fun x => readBasic fuel x.2 >>= fun y => .ok (x.1 :: y.1, y.2)) = _
    rw [hescape]
    rfl
  | @number letter digits hcount hnumber =>
    -- a letter that announces digits has no meaning of its own
    have hmeaning : meaning? letter = none := by
      unfold digitCount? at hcount
      split at hcount
      all_goals first | rfl | cases hcount
    have hcode : readCode digits.length (digits ++ rest) = .ok (c, rest) := by
      have hlong : ¬(digits ++ rest).length < digits.length := by
        rw [List.length_append]
        omega
      have hvalid : c.toNat.isValidChar := c.valid
      rw [readCode, if_neg hlong, List.take_left, hnumber]
      simp only [hvalid, if_true, List.drop_left, Char.ofNat_toNat]
    have hescape : readEscape (letter :: (digits ++ rest)) = .ok (c, rest) := by
      rw [readEscape_cons, hmeaning, hcount]
      exact hcode
    show (readEscape (letter :: (digits ++ rest)) >>= fun x =>
      readBasic fuel x.2 >>= fun y => .ok (x.1 :: y.1, y.2)) = _
    rw [hescape]
    rfl

/-! ## Texts -/

/-- What may be written for a text between quotes. -/
inductive SpellsText : List Char → List Char → Prop where
  | nil : SpellsText [] []
  | cons {c : Char} {text written writtenText : List Char} : SpellsChar c written → SpellsText text writtenText →
      SpellsText (c :: text) (written ++ writtenText)

theorem spellsText_escape (text : List Char) : SpellsText text (text.flatMap escape) := by
  induction text with
  | nil => exact .nil
  | cons c more ih => exact .cons (spellsChar_escape c) ih

theorem SpellsChar.pos {c : Char} {written : List Char} (h : SpellsChar c written) : 0 < written.length := by
  cases h <;> simp

/-- What was written for a text is read as this text, up to the quote behind it. -/
theorem readBasic_spelled {text written : List Char} (h : SpellsText text written) {fuel : Nat}
    (hfuel : written.length < fuel) (rest : List Char) :
    readBasic fuel (written ++ '"' :: rest) = .ok (text, rest) := by
  induction h generalizing fuel with
  | nil =>
    obtain ⟨fuel, rfl⟩ : ∃ n, fuel = n + 1 := ⟨fuel - 1, by omega⟩
    rfl
  | cons hchar htext ih =>
    rw [List.length_append] at hfuel
    have hpos := hchar.pos
    obtain ⟨fuel, rfl⟩ : ∃ n, fuel = n + 1 := ⟨fuel - 1, by omega⟩
    rw [List.append_assoc, readBasic_char hchar, ih (by omega)]
    rfl

/-- What is written never begins with a quote. -/
theorem SpellsText.head_ne {text written : List Char} (h : SpellsText text written) : written.head? ≠ some '"' := by
  cases h with
  | nil => exact nofun
  | cons hchar _ =>
    cases hchar with
    | plain _ hquote _ => simpa using hquote
    | letter _ => simp
    | number _ _ => simp

/-! ## Values -/

/-- A string with its quotes. -/
def Quotes (s : String) (quoted : List Char) : Prop :=
  ∃ written, SpellsText s.toList written ∧ quoted = '"' :: (written ++ ['"'])

/-- A string in quotes, with an escape where there has to be one. -/
def quote (s : String) : List Char := '"' :: (s.toList.flatMap escape ++ ['"'])

theorem quotes_quote (s : String) : Quotes s (quote s) := ⟨_, spellsText_escape s.toList, rfl⟩

/-- A string is read up to its closing quote, unless the quotes are so many that they open something else. -/
theorem readText?_quoted {s : String} {quoted rest : List Char} (h : Quotes s quoted) (hrest : rest.head? ≠ some '"') :
    readText? (quoted ++ rest) = some (.ok (s.toList, rest)) := by
  rcases h with ⟨written, hwritten, rfl⟩
  have htext : '"' :: (written ++ ['"']) ++ rest = '"' :: (written ++ '"' :: rest) := by simp
  rw [htext, readText?]
  · rw [readBasic_spelled hwritten]
    rw [List.length_append, List.length_cons]
    omega
  · -- only an empty string has its second quote at once, and behind that there is no third one
    intro more heq
    have hhead := hwritten.head_ne
    cases written with
    | nil =>
      have hquotes : rest = '"' :: more := (List.cons.inj heq).2
      rw [hquotes] at hrest
      exact hrest rfl
    | cons c more' =>
      rw [(List.cons.inj heq).1] at hhead
      exact hhead rfl

theorem readValue_quoted {s : String} {quoted rest : List Char} (h : Quotes s quoted) (hrest : rest.head? ≠ some '"')
    (fuel depth : Nat) : readValue (fuel + 1) depth (quoted ++ rest) = .ok (.text s, rest) := by
  unfold readValue
  simp only [readText?_quoted h hrest, Except.map, String.ofList_toList]

/-! ## Arrays -/

/-- Strings between brackets, with a comma and a space between them. -/
def bracketed (quoted : List (List Char)) : List Char := '[' :: ([',', ' '].intercalate quoted ++ [']'])

theorem readElements_succ (fuel depth : Nat) (text : List Char) :
    readElements (fuel + 1) depth text =
      skipLines (text.length + 1) text >>= readElement (readValue fuel depth) (readElements fuel depth) := rfl

/-- Reading an element takes its value, and what stands behind it decides how to go on. -/
theorem readElements_value {fuel depth : Nat} {blanks : List Char} (hblanks : ∀ c ∈ blanks, isSpace c = true)
    {c d : Char} (hc : IsStart c) (hbracket : c ≠ ']') (hd : IsStart d) {v : Value} {text behind : List Char}
    (hread : readValue fuel depth (c :: text) = .ok (v, d :: behind)) :
    readElements (fuel + 1) depth (blanks ++ c :: text) =
      readElementEnd (readElements fuel depth) v (d :: behind) := by
  have hstart : skipLines ((blanks ++ c :: text).length + 1) (blanks ++ c :: text) = .ok (c :: text) :=
    skipLines_blanks hblanks hc _ text
  have hend : skipLines ((d :: behind).length + 1) (d :: behind) = .ok (d :: behind) := skipLines_of_isStart hd _ behind
  have hfirst : readElement (readValue fuel depth) (readElements fuel depth) (c :: text) =
      readValue fuel depth (c :: text) >>= fun x =>
        skipLines (x.2.length + 1) x.2 >>= readElementEnd (readElements fuel depth) x.1 := by
    rw [readElement]
    rintro rest heq
    exact hbracket (List.cons.inj heq).1
  rw [readElements_succ, hstart]
  show readElement (readValue fuel depth) (readElements fuel depth) (c :: text) = _
  rw [hfirst, hread]
  show (skipLines ((d :: behind).length + 1) (d :: behind) >>= readElementEnd (readElements fuel depth) v) = _
  rw [hend]
  rfl

/-- The elements are read one after the other, up to the closing bracket. -/
theorem readElements_quoted {ss : List String} {quoted : List (List Char)} (h : List.Forall₂ Quotes ss quoted)
    {blanks : List Char} (hblanks : ∀ c ∈ blanks, isSpace c = true) {fuel : Nat} (hfuel : quoted.length < fuel)
    (depth : Nat) (rest : List Char) :
    readElements fuel depth (blanks ++ ([',', ' '].intercalate quoted ++ ']' :: rest)) =
      .ok (ss.map .text, rest) := by
  have hbracket : IsStart ']' := by decide
  -- the space behind a comma is left to the next element, so there may be blanks in front of any of them
  induction h generalizing blanks fuel with
  | nil =>
    obtain ⟨fuel, rfl⟩ : ∃ n, fuel = n + 1 := ⟨fuel - 1, by omega⟩
    rw [readElements_succ, List.intercalate_nil, List.nil_append, skipLines_blanks hblanks hbracket]
    rfl
  | @cons s q ss quoted hq hquoted ih =>
    rw [List.length_cons] at hfuel
    obtain ⟨fuel, rfl⟩ : ∃ n, fuel = n + 2 := ⟨fuel - 2, by omega⟩
    have hread : ∀ d behind, d ≠ '"' → readValue (fuel + 1) depth (q ++ d :: behind) = .ok (.text s, d :: behind) := by
      intro d behind hd
      exact readValue_quoted hq (by simpa using hd) fuel depth
    rcases hq with ⟨written, -, rfl⟩
    cases quoted with
    | nil =>
      cases hquoted
      rw [List.intercalate_singleton]
      have hone := readElements_value hblanks (by decide) (by decide) hbracket (hread ']' rest (by decide))
      exact hone
    | cons next quoted =>
      have hspace : ∀ c ∈ [' '], isSpace c = true := List.forall_mem_singleton.2 rfl
      have hshort : (next :: quoted).length < fuel + 1 := by omega
      have hmore := ih hspace hshort
      have htext : [',', ' '].intercalate (('"' :: (written ++ ['"'])) :: next :: quoted) ++ ']' :: rest =
          '"' :: (written ++ ['"'] ++ ',' :: ([' '] ++ ([',', ' '].intercalate (next :: quoted) ++ ']' :: rest))) := by
        rw [List.intercalate_cons_cons]
        simp
      rw [htext]
      generalize [' '] ++ ([',', ' '].intercalate (next :: quoted) ++ ']' :: rest) = behind at hmore ⊢
      have hfirst := readElements_value hblanks (by decide) (by decide) (by decide) (hread ',' behind (by decide))
      refine hfirst.trans ?_
      show (readElements (fuel + 1) depth behind >>= fun x => .ok (.text s :: x.1, x.2)) = _
      rw [hmore]
      rfl

theorem readValue_bracketed {ss : List String} {quoted : List (List Char)} (h : List.Forall₂ Quotes ss quoted)
    {fuel depth : Nat} (hfuel : quoted.length + 1 < fuel) (hdepth : depth < depthLimit) (rest : List Char) :
    readValue fuel depth (bracketed quoted ++ rest) = .ok (.array (ss.map .text), rest) := by
  obtain ⟨fuel, rfl⟩ : ∃ n, fuel = n + 1 := ⟨fuel - 1, by omega⟩
  have hnone : ∀ c ∈ ([] : List Char), isSpace c = true := nofun
  have hread : readElements fuel (depth + 1) ([',', ' '].intercalate quoted ++ ']' :: rest) =
      .ok (ss.map .text, rest) := readElements_quoted h hnone (by omega) (depth + 1) rest
  have htext : bracketed quoted ++ rest = '[' :: ([',', ' '].intercalate quoted ++ ']' :: rest) := by simp [bracketed]
  rw [htext, readValue, readText?_cons_eq_none_iff.2 (by decide)]
  simp only [hread, if_neg (Nat.not_le.2 hdepth)]
  rfl

end LineCensus.Toml
