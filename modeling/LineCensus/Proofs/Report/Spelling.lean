import Mathlib.Data.List.TakeWhile
import LineCensus.Proofs.Report.Reader
import LineCensus.Report.Json

/-!
# LineCensus.Proofs.Report.Spelling — texts and numbers are read as they were written

1. `escape_cases`: a character is written behind a backslash, by a letter or by its code, or stands for itself.
2. `units?_flatMap_escape`: so the codes that a quoted text spells are those of its characters.
3. `characters?_codes`: the codes of characters are read as these characters, none of which is a surrogate.
4. `unescape?_flatMap_escape`: hence what is read between quotes is the text that was quoted.
5. `word?_toDigits`: the digits of a number are read as this number. None of them is a needless zero.
-/

namespace LineCensus.Json

/-! ## Texts -/

/-- How a character is written between quotes. -/
theorem escape_cases (c : Char) :
    (∃ letter, letter ≠ 'u' ∧ letter? letter = some c.toNat ∧ escape c = ['\\', letter]) ∨
      (c.toNat < 0x20 ∧ escape c = '\\' :: 'u' :: fourHex c.toNat) ∨
      (c ≠ '"' ∧ c ≠ '\\' ∧ ¬c.toNat < 0x20 ∧ escape c = [c]) := by
  have hletter : ∀ special letter : Char, letter ≠ 'u' → letter? letter = some special.toNat →
      c = special → ∃ l, l ≠ 'u' ∧ letter? l = some c.toNat ∧ ['\\', letter] = ['\\', l] := by
    rintro special letter hu hl rfl
    exact ⟨letter, hu, hl, rfl⟩
  unfold escape
  split
  · next h => exact .inl (hletter '"' '"' (by decide) rfl h)
  split
  · next h => exact .inl (hletter '\\' '\\' (by decide) rfl h)
  split
  · next h => exact .inl (hletter '\n' 'n' (by decide) rfl h)
  split
  · next h => exact .inl (hletter '\r' 'r' (by decide) rfl h)
  split
  · next h => exact .inl (hletter '\t' 't' (by decide) rfl h)
  split
  · next h => exact .inl (hletter '\x08' 'b' (by decide) rfl h)
  split
  · next h => exact .inl (hletter '\x0c' 'f' (by decide) rfl h)
  split
  · next h => exact .inr (.inl ⟨h, rfl⟩)
  · next hquote hslash _ _ _ _ _ hcontrol => exact .inr (.inr ⟨hquote, hslash, hcontrol, rfl⟩)

theorem hexNumber?_fourHex {n : Nat} (h : n < 0x20) : Toml.hexNumber? (fourHex n) = some n := by
  revert n
  decide

/-- An escaped character spells its own code, whatever comes behind it. -/
theorem units?_escape (c : Char) (rest : List Char) :
    units? (escape c ++ rest) = (units? rest).map (c.toNat :: ·) := by
  rcases escape_cases c with ⟨letter, hu, hletter, heq⟩ | ⟨hcontrol, heq⟩ | ⟨-, hslash, hcontrol, heq⟩
  · -- the letter is not the one that announces a code
    have hread : units? ('\\' :: letter :: rest) = (units? rest).map (c.toNat :: ·) := by
      rw [units?]
      · rw [hletter]
        cases units? rest <;> rfl
      · rintro a b d e rest' rfl -
        exact hu rfl
    rw [heq]
    exact hread
  · have hcode : Toml.hexNumber? (fourHex c.toNat) = some c.toNat := hexNumber?_fourHex hcontrol
    have hread : units? ('\\' :: 'u' :: fourHex c.toNat ++ rest) = (units? rest).map (c.toNat :: ·) := by
      -- the reader wants to see four digits in front of it
      rw [fourHex, List.map_cons, List.map_cons, List.map_cons, List.map_cons, List.map_nil] at hcode ⊢
      simp only [List.cons_append, List.nil_append]
      rw [units?, hcode]
      cases units? rest <;> rfl
    rw [heq]
    exact hread
  · have hread : units? (c :: rest) = (units? rest).map (c.toNat :: ·) := by
      rw [units?]
      · rw [if_neg (by simp [hslash, hcontrol])]
        cases units? rest <;> rfl
      · rintro a b d e rest' rfl
        exact absurd rfl hslash
      · rintro letter rest' rfl
        exact absurd rfl hslash
    rw [heq]
    exact hread

/-- A quoted text spells the codes of its characters. -/
theorem units?_flatMap_escape (cs : List Char) : units? (cs.flatMap escape) = some (cs.map Char.toNat) := by
  induction cs with
  | nil => rfl
  | cons c rest ih => rw [List.flatMap_cons, units?_escape, ih, Option.map_some, List.map_cons]

theorem character?_toNat (c : Char) : character? c.toNat = some c := by
  have hvalid : c.toNat.isValidChar := c.valid
  rw [character?, if_pos hvalid, Char.ofNat_toNat]

/-- No character is the first half of another one. -/
theorem isHighSurrogate_toNat (c : Char) : isHighSurrogate c.toNat = false := by
  have hvalid : c.toNat.isValidChar := c.valid
  rw [isHighSurrogate, Bool.and_eq_false_iff, decide_eq_false_iff_not, decide_eq_false_iff_not]
  rcases hvalid with hbelow | ⟨habove, -⟩ <;> omega

/-- The codes of characters are read as these characters. -/
theorem characters?_codes (cs : List Char) : characters? (cs.map Char.toNat) = some cs := by
  induction cs with
  | nil => rfl
  | cons c rest ih =>
    cases rest with
    | nil =>
      rw [List.map_singleton, characters?, character?_toNat]
      rfl
    | cons next rest =>
      -- a first half is what would take the next code with it
      rw [List.map_cons, List.map_cons, characters?, isHighSurrogate_toNat, Bool.false_and, if_neg Bool.false_ne_true,
        character?_toNat, ← List.map_cons, ih]
      rfl

/-- What is read between quotes is the text that was quoted. -/
theorem unescape?_flatMap_escape (s : String) : unescape? (s.toList.flatMap escape) = some s := by
  rw [unescape?, units?_flatMap_escape, Option.bind_eq_bind, Option.bind_some, characters?_codes]
  simp

/-! ## Numbers -/

/-- Only zero begins with a zero. -/
theorem head?_toDigits {n : Nat} (h : 0 < n) : (Nat.toDigits 10 n).head? ≠ some '0' := by
  induction n using Nat.strongRecOn with
  | ind n ih =>
    by_cases hsmall : n < 10
    · have hdigit : ∀ d < 10, 0 < d → d.digitChar ≠ '0' := by decide
      rw [Nat.toDigits_of_lt_base hsmall, List.head?_cons, ne_eq, Option.some_inj]
      exact hdigit n hsmall h
    · -- all digits but the last are those of a smaller number, which is not zero either
      have hsmaller : (Nat.toDigits 10 (n / 10)).head? ≠ some '0' := ih (n / 10) (by omega) (by omega)
      obtain ⟨first, rest, heq⟩ := List.exists_cons_of_ne_nil (Nat.toDigits_ne_nil (b := 10) (n := n / 10))
      rw [Nat.toDigits_of_base_le (by decide) (by omega), heq]
      rwa [heq] at hsmaller

/-- A number is written without a needless zero. -/
theorem isWhole_toDigits (n : Nat) : isWhole (Nat.toDigits 10 n) = true := by
  have hdigits : isDigits (Nat.toDigits 10 n) = true := by
    have hdigit : ∀ c ∈ Nat.toDigits 10 n, c.isDigit = true := by
      intro c hc
      exact Nat.isDigit_of_mem_toDigits (by decide) (by decide) hc
    rw [isDigits, List.all_eq_true.2 hdigit]
    simp [Nat.toDigits_ne_nil]
  rw [isWhole, hdigits, Bool.true_and]
  cases n with
  | zero => rfl
  | succ n => simp [head?_toDigits (Nat.succ_pos n)]

theorem isDigit_of_isWhole {digits : List Char} (h : isWhole digits = true) : ∀ c ∈ digits, c.isDigit = true := by
  rw [isWhole, isDigits, Bool.and_eq_true, Bool.and_eq_true] at h
  exact List.all_eq_true.1 h.1.2

theorem ne_of_isDigit {c : Char} (d : Char) (h : c.isDigit = true) (hd : d.isDigit = false) : c ≠ d := by
  rintro rfl
  rw [h] at hd
  exact Bool.noConfusion hd

/-- Digits alone have neither a point nor an exponent behind them. -/
theorem unsigned?_whole {digits : List Char} (h : isWhole digits = true) :
    unsigned? digits = some (Nat.ofDigitChars 10 digits 0, 0) := by
  have hmark : ∀ c ∈ digits, (!isMark c) = true := by
    intro c hc
    have hdigit := isDigit_of_isWhole h c hc
    simp [isMark, ne_of_isDigit 'e' hdigit rfl, ne_of_isDigit 'E' hdigit rfl]
  have hpoint : ∀ c ∈ digits, (c != '.') = true := by
    intro c hc
    simp [ne_of_isDigit '.' (isDigit_of_isWhole h c hc) rfl]
  simp [unsigned?, List.takeWhile_eq_self_iff.2 hmark, List.takeWhile_eq_self_iff.2 hpoint,
    List.dropWhile_eq_nil_iff.2 hmark, List.dropWhile_eq_nil_iff.2 hpoint, decimals?, exponent?, h]

/-- Digits alone are read as a number: a digit begins no other word, and it is no sign. -/
theorem word?_whole {digits : List Char} (h : isWhole digits = true) :
    word? digits = some (.number (Nat.ofDigitChars 10 digits 0) 0) := by
  have hdigit : ∀ c rest, digits = c :: rest → c.isDigit = true := by
    rintro c rest rfl
    exact isDigit_of_isWhole h c List.mem_cons_self
  have hword : ∀ c rest, c.isDigit = false → digits ≠ c :: rest := by
    intro c rest hc heq
    exact ne_of_isDigit c (hdigit c rest heq) hc rfl
  have hnumber : number? digits = (unsigned? digits).map fun parts => .number parts.1 parts.2 := by
    rw [number?]
    intro rest heq
    exact hword '-' rest rfl heq
  have hnull : digits ≠ "null".toList := hword 'n' ['u', 'l', 'l'] rfl
  have htrue : digits ≠ "true".toList := hword 't' ['r', 'u', 'e'] rfl
  have hfalse : digits ≠ "false".toList := hword 'f' ['a', 'l', 's', 'e'] rfl
  rw [word?, if_neg hnull, if_neg htrue, if_neg hfalse, hnumber, unsigned?_whole h, Option.map_some]

/-- The digits of a number are read as this number. -/
theorem word?_toDigits (n : Nat) : word? (Nat.toDigits 10 n) = some (.number n 0) := by
  rw [word?_whole (isWhole_toDigits n), Nat.ofDigitChars_toDigits (by decide) (by decide)]

end LineCensus.Json
