import Mathlib.Tactic.SplitIfs
import LineCensus.Proofs.Text.Decode
import LineCensus.Proofs.Text.Encode

/-!
# LineCensus.Proofs.Text.Ascii — bytes that are decoded as ASCII characters

ASCII characters come from their own bytes only, also where the decoder takes the bytes for parts of longer characters.
The zero character stands aside here: it is what a number that is no character would become.

1. `isPlain`, `isPlainChar`, `asciiText`: ASCII bytes and characters, and the characters of such bytes.
2. `decode?_of_isPlain`: such bytes are decoded one by one.
3. `Decoder.Strays`: something else is open, or was read. `strays_feed`: once it is so, it stays so, and any other byte
   makes it so.
4. `isPlain_of_decode?`: hence bytes that are decoded as ASCII characters are the bytes of these.
5. `lowerByte`: a byte without the case of its letter. `map_toLower_asciiText`: characters lose it alike.
-/

namespace LineCensus.Text

variable {bytes : Bytes} {text : List Char} {b : UInt8}

/-! ## ASCII bytes -/

/-- Whether a byte is one of ASCII, and not zero. -/
def isPlain (b : UInt8) : Bool := 0 < b && b < 0x80

/-- Whether a character is one of ASCII, and not the zero character. -/
def isPlainChar (c : Char) : Bool := 0 < c.toNat && c.toNat < 0x80

/-- The characters of ASCII bytes. -/
def asciiText (bytes : Bytes) : List Char := bytes.map fun b => Char.ofNat b.toNat

theorem isPlain_iff : isPlain b = true ↔ 0 < b.toNat ∧ b.toNat < 0x80 := by
  rw [isPlain, Bool.and_eq_true, decide_eq_true_iff, decide_eq_true_iff, UInt8.lt_iff_toNat_lt, UInt8.lt_iff_toNat_lt]
  rfl

theorem isPlainChar_iff {c : Char} : isPlainChar c = true ↔ 0 < c.toNat ∧ c.toNat < 0x80 := by
  rw [isPlainChar, Bool.and_eq_true, decide_eq_true_iff, decide_eq_true_iff]

/-- Every byte is the code of a character. -/
theorem toNat_ofNat_byte (b : UInt8) : (Char.ofNat b.toNat).toNat = b.toNat := by
  have hvalid : b.toNat.isValidChar := .inl (Nat.lt_trans b.toNat_lt (by decide))
  rw [Char.ofNat, dif_pos hvalid]
  rfl

theorem asciiText_injective {other : Bytes} (h : asciiText bytes = asciiText other) : bytes = other := by
  have hinjective : ∀ a b : UInt8, Char.ofNat a.toNat = Char.ofNat b.toNat → a = b := by
    intro a b hchar
    have hcode := congrArg Char.toNat hchar
    rw [toNat_ofNat_byte, toNat_ofNat_byte] at hcode
    exact UInt8.toNat_inj.1 hcode
  exact List.map_inj_right (fun a b hchar => hinjective a b hchar) |>.1 h

/-- ASCII bytes are decoded one by one. -/
theorem decode?_of_isPlain (h : ∀ b ∈ bytes, isPlain b = true) : decode? bytes = some (asciiText bytes) := by
  have heach : decodeEach bytes = (asciiText bytes).map some := by
    induction bytes with
    | nil => rfl
    | cons b rest ih =>
      have hb : b < 0x80 := (isPlain_iff.1 (h b List.mem_cons_self)).2
      have hcons := decodeEach_append_ascii [] hb rest
      rw [List.nil_append] at hcons
      rw [hcons, ih (fun other hother => h other (List.mem_cons_of_mem b hother))]
      rfl
  rw [decode?, heach, mapM_map_some]

/-! ## Other bytes -/

namespace Decoder

/-- What is read of a byte other than those of ASCII: nothing, or another character. -/
def IsStray (x : Option Char) : Prop := ∀ c, x = some c → isPlainChar c = false

/-- The decoder owes something, or has read something else than ASCII characters. -/
def Strays (d : Decoder) : Prop := d.owed ≠ .nothing ∨ ∃ x ∈ d.read, IsStray x

theorem isStray_none : IsStray none := by
  intro c hc
  cases hc

/-- A first byte that is none of ASCII breaks off, or begins a longer character. -/
theorem strays_lead (read : List (Option Char)) (h : isPlain b = false) : (lead read b).Strays := by
  by_cases hb : b < 0x80
  · have hzero : b = 0 := by
      have hnot : ¬(0 < b.toNat ∧ b.toNat < 0x80) := by
        rw [← isPlain_iff, h]
        exact Bool.false_ne_true
      have hlt : b.toNat < 0x80 := hb
      have hcode : b.toNat = 0 := by omega
      exact UInt8.toNat_inj.1 hcode
    subst hzero
    refine .inr ⟨some (Char.ofNat 0), List.mem_cons_self, ?_⟩
    intro c hc
    obtain rfl := Option.some.inj hc
    rfl
  · unfold lead
    rw [if_neg hb]
    -- whatever the byte announces, something is owed or has been given up
    split_ifs <;> simp [Strays, isStray_none]

theorem strays_lead_of_read {read : List (Option Char)} {x : Option Char} (hx : x ∈ read) (hstray : IsStray x)
    (b : UInt8) : (lead read b).Strays := by
  right
  refine ⟨x, ?_, hstray⟩
  rcases lead_cases b with ⟨-, hlead⟩ | hlead | ⟨owed, -, hlead⟩ <;> rw [hlead]
  · exact List.mem_cons_of_mem _ hx
  · exact List.mem_cons_of_mem _ hx
  · exact hx

/-- Bits beyond ASCII make no ASCII character. -/
theorem isStray_ofNat {bits : Nat} (h : 0x80 ≤ bits) : IsStray (some (Char.ofNat bits)) := by
  intro c hc
  obtain rfl := Option.some.inj hc
  rw [← Bool.not_eq_true, isPlainChar_iff]
  rcases toNat_ofNat bits with hcode | hcode <;> omega

/-- Once a byte other than those of ASCII has come, it shows. -/
theorem strays_feed {d : Decoder} (hbeyond : d.owed.Beyond) (h : d.Strays ∨ isPlain b = false) :
    (d.feed b).Strays := by
  rcases d with ⟨owed, read⟩
  cases owed with
  | nothing =>
    rcases h with (howed | ⟨x, hx, hstray⟩) | hb
    · exact absurd rfl howed
    · exact strays_lead_of_read hx hstray b
    · exact strays_lead read hb
  | tails more lo hi bits =>
    rcases hbeyond with ⟨-, hbits⟩
    unfold feed
    dsimp only
    split_ifs with hbounds hmore
    · -- the character that is completed is none of ASCII
      refine .inr ⟨_, List.mem_cons_self, isStray_ofNat ?_⟩
      have hpow : 64 ^ (more - 1) = 1 := by rw [Nat.sub_eq_zero_of_le hmore, Nat.pow_zero]
      have hle := bits_le bits hbounds.1
      rw [hpow, Nat.mul_one] at hbits
      omega
    · exact .inl (by simp)
    · exact strays_lead_of_read List.mem_cons_self isStray_none b

theorem strays_foldl {d : Decoder} (hbeyond : d.owed.Beyond) (h : d.Strays ∨ ∃ b ∈ bytes, isPlain b = false) :
    (bytes.foldl feed d).Strays := by
  induction bytes generalizing d with
  | nil =>
    rcases h with h | ⟨b, hb, -⟩
    · exact h
    · cases hb
  | cons first rest ih =>
    apply ih (beyond_feed hbeyond first)
    rcases h with h | ⟨b, hb, hplain⟩
    · exact .inl (strays_feed hbeyond (.inl h))
    · rcases List.mem_cons.1 hb with rfl | hb
      · exact .inl (strays_feed hbeyond (.inr hplain))
      · exact .inr ⟨b, hb, hplain⟩

theorem exists_stray_of_strays {d : Decoder} (h : d.Strays) : ∃ x ∈ d.finish, IsStray x := by
  rcases d with ⟨owed, read⟩
  cases owed with
  | nothing =>
    rcases h with howed | ⟨x, hx, hstray⟩
    · exact absurd rfl howed
    · exact ⟨x, List.mem_reverse.2 hx, hstray⟩
  | tails more lo hi bits => exact ⟨none, List.mem_reverse.2 List.mem_cons_self, isStray_none⟩

end Decoder

/-- Bytes that are decoded as ASCII characters are ASCII bytes. -/
theorem isPlain_of_decode? (h : decode? bytes = some text) (htext : ∀ c ∈ text, isPlainChar c = true) :
    ∀ b ∈ bytes, isPlain b = true := by
  intro b hb
  cases hplain : isPlain b with
  | true => rfl
  | false =>
    have hstart : Decoder.start.owed.Beyond := trivial
    have hstrays := Decoder.strays_foldl hstart (.inr ⟨b, hb, hplain⟩)
    rcases Decoder.exists_stray_of_strays hstrays with ⟨x, hx, hstray⟩
    have hread : decodeEach bytes = text.map some := eq_map_some_of_mapM h
    have hmem : x ∈ text.map some := hread ▸ hx
    rcases List.mem_map.1 hmem with ⟨c, hc, rfl⟩
    have hnot := hstray c rfl
    rw [htext c hc] at hnot
    cases hnot

/-- Bytes are decoded as ASCII characters exactly if they are the bytes of these. -/
theorem decode?_eq_some_iff (htext : ∀ c ∈ text, isPlainChar c = true) :
    decode? bytes = some text ↔ (∀ b ∈ bytes, isPlain b = true) ∧ text = asciiText bytes := by
  constructor
  · intro h
    have hplain := isPlain_of_decode? h htext
    refine ⟨hplain, ?_⟩
    rw [decode?_of_isPlain hplain] at h
    exact (Option.some.inj h).symm
  · rintro ⟨hplain, rfl⟩
    exact decode?_of_isPlain hplain

/-! ## Letters -/

/-- A byte, with the lower case of its letter if it is an ASCII letter. -/
def lowerByte (b : UInt8) : UInt8 := if 0x41 ≤ b ∧ b ≤ 0x5a then b + 0x20 else b

/-- A decidable property of all bytes is checked by their numbers. -/
theorem forall_byte {P : UInt8 → Prop} (h : ∀ n < 256, P (UInt8.ofNat n)) (b : UInt8) : P b := by
  have hbyte := h b.toNat b.toNat_lt
  rwa [UInt8.ofNat_toNat] at hbyte

theorem toLower_ofNat_byte (b : UInt8) : (Char.ofNat b.toNat).toLower = Char.ofNat (lowerByte b).toNat := by
  apply forall_byte _ b
  decide +kernel

theorem isPlain_lowerByte (b : UInt8) : isPlain (lowerByte b) = isPlain b := by
  apply forall_byte _ b
  decide +kernel

/-- Bytes lose the case of their letters as their characters do. -/
theorem map_toLower_asciiText (bytes : Bytes) :
    (asciiText bytes).map Char.toLower = asciiText (bytes.map lowerByte) := by
  rw [asciiText, asciiText, List.map_map, List.map_map]
  congr 1
  funext b
  exact toLower_ofNat_byte b

/-- Only ASCII characters become ASCII characters in lower case. -/
theorem isPlainChar_toLower (c : Char) : isPlainChar c.toLower = isPlainChar c := by
  unfold Char.toLower
  split
  · -- a letter becomes another one, 32 places behind
    rename_i hletter
    have hbounds : 0x41 ≤ c.toNat ∧ c.toNat ≤ 0x5a := hletter
    have hcode : (c.val + 32).toNat = c.toNat + 32 := by
      rw [UInt32.toNat_add]
      show (c.toNat + 32) % 2 ^ 32 = c.toNat + 32
      omega
    rw [Bool.eq_iff_iff, isPlainChar_iff, isPlainChar_iff]
    show (0 < (c.val + 32).toNat ∧ (c.val + 32).toNat < 0x80) ↔ _
    omega
  · rfl

end LineCensus.Text
