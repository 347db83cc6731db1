import Mathlib.Algebra.Ring.Nat
import Mathlib.Tactic.SplitIfs
import LineCensus.Text.Utf8

/-!
# LineCensus.Proofs.Text.Decode — ASCII in decoded bytes

An ASCII byte is never part of a longer character: it ends whatever was open before it, broken or not. So text is
decoded piece by piece where ASCII bytes divide it.

1. `Owed.Beyond`: whatever is owed, the next byte is none of ASCII and the character will be none. `lead_cases`: what
   a first byte does. Every byte keeps `Beyond`, `beyond_feed`.
2. `Decoder.behind`: a decoder that has read more before. What was read before does not matter to what comes.
3. `decodeEach_append_ascii`, `decodeLossy_append_ascii`: bytes in front of an ASCII byte and behind it are decoded
   by themselves.
4. `mem_of_mem_decodeLossy`: an ASCII character comes from its byte.
5. `decodeLossy_eq_of_decode?`, `mem_decodeLossy_of_decode?_eq_none`: text that is well-formed is decoded without
   loss, and any other shows the replacement character.
-/

namespace LineCensus.Text

/-! ## Longer characters -/

/-- Whatever is owed, the next byte is none of ASCII, and the character that comes of it, with the least bytes that may
follow, is none of ASCII either. -/
def Owed.Beyond : Owed → Prop
  | .nothing => True
  | .tails more lo _ bits => 0x80 ≤ lo.toNat ∧ 0x80 ≤ (bits * 64 + (lo.toNat - 0x80)) * 64 ^ (more - 1)

namespace Decoder

/-- A first byte is an ASCII character, or breaks off, or begins a longer character. -/
theorem lead_cases (b : UInt8) :
    (b < 0x80 ∧ ∀ read, lead read b = ⟨.nothing, some (Char.ofNat b.toNat) :: read⟩) ∨
      (∀ read, lead read b = ⟨.nothing, none :: read⟩) ∨
      ∃ owed : Owed, owed.Beyond ∧ ∀ read, lead read b = ⟨owed, read⟩ := by
  by_cases h1 : b < 0x80
  · exact .inl ⟨h1, fun read => if_pos h1⟩
  right
  by_cases h2 : b < 0xc2
  · left
    intro read
    rw [lead, if_neg h1, if_pos h2]
  -- up to 0xc1 no byte begins a longer character; from there on the bits are too great for ASCII
  have hc2 : 0xc2 ≤ b.toNat := UInt8.not_lt.1 h2
  by_cases h3 : b < 0xe0
  · right
    refine ⟨.tails 1 0x80 0xbf (b.toNat - 0xc0), ⟨by decide, ?_⟩, fun read => ?_⟩
    · show 0x80 ≤ ((b.toNat - 0xc0) * 64 + 0) * 1
      omega
    · rw [lead, if_neg h1, if_neg h2, if_pos h3]
  have he0 : 0xe0 ≤ b.toNat := UInt8.not_lt.1 h3
  by_cases h4 : b = 0xe0
  · right
    refine ⟨.tails 2 0xa0 0xbf 0, ⟨by decide, by decide⟩, fun read => ?_⟩
    rw [lead, if_neg h1, if_neg h2, if_neg h3, if_pos h4]
  have hne0 : b.toNat ≠ 0xe0 := fun h => h4 (UInt8.toNat_inj.1 h)
  by_cases h5 : b = 0xed
  · right
    refine ⟨.tails 2 0x80 0x9f 0xd, ⟨by decide, by decide⟩, fun read => ?_⟩
    rw [lead, if_neg h1, if_neg h2, if_neg h3, if_neg h4, if_pos h5]
  by_cases h6 : b < 0xf0
  · right
    refine ⟨.tails 2 0x80 0xbf (b.toNat - 0xe0), ⟨by decide, ?_⟩, fun read => ?_⟩
    · show 0x80 ≤ ((b.toNat - 0xe0) * 64 + 0) * 64
      omega
    · rw [lead, if_neg h1, if_neg h2, if_neg h3, if_neg h4, if_neg h5, if_pos h6]
  have hf0 : 0xf0 ≤ b.toNat := UInt8.not_lt.1 h6
  by_cases h7 : b = 0xf0
  · right
    refine ⟨.tails 3 0x90 0xbf 0, ⟨by decide, by decide⟩, fun read => ?_⟩
    rw [lead, if_neg h1, if_neg h2, if_neg h3, if_neg h4, if_neg h5, if_neg h6, if_pos h7]
  have hnf0 : b.toNat ≠ 0xf0 := fun h => h7 (UInt8.toNat_inj.1 h)
  by_cases h8 : b < 0xf4
  · right
    refine ⟨.tails 3 0x80 0xbf (b.toNat - 0xf0), ⟨by decide, ?_⟩, fun read => ?_⟩
    · show 0x80 ≤ ((b.toNat - 0xf0) * 64 + 0) * 4096
      omega
    · rw [lead, if_neg h1, if_neg h2, if_neg h3, if_neg h4, if_neg h5, if_neg h6, if_neg h7, if_pos h8]
  by_cases h9 : b = 0xf4
  · right
    refine ⟨.tails 3 0x80 0x8f 4, ⟨by decide, by decide⟩, fun read => ?_⟩
    rw [lead, if_neg h1, if_neg h2, if_neg h3, if_neg h4, if_neg h5, if_neg h6, if_neg h7, if_neg h8, if_pos h9]
  · left
    intro read
    rw [lead, if_neg h1, if_neg h2, if_neg h3, if_neg h4, if_neg h5, if_neg h6, if_neg h7, if_neg h8, if_neg h9]

theorem beyond_lead (read : List (Option Char)) (b : UInt8) : (lead read b).owed.Beyond := by
  rcases lead_cases b with ⟨-, hlead⟩ | hlead | ⟨owed, howed, hlead⟩ <;> rw [hlead]
  · trivial
  · trivial
  · exact howed

/-- The bits gathered with one more byte are no fewer than with the least byte that may come. -/
theorem bits_le {lo b : UInt8} (bits : Nat) (h : lo ≤ b) :
    bits * 64 + (lo.toNat - 0x80) ≤ bits * 64 + (b.toNat - 0x80) := by
  have hle : lo.toNat ≤ b.toNat := h
  omega

theorem beyond_feed {d : Decoder} (h : d.owed.Beyond) (b : UInt8) : (d.feed b).owed.Beyond := by
  rcases d with ⟨owed, read⟩
  cases owed with
  | nothing => exact beyond_lead read b
  | tails more lo hi bits =>
    rcases h with ⟨-, hbits⟩
    unfold feed
    dsimp only
    split_ifs with hb hmore
    · trivial
    · -- one byte fewer is owed, and the bits are worth as much as before, or more
      have hpow : 64 ^ (more - 1) = 64 * 64 ^ (more - 1 - 1) := by
        rw [← Nat.pow_succ']
        congr 1
        omega
      refine ⟨by decide, ?_⟩
      show 0x80 ≤ ((bits * 64 + (b.toNat - 0x80)) * 64 + 0) * 64 ^ (more - 1 - 1)
      calc
        0x80 ≤ (bits * 64 + (lo.toNat - 0x80)) * 64 ^ (more - 1) := hbits
        _ ≤ (bits * 64 + (b.toNat - 0x80)) * 64 ^ (more - 1) := Nat.mul_le_mul_right _ (bits_le bits hb.1)
        _ = ((bits * 64 + (b.toNat - 0x80)) * 64 + 0) * 64 ^ (more - 1 - 1) := by
          rw [hpow, Nat.add_zero, Nat.mul_assoc]
    · exact beyond_lead (none :: read) b

theorem beyond_foldl {d : Decoder} (h : d.owed.Beyond) (bytes : Bytes) :
    (bytes.foldl feed d).owed.Beyond := by
  induction bytes generalizing d with
  | nil => exact h
  | cons b rest ih => exact ih (beyond_feed h b)

end Decoder

/-! ## What was read before -/

namespace Decoder

/-- The decoder, with more read before. -/
def behind (d : Decoder) (earlier : List (Option Char)) : Decoder := ⟨d.owed, d.read ++ earlier⟩

theorem lead_append (read earlier : List (Option Char)) (b : UInt8) :
    lead (read ++ earlier) b = (lead read b).behind earlier := by
  rcases lead_cases b with ⟨-, hlead⟩ | hlead | ⟨owed, -, hlead⟩ <;> rw [hlead, hlead] <;> rfl

theorem feed_behind (d : Decoder) (earlier : List (Option Char)) (b : UInt8) :
    (d.behind earlier).feed b = (d.feed b).behind earlier := by
  rcases d with ⟨owed, read⟩
  cases owed with
  | nothing => exact lead_append read earlier b
  | tails more lo hi bits =>
    unfold feed behind
    dsimp only
    split_ifs
    · rfl
    · rfl
    · exact lead_append (none :: read) earlier b

theorem foldl_feed_behind (d : Decoder) (earlier : List (Option Char)) (bytes : Bytes) :
    bytes.foldl feed (d.behind earlier) = (bytes.foldl feed d).behind earlier := by
  induction bytes generalizing d with
  | nil => rfl
  | cons b rest ih => rw [List.foldl_cons, List.foldl_cons, feed_behind, ih]

theorem finish_behind (d : Decoder) (earlier : List (Option Char)) :
    (d.behind earlier).finish = earlier.reverse ++ d.finish := by
  rcases d with ⟨owed, read⟩
  cases owed with
  | nothing => exact List.reverse_append
  | tails more lo hi bits =>
    show (none :: (read ++ earlier)).reverse = earlier.reverse ++ (none :: read).reverse
    simp

end Decoder

/-! ## ASCII bytes between others -/

namespace Decoder

/-- An ASCII byte ends whatever was open, and is read as its character. -/
theorem feed_ascii {d : Decoder} (h : d.owed.Beyond) {b : UInt8} (hb : b < 0x80) :
    d.feed b = start.behind (some (Char.ofNat b.toNat) :: d.finish.reverse) := by
  have hlead : ∀ read, lead read b = ⟨.nothing, some (Char.ofNat b.toNat) :: read⟩ := fun read => if_pos hb
  rcases d with ⟨owed, read⟩
  cases owed with
  | nothing =>
    show lead read b = _
    rw [hlead, finish, List.reverse_reverse]
    rfl
  | tails more lo hi bits =>
    rcases h with ⟨hlo, -⟩
    have hnot : ¬(lo ≤ b ∧ b ≤ hi) := by
      rintro ⟨hle, -⟩
      have hle' : lo.toNat ≤ b.toNat := hle
      have hb' : b.toNat < 0x80 := hb
      omega
    show (if lo ≤ b ∧ b ≤ hi then _ else lead (none :: read) b) = _
    rw [if_neg hnot, hlead, finish, List.reverse_reverse]
    rfl

end Decoder

/-- What stands in front of an ASCII byte and behind it is decoded by itself. -/
theorem decodeEach_append_ascii (front : Bytes) {b : UInt8} (hb : b < 0x80) (rest : Bytes) :
    decodeEach (front ++ b :: rest) = decodeEach front ++ some (Char.ofNat b.toNat) :: decodeEach rest := by
  have hstart : Decoder.start.owed.Beyond := trivial
  have hbeyond : (front.foldl Decoder.feed .start).owed.Beyond := Decoder.beyond_foldl hstart front
  rw [decodeEach, List.foldl_append, List.foldl_cons, Decoder.feed_ascii hbeyond hb, Decoder.foldl_feed_behind,
    Decoder.finish_behind, List.reverse_cons, List.reverse_reverse, List.append_assoc]
  rfl

theorem decodeLossy_append_ascii (front : Bytes) {b : UInt8} (hb : b < 0x80) (rest : Bytes) :
    decodeLossy (front ++ b :: rest) = decodeLossy front ++ Char.ofNat b.toNat :: decodeLossy rest := by
  rw [decodeLossy, decodeEach_append_ascii front hb, List.map_append, List.map_cons]
  rfl

/-! ## Where ASCII characters come from -/

/-- A number is the code of its character, unless it is none and stands for the zero character. -/
theorem toNat_ofNat (n : Nat) : (Char.ofNat n).toNat = n ∨ (Char.ofNat n).toNat = 0 := by
  by_cases hvalid : n.isValidChar
  · left
    rw [Char.ofNat, dif_pos hvalid]
    rfl
  · right
    rw [Char.ofNat, dif_neg hvalid]
    rfl

section

variable {c : Char} (hc : 0 < c.toNat) (hascii : c.toNat < 0x80)

namespace Decoder

include hc in
/-- A first byte is read as a character only if it is the byte of that character. -/
theorem mem_read_lead {read : List (Option Char)} {b : UInt8} (h : some c ∈ (lead read b).read) :
    some c ∈ read ∨ b.toNat = c.toNat := by
  rcases lead_cases b with ⟨-, hlead⟩ | hlead | ⟨owed, -, hlead⟩ <;> rw [hlead] at h
  · rcases List.mem_cons.1 h with h | h
    · right
      have hchar : c = Char.ofNat b.toNat := Option.some.inj h
      rcases toNat_ofNat b.toNat with hcode | hcode <;> rw [← hchar] at hcode
      · exact hcode.symm
      · omega
    · exact .inl h
  · rcases List.mem_cons.1 h with h | h
    · cases h
    · exact .inl h
  · exact .inl h

include hc hascii in
/-- No other byte completes an ASCII character. -/
theorem mem_read_feed {d : Decoder} (hbeyond : d.owed.Beyond) {b : UInt8} (h : some c ∈ (d.feed b).read) :
    some c ∈ d.read ∨ b.toNat = c.toNat := by
  rcases d with ⟨owed, read⟩
  cases owed with
  | nothing => exact mem_read_lead hc h
  | tails more lo hi bits =>
    rcases hbeyond with ⟨-, hbits⟩
    unfold feed at h
    dsimp only at h
    split_ifs at h with hb hmore
    · -- the last byte of a longer character
      rcases List.mem_cons.1 h with h | h
      · have hchar : c = Char.ofNat (bits * 64 + (b.toNat - 0x80)) := Option.some.inj h
        have hpow : 64 ^ (more - 1) = 1 := by rw [Nat.sub_eq_zero_of_le hmore, Nat.pow_zero]
        have hle := bits_le bits hb.1
        rw [hpow, Nat.mul_one] at hbits
        rcases toNat_ofNat (bits * 64 + (b.toNat - 0x80)) with hcode | hcode <;> rw [← hchar] at hcode <;> omega
      · exact .inl h
    · exact .inl h
    · rcases mem_read_lead hc h with h | h
      · rcases List.mem_cons.1 h with h | h
        · cases h
        · exact .inl h
      · exact .inr h

include hc hascii in
theorem mem_read_foldl {d : Decoder} (hbeyond : d.owed.Beyond) {bytes : Bytes}
    (h : some c ∈ (bytes.foldl feed d).read) : some c ∈ d.read ∨ ∃ b ∈ bytes, b.toNat = c.toNat := by
  induction bytes generalizing d with
  | nil => exact .inl h
  | cons b rest ih =>
    rcases ih (beyond_feed hbeyond b) h with h | ⟨b', hb', hcode⟩
    · rcases mem_read_feed hc hascii hbeyond h with h | hcode
      · exact .inl h
      · exact .inr ⟨b, List.mem_cons_self, hcode⟩
    · exact .inr ⟨b', List.mem_cons_of_mem b hb', hcode⟩

/-- What is read at the end is what was read so far, and broken sequences. -/
theorem mem_read_of_mem_finish {d : Decoder} (h : some c ∈ d.finish) : some c ∈ d.read := by
  rcases d with ⟨owed, read⟩
  cases owed with
  | nothing => exact List.mem_reverse.1 h
  | tails more lo hi bits =>
    rcases List.mem_cons.1 (List.mem_reverse.1 h) with h | h
    · cases h
    · exact h

end Decoder

include hc hascii in
/-- An ASCII character in decoded bytes comes from its byte. -/
theorem mem_of_mem_decodeLossy {bytes : Bytes} (h : c ∈ decodeLossy bytes) :
    ∃ b ∈ bytes, b.toNat = c.toNat := by
  rcases List.mem_map.1 h with ⟨read, hread, hchar⟩
  cases read with
  | none =>
    -- the replacement character is none of ASCII
    have hcode : c.toNat = 0xfffd := congrArg Char.toNat hchar.symm
    omega
  | some c' =>
    obtain rfl : c' = c := hchar
    have hstart : Decoder.start.owed.Beyond := trivial
    rcases Decoder.mem_read_foldl hc hascii hstart (Decoder.mem_read_of_mem_finish hread) with h | h
    · cases h
    · exact h

end

/-! ## Well-formed bytes -/

theorem eq_map_some_of_mapM {read : List (Option Char)} {text : List Char} (h : read.mapM id = some text) :
    read = text.map some := by
  induction read generalizing text with
  | nil =>
    obtain rfl : [] = text := Option.some.inj h
    rfl
  | cons x rest ih =>
    rw [List.mapM_cons] at h
    cases x with
    | none => cases h
    | some c =>
      cases hrest : rest.mapM id with
      | none =>
        rw [hrest] at h
        cases h
      | some text' =>
        rw [hrest] at h
        obtain rfl : c :: text' = text := Option.some.inj h
        rw [ih hrest]
        rfl

theorem none_mem_of_mapM {read : List (Option Char)} (h : read.mapM id = none) : none ∈ read := by
  induction read with
  | nil => cases h
  | cons x rest ih =>
    cases x with
    | none => exact List.mem_cons_self
    | some c =>
      rw [List.mapM_cons] at h
      have hrest : rest.mapM id = none := by
        cases hmapM : rest.mapM id with
        | none => rfl
        | some text =>
          rw [hmapM] at h
          cases h
      exact List.mem_cons_of_mem _ (ih hrest)

/-- Well-formed bytes are decoded without loss. -/
theorem decodeLossy_eq_of_decode? {bytes : Bytes} {text : List Char} (h : decode? bytes = some text) :
    decodeLossy bytes = text := by
  rw [decodeLossy, eq_map_some_of_mapM h, List.map_map]
  exact List.map_id text

/-- Other bytes show the replacement character. -/
theorem mem_decodeLossy_of_decode?_eq_none {bytes : Bytes} (h : decode? bytes = none) :
    '\ufffd' ∈ decodeLossy bytes := List.mem_map.2 ⟨none, none_mem_of_mapM h, rfl⟩

end LineCensus.Text
