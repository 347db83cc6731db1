import Mathlib.Tactic.SplitIfs
import LineCensus.Proofs.Text.Order

/-!
# LineCensus.Proofs.Text.Encode — the bytes of a text are decoded as this text

1. `lead_ofNat`, `feed_ofNat`: what the decoder does with a byte, by its number.
2. `foldl_feed_encodeChar`: the bytes of a character are read as this character. The first byte tells how many follow,
   and the bounds of the next one leave out what has shorter bytes and what is no character.
3. `decode?_encode`: so it is with texts.
-/

namespace LineCensus.Text

namespace Decoder

theorem lead_ofNat {b : Nat} (hb : b < 256) (read : List (Option Char)) :
    lead read (UInt8.ofNat b) =
      if b < 0x80 then ⟨.nothing, some (Char.ofNat b) :: read⟩
      else if b < 0xc2 then ⟨.nothing, none :: read⟩
      else if b < 0xe0 then ⟨.tails 1 0x80 0xbf (b - 0xc0), read⟩
      else if b = 0xe0 then ⟨.tails 2 0xa0 0xbf 0, read⟩
      else if b = 0xed then ⟨.tails 2 0x80 0x9f 0xd, read⟩
      else if b < 0xf0 then ⟨.tails 2 0x80 0xbf (b - 0xe0), read⟩
      else if b = 0xf0 then ⟨.tails 3 0x90 0xbf 0, read⟩
      else if b < 0xf4 then ⟨.tails 3 0x80 0xbf (b - 0xf0), read⟩
      else if b = 0xf4 then ⟨.tails 3 0x80 0x8f 4, read⟩
      else ⟨.nothing, none :: read⟩ := by
  have hnat : (UInt8.ofNat b).toNat = b := UInt8.toNat_ofNat_of_lt' hb
  have hlt : ∀ n : UInt8, UInt8.ofNat b < n ↔ b < n.toNat := by
    intro n
    rw [UInt8.lt_iff_toNat_lt, hnat]
  have heq : ∀ n : UInt8, UInt8.ofNat b = n ↔ b = n.toNat := by
    intro n
    rw [← UInt8.toNat_inj, hnat]
  simp only [lead, hlt, heq, hnat]
  rfl

theorem feed_nothing (read : List (Option Char)) (b : UInt8) : feed ⟨.nothing, read⟩ b = lead read b := rfl

/-- A byte within the bounds adds its six bits. -/
theorem feed_ofNat {b more bits : Nat} {lo hi : UInt8} (hlo : lo.toNat ≤ b) (hhi : b ≤ hi.toNat)
    (read : List (Option Char)) :
    feed ⟨.tails more lo hi bits, read⟩ (UInt8.ofNat b) =
      if more ≤ 1 then ⟨.nothing, some (Char.ofNat (bits * 64 + (b - 0x80))) :: read⟩
      else ⟨.tails (more - 1) 0x80 0xbf (bits * 64 + (b - 0x80)), read⟩ := by
  have hnat : (UInt8.ofNat b).toNat = b := UInt8.toNat_ofNat_of_lt' (Nat.lt_of_le_of_lt hhi hi.toNat_lt)
  have hbounds : lo ≤ UInt8.ofNat b ∧ UInt8.ofNat b ≤ hi := by
    rw [UInt8.le_iff_toNat_le, UInt8.le_iff_toNat_le, hnat]
    exact ⟨hlo, hhi⟩
  unfold feed
  dsimp only
  rw [if_pos hbounds, hnat]

/-- The last byte of a character completes it. -/
theorem feed_last {a bits : Nat} {lo hi : UInt8} (hlo : lo.toNat ≤ a + 0x80) (hhi : a + 0x80 ≤ hi.toNat)
    (read : List (Option Char)) :
    feed ⟨.tails 1 lo hi bits, read⟩ (UInt8.ofNat (a + 0x80)) =
      ⟨.nothing, some (Char.ofNat (bits * 64 + a)) :: read⟩ := by
  rw [feed_ofNat hlo hhi, if_pos (Nat.le_refl 1), Nat.add_sub_cancel]

/-- Of two bytes that are owed the first one has bounds of its own. -/
theorem feed_two {a b bits : Nat} {lo hi : UInt8} (hlo : lo.toNat ≤ a + 0x80) (hhi : a + 0x80 ≤ hi.toNat) (hb : b < 64)
    (read : List (Option Char)) :
    [UInt8.ofNat (a + 0x80), UInt8.ofNat (b + 0x80)].foldl feed ⟨.tails 2 lo hi bits, read⟩ =
      ⟨.nothing, some (Char.ofNat ((bits * 64 + a) * 64 + b)) :: read⟩ := by
  have hlast : b + 0x80 ≤ (0xbf : UInt8).toNat := by
    show b + 0x80 ≤ 0xbf
    omega
  rw [List.foldl_cons, feed_ofNat hlo hhi, if_neg (by decide), Nat.add_sub_cancel, List.foldl_cons,
    feed_last (Nat.le_add_left _ _) hlast]
  rfl

theorem feed_three {a b d bits : Nat} {lo hi : UInt8} (hlo : lo.toNat ≤ a + 0x80) (hhi : a + 0x80 ≤ hi.toNat)
    (hb : b < 64) (hd : d < 64) (read : List (Option Char)) :
    [UInt8.ofNat (a + 0x80), UInt8.ofNat (b + 0x80), UInt8.ofNat (d + 0x80)].foldl feed ⟨.tails 3 lo hi bits, read⟩ =
      ⟨.nothing, some (Char.ofNat (((bits * 64 + a) * 64 + b) * 64 + d)) :: read⟩ := by
  have hmiddle : b + 0x80 ≤ (0xbf : UInt8).toNat := by
    show b + 0x80 ≤ 0xbf
    omega
  rw [List.foldl_cons, feed_ofNat hlo hhi, if_neg (by decide), Nat.add_sub_cancel]
  exact feed_two (Nat.le_add_left _ _) hmiddle hd read

/-- The bytes of a character of three. The first of these have no shorter bytes, and none is a surrogate. -/
theorem foldl_feed_three {a b d : Nat} (ha : a < 16) (hb : b < 64) (hd : d < 64) (hshorter : 0x20 ≤ a * 64 + b)
    (hsurrogate : a * 64 + b < 0x360 ∨ 0x380 ≤ a * 64 + b) (read : List (Option Char)) :
    [UInt8.ofNat (a + 0xe0), UInt8.ofNat (b + 0x80), UInt8.ofNat (d + 0x80)].foldl feed ⟨.nothing, read⟩ =
      ⟨.nothing, some (Char.ofNat ((a * 64 + b) * 64 + d)) :: read⟩ := by
  have hbounds : (0x80 : UInt8).toNat = 0x80 ∧ (0xa0 : UInt8).toNat = 0xa0 ∧ (0x9f : UInt8).toNat = 0x9f ∧
      (0xbf : UInt8).toNat = 0xbf := by decide
  rw [List.foldl_cons, feed_nothing, lead_ofNat (by omega), if_neg (by omega), if_neg (by omega), if_neg (by omega)]
  -- the lowest lead byte leaves out what has shorter bytes, and 0xed the surrogates
  by_cases hfirst : a = 0
  · rw [if_pos (by omega), feed_two (by omega) (by omega) hd, hfirst]
  rw [if_neg (by omega)]
  by_cases hlast : a = 0xd
  · rw [if_pos (by omega), feed_two (by omega) (by omega) hd, hlast]
  rw [if_neg (by omega), if_pos (by omega), feed_two (by omega) (by omega) hd, Nat.add_sub_cancel]

/-- The bytes of a character of four. The first of these have no shorter bytes, and none is beyond the last
character. -/
theorem foldl_feed_four {a b d e : Nat} (hb : b < 64) (hd : d < 64) (he : e < 64) (hshorter : 0x10 ≤ a * 64 + b)
    (hbeyond : a * 64 + b < 0x110) (read : List (Option Char)) :
    [UInt8.ofNat (a + 0xf0), UInt8.ofNat (b + 0x80), UInt8.ofNat (d + 0x80), UInt8.ofNat (e + 0x80)].foldl feed
        ⟨.nothing, read⟩ =
      ⟨.nothing, some (Char.ofNat (((a * 64 + b) * 64 + d) * 64 + e)) :: read⟩ := by
  have hbounds : (0x80 : UInt8).toNat = 0x80 ∧ (0x90 : UInt8).toNat = 0x90 ∧ (0x8f : UInt8).toNat = 0x8f ∧
      (0xbf : UInt8).toNat = 0xbf := by decide
  rw [List.foldl_cons, feed_nothing, lead_ofNat (by omega), if_neg (by omega), if_neg (by omega), if_neg (by omega),
    if_neg (by omega), if_neg (by omega), if_neg (by omega)]
  -- here the highest lead byte leaves out what is beyond the last character
  by_cases hfirst : a = 0
  · rw [if_pos (by omega), feed_three (by omega) (by omega) hd he, hfirst]
  rw [if_neg (by omega)]
  by_cases hlast : a = 4
  · rw [if_neg (by omega), if_pos (by omega), feed_three (by omega) (by omega) hd he, hlast]
  rw [if_pos (by omega), feed_three (by omega) (by omega) hd he, Nat.add_sub_cancel]

theorem foldl_feed_encodeChar (c : Char) (read : List (Option Char)) :
    (String.utf8EncodeChar c).foldl feed ⟨.nothing, read⟩ = ⟨.nothing, some c :: read⟩ := by
  have hvalid : c.toNat < 0xd800 ∨ 0xdfff < c.toNat ∧ c.toNat < 0x110000 := c.valid
  have hchar : ∀ n, n = c.toNat → (⟨.nothing, some (Char.ofNat n) :: read⟩ : Decoder) = ⟨.nothing, some c :: read⟩ := by
    rintro n rfl
    rw [Char.ofNat_toNat]
  have hcode : c.val.toNat = c.toNat := rfl
  have hlow : ∀ n, n % 64 < 64 := fun n => Nat.mod_lt n (by decide)
  simp only [String.utf8EncodeChar, hcode]
  generalize c.toNat = v at hvalid hchar ⊢
  -- one case for each number of bytes
  split_ifs with h1 h2 h3
  · rw [List.foldl_cons, List.foldl_nil, feed_nothing, lead_ofNat (by omega), if_pos (by omega)]
    exact hchar v rfl
  · have hlast : v % 64 + 0x80 ≤ (0xbf : UInt8).toNat := by
      show v % 64 + 0x80 ≤ 0xbf
      omega
    rw [List.foldl_cons, feed_nothing, lead_ofNat (by omega), if_neg (by omega), if_neg (by omega), if_pos (by omega),
      List.foldl_cons, List.foldl_nil, feed_last (Nat.le_add_left _ _) hlast]
    exact hchar _ (by omega)
  · rw [foldl_feed_three (Nat.mod_lt _ (by decide)) (hlow _) (hlow _) (by omega) (by omega)]
    exact hchar _ (by omega)
  · rw [foldl_feed_four (hlow _) (hlow _) (hlow _) (by omega) (by omega)]
    exact hchar _ (by omega)

/-- The characters of a text are read one after the other. -/
theorem foldl_feed_encode (text : List Char) (read : List (Option Char)) :
    (text.flatMap String.utf8EncodeChar).foldl feed ⟨.nothing, read⟩ =
      ⟨.nothing, (text.map some).reverse ++ read⟩ := by
  induction text generalizing read with
  | nil => rfl
  | cons c rest ih =>
    rw [List.flatMap_cons, List.foldl_append, foldl_feed_encodeChar, ih]
    simp

end Decoder

theorem mapM_map_some (text : List Char) : (text.map some).mapM id = some text := by
  induction text with
  | nil => rfl
  | cons c rest ih =>
    rw [List.map_cons, List.mapM_cons, ih]
    rfl

/-- The bytes of a text are well-formed, and decoded as the text. -/
theorem decode?_encode (s : String) : decode? (encode s) = some s.toList := by
  have hread : decodeEach (encode s) = s.toList.map some := by
    unfold decodeEach Decoder.start
    rw [encode_eq_flatMap, Decoder.foldl_feed_encode]
    simp [Decoder.finish]
  rw [decode?, hread, mapM_map_some]

end LineCensus.Text
