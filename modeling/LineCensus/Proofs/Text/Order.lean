import Mathlib.Tactic.SplitIfs
import LineCensus.Text.Utf8

/-!
# LineCensus.Proofs.Text.Order — the order of texts is the order of their bytes

Texts are compared by their characters. In UTF-8 the first bytes of longer characters are greater, and the
bits of a character go from the highest to the lowest, so that bytes compare the same way.

1. `encode_eq_flatMap`: the bytes of a text are those of its characters.
2. `utf8EncodeChar_append_lt`: a greater character has the greater bytes, whatever follows.
3. `encode_lt_encode_iff`: so it is with texts.
-/

namespace LineCensus.Text

/-! ## The bytes of a text -/

/-- The bytes still to be listed are put behind those already listed. -/
theorem toList_loop (bytes : ByteArray) (i : Nat) (listed : Bytes) :
    ByteArray.toList.loop bytes i listed = listed.reverse ++ bytes.data.toList.drop i := by
  fun_induction ByteArray.toList.loop bytes i listed with
  | case1 i listed hi ih =>
    have hlength : i < bytes.data.toList.length := hi
    have hget : bytes.get! i = bytes.data.toList[i] := by
      rw [ByteArray.get!, getElem!_pos bytes.data i hi, Array.getElem_toList]
    rw [ih, List.drop_eq_getElem_cons hlength, hget, List.reverse_cons, List.append_assoc,
      List.singleton_append]
  | case2 i listed hi =>
    have hlength : bytes.data.toList.length ≤ i := Nat.le_of_not_lt hi
    rw [List.drop_eq_nil_of_le hlength, List.append_nil]

/-- The bytes of a text are the bytes of its characters. -/
theorem encode_eq_flatMap (text : String) : encode text = text.toList.flatMap String.utf8EncodeChar := by
  rw [encode, String.toUTF8_eq_toByteArray, ← String.utf8Encode_toList, List.utf8Encode]
  rw [ByteArray.toList, toList_loop, List.toList_data_toByteArray]
  rfl

/-! ## One character -/

/-- How two lists of bytes compare that begin with small numbers. -/
theorem ofNat_cons_lt_iff {a b : Nat} (ha : a < 256) (hb : b < 256) {as bs : Bytes} :
    UInt8.ofNat a :: as < UInt8.ofNat b :: bs ↔ a < b ∨ a = b ∧ as < bs := by
  have hlt : UInt8.ofNat a < UInt8.ofNat b ↔ a < b := by
    rw [UInt8.lt_iff_toNat_lt, UInt8.toNat_ofNat_of_lt' ha, UInt8.toNat_ofNat_of_lt' hb]
  have heq : UInt8.ofNat a = UInt8.ofNat b ↔ a = b := by
    rw [← UInt8.toNat_inj, UInt8.toNat_ofNat_of_lt' ha, UInt8.toNat_ofNat_of_lt' hb]
  rw [List.cons_lt_cons_iff, hlt, heq]

/-- The bytes of a greater character are greater, whatever follows. -/
theorem utf8EncodeChar_append_lt {c d : Char} (h : c < d) (rest rest' : Bytes) :
    String.utf8EncodeChar c ++ rest < String.utf8EncodeChar d ++ rest' := by
  have hcode : c.val.toNat < d.val.toNat := h
  have hmax : d.val.toNat < 0x110000 := by
    rcases d.valid with h | h
    · exact Nat.lt_trans h (by decide)
    · exact h.2
  -- each byte takes six more bits off
  have htwice : ∀ n : Nat, n / 4096 = n / 64 / 64 := by omega
  have hthrice : ∀ n : Nat, n / 262144 = n / 64 / 64 / 64 := by omega
  simp only [String.utf8EncodeChar, htwice, hthrice]
  generalize c.val.toNat = v at *
  generalize d.val.toNat = w at *
  -- with more bytes the first one is greater, and with as many the first bits that differ decide
  split_ifs <;> simp (disch := omega) only [List.cons_append, List.nil_append, ofNat_cons_lt_iff] <;> omega

/-! ## Whole texts -/

/-- Characters that come first in the order of lists have bytes that do. -/
theorem flatMap_lt {cs ds : List Char} (h : cs < ds) :
    cs.flatMap String.utf8EncodeChar < ds.flatMap String.utf8EncodeChar := by
  induction cs generalizing ds with
  | nil =>
    cases ds with
    | nil => cases h
    | cons d ds =>
      rw [List.flatMap_nil, List.flatMap_cons]
      have hne : String.utf8EncodeChar d ++ ds.flatMap String.utf8EncodeChar ≠ [] :=
        List.append_ne_nil_of_left_ne_nil String.utf8EncodeChar_ne_nil _
      obtain ⟨b, bs, hbytes⟩ := List.exists_cons_of_ne_nil hne
      rw [hbytes]
      exact List.nil_lt_cons b bs
  | cons c cs ih =>
    cases ds with
    | nil => cases h
    | cons d ds =>
      rw [List.flatMap_cons, List.flatMap_cons]
      rcases List.cons_lt_cons_iff.1 h with hlt | ⟨rfl, hlt⟩
      · exact utf8EncodeChar_append_lt hlt _ _
      · exact List.append_left_lt (ih hlt)

/-- Texts compare as their bytes do. -/
theorem encode_lt_encode_iff {a b : String} : encode a < encode b ↔ a < b := by
  have hmono : ∀ {s t : String}, s < t → encode s < encode t := by
    intro s t hlt
    rw [encode_eq_flatMap, encode_eq_flatMap]
    exact flatMap_lt hlt
  constructor
  · intro hlt
    rcases Std.lt_trichotomy a b with h | rfl | h
    · exact h
    · exact absurd hlt (List.lt_irrefl (encode a))
    · exact absurd (List.lt_trans hlt (hmono h)) (List.lt_irrefl (encode a))
  · exact hmono

end LineCensus.Text
