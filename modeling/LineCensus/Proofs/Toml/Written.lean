import LineCensus.Proofs.Toml.Document
import LineCensus.Proofs.Toml.Spelled

/-!
# LineCensus.Proofs.Toml.Written — lines as they are written

1. `SpellsValue`: what may be written for a truth value or an array of strings. `readValue_spelled`: it is read as this
   value.
2. `writeLine`: the line of a name and a value. `isField_writeLine`: it is read as such.
-/

namespace LineCensus.Toml

/-! ## Values -/

/-- What may be written for a truth value or an array of strings. -/
inductive SpellsValue : Value → List Char → Prop where
  | truth (b : Bool) : SpellsValue (.boolean b) (if b then ['t', 'r', 'u', 'e'] else ['f', 'a', 'l', 's', 'e'])
  | texts {ss : List String} {quoted : List (List Char)} : List.Forall₂ Quotes ss quoted →
      SpellsValue (.array (ss.map .text)) (bracketed quoted)

/-- Strings in quotes between brackets. -/
def quoteAll (ss : List String) : List Char := bracketed (ss.map quote)

theorem spellsValue_quoteAll (ss : List String) : SpellsValue (.array (ss.map .text)) (quoteAll ss) := by
  apply SpellsValue.texts
  rw [List.forall₂_map_right_iff, List.forall₂_same]
  intro s _
  exact quotes_quote s

/-- There are no more strings than characters that write them. -/
theorem length_le_intercalate {ss : List String} {quoted : List (List Char)} (h : List.Forall₂ Quotes ss quoted) :
    quoted.length ≤ ([',', ' '].intercalate quoted).length := by
  induction h with
  | nil => exact Nat.le_refl 0
  | @cons s q ss quoted hq _ ih =>
    have hpos : 1 ≤ q.length := by
      rcases hq with ⟨written, -, rfl⟩
      exact Nat.le_add_left 1 _
    cases quoted with
    | nil =>
      rw [List.intercalate_singleton]
      exact hpos
    | cons next more =>
      rw [List.intercalate_cons_cons, List.length_append, List.length_append, List.length_cons]
      omega

theorem readValue_spelled {v : Value} {written : List Char} (h : SpellsValue v written) {fuel : Nat}
    (hfuel : written.length < fuel) : readValue fuel 0 (written ++ ['\n']) = .ok (v, ['\n']) := by
  cases h with
  | truth b =>
    obtain ⟨fuel, rfl⟩ : ∃ n, fuel = n + 1 := ⟨fuel - 1, by omega⟩
    cases b <;> rfl
  | texts h =>
    have hlength := length_le_intercalate h
    apply readValue_bracketed h
    · simp only [bracketed, List.length_cons, List.length_append] at hfuel
      omega
    · decide

/-! ## Lines -/

/-- A line that gives a name a value: the name, an equals sign between spaces, and the value. -/
def writeLine (name : String) (written : List Char) : List Char :=
  name.toList ++ ' ' :: '=' :: ' ' :: (written ++ ['\n'])

/-- What is written is no blank. -/
theorem SpellsValue.skipSpace {v : Value} {written : List Char} (h : SpellsValue v written) (rest : List Char) :
    skipSpace (' ' :: (written ++ rest)) = written ++ rest := by
  have hblank : Toml.skipSpace (' ' :: (written ++ rest)) = Toml.skipSpace (written ++ rest) :=
    List.dropWhile_cons_of_pos rfl
  rw [hblank]
  cases h with
  | truth b => cases b <;> rfl
  | texts h => rfl

theorem readKey_bare {name : List Char} (hne : name ≠ []) (hbare : ∀ c ∈ name, isBareKey c = true) (fuel : Nat)
    (rest : List Char) :
    readKey (fuel + 1) (name ++ ' ' :: '=' :: rest) = .ok ([String.ofList name], '=' :: rest) := by
  have hpart : readKeyPart (name ++ ' ' :: '=' :: rest) = .ok (String.ofList name, ' ' :: '=' :: rest) := by
    cases name with
    | nil => exact absurd rfl hne
    | cons c more =>
      have hc := hbare c List.mem_cons_self
      have hmore : ∀ d ∈ more, isBareKey d = true := fun d hd => hbare d (List.mem_cons_of_mem c hd)
      have hquote : c ≠ '"' := by
        rintro rfl
        exact absurd hc (by decide)
      have hsingle : c ≠ '\'' := by
        rintro rfl
        exact absurd hc (by decide)
      rw [List.cons_append, readKeyPart_cons hquote hsingle, if_pos hc, List.takeWhile_append_of_pos hmore,
        List.dropWhile_append_of_pos hmore, List.takeWhile_cons_of_neg (by decide),
        List.dropWhile_cons_of_neg (by decide), List.append_nil]
  show (readKeyPart (name ++ ' ' :: '=' :: rest) >>= fun x => readKeyRest (readKey fuel) x.1 (skipSpace x.2)) = _
  rw [hpart]
  rfl

/-- A name that needs no quotes. -/
def IsBareName (name : String) : Prop := name.toList ≠ [] ∧ name.toList.all isBareKey = true

instance (name : String) : Decidable (IsBareName name) := inferInstanceAs (Decidable (_ ∧ _))

theorem isStart_of_isBareKey {c : Char} (h : isBareKey c = true) : IsStart c := by
  have hne : ∀ d, isBareKey d = false → c ≠ d := by
    rintro d hd rfl
    rw [hd] at h
    cases h
  have hspace : isSpace c = false := by simp [isSpace, hne ' ' (by decide), hne '\t' (by decide)]
  exact ⟨hspace, hne '#' (by decide), hne '\n' (by decide), hne '\r' (by decide)⟩

/-- A line is read as it was written. -/
theorem isField_writeLine {name : String} (hname : IsBareName name) {v : Value} {written : List Char}
    (h : SpellsValue v written) : IsField (writeLine name written) name v := by
  have hbare : ∀ c ∈ name.toList, isBareKey c = true := List.all_eq_true.1 hname.2
  refine ⟨writeLine name written, ' ' :: (written ++ ['\n']), ['\n'], ?_, ?_, ?_, rfl, rfl⟩
  · obtain ⟨c, more, hcons⟩ := List.exists_cons_of_ne_nil hname.1
    have hstart : IsStart c := isStart_of_isBareKey (hbare c (by rw [hcons]; exact List.mem_cons_self))
    rw [writeLine, hcons]
    exact skipLines_of_isStart hstart _ _
  · have hkey := readKey_bare hname.1 hbare (writeLine name written).length (' ' :: (written ++ ['\n']))
    rwa [String.ofList_toList] at hkey
  · rw [h.skipSpace]
    apply readValue_spelled h
    simp only [List.length_cons, List.length_append]
    omega

end LineCensus.Toml
