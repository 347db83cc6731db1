import LineCensus.Path
import LineCensus.Proofs.Text.Decode

/-!
# LineCensus.Proofs.Path.Extension — names cut at their last dot

1. `takeWhile_append_dot`: bytes around their first dot. Hence `cutAtLastDot?_eq_some_iff`: the pieces are those around a
   dot behind which there is no other.
2. `extension?_eq_some_iff`: the extension of a path, said of its name.
3. `IsBare`: names without an extension. `extension?_eq_none_iff`: no other names are without.
4. `decodeLossy_cut`, `not_mem_dot_decodeLossy`: decoding keeps the cut. The name is decoded as its two pieces are, and
   no dot comes up in the extension.
5. `key_eq_of_extension?`, `key_eq_noExtension`: the extension that a file is counted under. `key_ne_noExtension`: no
   extension is taken for none.
-/

namespace LineCensus.Path

open Text (decodeLossy)

variable {path name stem extension : Bytes}

/-! ## The cut -/

/-- Bytes up to their first dot, the dot, and the bytes behind it. -/
theorem takeWhile_append_dot {bytes : Bytes} (h : dotByte ∈ bytes) :
    bytes.takeWhile (· != dotByte) ++ dotByte :: (bytes.dropWhile (· != dotByte)).tail = bytes := by
  induction bytes with
  | nil => cases h
  | cons b rest ih =>
    by_cases hb : b = dotByte
    · subst hb
      rfl
    · have hne : (b != dotByte) = true := bne_iff_ne.2 hb
      have hrest : dotByte ∈ rest := (List.mem_cons.1 h).resolve_left (Ne.symm hb)
      rw [List.takeWhile_cons, List.dropWhile_cons, if_pos hne, if_pos hne, List.cons_append, ih hrest]

theorem not_mem_takeWhile_dot (bytes : Bytes) : dotByte ∉ bytes.takeWhile (· != dotByte) := by
  intro hmem
  have hne := List.all_eq_true.1 List.all_takeWhile _ hmem
  exact bne_iff_ne.1 hne rfl

/-- A name is cut at the dot behind which there is no other. -/
theorem cutAtLastDot?_eq_some_iff :
    cutAtLastDot? name = some (stem, extension) ↔
      name = stem ++ dotByte :: extension ∧ dotByte ∉ extension := by
  unfold cutAtLastDot?
  constructor
  · intro h
    split at h
    · rename_i hdot
      rcases Prod.mk.inj (Option.some.inj h) with ⟨rfl, rfl⟩
      -- seen from the end, the extension is what comes before the first dot
      have hmem : dotByte ∈ name.reverse := List.mem_reverse.2 (by simpa using hdot)
      constructor
      · have hname := congrArg List.reverse (takeWhile_append_dot hmem)
        simpa using hname.symm
      · rw [List.mem_reverse]
        exact not_mem_takeWhile_dot _
    · cases h
  · rintro ⟨rfl, hfree⟩
    have hall : ∀ b ∈ extension.reverse, (b != dotByte) = true := by
      intro b hb
      rw [bne_iff_ne]
      rintro rfl
      exact hfree (List.mem_reverse.1 hb)
    have hreverse : (stem ++ dotByte :: extension).reverse = extension.reverse ++ dotByte :: stem.reverse := by simp
    rw [if_pos (by simp), hreverse, List.takeWhile_append_of_pos hall, List.dropWhile_append_of_pos hall]
    simp

/-- The extension of a path is what stands behind the last dot of its name, unless that dot begins the name. -/
theorem extension?_eq_some_iff :
    extension? path = some extension ↔
      ∃ stem, fileName? path = some (stem ++ dotByte :: extension) ∧ stem ≠ [] ∧ dotByte ∉ extension := by
  unfold extension?
  rw [Option.bind_eq_some_iff]
  constructor
  · rintro ⟨name, hname, hextension⟩
    unfold nameExtension? at hextension
    split at hextension
    · rename_i stem extension' hcut
      split at hextension
      · cases hextension
      · rename_i hstem
        obtain rfl := Option.some.inj hextension
        rcases cutAtLastDot?_eq_some_iff.1 hcut with ⟨rfl, hfree⟩
        exact ⟨stem, hname, by simpa using hstem, hfree⟩
    · cases hextension
  · rintro ⟨stem, hname, hstem, hfree⟩
    refine ⟨_, hname, ?_⟩
    have hcut : cutAtLastDot? (stem ++ dotByte :: extension) = some (stem, extension) :=
      cutAtLastDot?_eq_some_iff.2 ⟨rfl, hfree⟩
    rw [nameExtension?, hcut]
    simp [hstem]

/-! ## Names without an extension -/

/-- A name has no dot, or only one, which begins it. -/
def IsBare (name : Name) : Prop := dotByte ∉ name ∨ ∃ rest, name = dotByte :: rest ∧ dotByte ∉ rest

theorem exists_cut (h : dotByte ∈ name) :
    ∃ stem extension, name = stem ++ dotByte :: extension ∧ dotByte ∉ extension := by
  have hcut : cutAtLastDot? name = some (_, _) := if_pos (by simpa using h)
  exact ⟨_, _, cutAtLastDot?_eq_some_iff.1 hcut⟩

/-- A name with something in front of its last dot is not bare. -/
theorem not_isBare_append (hstem : stem ≠ []) (extension : Bytes) : ¬IsBare (stem ++ dotByte :: extension) := by
  rintro (hfree | ⟨rest, hname, hfree⟩)
  · exact hfree (List.mem_append_right _ List.mem_cons_self)
  · cases stem with
    | nil => exact hstem rfl
    | cons b stem =>
      rcases List.cons.inj hname with ⟨-, rfl⟩
      exact hfree (List.mem_append_right _ List.mem_cons_self)

/-- A path has no extension exactly if its name is bare. -/
theorem extension?_eq_none_iff (h : fileName? path = some name) : extension? path = none ↔ IsBare name := by
  constructor
  · intro hnone
    by_cases hdot : dotByte ∈ name
    · rcases exists_cut hdot with ⟨stem, extension, rfl, hfree⟩
      cases stem with
      | nil => exact .inr ⟨extension, rfl, hfree⟩
      | cons b stem =>
        have hsome := extension?_eq_some_iff.2 ⟨b :: stem, h, List.cons_ne_nil b stem, hfree⟩
        rw [hnone] at hsome
        cases hsome
    · exact .inl hdot
  · intro hbare
    cases hextension : extension? path with
    | none => rfl
    | some extension =>
      rcases extension?_eq_some_iff.1 hextension with ⟨stem, hname, hstem, -⟩
      obtain rfl := Option.some.inj (h.symm.trans hname)
      exact absurd hbare (not_isBare_append hstem extension)

/-! ## Decoding -/

/-- A name is decoded as what stands before a dot and behind it. -/
theorem decodeLossy_cut (stem extension : Bytes) :
    decodeLossy (stem ++ dotByte :: extension) = decodeLossy stem ++ '.' :: decodeLossy extension :=
  Text.decodeLossy_append_ascii stem (by decide) extension

/-- Where there is no dot, decoding makes none. -/
theorem not_mem_dot_decodeLossy (h : dotByte ∉ extension) : '.' ∉ decodeLossy extension := by
  intro hmem
  rcases Text.mem_of_mem_decodeLossy (by decide) (by decide) hmem with ⟨b, hb, hcode⟩
  have hdot : b = dotByte := UInt8.toNat_inj.1 hcode
  exact h (hdot ▸ hb)

/-! ## The key -/

theorem key_eq_of_extension? (h : extension? path = some extension) :
    key path = String.ofList ('.' :: decodeLossy extension) := by
  rw [key, h]

theorem key_eq_noExtension (h : extension? path = none) : key path = noExtension := by
  rw [key, h]

/-- The key of files without an extension begins with no dot. -/
theorem key_ne_noExtension (h : extension? path = some extension) : key path ≠ noExtension := by
  intro hkey
  have hlist := congrArg (fun k : String => k.toList.head?) hkey
  rw [key_eq_of_extension? h] at hlist
  simp only [String.toList_ofList, List.head?_cons] at hlist
  exact absurd hlist (by decide)

end LineCensus.Path
