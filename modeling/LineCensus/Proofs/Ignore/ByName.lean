import LineCensus.Ignore.Filter
import LineCensus.Proofs.Path.Extension
import LineCensus.Proofs.Path.FileName
import LineCensus.Proofs.Text.Ascii

/-!
# LineCensus.Proofs.Ignore.ByName — what the name of a file decides

The extension that a file is counted under takes the bytes behind the last dot as they can be decoded, and the list of
binary formats takes them only if they are well-formed. Both look at the name of the file alone.

1. `isPlainChar_of_mem_binaryExtensions`: the listed extensions are ASCII. `hasBinaryExtension_iff`: so they are met by
   their own bytes only, but for the case of letters.
2. `key_congr`, `hasBinaryExtension_congr`, `includes_of_fileName?`: paths with one name have one answer.
   `extension?_of_fileName?`, `not_includes_of_fileName?`: the answers for a path without a name.
3. `key_and_includes_by_name`: all of it.
-/

namespace LineCensus

open Text (decodeLossy decode? encode isPlain isPlainChar asciiText lowerByte)

/-! ## Binary formats -/

/-- The extensions of binary formats are ASCII. -/
theorem isPlainChar_of_mem_binaryExtensions {known : String} (h : known ∈ binaryExtensions) {c : Char}
    (hc : c ∈ known.toList) : isPlainChar c = true := by
  have hall : ∀ known ∈ binaryExtensions, known.toList.all isPlainChar = true := by decide
  exact List.all_eq_true.1 (hall known h) c hc

/-- The bytes of such an extension are ASCII, and it has these characters. -/
theorem encode_of_mem_binaryExtensions {known : String} (h : known ∈ binaryExtensions) :
    (∀ b ∈ encode known, isPlain b = true) ∧ known.toList = asciiText (encode known) := by
  exact (Text.decode?_eq_some_iff fun _ => isPlainChar_of_mem_binaryExtensions h).1 (Text.decode?_encode known)

theorem isBinaryExtension_iff {text : List Char} :
    isBinaryExtension text = true ↔ ∃ known ∈ binaryExtensions, asciiLower known.toList = asciiLower text := by
  simp [isBinaryExtension]

/-- Bytes are decoded as the extension of a binary format exactly if they are its bytes, but for the case of letters. -/
theorem isBinaryExtension_decode?_iff {extension : Bytes} :
    (∃ text, decode? extension = some text ∧ isBinaryExtension text = true) ↔
      ∃ known ∈ binaryExtensions, extension.map lowerByte = (encode known).map lowerByte := by
  constructor
  · rintro ⟨text, hdecode, hbinary⟩
    rcases isBinaryExtension_iff.1 hbinary with ⟨known, hknown, hlower⟩
    rcases encode_of_mem_binaryExtensions hknown with ⟨-, hchars⟩
    -- the characters are ASCII because they are so in lower case
    have htext : ∀ c ∈ text, isPlainChar c = true := by
      intro c hc
      have hmem : c.toLower ∈ asciiLower known.toList := hlower ▸ List.mem_map_of_mem hc
      rcases List.mem_map.1 hmem with ⟨d, hd, hsame⟩
      rw [← Text.isPlainChar_toLower, ← hsame, Text.isPlainChar_toLower]
      exact isPlainChar_of_mem_binaryExtensions hknown hd
    rcases (Text.decode?_eq_some_iff htext).1 hdecode with ⟨-, rfl⟩
    refine ⟨known, hknown, ?_⟩
    rw [hchars, asciiLower, asciiLower, Text.map_toLower_asciiText, Text.map_toLower_asciiText] at hlower
    exact (Text.asciiText_injective hlower).symm
  · rintro ⟨known, hknown, hlower⟩
    rcases encode_of_mem_binaryExtensions hknown with ⟨hplain, hchars⟩
    have hextension : ∀ b ∈ extension, isPlain b = true := by
      intro b hb
      have hmem : lowerByte b ∈ (encode known).map lowerByte := hlower ▸ List.mem_map_of_mem hb
      rcases List.mem_map.1 hmem with ⟨b', hb', hsame⟩
      rw [← Text.isPlain_lowerByte, ← hsame, Text.isPlain_lowerByte]
      exact hplain b' hb'
    refine ⟨asciiText extension, Text.decode?_of_isPlain hextension, isBinaryExtension_iff.2 ⟨known, hknown, ?_⟩⟩
    rw [hchars, asciiLower, asciiLower, Text.map_toLower_asciiText, Text.map_toLower_asciiText, hlower]

/-- The extension of a path belongs to a binary format exactly if it has the bytes of a listed one, but for the case of
letters. -/
theorem hasBinaryExtension_iff {path : Bytes} :
    hasBinaryExtension path = true ↔
      ∃ extension, Path.extension? path = some extension ∧
        ∃ known ∈ binaryExtensions, extension.map lowerByte = (encode known).map lowerByte := by
  simp only [← isBinaryExtension_decode?_iff]
  unfold hasBinaryExtension
  cases Path.extension? path with
  | none => simp
  | some extension => cases hdecode : decode? extension <;> simp [hdecode]

/-! ## Paths with one name -/

namespace Path

variable {path other : Bytes} {name : Name}

theorem extension?_congr (h : fileName? other = fileName? path) : extension? other = extension? path := by
  rw [extension?, extension?, h]

theorem key_congr (h : fileName? other = fileName? path) : key other = key path := by
  rw [key, key, extension?_congr h]

theorem hasBinaryExtension_congr (h : fileName? other = fileName? path) :
    hasBinaryExtension other = hasBinaryExtension path := by
  rw [hasBinaryExtension, hasBinaryExtension, extension?_congr h]

/-- The extension of a path without a name. -/
theorem extension?_of_fileName? (h : fileName? path = none) : extension? path = none := by
  rw [extension?, h]
  rfl

theorem hasBinaryExtension_of_fileName? (h : fileName? path = none) : hasBinaryExtension path = false := by
  rw [hasBinaryExtension, extension?_of_fileName? h]
  rfl

theorem includes_of_fileName? (h : fileName? path = some name) (rules : Rules) :
    rules.includes path = (!hasBinaryExtension path && !rules.matchesName (decodeLossy name)) := by
  rw [Rules.includes, h]

theorem not_includes_of_fileName? (h : fileName? path = none) (rules : Rules) : rules.includes path = false := by
  rw [Rules.includes, h, Bool.and_false]

/-- What the name of a path decides. The name is what the path ends in, but for separators and single dots behind it; if
nothing is left, or two dots, there is none, and then the key is that of files without an extension, the file belongs to
no binary format, and no rules count it. Paths with one name have one key and are counted by the same rules. The key is
that of files without an extension exactly if the name has no dot, or only one in front. Otherwise it is a dot and what
the bytes behind the last dot are decoded as, and the name is decoded as what stands before that dot and then the key. A
file belongs to a binary format exactly if the bytes behind that dot are those of a listed extension, but for the case
of letters, and is counted if it does not and no pattern matches its name. -/
theorem key_and_includes_by_name (path : Bytes) :
    (∀ name, fileName? path = some name ↔ EndsIn path name ∧ name ≠ dotDot) ∧
      (fileName? path = none ↔ IsIdlePath path ∨ EndsIn path dotDot) ∧
      (fileName? path = none → key path = noExtension ∧ hasBinaryExtension path = false ∧
        ∀ rules : Rules, rules.includes path = false) ∧
      ∀ name, fileName? path = some name →
        (∀ other, fileName? other = some name →
          key other = key path ∧ ∀ rules : Rules, rules.includes other = rules.includes path) ∧
        (key path = noExtension ↔ IsBare name) ∧
        (¬IsBare name → ∃ stem extension, name = stem ++ dotByte :: extension ∧ dotByte ∉ extension ∧
          key path = String.ofList ('.' :: decodeLossy extension) ∧
          decodeLossy name = decodeLossy stem ++ (key path).toList) ∧
        (hasBinaryExtension path = true ↔ ¬IsBare name ∧
          ∃ stem extension, name = stem ++ dotByte :: extension ∧ dotByte ∉ extension ∧
            ∃ known ∈ binaryExtensions, extension.map lowerByte = (encode known).map lowerByte) ∧
        ∀ rules : Rules, rules.includes path = true ↔
          hasBinaryExtension path = false ∧ rules.matchesName (decodeLossy name) = false := by
  refine ⟨fun name => fileName?_eq_some_iff, fileName?_eq_none_iff, ?_, ?_⟩
  · intro hnone
    exact ⟨key_eq_noExtension (extension?_of_fileName? hnone), hasBinaryExtension_of_fileName? hnone,
      not_includes_of_fileName? hnone⟩
  intro name hname
  have hbare : extension? path = none ↔ IsBare name := extension?_eq_none_iff hname
  refine ⟨?_, ?_, ?_, ?_, ?_⟩
  · intro other hother
    have hsame : fileName? other = fileName? path := hother.trans hname.symm
    refine ⟨key_congr hsame, ?_⟩
    intro rules
    rw [includes_of_fileName? hname, includes_of_fileName? hother, hasBinaryExtension_congr hsame]
  · rw [← hbare]
    constructor
    · intro hkey
      cases hextension : extension? path with
      | none => rfl
      | some extension => exact absurd hkey (key_ne_noExtension hextension)
    · exact key_eq_noExtension
  · intro hnot
    rw [← hbare, ← ne_eq, Option.ne_none_iff_exists'] at hnot
    rcases hnot with ⟨extension, hextension⟩
    rcases extension?_eq_some_iff.1 hextension with ⟨stem, hcut, -, hfree⟩
    obtain rfl := Option.some.inj (hname.symm.trans hcut)
    have hkey := key_eq_of_extension? hextension
    refine ⟨stem, extension, rfl, hfree, hkey, ?_⟩
    rw [hkey, String.toList_ofList, decodeLossy_cut]
  · rw [hasBinaryExtension_iff]
    constructor
    · rintro ⟨extension, hextension, hknown⟩
      rcases extension?_eq_some_iff.1 hextension with ⟨stem, hcut, hstem, hfree⟩
      obtain rfl := Option.some.inj (hname.symm.trans hcut)
      exact ⟨not_isBare_append hstem extension, stem, extension, rfl, hfree, hknown⟩
    · rintro ⟨hnot, stem, extension, rfl, hfree, hknown⟩
      refine ⟨extension, extension?_eq_some_iff.2 ⟨stem, hname, ?_, hfree⟩, hknown⟩
      rintro rfl
      exact hnot (.inr ⟨extension, rfl, hfree⟩)
  · intro rules
    rw [includes_of_fileName? hname, Bool.and_eq_true, Bool.not_eq_true', Bool.not_eq_true']

/-- The path `d/.x.?.Gz//./`, where the question mark stands for the byte 0xff, ends in a name with three dots. It is
that of an archive, in whatever case and however broken it is further on the left, and has the key of its name. -/
theorem key_and_includes_by_name_archive :
    let path : Bytes := [0x64, 0x2f, 0x2e, 0x78, 0x2e, 0xff, 0x2e, 0x47, 0x7a, 0x2f, 0x2f, 0x2e, 0x2f]
    let name : Name := [0x2e, 0x78, 0x2e, 0xff, 0x2e, 0x47, 0x7a]
    fileName? path = some name ∧ EndsIn path name ∧ ¬IsBare name ∧
      key path ≠ noExtension ∧ key name = key path ∧
      hasBinaryExtension path = true ∧ (∀ rules : Rules, rules.includes path = false) ∧
      key [0x2f, 0x2e] = noExtension := by
  intro path name
  rcases key_and_includes_by_name path with ⟨hends, -, -, hanswers⟩
  rcases key_and_includes_by_name [0x2f, 0x2e] with ⟨-, -, hroot, -⟩
  have hname : fileName? path = some name := by decide
  have hbare : ¬IsBare name := not_isBare_append (List.cons_ne_nil 0x2e [0x78, 0x2e, 0xff]) [0x47, 0x7a]
  rcases hanswers name hname with ⟨hother, hkey, -, hbinary, hincludes⟩
  have hextension : [0x47, 0x7a].map lowerByte = (encode "gz").map lowerByte := by decide +kernel
  have hformat : hasBinaryExtension path = true :=
    hbinary.2 ⟨hbare, [0x2e, 0x78, 0x2e, 0xff], [0x47, 0x7a], rfl, by decide, "gz", by decide, hextension⟩
  refine ⟨hname, ((hends name).1 hname).1, hbare, mt hkey.1 hbare, (hother name (by decide)).1, hformat, ?_, ?_⟩
  · intro rules
    rw [← Bool.not_eq_true, hincludes, hformat]
    simp
  · exact (hroot (by decide)).1

end Path

end LineCensus
