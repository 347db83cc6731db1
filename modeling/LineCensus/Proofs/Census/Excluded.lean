import LineCensus.Proofs.Census.Count
import LineCensus.Proofs.Ignore.Layers
import LineCensus.Proofs.Path.Extension
import LineCensus.Report.Label

/-!
# LineCensus.Proofs.Census.Excluded — what is left out has no entry

Three parts look at the end of a name. The extension that a file is counted under and the patterns take the name as
decoded text, and the list of binary formats asks for an extension that is well-formed. Where the bytes are no text,
the decoded name shows it, and no format and no pattern can be met by accident.

1. `isBinaryExtension_eq_false`: no file that is counted has a binary extension, decoded or not.
2. `matchesName_of_excluded`: a name that ends with an extension left out is matched, by whichever layer it was given.
   Hence `key_of_includes`, `key_ne_of_excluded`: the key of one file that is to be counted.
3. `exists_includes_of_mem_keys`: every key of a census comes from a file that is to be counted.
4. `extensionLabel_inj`: keys are told apart by their labels.
5. `keys_of_count`: the keys of a census.
-/

namespace LineCensus

open Text (decodeLossy)

/-! ## Binary formats -/

theorem isBinaryExtension_eq_false_iff {extension : List Char} :
    isBinaryExtension extension = false ↔
      ∀ known ∈ binaryExtensions, asciiLower known.toList ≠ asciiLower extension := by
  simp [isBinaryExtension, List.any_eq_false]

/-- The replacement character is in no extension of a binary format. -/
theorem replacement_not_mem : ∀ known ∈ binaryExtensions, '\ufffd' ∉ asciiLower known.toList := by
  decide

/-- If a path has no binary extension, its extension is none as it is decoded either. -/
theorem isBinaryExtension_eq_false {path extension : Bytes} (h : hasBinaryExtension path = false)
    (hextension : Path.extension? path = some extension) :
    isBinaryExtension (decodeLossy extension) = false := by
  cases hdecode : Text.decode? extension with
  | some text =>
    rw [hasBinaryExtension, hextension, Option.bind_some, hdecode] at h
    rw [Text.decodeLossy_eq_of_decode? hdecode]
    exact h
  | none =>
    -- the replacement character stays, whatever becomes of the letters around it
    have hmem : '\ufffd' ∈ asciiLower (decodeLossy extension) :=
      List.mem_map.2 ⟨_, Text.mem_decodeLossy_of_decode?_eq_none hdecode, by decide⟩
    rw [isBinaryExtension_eq_false_iff]
    intro known hknown heq
    rw [← heq] at hmem
    exact replacement_not_mem known hknown hmem

/-! ## Extensions left out -/

/-- A name that ends with an extension left out, by the settings or by the command line, is matched. -/
theorem Rules.matchesName_of_excluded {s : Settings} {o : Options} {rules : Rules}
    (h : (o.override s).build = .ok rules) {extension : String}
    (hextension : extension ∈ s.extensions ++ o.excludedExtensions) {name : List Char}
    (hname : dotted extension <:+ name) : rules.matchesName name = true := by
  have hsource : extensionPattern extension ∈ rules.patterns.map (·.source) := by
    rw [Settings.sources_of_build h]
    apply List.mem_append_right
    apply List.mem_append_left
    exact List.mem_map_of_mem hextension
  rcases List.mem_map.1 hsource with ⟨p, hp, hpsource⟩
  have hoccurs : p.occursIn name = true := by
    rw [Pattern.occursIn, node_eq_ending hpsource, Pattern.occursIn_ending]
    exact hname
  exact List.any_eq_true.2 ⟨p, hp, hoccurs⟩

/-- A file that is counted has a name, which no pattern matches, and no binary extension. -/
theorem Rules.exists_name_of_includes {rules : Rules} {path : Bytes} (h : rules.includes path = true) :
    hasBinaryExtension path = false ∧
      ∃ name, Path.fileName? path = some name ∧ rules.matchesName (decodeLossy name) = false := by
  rw [includes, Bool.and_eq_true, Bool.not_eq_true'] at h
  rcases h with ⟨hbinary, hname⟩
  refine ⟨hbinary, ?_⟩
  split at hname
  · rename_i name hfile
    exact ⟨name, hfile, by simpa using hname⟩
  · cases hname

/-- The key of a file that is to be counted is that of files without an extension, or a dot and an extension without
dots that belongs to no binary format. -/
theorem Rules.key_of_includes {rules : Rules} {path : Bytes} (h : rules.includes path = true) :
    Path.key path = noExtension ∨
      ∃ extension, Path.key path = String.ofList ('.' :: extension) ∧ '.' ∉ extension ∧
        ∀ known ∈ binaryExtensions, asciiLower known.toList ≠ asciiLower extension := by
  rcases exists_name_of_includes h with ⟨hbinary, -⟩
  cases hextension : Path.extension? path with
  | none => exact .inl (Path.key_eq_noExtension hextension)
  | some extension =>
    rcases Path.extension?_eq_some_iff.1 hextension with ⟨stem, -, -, hfree⟩
    refine .inr ⟨decodeLossy extension, Path.key_eq_of_extension? hextension, ?_, ?_⟩
    · exact Path.not_mem_dot_decodeLossy hfree
    · exact isBinaryExtension_eq_false_iff.1 (isBinaryExtension_eq_false hbinary hextension)

/-- The key of a file that is to be counted is no extension left out. -/
theorem Rules.key_ne_of_excluded {s : Settings} {o : Options} {rules : Rules}
    (hbuild : (o.override s).build = .ok rules) {excluded : String}
    (hexcluded : excluded ∈ s.extensions ++ o.excludedExtensions) {path : Bytes}
    (h : rules.includes path = true) : Path.key path ≠ String.ofList (dotted excluded) := by
  intro hkey
  rcases exists_name_of_includes h with ⟨-, name, hname, hnot⟩
  cases hextension : Path.extension? path with
  | none =>
    -- the key of files without an extension does not begin with a dot
    rw [Path.key_eq_noExtension hextension] at hkey
    have hlist := congrArg String.toList hkey
    rw [String.toList_ofList] at hlist
    cases hlist
  | some extension =>
    have hsame : '.' :: decodeLossy extension = dotted excluded := by
      have hlist := congrArg String.toList ((Path.key_eq_of_extension? hextension).symm.trans hkey)
      rwa [String.toList_ofList, String.toList_ofList] at hlist
    rcases Path.extension?_eq_some_iff.1 hextension with ⟨stem, hname', -, -⟩
    obtain rfl := Option.some.inj (hname.symm.trans hname')
    -- the decoded name ends with the key, so the pattern of the extension matches it
    have hends : dotted excluded <:+ decodeLossy (stem ++ Path.dotByte :: extension) := by
      rw [Path.decodeLossy_cut, hsame]
      exact List.suffix_append _ _
    rw [matchesName_of_excluded hbuild hexcluded hends] at hnot
    cases hnot

/-! ## Where keys come from -/

namespace FileSystem

variable {fs : FileSystem} {rules : Rules} {registry : Registry} {root : Bytes} {counted : Counted}

/-- Every key of a census is the key of a file that is to be counted. -/
theorem exists_includes_of_mem_keys (hcount : fs.count rules registry root = .ok counted) {key : String}
    (hkey : key ∈ counted.census.entries.map (·.1)) :
    ∃ path, rules.includes path = true ∧ Path.key path = key := by
  rcases exists_scan_of_count hcount with ⟨listing, hopen, hcensus⟩
  rw [hcensus, Census.keys_grouped, List.mem_eraseDups, keys_measured] at hkey
  rcases List.mem_map.1 hkey with ⟨path, hpath, rfl⟩
  -- the path is that of a file the walk found
  rcases List.mem_map.1 (List.mem_filter.1 hpath).1 with ⟨names, hnames, rfl⟩
  rcases List.mem_map.1 hnames with ⟨r, hr, rfl⟩
  have hscanned := (Listing.mem_found_iff (wellFormed_openDirectory hopen)).1 hr
  exact ⟨_, hscanned.included, rfl⟩

/-- No two entries of a census have one key. -/
theorem nodup_keys_of_count (hcount : fs.count rules registry root = .ok counted) :
    (counted.census.entries.map (·.1)).Nodup := by
  rcases exists_scan_of_count hcount with ⟨listing, -, hcensus⟩
  rw [hcensus]
  exact Census.nodup_keys_grouped _

end FileSystem

/-! ## Labels -/

/-- A key as censuses have them: the one of files without an extension, or a dot and what follows. -/
def IsKey (key : String) : Prop := key = noExtension ∨ key.toList.head? = some '.'

theorem isKey_key (path : Bytes) : IsKey (Path.key path) := by
  cases hextension : Path.extension? path with
  | none => exact .inl (Path.key_eq_noExtension hextension)
  | some extension =>
    right
    rw [Path.key_eq_of_extension? hextension, String.toList_ofList]
    rfl

/-- Keys are told apart by their labels. -/
theorem extensionLabel_inj {a b : String} (ha : IsKey a) (hb : IsKey b)
    (h : extensionLabel a = extensionLabel b) : a = b := by
  have hdot : ∀ key : String, key.toList.head? = some '.' → key ≠ noExtension ∧ extensionLabel key = key := by
    intro key hkey
    have hne : key ≠ noExtension := by
      rintro rfl
      exact absurd hkey (by decide)
    exact ⟨hne, by rw [extensionLabel, if_neg hne, if_pos hkey]⟩
  have hnone : ∀ key : String, key.toList.head? = some '.' → extensionLabel key ≠ extensionLabel noExtension := by
    intro key hkey heq
    rw [(hdot key hkey).2] at heq
    rw [heq] at hkey
    exact absurd hkey (by decide)
  rcases ha with rfl | ha
  · rcases hb with rfl | hb
    · rfl
    · exact absurd h.symm (hnone b hb)
  · rcases hb with rfl | hb
    · exact absurd h (hnone a ha)
    · rw [(hdot a ha).2, (hdot b hb).2] at h
      exact h

/-! ## The keys of a census -/

namespace FileSystem

/-- The keys of a census, under rules from settings and a command line: each is that of files without an extension,
or a dot and an extension without dots, which belongs to no binary format in any case of its letters. No extension left
out by either layer is a key. No two keys are shown alike. -/
theorem keys_of_count {fs : FileSystem} {s : Settings} {o : Options} {rules : Rules} (registry : Registry)
    {root : Bytes} {counted : Counted} (hbuild : (o.override s).build = .ok rules)
    (hcount : fs.count rules registry root = .ok counted) :
    let keys := counted.census.entries.map (·.1)
    (∀ key ∈ keys, key = noExtension ∨
        ∃ extension, key = String.ofList ('.' :: extension) ∧ '.' ∉ extension ∧
          ∀ known ∈ binaryExtensions, asciiLower known.toList ≠ asciiLower extension) ∧
      (∀ extension ∈ s.extensions ++ o.excludedExtensions, String.ofList (Rules.dotted extension) ∉ keys) ∧
      (keys.map extensionLabel).Nodup := by
  intro keys
  have hsource : ∀ key ∈ keys, ∃ path, rules.includes path = true ∧ Path.key path = key :=
    fun key hkey => exists_includes_of_mem_keys hcount hkey
  refine ⟨?_, ?_, ?_⟩
  · intro key hkey
    rcases hsource key hkey with ⟨path, hincludes, rfl⟩
    exact Rules.key_of_includes hincludes
  · intro excluded hexcluded hkey
    rcases hsource _ hkey with ⟨path, hincludes, hpath⟩
    exact Rules.key_ne_of_excluded hbuild hexcluded hincludes hpath
  · have hnodup : keys.Nodup := nodup_keys_of_count hcount
    have hkeys : ∀ key ∈ keys, IsKey key := by
      intro key hkey
      rcases hsource key hkey with ⟨path, -, rfl⟩
      exact isKey_key path
    rw [List.Nodup, List.pairwise_map]
    refine hnodup.imp_of_mem ?_
    intro a b ha hb hne heq
    exact hne (extensionLabel_inj (hkeys a ha) (hkeys b hb) heq)

/-- Settings that leave out an extension. -/
def littered : Settings := { useDefaults := false, extensions := ["md"] }

/-- A command line that leaves out another. -/
def litterOptions : Options := { excludedExtensions := ["..x"] }

/-- The files `a.x.md`, `b.PNG`, `c.x`, `d.x.rs`, `e`, and one whose extension is the byte 0xff. -/
def litter : FileSystem where
  top :=
    .leaf [0x61, 0x2e, 0x78, 0x2e, 0x6d, 0x64] (.file [0x31] false)
      (.leaf [0x62, 0x2e, 0x50, 0x4e, 0x47] (.file [0x32] false)
        (.leaf [0x63, 0x2e, 0x78] (.file [0x33] false)
          (.leaf [0x64, 0x2e, 0x78, 0x2e, 0x72, 0x73] (.file [0x34] false)
            (.leaf [0x65] (.file [0x35] false)
              (.leaf [0x66, 0x2e, 0xff] (.file [0x36] false) .nil)))))
  wellFormed := by decide
  here := []

/-- The rules of both layers. -/
def litterRules : Rules := (litterOptions.override littered).build.toOption.getD .empty

/-- Three files are counted, under three keys. -/
theorem keys_of_count_litter :
    (litterOptions.override littered).build = .ok litterRules ∧
      ∃ counted, litter.count litterRules .empty [0x2f] = .ok counted ∧
        counted.census.entries.map (·.1) = [".rs", "no-extension", ".\ufffd"] ∧
        ".md" ∉ counted.census.entries.map (·.1) ∧ ".x" ∉ counted.census.entries.map (·.1) ∧
        ((counted.census.entries.map (·.1)).map extensionLabel).Nodup := by
  have hbuild : (litterOptions.override littered).build = .ok litterRules := by
    have hexists : ∃ rules, (litterOptions.override littered).build = .ok rules := by
      rw [Settings.build_eq, Rules.exists_addPatterns_iff]
      decide +kernel
    rcases hexists with ⟨rules, hrules⟩
    rw [litterRules, hrules]
    rfl
  have hopen : litter.openDirectory [0x2f] = .ok litter.top := by rfl
  have hcount : litter.count litterRules .empty [0x2f] = .ok (countListing litterRules .empty [0x2f] litter.top) := by
    rw [count, hopen]
    rfl
  rcases keys_of_count .empty hbuild hcount with ⟨-, hexcluded, hlabels⟩
  refine ⟨hbuild, _, hcount, by decide +kernel, ?_, ?_, hlabels⟩
  · exact hexcluded "md" (by decide)
  · exact hexcluded "..x" (by decide)

end FileSystem

end LineCensus
