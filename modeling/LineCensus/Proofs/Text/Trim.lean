import LineCensus.Text.Trim

/-!
# LineCensus.Proofs.Text.Trim — what trimming leaves of padded text

1. `isSolid`: text that is not empty and holds no white space.
2. `trimStart_eq_append_iff`, `trimEnd_eq_append_iff`: what it means that trimmed text begins, or ends, with
   solid text.
3. `trimStart_append_of_blank`, `trimStart_append`, `isBlankLine_pad` and the like: white space put in
   front of a text, or behind it.
-/

namespace LineCensus.Text

open Unicode (isBlank)

/-- Whether a text is not empty and holds no white space. -/
def isSolid (text : List Char) : Bool := !text.isEmpty && text.all (!isBlank ·)

theorem isBlank_eq_false_of_isSolid {text : List Char} (h : isSolid text = true) {c : Char}
    (hc : c ∈ text) : isBlank c = false := by
  have hall := (Bool.and_eq_true_iff.1 h).2
  simpa using List.all_eq_true.1 hall c hc

theorem isSolid_reverse {text : List Char} : isSolid text.reverse = isSolid text := by
  simp [isSolid]

/-! ## At the start -/

theorem trimStart_append_of_blank {ws : List Char} (hws : ws.all isBlank = true) (text : List Char) :
    trimStart (ws ++ text) = trimStart text :=
  List.dropWhile_append_of_pos (List.all_eq_true.1 hws)

theorem trimStart_eq_nil_of_blank {text : List Char} (h : text.all isBlank = true) :
    trimStart text = [] := dropWhile_eq_nil_iff_all.2 h

/-- Text behind a text that is not all white space stays. -/
theorem trimStart_append {text : List Char} (h : text.all isBlank = false) (vs : List Char) :
    trimStart (text ++ vs) = trimStart text ++ vs := by
  induction text with
  | nil => simp at h
  | cons c rest ih =>
    by_cases hc : isBlank c = true
    · have hrest : rest.all isBlank = false := by simpa [hc] using h
      have hdrop := ih hrest
      simp only [trimStart] at hdrop
      simp [trimStart, hc, hdrop]
    · simp [trimStart, hc]

/-- Solid text stays as it is, with all that follows. -/
theorem trimStart_solid_append {d : List Char} (hd : isSolid d = true) (rest : List Char) :
    trimStart (d ++ rest) = d ++ rest := by
  cases d with
  | nil => cases hd
  | cons c d =>
    have hc : isBlank c = false := isBlank_eq_false_of_isSolid hd List.mem_cons_self
    simp [trimStart, hc]

/-- Trimmed text begins with solid text if only white space stands in front of it. -/
theorem trimStart_eq_append_iff {d text rest : List Char} (hd : isSolid d = true) :
    trimStart text = d ++ rest ↔ ∃ ws : List Char, ws.all isBlank = true ∧ text = ws ++ d ++ rest := by
  constructor
  · intro h
    refine ⟨text.takeWhile isBlank, List.all_takeWhile, ?_⟩
    rw [List.append_assoc, ← h, trimStart, List.takeWhile_append_dropWhile]
  · rintro ⟨ws, hws, rfl⟩
    rw [List.append_assoc, trimStart_append_of_blank hws, trimStart_solid_append hd]

/-! ## At the end -/

theorem trimEnd_eq_reverse (text : List Char) : trimEnd text = (trimStart text.reverse).reverse := rfl

theorem trimEnd_append_of_blank {ws : List Char} (hws : ws.all isBlank = true) (text : List Char) :
    trimEnd (text ++ ws) = trimEnd text := by
  rw [trimEnd_eq_reverse, List.reverse_append, trimStart_append_of_blank (by simpa using hws),
    trimEnd_eq_reverse]

theorem trimEnd_eq_nil_of_blank {text : List Char} (h : text.all isBlank = true) :
    trimEnd text = [] := trimEnd_eq_nil_iff.2 h

/-- Text in front of a text that is not all white space stays. -/
theorem trimEnd_append {text : List Char} (h : text.all isBlank = false) (us : List Char) :
    trimEnd (us ++ text) = us ++ trimEnd text := by
  rw [trimEnd_eq_reverse, List.reverse_append, trimStart_append (by simpa using h),
    List.reverse_append, List.reverse_reverse, trimEnd_eq_reverse]

/-- Trimmed text ends with solid text if only white space stands behind it. -/
theorem trimEnd_eq_append_iff {d text front : List Char} (hd : isSolid d = true) :
    trimEnd text = front ++ d ↔ ∃ ws : List Char, ws.all isBlank = true ∧ text = front ++ d ++ ws := by
  have hd' : isSolid d.reverse = true := by rw [isSolid_reverse, hd]
  have hflip : trimEnd text = front ++ d ↔ trimStart text.reverse = d.reverse ++ front.reverse := by
    rw [trimEnd_eq_reverse, List.reverse_eq_iff, List.reverse_append]
  rw [hflip, trimStart_eq_append_iff hd']
  -- the end of a text is the start of its reverse
  constructor
  · rintro ⟨ws, hws, htext⟩
    refine ⟨ws.reverse, by simpa using hws, ?_⟩
    simpa using congrArg List.reverse htext
  · rintro ⟨ws, hws, rfl⟩
    exact ⟨ws.reverse, by simpa using hws, by simp⟩

/-! ## Padded lines -/

theorem isBlankLine_pad {us vs : List Char} (hus : us.all isBlank = true) (hvs : vs.all isBlank = true)
    (text : List Char) : isBlankLine (us ++ text ++ vs) = isBlankLine text := by
  rw [Bool.eq_iff_iff, isBlankLine_iff, isBlankLine_iff]
  simp only [List.all_append, hus, hvs, Bool.true_and, Bool.and_true]

/-- White space behind a text cannot complete solid text. -/
theorem prefix_append_blank_iff {d text vs : List Char} (hd : isSolid d = true)
    (hvs : vs.all isBlank = true) : d <+: text ++ vs ↔ d <+: text := by
  constructor
  · rintro ⟨rest, h⟩
    rcases List.append_eq_append_iff.1 h with ⟨as, htext, -⟩ | ⟨bs, hd', hvs'⟩
    · exact ⟨as, htext.symm⟩
    · -- `bs` is at the end of `d` and among the white space
      have hbs : bs = [] := by
        cases bs with
        | nil => rfl
        | cons c bs =>
          have hc : isBlank c = false :=
            isBlank_eq_false_of_isSolid hd (hd' ▸ List.mem_append_right _ List.mem_cons_self)
          have hc' : isBlank c = true :=
            List.all_eq_true.1 hvs c (hvs' ▸ List.mem_append_left _ List.mem_cons_self)
          rw [hc] at hc'
          cases hc'
      refine ⟨[], ?_⟩
      rw [hd', hbs, List.append_nil, List.append_nil]
  · intro h
    exact h.trans (List.prefix_append _ _)

/-- White space in front of a text cannot complete solid text. -/
theorem suffix_blank_append_iff {d text us : List Char} (hd : isSolid d = true)
    (hus : us.all isBlank = true) : d <:+ us ++ text ↔ d <:+ text := by
  rw [← List.reverse_prefix, ← List.reverse_prefix, List.reverse_append]
  exact prefix_append_blank_iff (by rw [isSolid_reverse, hd]) (by simpa using hus)

end LineCensus.Text
