import LineCensus.Text.Lines

/-!
# LineCensus.Proofs.Text.Lines — how texts are cut where their line ends differ

All three facts are about the line that has begun, so the inductions go along the text with what was read of that
line general.

1. `withReturns`: a text with a carriage return before each line feed. `lines_withReturns`: it has the same lines,
   unless a carriage return stood before a line feed already, which would be left in its line.
2. `lines_append_newline`: a line feed behind an unfinished line adds no line.
3. `EndsLine`: no line is left unfinished. `lines_append`: what follows has its lines behind those before.
-/

namespace LineCensus.Text

/-! ## One line -/

theorem linesFrom_newline (begun rest : List Char) :
    linesFrom begun ('\n' :: rest) = (dropReturn begun).reverse :: lines rest := rfl

theorem linesFrom_cons_of_ne {c : Char} (hc : c ≠ '\n') (begun rest : List Char) :
    linesFrom begun (c :: rest) = linesFrom (c :: begun) rest := if_neg hc

/-- Only a carriage return is taken off. -/
theorem dropReturn_of_head?_ne {begun : List Char} (h : begun.head? ≠ some '\r') : dropReturn begun = begun := by
  unfold dropReturn
  split
  · next before => exact absurd rfl h
  · rfl

/-! ## Carriage returns before line feeds -/

/-- The text with a carriage return before each line feed. -/
def withReturns (text : List Char) : List Char :=
  text.flatMap fun c => if c = '\n' then ['\r', '\n'] else [c]

theorem withReturns_newline (rest : List Char) : withReturns ('\n' :: rest) = '\r' :: '\n' :: withReturns rest := rfl

theorem withReturns_cons_of_ne {c : Char} (hc : c ≠ '\n') (rest : List Char) :
    withReturns (c :: rest) = c :: withReturns rest := by
  rw [withReturns, List.flatMap_cons, if_neg hc]
  rfl

/-- A line that has begun goes on the same way. A carriage return at its end is no part of a line's end. -/
theorem linesFrom_withReturns {text : List Char} (hpair : ¬['\r', '\n'] <:+: text) (begun : List Char)
    (hbegun : begun.head? = some '\r' → text.head? ≠ some '\n') :
    linesFrom begun (withReturns text) = linesFrom begun text := by
  induction text generalizing begun with
  | nil => rfl
  | cons c rest ih =>
    have hrest : ¬['\r', '\n'] <:+: rest := by
      intro hinfix
      exact hpair (List.infix_cons hinfix)
    by_cases hc : c = '\n'
    · subst hc
      have hhead : begun.head? ≠ some '\r' := by
        intro hreturn
        exact hbegun hreturn rfl
      have hreturn : ('\r' : Char) ≠ '\n' := by decide
      -- the carriage return that was put in is the one that is taken off
      rw [withReturns_newline, linesFrom_cons_of_ne hreturn, linesFrom_newline, linesFrom_newline,
        dropReturn_of_head?_ne hhead]
      have hlines : lines (withReturns rest) = lines rest := ih hrest [] (by simp)
      rw [hlines]
      rfl
    · rw [withReturns_cons_of_ne hc, linesFrom_cons_of_ne hc, linesFrom_cons_of_ne hc]
      apply ih hrest
      intro hreturn hnewline
      -- both together would be a line's end in the text
      have hfirst : c = '\r' := by simpa using hreturn
      obtain ⟨more, hmore⟩ : ∃ more, rest = '\n' :: more := by
        cases rest with
        | nil => simp at hnewline
        | cons d more => exact ⟨more, by simpa using hnewline⟩
      apply hpair
      rw [hfirst, hmore]
      exact ⟨[], more, rfl⟩

/-- A text without a carriage return before a line feed has the same lines with one before each. -/
theorem lines_withReturns {text : List Char} (hpair : ¬['\r', '\n'] <:+: text) :
    lines (withReturns text) = lines text := by
  apply linesFrom_withReturns hpair
  simp

/-! ## A line feed at the end -/

theorem linesFrom_append_newline {text : List Char} (hne : text ≠ []) (hnewline : text.getLast? ≠ some '\n')
    (hreturn : text.getLast? ≠ some '\r') (begun : List Char) :
    linesFrom begun (text ++ ['\n']) = linesFrom begun text := by
  induction text generalizing begun with
  | nil => exact absurd rfl hne
  | cons c rest ih =>
    cases rest with
    | nil =>
      have hc : c ≠ '\n' := by simpa using hnewline
      have hkept : dropReturn (c :: begun) = c :: begun := by
        apply dropReturn_of_head?_ne
        simpa using hreturn
      rw [List.cons_append, linesFrom_cons_of_ne hc, linesFrom_cons_of_ne hc, List.nil_append, linesFrom_newline, hkept]
      rfl
    | cons d more =>
      rw [List.getLast?_cons_cons] at hnewline hreturn
      have hmore : ∀ begun, linesFrom begun (d :: more ++ ['\n']) = linesFrom begun (d :: more) :=
        ih (List.cons_ne_nil d more) hnewline hreturn
      by_cases hc : c = '\n'
      · subst hc
        rw [List.cons_append, linesFrom_newline, linesFrom_newline, lines, hmore]
        rfl
      · rw [List.cons_append, linesFrom_cons_of_ne hc, linesFrom_cons_of_ne hc, hmore]

/-- A line feed behind a line that is not finished adds no line. A carriage return at its end would become a part of
the line's end. -/
theorem lines_append_newline {text : List Char} (hne : text ≠ []) (hnewline : text.getLast? ≠ some '\n')
    (hreturn : text.getLast? ≠ some '\r') : lines (text ++ ['\n']) = lines text :=
  linesFrom_append_newline hne hnewline hreturn []

/-! ## One text after the other -/

/-- No line is left unfinished. -/
def EndsLine (text : List Char) : Prop := text = [] ∨ text.getLast? = some '\n'

theorem linesFrom_append {text : List Char} (h : text.getLast? = some '\n') (begun more : List Char) :
    linesFrom begun (text ++ more) = linesFrom begun text ++ lines more := by
  induction text generalizing begun with
  | nil => cases h
  | cons c rest ih =>
    cases rest with
    | nil =>
      obtain rfl : c = '\n' := by simpa using h
      rw [List.cons_append, List.nil_append, linesFrom_newline, linesFrom_newline]
      rfl
    | cons d after =>
      rw [List.getLast?_cons_cons] at h
      by_cases hc : c = '\n'
      · subst hc
        rw [List.cons_append, linesFrom_newline, linesFrom_newline, lines, ih h]
        rfl
      · rw [List.cons_append, linesFrom_cons_of_ne hc, linesFrom_cons_of_ne hc, ih h]

/-- Behind a text that leaves no line unfinished another has its own lines. -/
theorem lines_append {text : List Char} (h : EndsLine text) (more : List Char) :
    lines (text ++ more) = lines text ++ lines more := by
  rcases h with rfl | h
  · rfl
  · exact linesFrom_append h [] more

end LineCensus.Text
