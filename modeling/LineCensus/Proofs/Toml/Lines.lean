import LineCensus.Proofs.Toml.Values

/-!
# LineCensus.Proofs.Toml.Lines — a line is read whatever follows it

1. `endLine_append`: where a line ends, it ends whatever follows. `local_readHeader`: so it is with headers.
2. `IsField`, `IsHeader`: a line that gives a name a value, or begins the table of a name, in whatever way it does so:
   with blanks, empty lines and comments in front of it, blanks and a comment behind it, and any kind of key and value.
3. `IsField.readLinesFrom`, `IsHeader.readLinesFrom`: reading takes such a line and goes on behind it.
-/

namespace LineCensus.Toml

variable {text rest line : List Char} {name : String} {v : Value}

/-! ## The end of a line -/

/-- A comment leaves the end of its line. -/
theorem Ended.skipComment (hended : Ended text) (h : skipComment text = .ok rest) : Ended rest := by
  unfold Toml.skipComment at h
  split at h
  · dsimp only at h
    split at h
    · cases h
      exact (hended.tail (by decide)).dropWhile rfl
    · cases h
  · cases h
    exact hended

/-- Where a line ends, it ends whatever follows. -/
theorem endLine_append (hended : Ended text) (h : endLine text = .ok rest) (behind : List Char) :
    endLine (text ++ behind) = .ok (rest ++ behind) := by
  rcases bind_eq_ok_iff.1 h with ⟨middle, hcomment, hend⟩
  have hspace : Ended (skipSpace text) := hended.dropWhile rfl
  have hmiddle : Ended middle := hspace.skipComment hcomment
  have hcomment' : skipComment (skipSpace (text ++ behind)) = .ok (middle ++ behind) := by
    rw [skipSpace_append hspace]
    exact skips_skipComment.append hcomment hmiddle behind
  unfold endLine
  rw [hcomment']
  -- the text ends with a line feed, so its own end is not what ends the line
  cases middle with
  | nil => exact absurd rfl hmiddle.ne_nil
  | cons c more =>
    cases hnewline : newline? (c :: more) with
    | none =>
      simp only [hnewline] at hend
      cases hend
    | some next =>
      simp only [hnewline] at hend
      cases hend
      have hnewline' := newline?_append hnewline behind
      rw [List.cons_append] at hnewline' ⊢
      simp only [bind, Except.bind, hnewline']
      rfl

/-! ## Lines -/

/-- What stands behind the key of a header. -/
def readHeaderEnd (isElement : Bool) (parts : List String) (key : String) (text : List Char) :
    Except Fault (Rest Header) :=
  match isElement, text with
  | false, ']' :: rest => .ok (⟨parts, key, false⟩, rest)
  | true, ']' :: ']' :: rest => .ok (⟨parts, key, true⟩, rest)
  | _, _ => .error .unexpected

/-- Reads the key of a header and what closes it. -/
def readHeaderKey (isElement : Bool) (text : List Char) : Except Fault (Rest Header) :=
  readKey (text.length + 1) (skipSpace text) >>= fun x => splitKey x.1 >>= fun y =>
    readHeaderEnd isElement y.1 y.2 x.2

theorem local_readHeaderEnd (isElement : Bool) (parts : List String) (key : String) :
    Local (readHeaderEnd isElement parts key) (readHeaderEnd isElement parts key) := by
  apply local_of_cons
  · intro x h
    cases isElement <;> cases h
  · intro c
    by_cases hbracket : c = ']'
    · subst hbracket
      cases isElement with
      | false => exact local_pure _
      | true =>
        apply local_of_cons
        · intro x h
          cases h
        · intro d
          by_cases hbracket : d = ']'
          · subst hbracket
            exact local_pure _
          · apply local_of_ne_ok
            intro text x h
            rw [readHeaderEnd] at h
            · cases h
            · simp
            · simp [hbracket]
    · apply local_of_ne_ok
      intro text x h
      rw [readHeaderEnd] at h
      · cases h
      · simp [hbracket]
      · simp [hbracket]

theorem local_readHeaderKey (isElement : Bool) : Local (readHeaderKey isElement) (readHeaderKey isElement) := by
  have hend : ∀ parts, Local (fun text => splitKey parts >>= fun y => readHeaderEnd isElement y.1 y.2 text) fun text =>
      splitKey parts >>= fun y => readHeaderEnd isElement y.1 y.2 text := by
    intro parts
    exact local_check fun y => local_readHeaderEnd isElement y.1 y.2
  exact (local_afterSpace_of_fuel local_readKey).bind hend

theorem local_readHeader : Local readHeader readHeader := by
  have hother : ∀ text, text.head? ≠ some '[' → readHeader text = readHeaderKey false text := by
    intro text hhead
    unfold readHeader
    split
    next isElement behind hsign =>
      split at hsign
      · exact absurd rfl hhead
      · cases hsign
        rfl
  exact local_of_head '[' (local_readHeaderKey true) (local_readHeaderKey false) hother hother

/-- A line, with what may be passed over in front of it, that gives a name a value. -/
def IsField (line : List Char) (name : String) (v : Value) : Prop :=
  ∃ start behindName behindValue,
    skipLines (line.length + 1) line = .ok start ∧
      readKey (start.length + 1) start = .ok ([name], '=' :: behindName) ∧
        readValue (behindName.length + 1) 0 (skipSpace behindName) = .ok (v, behindValue) ∧
          Ended behindValue ∧ endLine behindValue = .ok []

/-- A line, with what may be passed over in front of it, that begins the table of a name. -/
def IsHeader (line : List Char) (name : String) : Prop :=
  ∃ start behindHeader,
    skipLines (line.length + 1) line = .ok ('[' :: start) ∧
      readHeader start = .ok (⟨[], name, false⟩, behindHeader) ∧
        Ended behindHeader ∧ endLine behindHeader = .ok []

theorem local_readField : Local (fun text => readValue (text.length + 1) 0 (skipSpace text)) fun text =>
    readValue (text.length + 1) 0 (skipSpace text) := by
  have hvalue : ∀ {fuel fuel'}, fuel ≤ fuel' → Local (readValue fuel 0) (readValue fuel' 0) := by
    intro fuel fuel' hfuel
    exact (local_values hfuel 0).1
  exact local_afterSpace_of_fuel hvalue

/-- A key begins with a quote or a letter of a bare key. -/
theorem start_of_readKey {c : Char} {fuel : Nat} {x : Rest (List String)} (h : readKey fuel (c :: text) = .ok x) :
    c = '"' ∨ c = '\'' ∨ isBareKey c = true := by
  by_cases hquote : c = '"'
  · exact .inl hquote
  by_cases hsingle : c = '\''
  · exact .inr (.inl hsingle)
  right
  right
  cases fuel with
  | zero => cases h
  | succ fuel =>
    rcases bind_eq_ok_iff.1 h with ⟨part, hpart, -⟩
    rw [readKeyPart_cons hquote hsingle] at hpart
    split at hpart
    · next hbare => exact hbare
    · cases hpart

theorem readLine_eq_readField {d : Draft} (h : text.head? ≠ some '[') :
    readLine d text = readField d text >>= fun x => endLine x.2 >>= fun rest => .ok (x.1, rest) := by
  unfold readLine
  split
  · exact absurd rfl h
  · rfl

theorem endLine_append_nil (hended : Ended text) (h : endLine text = .ok []) (behind : List Char) :
    endLine (text ++ behind) = .ok behind := endLine_append hended h behind

/-- One line is read, and reading goes on behind it. -/
theorem readLinesFrom_append {start : List Char} (hskip : skipLines (line.length + 1) line = .ok start)
    (hended : Ended start) {d d' : Draft} {behind : List Char} (hread : readLine d (start ++ behind) = .ok (d', behind))
    (fuel : Nat) : readLinesFrom (fuel + 1) d (line ++ behind) = readLinesFrom fuel d' behind := by
  have hskip' : skipLines ((line ++ behind).length + 1) (line ++ behind) = .ok (start ++ behind) :=
    skips_skipLines.append hskip hended behind
  rw [readLinesFrom, hskip']
  cases start with
  | nil => exact absurd rfl hended.ne_nil
  | cons c more =>
    show (readLine d (c :: more ++ behind) >>= fun x => readLinesFrom fuel x.1 x.2) = _
    rw [hread]
    rfl

theorem IsField.ended_start {start behindName behindValue : List Char}
    (hkey : readKey (start.length + 1) start = .ok ([name], '=' :: behindName))
    (hvalue : readValue (behindName.length + 1) 0 (skipSpace behindName) = .ok (v, behindValue))
    (hended : Ended behindValue) : Ended ('=' :: behindName) ∧ Ended start := by
  have hname : Ended ('=' :: behindName) :=
    hended.of_suffix ((local_readField.suffix hvalue).trans (List.suffix_cons _ _))
  exact ⟨hname, hname.of_suffix ((local_of_fuel local_readKey).suffix hkey)⟩

theorem IsField.readLinesFrom (h : IsField line name v) {d d' : Draft} (hinsert : d.insertField [] name v = .ok d')
    (fuel : Nat) (behind : List Char) :
    readLinesFrom (fuel + 1) d (line ++ behind) = Toml.readLinesFrom fuel d' behind := by
  rcases h with ⟨start, behindName, behindValue, hskip, hkey, hvalue, hended, hend⟩
  rcases IsField.ended_start hkey hvalue hended with ⟨hname, hstart⟩
  apply readLinesFrom_append hskip hstart
  have hkey' : readKey ((start ++ behind).length + 1) (start ++ behind) = .ok ([name], '=' :: (behindName ++ behind)) :=
    (local_of_fuel local_readKey).append hkey hname behind
  have hvalue' : readValue ((behindName ++ behind).length + 1) 0 (skipSpace (behindName ++ behind)) =
      .ok (v, behindValue ++ behind) := local_readField.append hvalue hended behind
  have hfield : readField d (start ++ behind) = .ok (d', behindValue ++ behind) := by
    unfold readField
    rw [hkey']
    show (readValue ((behindName ++ behind).length + 1) 0 (skipSpace (behindName ++ behind)) >>= fun x =>
      d.insertField [] name x.1 >>= fun d' => .ok (d', x.2)) = _
    rw [hvalue']
    show (d.insertField [] name v >>= fun d' => .ok (d', behindValue ++ behind)) = _
    rw [hinsert]
    rfl
  -- no key begins as a header does
  have hhead : (start ++ behind).head? ≠ some '[' := by
    cases start with
    | nil => exact absurd rfl hstart.ne_nil
    | cons c more =>
      have hc : c ≠ '[' := by
        rintro rfl
        exact absurd (start_of_readKey hkey) (by decide)
      simpa using hc
  rw [readLine_eq_readField hhead, hfield]
  show (endLine (behindValue ++ behind) >>= fun rest => .ok (d', rest)) = _
  rw [endLine_append_nil hended hend]
  rfl

theorem IsHeader.ended_start {start behindHeader : List Char} {header : Header}
    (hheader : readHeader start = .ok (header, behindHeader)) (hended : Ended behindHeader) : Ended ('[' :: start) :=
  hended.of_suffix ((local_readHeader.suffix hheader).trans (List.suffix_cons _ _))

theorem IsHeader.readLinesFrom (h : IsHeader line name) {d d' : Draft} (hopen : d.openTable ⟨[], name, false⟩ = .ok d')
    (fuel : Nat) (behind : List Char) :
    readLinesFrom (fuel + 1) d (line ++ behind) = Toml.readLinesFrom fuel d' behind := by
  rcases h with ⟨start, behindHeader, hskip, hheader, hended, hend⟩
  apply readLinesFrom_append hskip (IsHeader.ended_start hheader hended)
  show (readHeader (start ++ behind) >>= fun x => d.openTable x.1 >>= fun d =>
    endLine x.2 >>= fun rest => .ok (d, rest)) = _
  rw [local_readHeader.append hheader hended behind]
  show (d.openTable ⟨[], name, false⟩ >>= fun d => endLine (behindHeader ++ behind) >>= fun rest => .ok (d, rest)) = _
  rw [hopen]
  show (endLine (behindHeader ++ behind) >>= fun rest => .ok (d', rest)) = _
  rw [endLine_append_nil hended hend]
  rfl

/-- A line gives one name one value. -/
theorem IsField.unique (h : IsField line name v) {name' : String} {v' : Value} (h' : IsField line name' v') :
    name = name' ∧ v = v' := by
  rcases h with ⟨start, behindName, behindValue, hskip, hkey, hvalue, -, -⟩
  rcases h' with ⟨start', behindName', behindValue', hskip', hkey', hvalue', -, -⟩
  cases hskip.symm.trans hskip'
  cases hkey.symm.trans hkey'
  cases hvalue.symm.trans hvalue'
  exact ⟨rfl, rfl⟩

/-! ## The first character -/

/-- A byte order mark is not passed over. -/
theorem skipLines_mark (fuel : Nat) : skipLines (fuel + 1) ('\ufeff' :: text) = .ok ('\ufeff' :: text) :=
  skipLines_of_isStart (by decide) fuel text

/-- A line of a field is none without characters, and begins with no byte order mark. -/
theorem IsField.head (h : IsField line name v) : line ≠ [] ∧ line.head? ≠ some '\ufeff' := by
  rcases h with ⟨start, behindName, behindValue, hskip, hkey, hvalue, hended, -⟩
  have hstart := (IsField.ended_start hkey hvalue hended).2
  constructor
  · exact (hstart.of_suffix (skips_skipLines.suffix hskip)).ne_nil
  · intro hmark
    rcases List.head?_eq_some_iff.1 hmark with ⟨more, rfl⟩
    rw [skipLines_mark] at hskip
    cases hskip
    exact absurd (start_of_readKey hkey) (by decide)

theorem IsHeader.head (h : IsHeader line name) : line ≠ [] ∧ line.head? ≠ some '\ufeff' := by
  rcases h with ⟨start, behindHeader, hskip, hheader, hended, -⟩
  have hstart := IsHeader.ended_start hheader hended
  constructor
  · exact (hstart.of_suffix (skips_skipLines.suffix hskip)).ne_nil
  · intro hmark
    rcases List.head?_eq_some_iff.1 hmark with ⟨more, rfl⟩
    rw [skipLines_mark] at hskip
    cases hskip

end LineCensus.Toml
