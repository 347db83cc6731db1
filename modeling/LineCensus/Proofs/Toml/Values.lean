import LineCensus.Proofs.Toml.Strings

/-!
# LineCensus.Proofs.Toml.Values — keys and values are read without what follows

Each reader that calls another one is written with that one as a parameter, so that the nesting of values is in one
induction only, `local_values`.

1. `local_readKey`: keys, part after part.
2. `goOn`: where a word ends. `local_readScalar`: numbers, truth values and dates.
3. `readElement`, `readFieldFirst`, `readOther`: arrays and tables in braces, with readers for what is in them.
4. `local_values`: values, elements and fields, by induction on the steps at hand.
-/

namespace LineCensus.Toml

variable {text rest : List Char}

/-! ## Keys -/

theorem local_takeWhile {α : Type} (p : Char → Bool) (f : List Char → α) :
    Local (fun text => .ok (f (text.takeWhile p), text.dropWhile p)) fun text =>
      .ok (f (text.takeWhile p), text.dropWhile p) where
  suffix h := by
    cases h
    exact List.dropWhile_suffix p
  append h hended behind := by
    cases h
    rcases dropWhile_append_of_ended hended behind with ⟨hdrop, htake⟩
    rw [hdrop, htake]

theorem readKeyPart_cons {c : Char} (hquote : c ≠ '"') (hsingle : c ≠ '\'') (text : List Char) :
    readKeyPart (c :: text) =
      if isBareKey c then .ok (String.ofList (c :: text.takeWhile isBareKey), text.dropWhile isBareKey)
      else .error .unexpected := by
  have hpart : readKeyPart (c :: text) =
      if ((c :: text).takeWhile isBareKey).isEmpty then .error .unexpected
      else .ok (String.ofList ((c :: text).takeWhile isBareKey), (c :: text).dropWhile isBareKey) := by
    unfold readKeyPart
    split
    · next heq => exact absurd (List.cons.inj heq).1 hquote
    · next heq => exact absurd (List.cons.inj heq).1 hsingle
    · rfl
  rw [hpart]
  cases hbare : isBareKey c with
  | true =>
    rw [List.takeWhile_cons_of_pos hbare, List.dropWhile_cons_of_pos hbare]
    rfl
  | false =>
    rw [List.takeWhile_cons_of_neg (by simp [hbare])]
    rfl

theorem local_readKeyPart : Local readKeyPart readKeyPart := by
  apply local_of_cons
  · intro x h
    cases h
  · intro c
    by_cases hquote : c = '"'
    · subst hquote
      exact (local_of_fuel local_readBasic).mapResult String.ofList
    by_cases hsingle : c = '\''
    · subst hsingle
      exact local_readLiteral.mapResult String.ofList
    simp only [readKeyPart_cons hquote hsingle]
    split
    · exact local_takeWhile isBareKey fun cs => String.ofList (c :: cs)
    · exact local_error _

theorem Local.afterSpace {α : Type} {read read' : List Char → Except Fault (Rest α)} (h : Local read read') :
    Local (fun text => read (skipSpace text)) fun text => read' (skipSpace text) where
  suffix hread := (h.suffix hread).trans (skipSpace_suffix _)
  append hread hended behind := by
    rw [skipSpace_append (hended.of_suffix (h.suffix hread))]
    exact h.append hread hended behind

/-- A reader that passes blanks over and may go on for as long as there is text. -/
theorem local_afterSpace_of_fuel {α : Type} {read : Nat → List Char → Except Fault (Rest α)}
    (h : ∀ {fuel fuel'}, fuel ≤ fuel' → Local (read fuel) (read fuel')) :
    Local (fun text => read (text.length + 1) (skipSpace text)) fun text =>
      read (text.length + 1) (skipSpace text) := by
  have hspace : ∀ {fuel fuel'}, fuel ≤ fuel' →
      Local (fun text => read fuel (skipSpace text)) fun text => read fuel' (skipSpace text) := by
    intro fuel fuel' hfuel
    exact (h hfuel).afterSpace
  exact local_of_fuel hspace

/-- Reads what stands behind one part of a key. -/
def readKeyRest (read : List Char → Except Fault (Rest (List String))) (part : String) :
    List Char → Except Fault (Rest (List String))
  | '.' :: rest => read (skipSpace rest) >>= fun x => .ok (part :: x.1, x.2)
  | rest => .ok ([part], rest)

theorem local_readKeyRest {read read' : List Char → Except Fault (Rest (List String))} (h : Local read read')
    (part : String) : Local (readKeyRest read part) (readKeyRest read' part) := by
  have hother : ∀ read text, text.head? ≠ some '.' → readKeyRest read part text = .ok ([part], text) := by
    intro read text hhead
    rw [readKeyRest]
    rintro rest rfl
    exact hhead rfl
  exact local_of_head '.' (h.map (part :: ·)).afterSpace (local_pure [part]) (hother read) (hother read')

theorem local_readKey {fuel fuel' : Nat} (h : fuel ≤ fuel') : Local (readKey fuel) (readKey fuel') := by
  induction fuel generalizing fuel' with
  | zero => exact local_error _
  | succ fuel ih =>
    obtain ⟨fuel', rfl⟩ : ∃ n, fuel' = n + 1 := ⟨fuel' - 1, by omega⟩
    have hrest : Local (readKey fuel) (readKey fuel') := ih (by omega)
    exact local_readKeyPart.bind fun part => (local_readKeyRest hrest part).afterSpace

/-! ## Values -/

/-- A word with the text behind it. A date goes on behind one space if a digit follows. -/
def goOn (word rest : List Char) : Rest (List Char) :=
  match readDate? word, rest with
  | some [], ' ' :: d :: more =>
    if d.isDigit then
      (word ++ ' ' :: (d :: more).takeWhile (!endsWord ·), (d :: more).dropWhile (!endsWord ·))
    else (word, rest)
  | _, _ => (word, rest)

theorem readScalar_eq (text : List Char) :
    readScalar text =
      let cut := goOn (text.takeWhile (!endsWord ·)) (text.dropWhile (!endsWord ·))
      match scalar? cut.1 with
      | some v => .ok (v, cut.2)
      | none => .error .badScalar := rfl

theorem goOn_of_date {word : List Char} {d : Char} (hdate : readDate? word = some []) (hdigit : d.isDigit = true)
    (more : List Char) :
    goOn word (' ' :: d :: more) =
      (word ++ ' ' :: (d :: more).takeWhile (!endsWord ·), (d :: more).dropWhile (!endsWord ·)) := by
  unfold goOn
  rw [hdate]
  exact if_pos hdigit

theorem goOn_of_not {word rest : List Char}
    (h : ¬∃ d more, rest = ' ' :: d :: more ∧ readDate? word = some [] ∧ d.isDigit = true) :
    goOn word rest = (word, rest) := by
  unfold goOn
  split
  · next d more hdate =>
    rw [if_neg]
    intro hdigit
    exact h ⟨d, more, rfl, hdate, hdigit⟩
  · rfl

theorem goOn_suffix (word rest : List Char) : (goOn word rest).2 <:+ rest := by
  unfold goOn
  split
  · split
    · exact (List.dropWhile_suffix _).trans (List.suffix_cons _ _)
    · exact List.suffix_rfl
  · exact List.suffix_rfl

theorem goOn_append {word rest : List Char} (hended : Ended (goOn word rest).2) (behind : List Char) :
    goOn word (rest ++ behind) = ((goOn word rest).1, (goOn word rest).2 ++ behind) := by
  have hrest : Ended rest := hended.of_suffix (goOn_suffix word rest)
  by_cases hgoes : ∃ d more, rest = ' ' :: d :: more ∧ readDate? word = some [] ∧ d.isDigit = true
  · rcases hgoes with ⟨d, more, rfl, hdate, hdigit⟩
    rw [goOn_of_date hdate hdigit] at hended ⊢
    rcases dropWhile_append_of_ended hended behind with ⟨hdrop, htake⟩
    rw [List.cons_append, List.cons_append, goOn_of_date hdate hdigit, ← List.cons_append, hdrop, htake]
  · rw [goOn_of_not hgoes, goOn_of_not]
    rintro ⟨d, more, heq, hdate, hdigit⟩
    -- one space cannot be all that is left of a line
    rcases rest with _ | ⟨c, _ | ⟨d', more'⟩⟩
    · exact hrest.ne_nil rfl
    · cases Option.some.inj hrest
      exact absurd (List.cons.inj heq).1 (by decide)
    · simp only [List.cons_append, List.cons.injEq] at heq
      rcases heq with ⟨rfl, rfl, -⟩
      exact hgoes ⟨d', more', rfl, hdate, hdigit⟩

theorem local_readScalar : Local readScalar readScalar where
  suffix := by
    intro text v rest h
    rw [readScalar_eq] at h
    dsimp only at h
    split at h
    · cases h
      exact (goOn_suffix _ _).trans (List.dropWhile_suffix _)
    · cases h
  append := by
    intro text v rest h hended behind
    rw [readScalar_eq] at h ⊢
    dsimp only at h ⊢
    split at h
    · next v hscalar =>
      cases h
      rcases dropWhile_append_of_ended (hended.of_suffix (goOn_suffix _ _)) behind with ⟨hdrop, htake⟩
      rw [hdrop, htake, goOn_append hended behind]
      simp only [hscalar]
    · cases h

/-- What stands behind an element of an array. -/
def readElementEnd (more : List Char → Except Fault (Rest (List Value))) (v : Value) :
    List Char → Except Fault (Rest (List Value))
  | ',' :: rest => more rest >>= fun x => .ok (v :: x.1, x.2)
  | ']' :: rest => .ok ([v], rest)
  | _ => .error .unexpected

theorem local_readElementEnd {more more' : List Char → Except Fault (Rest (List Value))} (h : Local more more')
    (v : Value) : Local (readElementEnd more v) (readElementEnd more' v) := by
  apply local_of_cons
  · intro x hread
    cases hread
  · intro c
    by_cases hcomma : c = ','
    · subst hcomma
      exact h.map (v :: ·)
    by_cases hbracket : c = ']'
    · subst hbracket
      exact local_pure [v]
    · apply local_of_ne_ok
      intro text x hread
      rw [readElementEnd] at hread
      · cases hread
      · simp [hcomma]
      · simp [hbracket]

/-- Reads the elements of an array from the first character on. -/
def readElement (read : List Char → Except Fault (Rest Value)) (more : List Char → Except Fault (Rest (List Value))) :
    List Char → Except Fault (Rest (List Value))
  | ']' :: rest => .ok ([], rest)
  | text => read text >>= fun x => skipLines (x.2.length + 1) x.2 >>= readElementEnd more x.1

theorem local_readElement {read read' : List Char → Except Fault (Rest Value)}
    {more more' : List Char → Except Fault (Rest (List Value))} (hread : Local read read') (hmore : Local more more') :
    Local (readElement read more) (readElement read' more') := by
  have hother : ∀ read more text, text.head? ≠ some ']' →
      readElement read more text =
        read text >>= fun x => skipLines (x.2.length + 1) x.2 >>= readElementEnd more x.1 := by
    intro read more text hhead
    rw [readElement]
    rintro rest rfl
    exact hhead rfl
  apply local_of_head ']' (local_pure []) _ (hother read more) (hother read' more')
  exact hread.bind fun v => skips_skipLines.bind (local_readElementEnd hmore v)

/-- What stands behind a field of a table in braces. -/
def readFieldEnd (more : Items → List Char → Except Fault (Rest Items)) (items : Items) :
    List Char → Except Fault (Rest Items)
  | ',' :: rest => more items rest
  | '}' :: rest => .ok (items, rest)
  | _ => .error .unexpected

theorem local_readFieldEnd {more more' : Items → List Char → Except Fault (Rest Items)}
    (h : ∀ items, Local (more items) (more' items)) (items : Items) :
    Local (readFieldEnd more items) (readFieldEnd more' items) := by
  apply local_of_cons
  · intro x hread
    cases hread
  · intro c
    by_cases hcomma : c = ','
    · subst hcomma
      exact h items
    by_cases hbrace : c = '}'
    · subst hbrace
      exact local_pure items
    · apply local_of_ne_ok
      intro text x hread
      rw [readFieldEnd] at hread
      · cases hread
      · simp [hcomma]
      · simp [hbrace]

/-- Reads the value of a field, from the equals sign on. -/
def readFieldValue (read : List Char → Except Fault (Rest Value))
    (more : Items → List Char → Except Fault (Rest Items)) (items : Items) (parts : List String) (key : String) :
    List Char → Except Fault (Rest Items)
  | '=' :: rest =>
    read (skipSpace rest) >>= fun x => items.insertField parts key x.1 >>= fun items =>
      skipLines (x.2.length + 1) x.2 >>= readFieldEnd more items
  | _ => .error .unexpected

theorem local_readFieldValue {read read' : List Char → Except Fault (Rest Value)}
    {more more' : Items → List Char → Except Fault (Rest Items)} (hread : Local read read')
    (hmore : ∀ items, Local (more items) (more' items)) (items : Items) (parts : List String) (key : String) :
    Local (readFieldValue read more items parts key) (readFieldValue read' more' items parts key) := by
  apply local_of_cons
  · intro x h
    cases h
  · intro c
    by_cases hequals : c = '='
    · subst hequals
      have hafter : ∀ v, Local
          (fun text => items.insertField parts key v >>= fun items =>
            skipLines (text.length + 1) text >>= readFieldEnd more items)
          fun text => items.insertField parts key v >>= fun items =>
            skipLines (text.length + 1) text >>= readFieldEnd more' items := by
        intro v
        exact local_check fun items => skips_skipLines.bind (local_readFieldEnd hmore items)
      exact hread.afterSpace.bind hafter
    · apply local_of_ne_ok
      intro text x h
      rw [readFieldValue] at h
      · cases h
      · simp [hequals]

/-- Reads the fields of a table in braces from the first character on. -/
def readFieldFirst (read : List Char → Except Fault (Rest Value))
    (more : Items → List Char → Except Fault (Rest Items)) (items : Items) : List Char → Except Fault (Rest Items)
  | '}' :: rest => .ok (items, rest)
  | text =>
    readKey (text.length + 1) text >>= fun x => splitKey x.1 >>= fun y => readFieldValue read more items y.1 y.2 x.2

theorem local_readFieldFirst {read read' : List Char → Except Fault (Rest Value)}
    {more more' : Items → List Char → Except Fault (Rest Items)} (hread : Local read read')
    (hmore : ∀ items, Local (more items) (more' items)) (items : Items) :
    Local (readFieldFirst read more items) (readFieldFirst read' more' items) := by
  have hother : ∀ read more text, text.head? ≠ some '}' →
      readFieldFirst read more items text =
        readKey (text.length + 1) text >>= fun x => splitKey x.1 >>= fun y =>
          readFieldValue read more items y.1 y.2 x.2 := by
    intro read more text hhead
    rw [readFieldFirst]
    rintro rest rfl
    exact hhead rfl
  apply local_of_head '}' (local_pure items) _ (hother read more) (hother read' more')
  have hafter : ∀ parts, Local
      (fun text => splitKey parts >>= fun y => readFieldValue read more items y.1 y.2 text)
      fun text => splitKey parts >>= fun y => readFieldValue read' more' items y.1 y.2 text := by
    intro parts
    exact local_check fun y => local_readFieldValue hread hmore items y.1 y.2
  exact (local_of_fuel local_readKey).bind hafter

/-- Reads a value that is no string and no array. -/
def readBraced (fields : List Char → Except Fault (Rest Items)) (depth : Nat) : List Char → Except Fault (Rest Value)
  | '{' :: rest =>
    if depthLimit ≤ depth then .error .tooDeep else fields rest >>= fun x => .ok (.table (Item.toFields x.1), x.2)
  | text => readScalar text

/-- Reads a value that is no string. -/
def readOther (values : List Char → Except Fault (Rest (List Value))) (fields : List Char → Except Fault (Rest Items))
    (depth : Nat) : List Char → Except Fault (Rest Value)
  | '[' :: rest => if depthLimit ≤ depth then .error .tooDeep else values rest >>= fun x => .ok (.array x.1, x.2)
  | '{' :: rest =>
    if depthLimit ≤ depth then .error .tooDeep else fields rest >>= fun x => .ok (.table (Item.toFields x.1), x.2)
  | text => readScalar text

theorem local_deeper {α : Type} {read read' : List Char → Except Fault (Rest α)} (h : Local read read') (depth : Nat) :
    Local (fun text => if depthLimit ≤ depth then .error .tooDeep else read text) fun text =>
      if depthLimit ≤ depth then .error .tooDeep else read' text := by
  split
  · exact local_error _
  · exact h

theorem local_readBraced {fields fields' : List Char → Except Fault (Rest Items)} (h : Local fields fields')
    (depth : Nat) : Local (readBraced fields depth) (readBraced fields' depth) := by
  have hother : ∀ fields text, text.head? ≠ some '{' → readBraced fields depth text = readScalar text := by
    intro fields text hhead
    rw [readBraced]
    rintro rest rfl
    exact hhead rfl
  have hhead := local_deeper (h.map fun items => Value.table (Item.toFields items)) depth
  exact local_of_head '{' hhead local_readScalar (hother fields) (hother fields')

theorem local_readOther {values values' : List Char → Except Fault (Rest (List Value))}
    {fields fields' : List Char → Except Fault (Rest Items)} (hvalues : Local values values')
    (hfields : Local fields fields') (depth : Nat) :
    Local (readOther values fields depth) (readOther values' fields' depth) := by
  have hother : ∀ values fields text, text.head? ≠ some '[' →
      readOther values fields depth text = readBraced fields depth text := by
    intro values fields text hhead
    unfold readOther readBraced
    split
    · exact absurd rfl hhead
    · rfl
    · next hbrace =>
      split
      · exact absurd rfl (hbrace _)
      · rfl
  have hhead := local_deeper (hvalues.map Value.array) depth
  exact local_of_head '[' hhead (local_readBraced hfields depth) (hother values fields) (hother values' fields')

theorem local_values {fuel fuel' : Nat} (h : fuel ≤ fuel') (depth : Nat) :
    Local (readValue fuel depth) (readValue fuel' depth) ∧ Local (readElements fuel depth) (readElements fuel' depth) ∧
      ∀ items, Local (readFields fuel depth items) (readFields fuel' depth items) := by
  induction fuel generalizing fuel' depth with
  | zero => exact ⟨local_error _, local_error _, fun _ => local_error _⟩
  | succ fuel ih =>
    obtain ⟨fuel', rfl⟩ : ∃ n, fuel' = n + 1 := ⟨fuel' - 1, by omega⟩
    have hfuel : fuel ≤ fuel' := by omega
    rcases ih hfuel depth with ⟨hvalue, helements, hfields⟩
    -- what is in brackets or braces is one level deeper
    rcases ih hfuel (depth + 1) with ⟨-, hinner, hinnerFields⟩
    refine ⟨?_, ?_, ?_⟩
    · exact local_text (f := fun cs => .text (String.ofList cs)) (local_readOther hinner (hinnerFields []) depth)
    · exact skips_skipLines.bind (local_readElement hvalue helements)
    · intro items
      exact skips_skipLines.bind (local_readFieldFirst hvalue hfields items)

end LineCensus.Toml
