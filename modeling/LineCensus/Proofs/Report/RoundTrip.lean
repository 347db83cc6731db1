import LineCensus.Proofs.Report.Spelling

/-!
# LineCensus.Proofs.Report.RoundTrip — a document is read as the value it was written from

1. `Datum.tokens`: the tokens that stand for a value, in order. `Json.datum`: what a written value means.
2. `Lexing.Cuts`: a text gives certain tokens wherever a word may end behind it.
   `cuts_quote`, `cuts_toDigits`, `cuts_block`: texts, numbers, and pieces between brackets.
3. `cuts_renderAt`: on whatever level a value is written, it is cut into its tokens. White space is lost.
4. `Parsing.run_tokens`: the tokens of a value, wherever it is expected, are read as this value.
5. `read?_render`: hence a document is read as the value it was written from.
-/

namespace LineCensus.Json

/-! ## Tokens of values -/

/-- Groups of tokens with commas between them. -/
def separated : List (List Token) → List Token
  | [] => []
  | first :: rest => first ++ rest.flatMap (.comma :: ·)

mutual

/-- The tokens of a value. -/
def Datum.tokens : Datum → List Token
  | .array values => .openArray :: separated (tokensOfValues values) ++ [.closeArray]
  | .object fields => .openObject :: separated (tokensOfFields fields) ++ [.closeObject]
  | .null => [.atom .null]
  | .boolean b => [.atom (.boolean b)]
  | .number mantissa exponent => [.atom (.number mantissa exponent)]
  | .text s => [.atom (.text s)]

/-- The tokens of each value of an array. -/
def tokensOfValues : List Datum → List (List Token)
  | [] => []
  | d :: rest => d.tokens :: tokensOfValues rest

/-- The tokens of each field of an object. -/
def tokensOfFields : List (String × Datum) → List (List Token)
  | [] => []
  | (name, d) :: rest => (.atom (.text name) :: .colon :: d.tokens) :: tokensOfFields rest

end

mutual

/-- What a value means. -/
def datum : Json → Datum
  | .number n => .number n 0
  | .text s => .text s
  | .array values => .array (datumOfValues values)
  | .object fields => .object (datumOfFields fields)

/-- What the values of an array mean. -/
def datumOfValues : List Json → List Datum
  | [] => []
  | v :: rest => v.datum :: datumOfValues rest

/-- What the fields of an object mean. -/
def datumOfFields : List (String × Json) → List (String × Datum)
  | [] => []
  | (name, v) :: rest => (name, v.datum) :: datumOfFields rest

end

theorem renderValues_eq_map (level : Nat) (values : List Json) :
    renderValues level values = values.map (renderAt level) := by
  induction values with
  | nil => rfl
  | cons v rest ih => rw [renderValues, ih, List.map_cons]

theorem renderFields_eq_map (level : Nat) (fields : List (String × Json)) :
    renderFields level fields = fields.map fun f => quote f.1 ++ [':', ' '] ++ renderAt level f.2 := by
  induction fields with
  | nil => rfl
  | cons f rest ih => rw [renderFields, ih, List.map_cons]

theorem tokensOfValues_datum (values : List Json) :
    tokensOfValues (datumOfValues values) = values.map fun v => v.datum.tokens := by
  induction values with
  | nil => rfl
  | cons v rest ih => rw [datumOfValues, tokensOfValues, ih, List.map_cons]

theorem tokensOfFields_datum (fields : List (String × Json)) :
    tokensOfFields (datumOfFields fields) =
      fields.map fun f => .atom (.text f.1) :: .colon :: f.2.datum.tokens := by
  induction fields with
  | nil => rfl
  | cons f rest ih => rw [datumOfFields, tokensOfFields, ih, List.map_cons]

/-! ## Cutting -/

namespace Lexing

/-- Tokens in front of others, if there are others. -/
def inFront (tokens : List Token) (others : Option (List Token)) : Option (List Token) := others.map (tokens ++ ·)

@[simp] theorem inFront_nil (others : Option (List Token)) : inFront [] others = others := by
  simp [inFront]

@[simp] theorem inFront_inFront (first second : List Token) (others : Option (List Token)) :
    inFront first (inFront second others) = inFront (first ++ second) others := by
  simp [inFront, Function.comp_def]

theorem tokens?_cons {s s' : Lexing} {c : Char} {tokens : List Token} (h : s.step c = some (tokens, s'))
    (rest : List Char) : s.tokens? (c :: rest) = inFront tokens (s'.tokens? rest) := by
  rw [tokens?, h]
  cases heq : s'.tokens? rest <;> simp [heq, inFront]

/-- Characters that end no token are only passed on. -/
theorem tokens?_of_step {s s' : Lexing} {c : Char} (h : s.step c = some ([], s')) (rest : List Char) :
    s.tokens? (c :: rest) = s'.tokens? rest := by
  rw [tokens?_cons h, inFront_nil]

/-! ### White space and marks -/

theorem tokens?_space {c : Char} (h : isSpace c = true) (rest : List Char) :
    between.tokens? (c :: rest) = between.tokens? rest := by
  apply tokens?_of_step
  rw [step, begin, if_pos h]

theorem tokens?_newline (level : Nat) (rest : List Char) :
    between.tokens? (newline level ++ rest) = between.tokens? rest := by
  have hspaces : ∀ n, between.tokens? (List.replicate n ' ' ++ rest) = between.tokens? rest := by
    intro n
    induction n with
    | zero => rfl
    | succ n ih => rw [List.replicate_succ, List.cons_append, tokens?_space rfl, ih]
  rw [newline, List.cons_append, tokens?_space rfl, hspaces]

theorem tokens?_mark {c : Char} {t : Token} (h : mark? c = some t) (rest : List Char) :
    between.tokens? (c :: rest) = inFront [t] (between.tokens? rest) := by
  have hstep : between.step c = some ([t], .between) := by
    unfold mark? at h
    split at h <;> first | cases h; rfl | cases h
  exact tokens?_cons hstep rest

/-! ### Texts -/

/-- What is neither a quote nor a backslash is collected. -/
theorem tokens?_plain (raw rest : List Char) {cs : List Char} (h : ∀ c ∈ cs, c ≠ '"' ∧ c ≠ '\\') :
    (text raw false).tokens? (cs ++ rest) = (text (raw ++ cs) false).tokens? rest := by
  induction cs generalizing raw with
  | nil => rw [List.nil_append, List.append_nil]
  | cons c cs ih =>
    rcases h c List.mem_cons_self with ⟨hquote, hslash⟩
    have hstep : (text raw false).step c = some ([], .text (raw ++ [c]) false) := by
      simp [step, hquote, hslash]
    rw [List.cons_append, tokens?_of_step hstep, ih _ fun d hd => h d (List.mem_cons_of_mem c hd),
      List.append_assoc, List.singleton_append]

/-- So are a backslash and what comes behind it. -/
theorem tokens?_backslash (raw rest : List Char) (letter : Char) :
    (text raw false).tokens? ('\\' :: letter :: rest) = (text (raw ++ ['\\', letter]) false).tokens? rest := by
  have hslash : (text raw false).step '\\' = some ([], .text (raw ++ ['\\']) true) := rfl
  have hletter : (text (raw ++ ['\\']) true).step letter = some ([], .text (raw ++ ['\\'] ++ [letter]) false) := rfl
  rw [tokens?_of_step hslash, tokens?_of_step hletter, List.append_assoc, List.singleton_append]

theorem plain_fourHex (n : Nat) : ∀ c ∈ fourHex n, c ≠ '"' ∧ c ≠ '\\' := by
  have hdigit : ∀ digit < 16, digit.digitChar ≠ '"' ∧ digit.digitChar ≠ '\\' := by decide
  intro c hc
  rcases List.mem_map.1 hc with ⟨digit, hmem, rfl⟩
  apply hdigit
  simp only [List.mem_cons, List.not_mem_nil, or_false] at hmem
  omega

theorem tokens?_escape (raw rest : List Char) (c : Char) :
    (text raw false).tokens? (escape c ++ rest) = (text (raw ++ escape c) false).tokens? rest := by
  rcases escape_cases c with ⟨letter, -, -, heq⟩ | ⟨-, heq⟩ | ⟨hquote, hslash, -, heq⟩
  · rw [heq]
    exact tokens?_backslash raw rest letter
  · rw [heq, List.cons_append, List.cons_append, tokens?_backslash, tokens?_plain _ _ (plain_fourHex c.toNat),
      List.append_assoc, List.cons_append, List.singleton_append]
  · rw [heq]
    apply tokens?_plain
    rintro d hd
    obtain rfl := List.mem_singleton.1 hd
    exact ⟨hquote, hslash⟩

theorem tokens?_flatMap_escape (raw rest cs : List Char) :
    (text raw false).tokens? (cs.flatMap escape ++ rest) =
      (text (raw ++ cs.flatMap escape) false).tokens? rest := by
  induction cs generalizing raw with
  | nil => rw [List.flatMap_nil, List.nil_append, List.append_nil]
  | cons c cs ih => rw [List.flatMap_cons, List.append_assoc, tokens?_escape, ih, List.append_assoc]

theorem tokens?_quote (s : String) (rest : List Char) :
    between.tokens? (quote s ++ rest) = inFront [.atom (.text s)] (between.tokens? rest) := by
  have hopen : between.step '"' = some ([], .text [] false) := rfl
  have hclose : (text (s.toList.flatMap escape) false).step '"' = some ([.atom (.text s)], .between) := by
    rw [step, if_pos rfl, unescape?_flatMap_escape]
    rfl
  rw [quote, List.cons_append, List.cons_append, List.append_assoc, tokens?_of_step hopen, tokens?_flatMap_escape,
    List.nil_append, List.singleton_append, tokens?_cons hclose]

/-! ### Numbers -/

/-- A word may end here. -/
def Stops (rest : List Char) : Prop := ∀ c ∈ rest.head?, isDelimiter c = true

theorem isDelimiter_of_isDigit {c : Char} (h : c.isDigit = true) : isDelimiter c = false := by
  have hmark : mark? c = none := by
    unfold mark?
    split <;> first | exact absurd h (by decide) | rfl
  simp [isDelimiter, hmark, isSpace, ne_of_isDigit ' ' h rfl, ne_of_isDigit '\n' h rfl, ne_of_isDigit '\r' h rfl,
    ne_of_isDigit '\t' h rfl, ne_of_isDigit '"' h rfl]

theorem begin_of_not_isDelimiter {c : Char} (h : isDelimiter c = false) : begin c = ([], .word [c]) := by
  rw [isDelimiter, Bool.or_eq_false_iff, Bool.or_eq_false_iff, beq_eq_false_iff_ne] at h
  rcases h with ⟨⟨hspace, hquote⟩, hmark⟩
  have hnone : mark? c = none := Option.isNone_iff_eq_none.1 (by simpa using hmark)
  simp [begin, hspace, hquote, hnone]

/-- A word goes on up to a delimiter. -/
theorem tokens?_letters (letters rest : List Char) {cs : List Char} (h : ∀ c ∈ cs, isDelimiter c = false) :
    (word letters).tokens? (cs ++ rest) = (word (letters ++ cs)).tokens? rest := by
  induction cs generalizing letters with
  | nil => rw [List.nil_append, List.append_nil]
  | cons c cs ih =>
    have hstep : (word letters).step c = some ([], .word (letters ++ [c])) := by
      simp [step, h c List.mem_cons_self]
    rw [List.cons_append, tokens?_of_step hstep, ih _ fun d hd => h d (List.mem_cons_of_mem c hd),
      List.append_assoc, List.singleton_append]

/-- At a delimiter or the end, a word is a value, and the text is cut as if nothing came before. -/
theorem tokens?_stop {letters rest : List Char} {d : Datum} (hword : word? letters = some d) (hstop : Stops rest) :
    (word letters).tokens? rest = inFront [.atom d] (between.tokens? rest) := by
  cases rest with
  | nil => simp [tokens?, finish, hword, inFront]
  | cons c rest =>
    -- the delimiter gives the word, and whatever it gives between tokens
    have hbetween : between.step c = some ((begin c).1, (begin c).2) := rfl
    have hstep : (word letters).step c = some (.atom d :: (begin c).1, (begin c).2) := by
      have hc : isDelimiter c = true := hstop c rfl
      simp [step, hc, hword]
    rw [tokens?_cons hstep, tokens?_cons hbetween, inFront_inFront, List.singleton_append]

theorem tokens?_toDigits (n : Nat) {rest : List Char} (hstop : Stops rest) :
    between.tokens? (Nat.toDigits 10 n ++ rest) = inFront [.atom (.number n 0)] (between.tokens? rest) := by
  have hdigit : ∀ c ∈ Nat.toDigits 10 n, isDelimiter c = false := by
    intro c hc
    exact isDelimiter_of_isDigit (isDigit_of_isWhole (isWhole_toDigits n) c hc)
  have hword : word? (Nat.toDigits 10 n) = some (.number n 0) := word?_toDigits n
  obtain ⟨first, digits, heq⟩ := List.exists_cons_of_ne_nil (Nat.toDigits_ne_nil (b := 10) (n := n))
  -- the first digit begins a word, and the others belong to it
  rw [heq] at hdigit hword ⊢
  have hbegin : between.step first = some ([], .word [first]) := by
    rw [step, begin_of_not_isDelimiter (hdigit first List.mem_cons_self)]
  rw [List.cons_append, tokens?_of_step hbegin,
    tokens?_letters [first] rest fun c hc => hdigit c (List.mem_cons_of_mem first hc)]
  exact tokens?_stop hword hstop

/-! ### Values -/

/-- A text gives these tokens wherever a word may end behind it. -/
def Cuts (shown : List Char) (tokens : List Token) : Prop :=
  ∀ rest, Stops rest → between.tokens? (shown ++ rest) = inFront tokens (between.tokens? rest)

theorem cuts_quote (s : String) : Cuts (quote s) [.atom (.text s)] := by
  intro rest _
  exact tokens?_quote s rest

theorem cuts_toDigits (n : Nat) : Cuts (Nat.toDigits 10 n) [.atom (.number n 0)] := by
  intro rest hstop
  exact tokens?_toDigits n hstop

theorem cuts_field {name : String} {shown : List Char} {tokens : List Token} (h : Cuts shown tokens) :
    Cuts (quote name ++ [':', ' '] ++ shown) (.atom (.text name) :: .colon :: tokens) := by
  intro rest hstop
  rw [List.append_assoc, List.append_assoc, tokens?_quote, List.cons_append, List.singleton_append,
    @tokens?_mark ':' .colon rfl, tokens?_space rfl, h rest hstop, inFront_inFront, inFront_inFront]
  rfl

section

variable {α : Type} {shown : α → List Char} {tokens : α → List Token}

/-- Further pieces, each behind a comma and on a line of its own. -/
theorem tokens?_pieces (level : Nat) {xs : List α} (h : ∀ x ∈ xs, Cuts (shown x) (tokens x)) {rest : List Char}
    (hstop : Stops rest) :
    Stops ((xs.map shown).flatMap (fun piece => ',' :: newline level ++ piece) ++ rest) ∧
      between.tokens? ((xs.map shown).flatMap (fun piece => ',' :: newline level ++ piece) ++ rest) =
        inFront ((xs.map tokens).flatMap (.comma :: ·)) (between.tokens? rest) := by
  induction xs with
  | nil => exact ⟨hstop, (inFront_nil _).symm⟩
  | cons x xs ih =>
    rcases ih fun y hy => h y (List.mem_cons_of_mem x hy) with ⟨hstops, htokens⟩
    constructor
    · rintro c ⟨⟩
      rfl
    · rw [List.map_cons, List.flatMap_cons, List.cons_append, List.append_assoc, List.cons_append, List.append_assoc,
        @tokens?_mark ',' .comma rfl, tokens?_newline, h x List.mem_cons_self _ hstops, htokens, inFront_inFront,
        inFront_inFront, List.map_cons, List.flatMap_cons]
      rfl

/-- Pieces between brackets. -/
theorem cuts_block {opening closing : Char} {first last : Token} (hfirst : mark? opening = some first)
    (hlast : mark? closing = some last) (level : Nat) {xs : List α} (h : ∀ x ∈ xs, Cuts (shown x) (tokens x)) :
    Cuts (block opening closing level (xs.map shown)) (first :: separated (xs.map tokens) ++ [last]) := by
  intro rest _
  cases xs with
  | nil =>
    rw [List.map_nil, block, List.cons_append, List.singleton_append, tokens?_mark hfirst, tokens?_mark hlast,
      inFront_inFront]
    rfl
  | cons x xs =>
    -- the line of the closing bracket begins with white space, so the last piece ends there
    have hend : Stops (newline level ++ closing :: rest) := by
      rintro c ⟨⟩
      rfl
    rcases tokens?_pieces (level + 1) (fun y hy => h y (List.mem_cons_of_mem x hy)) hend with ⟨hstops, htokens⟩
    rw [List.map_cons, block]
    simp only [List.cons_append, List.append_assoc, List.nil_append]
    simp only [List.cons_append] at hstops htokens
    rw [tokens?_mark hfirst, tokens?_newline, h x List.mem_cons_self _ hstops, htokens, tokens?_newline,
      tokens?_mark hlast]
    simp only [inFront_inFront, List.map_cons, separated, List.append_assoc, List.singleton_append]

end

mutual

/-- On whatever level a value is written, it is cut into its tokens. -/
theorem cuts_renderAt : (v : Json) → (level : Nat) → Cuts (renderAt level v) v.datum.tokens
  | .number n, level => by
    rw [renderAt, datum, Datum.tokens]
    exact cuts_toDigits n
  | .text s, level => by
    rw [renderAt, datum, Datum.tokens]
    exact cuts_quote s
  | .array values, level => by
    rw [renderAt, datum, Datum.tokens, renderValues_eq_map, tokensOfValues_datum]
    exact cuts_block rfl rfl level (cuts_values values (level + 1))
  | .object fields, level => by
    rw [renderAt, datum, Datum.tokens, renderFields_eq_map, tokensOfFields_datum]
    exact cuts_block rfl rfl level (cuts_fields fields (level + 1))

theorem cuts_values :
    (values : List Json) → (level : Nat) → ∀ v ∈ values, Cuts (renderAt level v) v.datum.tokens
  | [], level => by simp
  | v :: rest, level => by
    rw [List.forall_mem_cons]
    exact ⟨cuts_renderAt v level, cuts_values rest level⟩

theorem cuts_fields :
    (fields : List (String × Json)) → (level : Nat) → ∀ f ∈ fields,
      Cuts (quote f.1 ++ [':', ' '] ++ renderAt level f.2) (.atom (.text f.1) :: .colon :: f.2.datum.tokens)
  | [], level => by simp
  | (name, v) :: rest, level => by
    rw [List.forall_mem_cons]
    exact ⟨cuts_field (cuts_renderAt v level), cuts_fields rest level⟩

end

/-- A document is cut into the tokens of its value. -/
theorem tokens?_render (v : Json) : between.tokens? (render v) = some v.datum.tokens := by
  have hend : Stops [] := by
    rintro c ⟨⟩
  have hcuts : between.tokens? (renderAt 0 v ++ []) = inFront v.datum.tokens (some []) := cuts_renderAt v 0 [] hend
  rw [render, ← List.append_nil (renderAt 0 v), hcuts]
  simp [inFront]

end Lexing

/-! ## Parsing -/

namespace Parsing

theorem run_cons {p p' : Parsing} {t : Token} (h : p.step t = some p') (rest : List Token) :
    p.run (t :: rest) = p'.run rest := by
  rw [run, h]
  rfl

/-- No value begins with the end of an array. -/
theorem run_item (d : Datum) (frames : List Frame) (rest : List Token) :
    run (.item (.array [] :: frames)) (d.tokens ++ rest) = run (.value (.array [] :: frames)) (d.tokens ++ rest) := by
  cases d <;> rfl

theorem run_name (name : String) (before : List (String × Datum)) (mayEnd : Bool) (frames : List Frame)
    (rest : List Token) :
    run (.key before mayEnd frames) (.atom (.text name) :: .colon :: rest) =
      run (.value (.object before name :: frames)) rest := by
  cases mayEnd <;> rfl

mutual

/-- The tokens of a value, wherever it is expected, are read as this value. -/
theorem run_tokens :
    (d : Datum) → (frames : List Frame) → (rest : List Token) →
      run (.value frames) (d.tokens ++ rest) = run (.behind d frames) rest
  | .array [], frames, rest => by rfl
  | .array (d :: values), frames, rest => by
    have hopen : step (.value frames) .openArray = some (.item (.array [] :: frames)) := rfl
    rw [Datum.tokens, tokensOfValues, separated, List.append_assoc, List.cons_append, List.append_assoc,
      run_cons hopen, run_item, run_tokens d]
    exact run_values values d [] frames rest
  | .object [], frames, rest => by rfl
  | .object ((name, d) :: fields), frames, rest => by
    have hopen : step (.value frames) .openObject = some (.key [] true frames) := rfl
    rw [Datum.tokens, tokensOfFields, separated, List.append_assoc, List.cons_append, List.append_assoc,
      run_cons hopen, List.cons_append, List.cons_append, run_name, run_tokens d]
    exact run_fields fields name d [] frames rest
  | .null, frames, rest => by rfl
  | .boolean b, frames, rest => by rfl
  | .number mantissa exponent, frames, rest => by rfl
  | .text s, frames, rest => by rfl

/-- Behind a value of an array, the others are read up to its end. -/
theorem run_values :
    (values : List Datum) → (d : Datum) → (before : List Datum) → (frames : List Frame) → (rest : List Token) →
      run (.behind d (.array before :: frames))
          ((tokensOfValues values).flatMap (.comma :: ·) ++ ([.closeArray] ++ rest)) =
        run (.behind (.array (before ++ d :: values)) frames) rest
  | [], d, before, frames, rest => by rfl
  | next :: values, d, before, frames, rest => by
    have hcomma : step (.behind d (.array before :: frames)) .comma =
        some (.value (.array (before ++ [d]) :: frames)) := rfl
    rw [tokensOfValues, List.flatMap_cons, List.append_assoc, List.cons_append, run_cons hcomma, run_tokens next,
      run_values values next, List.append_assoc, List.singleton_append]

/-- Behind a field of an object, the others are read up to its end. -/
theorem run_fields :
    (fields : List (String × Datum)) → (name : String) → (d : Datum) → (before : List (String × Datum)) →
      (frames : List Frame) → (rest : List Token) →
      run (.behind d (.object before name :: frames))
          ((tokensOfFields fields).flatMap (.comma :: ·) ++ ([.closeObject] ++ rest)) =
        run (.behind (.object (before ++ (name, d) :: fields)) frames) rest
  | [], name, d, before, frames, rest => by rfl
  | (next, d') :: fields, name, d, before, frames, rest => by
    have hcomma : step (.behind d (.object before name :: frames)) .comma =
        some (.key (before ++ [(name, d)]) false frames) := rfl
    rw [tokensOfFields, List.flatMap_cons, List.append_assoc, List.cons_append, run_cons hcomma, List.cons_append,
      List.cons_append, run_name, run_tokens d', run_fields fields next, List.append_assoc, List.singleton_append]

end

end Parsing

/-! ## Documents -/

/-- The tokens of a value are read as this value. -/
theorem parse?_tokens (d : Datum) : parse? d.tokens = some d := by
  have hrun : Parsing.run (.value []) (d.tokens ++ []) = some (.behind d []) := Parsing.run_tokens d [] []
  rw [List.append_nil] at hrun
  rw [parse?, hrun]
  rfl

/-- A document is read as the value it was written from. -/
theorem read?_render (v : Json) : read? (render v) = some v.datum := by
  rw [read?, Lexing.tokens?_render]
  exact parse?_tokens v.datum

end LineCensus.Json
