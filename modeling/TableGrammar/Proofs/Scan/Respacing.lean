import TableGrammar.Proofs.Scan.MaximalMunch

/-!
# Lexemes with single spaces between them

A lexeme that is not an open string is cut off again, as it is, wherever a blank follows it
(`Scan.cuts_complete`). So lexemes of which only the last may be an open string can be written with
single spaces between them and read back (`lexemes_intercalate`).
-/

namespace TableGrammar

variable {special : List Char}

/-! ### Complete and unclosed lexemes -/

/-- A lexeme that ends where a blank follows it. -/
inductive Text.Complete (special : List Char) : List Char → Prop where
  | number {lexeme : List Char} (h : Text.isNumeral lexeme = true) : Complete special lexeme
  | symbol {c : Char} (hblank : Text.isBlank c = false) (hquote : Text.isQuote c = false)
      (hdigit : c.isDigit = false) (hspecial : special.contains c = true) : Complete special [c]
  | word {run : List Char} (hne : run ≠ []) (hrun : ∀ c ∈ run, Text.isPlain special c = true) :
      Complete special run
  | string {run body : List Char} {quote : Char}
      (hrun : ∀ c ∈ run, Text.isPlain special c = true) (hquote : Text.isQuote quote = true)
      (hbody : Text.closes quote body = true) : Complete special (run ++ quote :: body)

/-- A lexeme whose string runs to its end, so that nothing can follow it. -/
inductive Text.Unclosed (special : List Char) : List Char → Prop where
  | intro {run body : List Char} {quote : Char}
      (hrun : ∀ c ∈ run, Text.isPlain special c = true) (hquote : Text.isQuote quote = true)
      (hbody : Text.stringRest quote body = body) : Unclosed special (run ++ quote :: body)

/-- The lexemes are complete, except perhaps the last one. -/
inductive Text.Separable (special : List Char) : List (List Char) → Prop where
  | nil : Separable special []
  | last {lexeme : List Char} (h : Text.Unclosed special lexeme) : Separable special [lexeme]
  | cons {lexeme : List Char} {lexemes : List (List Char)} (h : Text.Complete special lexeme)
      (hrest : Separable special lexemes) : Separable special (lexeme :: lexemes)

/-- Complete lexemes may stand in front. -/
lemma Text.Separable.append {front rest : List (List Char)}
    (hfront : ∀ lexeme ∈ front, Text.Complete special lexeme)
    (hrest : Text.Separable special rest) : Text.Separable special (front ++ rest) := by
  induction front with
  | nil => exact hrest
  | cons lexeme front ih =>
    rw [List.forall_mem_cons] at hfront
    exact .cons hfront.1 (ih hfront.2)

lemma Text.Separable.of_complete {words : List (List Char)}
    (h : ∀ word ∈ words, Text.Complete special word) : Text.Separable special words := by
  rw [← List.append_nil words]
  exact .append h .nil

/-! ### Where strings end -/

/-- Induction on the text of a string, in which a backslash is taken together with the character
that it keeps. -/
@[elab_as_elim]
lemma Text.escape_induction {motive : List Char → Prop} (nil : motive [])
    (lone : motive ['\\']) (kept : ∀ c text, motive text → motive ('\\' :: c :: text))
    (plain : ∀ c text, c ≠ '\\' → motive text → motive (c :: text)) (text : List Char) :
    motive text := by
  match text with
  | [] => exact nil
  | [c] =>
    by_cases hc : c = '\\'
    · exact hc ▸ lone
    · exact plain c [] hc nil
  | c :: d :: rest =>
    by_cases hc : c = '\\'
    · exact hc ▸ kept d rest (Text.escape_induction nil lone kept plain rest)
    · exact plain c (d :: rest) hc (Text.escape_induction nil lone kept plain (d :: rest))

lemma Text.stringRest_lone (quote : Char) : Text.stringRest quote ['\\'] = ['\\'] := by
  simp [Text.stringRest]

lemma Text.stringRest_kept (quote c : Char) (text : List Char) :
    Text.stringRest quote ('\\' :: c :: text) = '\\' :: c :: Text.stringRest quote text := by
  simp [Text.stringRest]

lemma Text.stringRest_cons {c : Char} (hc : c ≠ '\\') (quote : Char) (text : List Char) :
    Text.stringRest quote (c :: text) =
      if c = quote then [c] else c :: Text.stringRest quote text := by
  cases text <;> simp [Text.stringRest, hc]

lemma Text.closes_kept (quote c : Char) (text : List Char) :
    Text.closes quote ('\\' :: c :: text) = Text.closes quote text := by
  simp [Text.closes]

lemma Text.closes_cons {c : Char} (hc : c ≠ '\\') (quote : Char) (text : List Char) :
    Text.closes quote (c :: text) = if c = quote then text.isEmpty else Text.closes quote text := by
  cases text <;> simp [Text.closes, hc]

/-- A string that is closed ends there, whatever follows. -/
lemma Text.stringRest_append_of_closes {quote : Char} {body : List Char}
    (h : Text.closes quote body = true) (rest : List Char) :
    Text.stringRest quote (body ++ rest) = body := by
  induction body using Text.escape_induction with
  | nil => cases h
  | lone => cases h
  | kept c body ih =>
    rw [Text.closes_kept] at h
    simp only [List.cons_append, Text.stringRest_kept, ih h]
  | plain c body hc ih =>
    rw [Text.closes_cons hc] at h
    rw [List.cons_append, Text.stringRest_cons hc]
    split_ifs at h with hquote
    · rw [if_pos hquote, List.isEmpty_iff.mp h]
    · rw [if_neg hquote, ih h]

/-! ### Cutting off what has been written -/

lemma Text.leadingString_quote {quote : Char} (hquote : Text.isQuote quote = true)
    (text : List Char) :
    Text.leadingString (quote :: text) = quote :: Text.stringRest quote text := by
  simp [Text.leadingString, hquote]

lemma Text.isPlain_of_isBlank {c : Char} (h : Text.isBlank c = true) :
    Text.isPlain special c = false := by
  simp [Text.isPlain, h]

lemma Text.isPlain_of_isQuote {c : Char} (h : Text.isQuote c = true) :
    Text.isPlain special c = false := by
  simp [Text.isPlain, h]

lemma Text.isQuote_of_isBlank {c : Char} (h : Text.isBlank c = true) : Text.isQuote c = false := by
  by_contra hquote
  rw [Text.isBlank_of_isQuote (by simpa using hquote)] at h
  cases h

lemma Text.isDigit_of_isBlank {c : Char} (h : Text.isBlank c = true) : c.isDigit = false := by
  by_contra hdigit
  rw [Text.isBlank_of_isDigit (by simpa using hdigit)] at h
  cases h

/-- A number is cut off where a blank follows it. -/
lemma Scan.cuts_numeral {lexeme rest : List Char} (h : Text.isNumeral lexeme = true)
    (hrest : ∀ c ∈ rest.head?, Text.isBlank c = true) :
    Scan.Cuts special (lexeme ++ rest) lexeme := by
  have hdigit : ∀ c ∈ rest.head?, c.isDigit = false :=
    fun c hc => Text.isDigit_of_isBlank (hrest c hc)
  obtain ⟨whole, hne, hwhole, rfl | ⟨fraction, hfraction, rfl⟩⟩ := Text.isNumeral_iff.mp h
  · have hpoint : ∀ c ∈ rest.head?, c.isDigit = false ∧ c ≠ '.' := by
      intro c hc
      refine ⟨hdigit c hc, ?_⟩
      rintro rfl
      exact absurd (hrest '.' hc) (by decide)
    have hcuts : Scan.Cuts special _ _ := Scan.cuts_whole hne hwhole hpoint
    rwa [Text.longest_isNumeral_whole hne hwhole hpoint] at hcuts
  · have hcuts : Scan.Cuts special _ _ := Scan.cuts_fraction hne hwhole hfraction hdigit
    rwa [Text.longest_isNumeral_fraction hne hwhole hfraction hdigit] at hcuts

/-- A word is cut off together with the string that stops it. -/
lemma Scan.cuts_word_string {run : List Char} {quote : Char}
    (hrun : ∀ c ∈ run, Text.isPlain special c = true) (hquote : Text.isQuote quote = true)
    (after : List Char) :
    Scan.Cuts special (run ++ quote :: after) (run ++ Text.leadingString (quote :: after)) := by
  refine Scan.cuts_word (by simp [Text.leadingString_quote hquote]) hrun ?_
  intro c hc
  obtain rfl : quote = c := by simpa using hc
  exact Text.isPlain_of_isQuote hquote

/-- A word without a string is cut off where anything follows it that can neither go on with it nor
open a string. -/
lemma Scan.cuts_run {run rest : List Char} (hne : run ≠ [])
    (hrun : ∀ c ∈ run, Text.isPlain special c = true)
    (hrest : ∀ c ∈ rest.head?, Text.isPlain special c = false ∧ Text.isQuote c = false) :
    Scan.Cuts special (run ++ rest) run := by
  have hstring : Text.leadingString rest = [] :=
    Text.leadingString_eq_nil fun c hc => (hrest c hc).2
  have hlexeme : run ++ Text.leadingString rest = run := by rw [hstring, List.append_nil]
  have hcuts := Scan.cuts_word (by rwa [hlexeme]) hrun fun c hc => (hrest c hc).1
  rwa [hlexeme] at hcuts

/-- A complete lexeme is cut off where a blank follows it. -/
lemma Scan.cuts_complete {lexeme rest : List Char} (h : Text.Complete special lexeme)
    (hrest : ∀ c ∈ rest.head?, Text.isBlank c = true) :
    Scan.Cuts special (lexeme ++ rest) lexeme := by
  cases h with
  | number h => exact Scan.cuts_numeral h hrest
  | symbol hblank hquote hdigit hspecial =>
    exact Scan.cuts_special hblank hquote hdigit hspecial rest
  | word hne hrun =>
    refine Scan.cuts_run hne hrun ?_
    intro c hc
    exact ⟨Text.isPlain_of_isBlank (hrest c hc), Text.isQuote_of_isBlank (hrest c hc)⟩
  | @string run body quote hrun hquote hbody =>
    have hstring : Text.leadingString (quote :: (body ++ rest)) = quote :: body := by
      rw [Text.leadingString_quote hquote, Text.stringRest_append_of_closes hbody]
    rw [List.append_assoc, List.cons_append, ← hstring]
    exact Scan.cuts_word_string hrun hquote (body ++ rest)

/-- A string that is not closed is cut off at the end of the text. -/
lemma Scan.cuts_unclosed {lexeme : List Char} (h : Text.Unclosed special lexeme) :
    Scan.Cuts special lexeme lexeme := by
  obtain @⟨run, body, quote, hrun, hquote, hbody⟩ := h
  have hcuts := Scan.cuts_word_string hrun hquote body
  rwa [Text.leadingString_quote hquote, hbody] at hcuts

lemma Scan.wordsOver_complete {lexeme : List Char} (h : Text.Complete special lexeme)
    (rest : List Char) (lexemes : List (List Char)) :
    Scan.wordsOver special ⟨.normal, [], lexemes⟩ (lexeme ++ ' ' :: rest) =
      Scan.wordsOver special ⟨.normal, [], lexeme :: lexemes⟩ rest := by
  have hcuts : Scan.Cuts special (lexeme ++ ' ' :: rest) lexeme :=
    Scan.cuts_complete h (by simp [Text.isBlank, Text.blankRanges])
  rw [hcuts.wordsOver, List.drop_left, Scan.wordsOver_cons, Scan.read_blank _ _ (by decide)]
  rfl

lemma Scan.wordsOver_intercalate {words : List (List Char)} (h : Text.Separable special words)
    (lexemes : List (List Char)) :
    Scan.wordsOver special ⟨.normal, [], lexemes⟩ ([' '].intercalate words) =
      lexemes.reverse ++ words := by
  induction h generalizing lexemes with
  | nil => simp [Scan.words, Scan.flush]
  | @last lexeme h =>
    rw [List.intercalate_singleton, (Scan.cuts_unclosed h).wordsOver, List.drop_length]
    simp [Scan.words, Scan.flush]
  | @cons lexeme words h hrest ih =>
    cases words with
    | nil =>
      have hcuts : Scan.Cuts special (lexeme ++ []) lexeme := Scan.cuts_complete h (by simp)
      rw [List.append_nil] at hcuts
      rw [List.intercalate_singleton, hcuts.wordsOver, List.drop_length]
      simp [Scan.words, Scan.flush]
    | cons word words =>
      have hwords := ih (lexeme :: lexemes)
      rw [List.reverse_cons, List.append_assoc] at hwords
      rw [List.intercalate_cons_cons, List.append_assoc, List.singleton_append,
        Scan.wordsOver_complete h]
      exact hwords

/-- Lexemes that are written with single spaces between them are read back. -/
lemma lexemes_intercalate {words : List String}
    (h : Text.Separable special (words.map String.toList)) :
    lexemes special (" ".intercalate words) = words := by
  have hwords := Scan.wordsOver_intercalate h []
  rw [List.reverse_nil, List.nil_append] at hwords
  rw [lexemes, String.toList_intercalate]
  show (Scan.wordsOver special {} ([' '].intercalate (words.map String.toList))).map _ = words
  rw [hwords, List.map_map]
  simp

/-! ### Lexemes of a text -/

lemma toList_lexemes (special : List Char) (text : String) :
    (lexemes special text).map String.toList = munch special text.toList := by
  have hwords : Scan.wordsOver special {} text.toList = _ := Scan.wordsOver_eq_munch [] text.toList
  rw [List.reverse_nil, List.nil_append] at hwords
  rw [← hwords, lexemes, List.map_map]
  simp only [Function.comp_def, String.toList_ofList, List.map_id']
  rfl

lemma lexemes_ofList (special text : List Char) :
    lexemes special (String.ofList text) = (munch special text).map String.ofList := by
  have htoList := toList_lexemes special (String.ofList text)
  rw [String.toList_ofList] at htoList
  rw [← htoList, List.map_map]
  simp

/-- A lexeme that is cut off in front of a text comes first, and then those of the text. -/
lemma lexemes_append_of_cuts {word rest : String}
    (h : Scan.Cuts special (word.toList ++ rest.toList) word.toList) :
    lexemes special (word ++ rest) = word :: lexemes special rest := by
  have hmunch := h.wordsOver []
  rw [List.drop_left, Scan.wordsOver_eq_munch, Scan.wordsOver_eq_munch] at hmunch
  apply List.map_injective_iff.mpr fun _ _ => String.toList_inj.mp
  rw [List.map_cons, toList_lexemes, toList_lexemes, String.toList_append]
  simpa using hmunch

lemma lexemes_space (special : List Char) (rest : String) :
    lexemes special (" " ++ rest) = lexemes special rest := by
  have hspace : Scan.read special {} ' ' = {} := Scan.read_blank _ _ (by decide)
  rw [lexemes, lexemes, String.toList_append]
  show (Scan.readAll special (Scan.read special {} ' ') rest.toList).words.map _ = _
  rw [hspace]

/-- A complete lexeme with a space behind it is read back, whatever follows. -/
lemma lexemes_intercalate_cons {word next : String} (h : Text.Complete special word.toList)
    (words : List String) :
    lexemes special (" ".intercalate (word :: next :: words)) =
      word :: lexemes special (" ".intercalate (next :: words)) := by
  rw [String.intercalate_cons_cons, String.append_assoc, lexemes_append_of_cuts, lexemes_space]
  refine Scan.cuts_complete h ?_
  simp [Text.isBlank, Text.blankRanges]

/-- A lexeme without quotes that holds a special character is that character alone. Digits and the
point are other than that: they may belong to a number. -/
lemma Text.Complete.eq_singleton {lexeme : List Char} (h : Text.Complete special lexeme)
    (hquotes : ∀ d ∈ lexeme, Text.isQuote d = false) {c : Char} (hc : c ∈ lexeme)
    (hspecial : special.contains c = true) (hdigit : c.isDigit = false) (hpoint : c ≠ '.') :
    lexeme = [c] := by
  cases h with
  | number h =>
    exfalso
    obtain ⟨whole, -, hwhole, rfl | ⟨fraction, hfraction, rfl⟩⟩ := Text.isNumeral_iff.mp h
    · simp [hwhole c hc] at hdigit
    · rcases List.mem_append.mp hc with hc | hc
      · simp [hwhole c hc] at hdigit
      · rcases List.mem_cons.mp hc with hc | hc
        · exact hpoint hc
        · simp [hfraction c hc] at hdigit
  | symbol hblank hquote hdigit' hspecial' => rw [List.mem_singleton.mp hc]
  | word hne hrun =>
    have hplain := hrun c hc
    simp only [Text.isPlain, hspecial, Bool.not_true, Bool.and_false, Bool.false_eq_true] at hplain
  | @string run body quote hrun hquote hbody =>
    have hnone := hquotes quote (by simp)
    rw [hquote] at hnone
    cases hnone

/-- A lexeme without quotes is complete, wherever it stands. -/
lemma Text.Separable.complete {lexemes : List (List Char)} (h : Text.Separable special lexemes)
    {lexeme : List Char} (hmem : lexeme ∈ lexemes)
    (hquotes : ∀ d ∈ lexeme, Text.isQuote d = false) : Text.Complete special lexeme := by
  induction h with
  | nil => cases hmem
  | @last other h =>
    obtain rfl := List.mem_singleton.mp hmem
    obtain @⟨run, body, quote, hrun, hquote, hbody⟩ := h
    have hnone := hquotes quote (by simp)
    rw [hquote] at hnone
    cases hnone
  | cons h hrest ih =>
    rcases List.mem_cons.mp hmem with rfl | hmem
    · exact h
    · exact ih hmem

end TableGrammar
