import Mathlib
import TableGrammar.Lexer
import TableGrammar.Proofs.Scan.Strings
import TableGrammar.Proofs.Text.Case

/-!
# Tokens made again from their values

The values of tokens differ from the lexemes they were made from in the case of letters only, and
that changes neither where a text is cut nor how the pieces are classified. So the values of the
tokens of a text, with single spaces between them, have the same tokens
(`Lexer.tokenize_intercalate_values`).
-/

namespace TableGrammar

variable {special : List Char}

/-! ### Upper case -/

lemma Text.toUpper_ne_backslash {c : Char} (h : c ≠ '\\') : c.toUpper ≠ '\\' :=
  (Text.toUpper_eq_iff (by decide)).not.mpr h

lemma Text.isAlpha_of_isQuote {c : Char} (h : Text.isQuote c = true) : c.isAlpha = false := by
  rcases Text.isQuote_iff.mp h with rfl | rfl <;> decide

lemma Text.isPlain_of_isAlpha {c : Char} (h : c.isAlpha = true)
    (hspecial : special.contains c = false) : Text.isPlain special c = true := by
  have hrange : 65 ≤ c.toNat ∧ c.toNat ≤ 122 := by
    simp only [Char.isAlpha, Char.isUpper, Char.isLower, Bool.or_eq_true, decide_eq_true_eq,
      ge_iff_le, Bool.and_eq_true, UInt32.le_iff_toNat_le] at h
    rcases h with ⟨hlo, hhi⟩ | ⟨hlo, hhi⟩
    · exact ⟨hlo, Nat.le_trans hhi (by decide)⟩
    · exact ⟨Nat.le_trans (by decide) hlo, hhi⟩
  have hblank : Text.isBlank c = false := by
    simp [Text.isBlank, Text.blankRanges]
    omega
  have hquote : Text.isQuote c = false := by
    by_contra hquote
    rw [Text.isAlpha_of_isQuote (by simpa using hquote)] at h
    cases h
  simp only [Text.isPlain, hblank, hquote, Text.isDigit_of_isAlpha h, hspecial]
  rfl

lemma Text.isPlain_of_isUpper {c : Char} (h : c.isUpper = true)
    (hspecial : ∀ d ∈ special, d.isUpper = false) : Text.isPlain special c = true := by
  refine Text.isPlain_of_isAlpha (by simp [Char.isAlpha, h]) ?_
  by_contra hcontains
  rw [hspecial c (by simpa using hcontains)] at h
  cases h

/-- Upper case keeps the characters of words. -/
lemma Text.isPlain_toUpper {c : Char} (h : Text.isPlain special c = true)
    (hspecial : ∀ d ∈ special, d.isUpper = false) : Text.isPlain special c.toUpper = true := by
  by_cases halpha : c.isAlpha = true
  · exact Text.isPlain_of_isUpper (by rwa [Char.isUpper_toUpper_eq_isAlpha]) hspecial
  · rwa [Text.toUpper_of_not_isAlpha (by simpa using halpha)]

lemma Text.map_toUpper_numeral {lexeme : List Char} (h : Text.isNumeral lexeme = true) :
    lexeme.map Char.toUpper = lexeme := by
  have hletters : ∀ c ∈ lexeme, c.isAlpha = false := by
    intro c hc
    obtain ⟨whole, -, hwhole, rfl | ⟨fraction, hfraction, rfl⟩⟩ := Text.isNumeral_iff.mp h
    · exact Text.isAlpha_of_isDigit (hwhole c hc)
    · rcases List.mem_append.mp hc with hc | hc
      · exact Text.isAlpha_of_isDigit (hwhole c hc)
      · rcases List.mem_cons.mp hc with rfl | hc
        · decide
        · exact Text.isAlpha_of_isDigit (hfraction c hc)
  have hsame : ∀ c ∈ lexeme, c.toUpper = id c :=
    fun c hc => Text.toUpper_of_not_isAlpha (hletters c hc)
  rw [List.map_congr_left hsame, List.map_id]

lemma Text.stringRest_map_toUpper {quote : Char} (hquote : Text.isQuote quote = true)
    (text : List Char) :
    Text.stringRest quote (text.map Char.toUpper) =
      (Text.stringRest quote text).map Char.toUpper := by
  have hletter := Text.isAlpha_of_isQuote hquote
  have hslash : '\\'.toUpper = '\\' := Text.toUpper_of_not_isAlpha (by decide)
  induction text using Text.escape_induction with
  | nil => rfl
  | lone => rw [Text.stringRest_lone, List.map_singleton, hslash, Text.stringRest_lone]
  | kept c text ih =>
    rw [Text.stringRest_kept, List.map_cons, List.map_cons, List.map_cons, List.map_cons, hslash,
      Text.stringRest_kept, ih]
  | plain c text hc ih =>
    rw [List.map_cons, Text.stringRest_cons (Text.toUpper_ne_backslash hc),
      Text.stringRest_cons hc, ih]
    simp only [Text.toUpper_eq_iff hletter]
    split_ifs <;> rfl

lemma Text.closes_map_toUpper {quote : Char} (hquote : Text.isQuote quote = true)
    (text : List Char) : Text.closes quote (text.map Char.toUpper) = Text.closes quote text := by
  have hletter := Text.isAlpha_of_isQuote hquote
  have hslash : '\\'.toUpper = '\\' := Text.toUpper_of_not_isAlpha (by decide)
  induction text using Text.escape_induction with
  | nil => rfl
  | lone => rfl
  | kept c text ih =>
    rw [List.map_cons, List.map_cons, hslash, Text.closes_kept, Text.closes_kept, ih]
  | plain c text hc ih =>
    rw [List.map_cons, Text.closes_cons (Text.toUpper_ne_backslash hc), Text.closes_cons hc, ih]
    simp only [Text.toUpper_eq_iff hletter]
    split_ifs with hclose
    · cases text <;> rfl
    · rfl

/-- A complete lexeme is complete in upper case, too. A special letter becomes a word of its own. -/
lemma Text.Complete.toUpper {lexeme : List Char} (h : Text.Complete special lexeme)
    (hspecial : ∀ d ∈ special, d.isUpper = false) :
    Text.Complete special (lexeme.map Char.toUpper) := by
  cases h with
  | number h =>
    rw [Text.map_toUpper_numeral h]
    exact .number h
  | @symbol c hblank hquote hdigit hcontains =>
    by_cases halpha : c.isAlpha = true
    · have hplain : Text.isPlain special c.toUpper = true :=
        Text.isPlain_of_isUpper (by rwa [Char.isUpper_toUpper_eq_isAlpha]) hspecial
      exact .word (by simp) (by simpa using hplain)
    · rw [List.map_singleton, Text.toUpper_of_not_isAlpha (by simpa using halpha)]
      exact .symbol hblank hquote hdigit hcontains
  | word hne hrun =>
    refine .word (by simpa using hne) ?_
    simpa using fun c hc => Text.isPlain_toUpper (hrun c hc) hspecial
  | @string run body quote hrun hquote hbody =>
    rw [List.map_append, List.map_cons,
      Text.toUpper_of_not_isAlpha (Text.isAlpha_of_isQuote hquote)]
    refine .string ?_ hquote (by rwa [Text.closes_map_toUpper hquote])
    simpa using fun c hc => Text.isPlain_toUpper (hrun c hc) hspecial

lemma Text.Unclosed.toUpper {lexeme : List Char} (h : Text.Unclosed special lexeme)
    (hspecial : ∀ d ∈ special, d.isUpper = false) :
    Text.Unclosed special (lexeme.map Char.toUpper) := by
  obtain @⟨run, body, quote, hrun, hquote, hbody⟩ := h
  rw [List.map_append, List.map_cons,
    Text.toUpper_of_not_isAlpha (Text.isAlpha_of_isQuote hquote)]
  refine .intro ?_ hquote (by rw [Text.stringRest_map_toUpper hquote, hbody])
  simpa using fun c hc => Text.isPlain_toUpper (hrun c hc) hspecial

/-- Lexemes stay separable where some of them are turned to upper case. -/
lemma Text.Separable.map {lexemes : List (List Char)} (h : Text.Separable special lexemes)
    (hspecial : ∀ d ∈ special, d.isUpper = false) {f : List Char → List Char}
    (hf : ∀ lexeme, f lexeme = lexeme ∨ f lexeme = lexeme.map Char.toUpper) :
    Text.Separable special (lexemes.map f) := by
  induction h with
  | nil => exact .nil
  | @last lexeme h =>
    rcases hf lexeme with heq | heq
    · exact .last (heq.symm ▸ h)
    · exact .last (heq.symm ▸ h.toUpper hspecial)
  | @cons lexeme lexemes h hrest ih =>
    rcases hf lexeme with heq | heq
    · exact .cons (heq.symm ▸ h) ih
    · exact .cons (heq.symm ▸ h.toUpper hspecial) ih

/-! ### Classifying again -/

variable (vocabulary : Vocabulary) {text : String}

lemma Vocabulary.classify_of_keyword (h : vocabulary.keywords.contains (Text.upper text) = true) :
    vocabulary.classify text = ⟨.keyword, Text.upper text⟩ := by
  simp only [Vocabulary.classify, h, if_true]

lemma Vocabulary.value_classify (h : vocabulary.keywords.contains (Text.upper text) = false) :
    (vocabulary.classify text).value = text := by
  simp only [Vocabulary.classify, h, Bool.false_eq_true, if_false]
  split_ifs <;> rfl

/-- The value of a token is its text, in upper case if it is a keyword. -/
lemma Vocabulary.value_classify_or (text : String) :
    (vocabulary.classify text).value = text ∨
      (vocabulary.classify text).value = Text.upper text := by
  cases h : vocabulary.keywords.contains (Text.upper text) with
  | true => exact Or.inr (by rw [vocabulary.classify_of_keyword h])
  | false => exact Or.inl (vocabulary.value_classify h)

/-- The value of a token is classified as the text it was made from. -/
lemma Vocabulary.classify_value (text : String) :
    vocabulary.classify (vocabulary.classify text).value = vocabulary.classify text := by
  cases h : vocabulary.keywords.contains (Text.upper text) with
  | true =>
    have hupper : vocabulary.keywords.contains (Text.upper (Text.upper text)) = true := by
      rwa [Text.upper_upper]
    rw [vocabulary.classify_of_keyword h, vocabulary.classify_of_keyword hupper, Text.upper_upper]
  | false => rw [vocabulary.value_classify h]

/-- The values of the tokens of a text can be written with single spaces between them. -/
lemma Lexer.separable_values (lexer : Lexer)
    (hspecial : ∀ c ∈ lexer.special, c.isUpper = false) (text : String) :
    Text.Separable lexer.special
      (((lexer.tokenize text).tokens.map Token.value).map String.toList) := by
  -- the lexemes of a text are separable, and classifying them at most turns them to upper case
  have hseparable := separable_munch lexer.special text.toList
  rw [← toList_lexemes] at hseparable
  have hvalues := hseparable.map hspecial
    (f := fun lexeme => (lexer.vocabulary.classify (String.ofList lexeme)).value.toList) ?_
  · simpa [Lexer.tokenize, Lexer.classifyAll, Function.comp_def] using hvalues
  · intro lexeme
    rcases lexer.vocabulary.value_classify_or (String.ofList lexeme) with hvalue | hvalue
    · exact Or.inl (by rw [hvalue, String.toList_ofList])
    · exact Or.inr (by rw [hvalue, Text.upper, String.toList_ofList, String.toList_ofList])

/-- The values of the tokens of a text, with single spaces between them, are a text with the same
tokens, as long as no upper-case letter is a special character. -/
theorem Lexer.tokenize_intercalate_values (lexer : Lexer)
    (hspecial : ∀ c ∈ lexer.special, c.isUpper = false) (text : String) :
    lexer.tokenize (" ".intercalate ((lexer.tokenize text).tokens.map Token.value)) =
      lexer.tokenize text := by
  have hlexemes := lexemes_intercalate (lexer.separable_values hspecial text)
  rw [Lexer.tokenize, hlexemes]
  simp only [Lexer.tokenize, Lexer.classifyAll, List.map_map, Function.comp_def,
    Vocabulary.classify_value]

/-- A number that ends with its point, a word with a string behind it, a special letter, and at the
end a string that is not closed are read back; two of the values have been turned to upper case. -/
theorem Lexer.tokenize_intercalate_values_unclosed :
    let lexer : Lexer :=
      { vocabulary := Vocabulary.registerAll {} [.keyword "x'y z'", .keyword "e"]
        special := ['e', '.'] }
    (∀ c ∈ lexer.special, c.isUpper = false) ∧
      (lexer.tokenize "1.x'y z'e.'w v").tokens.map Token.value =
        ["1.", "X'Y Z'", "E", ".", "'w v"] ∧
      lexer.tokenize "1. X'Y Z' E . 'w v" = lexer.tokenize "1.x'y z'e.'w v" := by
  intro lexer
  have hspecial : ∀ c ∈ lexer.special, c.isUpper = false := by
    simp [lexer, Char.isUpper]
  have hvalues : (lexer.tokenize "1.x'y z'e.'w v").tokens.map Token.value =
      ["1.", "X'Y Z'", "E", ".", "'w v"] := by decide +kernel
  have hstable := lexer.tokenize_intercalate_values hspecial "1.x'y z'e.'w v"
  rw [hvalues] at hstable
  exact ⟨hspecial, hvalues, hstable⟩

end TableGrammar
