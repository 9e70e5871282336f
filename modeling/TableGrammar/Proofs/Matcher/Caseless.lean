import TableGrammar.Proofs.Scan.Retokenizing

/-!
# Matchers that ignore case

An exact matcher does not look at the case of letters, and a text has the same shapes in upper case,
unless it is a truth value. So a matcher that is put together from exact matchers and from shapes
other than the truth values (`Matcher.Caseless`) accepts texts that are alike together
(`Matcher.Caseless.acceptsValue_eq`).

All that classifying may change in a text is its case. So it makes no difference to such a matcher
by which vocabulary a text has been classified (`Matcher.accepts_classify_eq`).
-/

namespace TableGrammar

/-! ### Shapes in upper case -/

lemma Text.isWordChar_toUpper (c : Char) : Text.isWordChar c.toUpper = Text.isWordChar c := by
  have hunderscore : (c.toUpper == '_') = (c == '_') := by
    rw [Bool.eq_iff_iff, beq_iff_eq, beq_iff_eq, Text.toUpper_eq_iff (by decide)]
  rw [Text.isWordChar, Text.isWordChar, Char.isAlpha_toUpper_eq_isAlpha, Text.isDigit_toUpper,
    hunderscore]

lemma Text.isIdentifier_upper (text : String) :
    Text.isIdentifier (Text.upper text) = Text.isIdentifier text := by
  rw [Text.isIdentifier, Text.isIdentifier, Text.toList_upper]
  cases text.toList with
  | nil => rfl
  | cons c rest => simp [Function.comp_def, Text.isWordChar_toUpper]

lemma Text.isDigits_map_toUpper (cs : List Char) :
    Text.isDigits (cs.map Char.toUpper) = Text.isDigits cs := by
  simp [Text.isDigits, Function.comp_def, Text.isDigit_toUpper]

lemma Text.isInteger_upper (text : String) :
    Text.isInteger (Text.upper text) = Text.isInteger text := by
  rw [Text.isInteger, Text.isInteger, Text.toList_upper, Text.isDigits_map_toUpper]

lemma Text.isNumber_upper (text : String) :
    Text.isNumber (Text.upper text) = Text.isNumber text := by
  have hdigit : Char.isDigit ∘ Char.toUpper = Char.isDigit := funext Text.isDigit_toUpper
  simp only [Text.isNumber, Text.toList_upper, List.takeWhile_map, List.dropWhile_map, hdigit,
    Text.isDigits_map_toUpper]
  cases text.toList.dropWhile Char.isDigit with
  | nil => rfl
  | cons c rest =>
    rw [List.map_cons]
    by_cases hpoint : c = '.'
    · rw [hpoint, Text.toUpper_of_not_isAlpha (by decide)]
      simp only [Text.isDigits_map_toUpper]
    · have hupper : c.toUpper ≠ '.' := by rwa [Ne, Text.toUpper_eq_iff (by decide)]
      simp [hpoint, hupper]

lemma Text.isQuote_toUpper (c : Char) : Text.isQuote c.toUpper = Text.isQuote c := by
  rw [Bool.eq_iff_iff, Text.isQuote_iff, Text.isQuote_iff, Text.toUpper_eq_iff (by decide),
    Text.toUpper_eq_iff (by decide)]

lemma Text.isClosedString_upper (text : String) :
    Text.isClosedString (Text.upper text) = Text.isClosedString text := by
  rw [Text.isClosedString, Text.isClosedString, Text.toList_upper]
  cases text.toList with
  | nil => rfl
  | cons quote rest =>
    simp only [List.map_cons, Text.isQuote_toUpper]
    cases hquote : Text.isQuote quote with
    | false => rfl
    | true =>
      rw [Text.toUpper_of_not_isAlpha (Text.isAlpha_of_isQuote hquote),
        Text.closes_map_toUpper hquote]

/-- A text has the same shapes in upper case, except that truth values are in lower case. -/
lemma Shape.fits_upper {kind : Shape} (h : kind ≠ .boolean) (text : String) :
    kind.fits (Text.upper text) = kind.fits text := by
  cases kind with
  | identifier => exact Text.isIdentifier_upper text
  | number => exact Text.isNumber_upper text
  | integer => exact Text.isInteger_upper text
  | string => exact Text.isClosedString_upper text
  | boolean => exact absurd rfl h

/-! ### Matchers -/

/-- The matcher is put together from exact matchers and from shapes other than the truth values. -/
inductive Matcher.Caseless : Matcher → Prop where
  | any : Caseless .any
  | exact (token : Token) : Caseless (.exact token)
  | shape {kind : Shape} (h : kind ≠ .boolean) : Caseless (.shape kind)
  | anyOf {members : List Matcher} (h : ∀ member ∈ members, Caseless member) :
      Caseless (.anyOf members)
  | not {inner : Matcher} (h : Caseless inner) : Caseless (.not inner)

lemma Matcher.Caseless.acceptsValue_upper {matcher : Matcher} (h : matcher.Caseless)
    (value : String) : matcher.acceptsValue (Text.upper value) = matcher.acceptsValue value := by
  induction h with
  | any => rfl
  | exact token => exact Text.alike_upper token.value value
  | shape h => exact Shape.fits_upper h value
  | @anyOf members h ih =>
    rw [Matcher.acceptsValue_anyOf, Matcher.acceptsValue_anyOf, Bool.eq_iff_iff, List.any_eq_true,
      List.any_eq_true]
    apply exists_congr
    intro member
    exact and_congr_right fun hmember => by rw [ih member hmember]
  | not h ih => rw [Matcher.acceptsValue, Matcher.acceptsValue, ih]

/-- Texts that are alike are accepted together. -/
lemma Matcher.Caseless.acceptsValue_eq {matcher : Matcher} (h : matcher.Caseless) {a b : String}
    (hab : Text.alike a b = true) : matcher.acceptsValue a = matcher.acceptsValue b := by
  rw [← h.acceptsValue_upper a, Text.alike_iff_upper_eq.mp hab, h.acceptsValue_upper]

/-! ### Classified texts -/

/-- The verdict on a classified text is the verdict on the text. -/
lemma Matcher.Caseless.accepts_classify {matcher : Matcher} (h : matcher.Caseless)
    (vocabulary : Vocabulary) (text : String) :
    matcher.accepts (vocabulary.classify text) = matcher.acceptsValue text := by
  rw [Matcher.accepts]
  rcases vocabulary.value_classify_or text with hvalue | hvalue
  · rw [hvalue]
  · rw [hvalue, h.acceptsValue_upper]

/-- The text of an entry, as it was given. -/
def Entry.text : Entry → String
  | .keyword word => word
  | .operator text => text
  | .character c => c.toString

/-- The token of an entry may be in upper case, but the matcher does not look at that. -/
lemma Entry.acceptsValue_matcher (entry : Entry) (value : String) :
    entry.matcher.acceptsValue value = Text.alike entry.text value := by
  cases entry with
  | keyword word =>
    rw [Text.alike_comm, ← Text.alike_upper, Text.alike_comm]
    rfl
  | operator text => rfl
  | character c => rfl

/-- A matcher that ignores case comes to one verdict on a text, by whichever vocabulary the text has
been classified. The matcher of an entry accepts just the texts that are like the entry, whatever
was registered before it and is registered later. -/
theorem Matcher.accepts_classify_eq (vocabulary vocabulary' : Vocabulary) (text : String) :
    (∀ matcher : Matcher, matcher.Caseless →
        matcher.accepts (vocabulary.classify text) =
          matcher.accepts (vocabulary'.classify text)) ∧
      ∀ (entry : Entry) (later : List Entry),
        entry.matcher.accepts (((vocabulary.register entry).registerAll later).classify text) =
          Text.alike entry.text text := by
  constructor
  · intro matcher h
    rw [h.accepts_classify, h.accepts_classify]
  · intro entry later
    have hcaseless : entry.matcher.Caseless := .exact entry.token
    rw [hcaseless.accepts_classify, entry.acceptsValue_matcher]

/-- In the one vocabulary `aN` is a keyword, in the other an operator. With both it is taken for an
identifier other than `a`, and the matcher of a keyword that is registered later accepts it. -/
theorem Matcher.accepts_classify_eq_nested :
    let vocabulary := Vocabulary.registerAll {} [.operator "aN", .keyword "an"]
    let vocabulary' := Vocabulary.registerAll {} [.operator "aN", .character 'a']
    let matcher : Matcher := .not (.anyOf [.exact ⟨.character, "a"⟩, .not (.shape .identifier)])
    matcher.Caseless ∧ (vocabulary.classify "aN").value = "AN" ∧
      (vocabulary'.classify "aN").value = "aN" ∧
      matcher.accepts (vocabulary.classify "aN") = true ∧
      matcher.accepts (vocabulary'.classify "aN") = true ∧
      (Entry.keyword "An").matcher.accepts
        (((vocabulary'.register (.keyword "An")).registerAll [.operator "aN"]).classify "aN") =
        true := by
  intro vocabulary vocabulary' matcher
  have hcaseless : matcher.Caseless := by
    refine .not (.anyOf ?_)
    simp only [List.forall_mem_cons]
    exact ⟨.exact _, .not (.shape (by decide)), by simp⟩
  obtain ⟨hverdict, -⟩ := Matcher.accepts_classify_eq vocabulary vocabulary' "aN"
  obtain ⟨-, hentry⟩ := Matcher.accepts_classify_eq vocabulary' vocabulary' "aN"
  have haccepts : matcher.accepts (vocabulary'.classify "aN") = true := by decide
  exact ⟨hcaseless, by decide, by decide, (hverdict matcher hcaseless).trans haccepts, haccepts,
    hentry (.keyword "An") [.operator "aN"]⟩

end TableGrammar
