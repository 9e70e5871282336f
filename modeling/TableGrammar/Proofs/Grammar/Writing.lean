import TableGrammar.Proofs.Expression.Correspondence
import TableGrammar.Proofs.Expression.Layout
import TableGrammar.Proofs.Grammar.Endings
import TableGrammar.Proofs.Scan.Retokenizing

/-!
# Assignments written as text

A tree over the usual operators, written in infix order with the parentheses that it needs and
single spaces between all words, is the right hand side of an assignment. Parsing the text gives the
tree back if and only if no operator of the tree holds an equals sign and the target holds no digit
(`Assignment.parse_written_iff`).

The equals sign is a special character of assignments. So no lexeme holds it beside anything else,
and the operators `<=`, `>=`, `==` and `!=` are cut in two, although the vocabulary lists them. A
digit ends the word before it, so an identifier with digits is no lexeme, either.
-/

namespace TableGrammar

/-! ### Names, numbers and operators as lexemes -/

/-- A name is a letter followed by letters and underscores. -/
def Text.isName (text : String) : Bool :=
  match text.toList with
  | [] => false
  | c :: rest => c.isAlpha && rest.all fun d => d.isAlpha || d == '_'

lemma Text.isName_iff {text : String} :
    Text.isName text = true ↔ ∃ c rest, text.toList = c :: rest ∧ c.isAlpha = true ∧
      ∀ d ∈ rest, d.isAlpha = true ∨ d = '_' := by
  rw [Text.isName]
  cases text.toList with
  | nil => simp
  | cons c rest => simp

lemma Text.isIdentifier_iff {text : String} :
    Text.isIdentifier text = true ↔ ∃ c rest, text.toList = c :: rest ∧ c.isAlpha = true ∧
      ∀ d ∈ rest, Text.isWordChar d = true := by
  rw [Text.isIdentifier]
  cases text.toList with
  | nil => simp
  | cons c rest => simp

lemma Text.isIdentifier_of_isName {text : String} (h : Text.isName text = true) :
    Text.isIdentifier text = true := by
  obtain ⟨c, rest, htext, hc, hrest⟩ := Text.isName_iff.mp h
  refine Text.isIdentifier_iff.mpr ⟨c, rest, htext, hc, ?_⟩
  intro d hd
  rcases hrest d hd with halpha | rfl
  · simp [Text.isWordChar, halpha]
  · rfl

lemma Text.ne_nil_of_isName {text : String} (h : Text.isName text = true) : text.toList ≠ [] := by
  obtain ⟨c, rest, htext, -⟩ := Text.isName_iff.mp h
  rw [htext]
  exact List.cons_ne_nil c rest

/-- The characters of a name are those of words, unless one of them is special. -/
lemma Text.isPlain_of_isName {special : List Char} {text : String} (h : Text.isName text = true)
    (hspecial : special.all (fun d => !d.isAlpha && d != '_') = true) :
    ∀ c ∈ text.toList, Text.isPlain special c = true := by
  obtain ⟨first, rest, htext, hfirst, hrest⟩ := Text.isName_iff.mp h
  have hcontains : ∀ {c : Char}, c.isAlpha = true ∨ c = '_' → special.contains c = false := by
    intro c hc
    by_contra hmem
    have hnot := List.all_eq_true.mp hspecial c (by simpa using hmem)
    rcases hc with halpha | rfl
    · simp [halpha] at hnot
    · simp at hnot
  have hplain : ∀ {c : Char}, c.isAlpha = true ∨ c = '_' → Text.isPlain special c = true := by
    intro c hc
    rcases hc with halpha | rfl
    · exact Text.isPlain_of_isAlpha halpha (hcontains (Or.inl halpha))
    · rw [Text.isPlain, hcontains (Or.inr rfl)]
      rfl
  rw [htext]
  exact List.forall_mem_cons.mpr ⟨hplain (Or.inl hfirst), fun c hc => hplain (hrest c hc)⟩

lemma Assignment.complete_name {text : String} (h : Text.isName text = true) :
    Text.Complete Assignment.lexer.special text.toList :=
  .word (Text.ne_nil_of_isName h) (Text.isPlain_of_isName h rfl)

lemma Text.isDigits_iff {cs : List Char} :
    Text.isDigits cs = true ↔ cs ≠ [] ∧ ∀ c ∈ cs, c.isDigit = true := by
  simp [Text.isDigits]

lemma Text.isNumeral_of_isNumber {text : String} (h : Text.isNumber text = true) :
    Text.isNumeral text.toList = true := by
  have hsplit : text.toList.takeWhile Char.isDigit ++ text.toList.dropWhile Char.isDigit =
      text.toList := List.takeWhile_append_dropWhile
  simp only [Text.isNumber] at h
  split at h
  case h_1 hrest =>
    obtain ⟨hne, hwhole⟩ := Text.isDigits_iff.mp h
    rw [hrest, List.append_nil] at hsplit
    exact Text.isNumeral_iff.mpr ⟨_, hne, hwhole, Or.inl hsplit.symm⟩
  case h_2 fraction hrest =>
    rw [Bool.and_eq_true, Text.isDigits_iff, Text.isDigits_iff] at h
    obtain ⟨⟨hne, hwhole⟩, -, hfraction⟩ := h
    rw [hrest] at hsplit
    exact Text.isNumeral_iff.mpr ⟨_, hne, hwhole, Or.inr ⟨fraction, hfraction, hsplit.symm⟩⟩
  case h_3 => cases h

/-- The usual operators without an equals sign are lexemes of assignments: two of them are special
characters, the others are words. -/
lemma Assignment.complete_operator {operator : String} {tier : Tier}
    (h : operator ∈ Operators.standard.ofTier tier) (hequals : '=' ∉ operator.toList) :
    Text.Complete Assignment.lexer.special operator.toList := by
  have hkinds : ∀ operator ∈ Operators.standard.ofTier tier,
      '=' ∈ operator.toList ∨ operator = "+" ∨ operator = "-" ∨ operator.toList ≠ [] ∧
        operator.toList.all (Text.isPlain Assignment.lexer.special) = true := by
    cases tier <;> decide
  rcases hkinds operator h with hsign | rfl | rfl | ⟨hne, hplain⟩
  · exact absurd hsign hequals
  · exact .symbol rfl rfl rfl rfl
  · exact .symbol rfl rfl rfl rfl
  · exact .word hne (List.all_eq_true.mp hplain)

/-! ### The text of an assignment -/

/-- A tree in infix order, with the parentheses that it needs. -/
def Assignment.rightHandSide (tree : Tree String) : List String :=
  (tree.layout Operators.standard.tightest? 0).written "(" ")"

/-- An assignment as text, with single spaces between all words. -/
def Assignment.written (target : String) (tree : Tree String) : String :=
  " ".intercalate (target :: "=" :: (Assignment.rightHandSide tree ++ [";"]))

lemma Assignment.value_classify (text : String) :
    (Assignment.lexer.vocabulary.classify text).value = text :=
  Assignment.lexer.vocabulary.value_classify rfl

/-- The tokens of a text that starts with a name and an equals sign. -/
lemma Assignment.remaining_intercalate {target : String} (htarget : Text.isName target = true)
    {words : List String} (hwords : words ≠ []) :
    (Assignment.lexer.tokenize (" ".intercalate (target :: "=" :: words))).remaining =
      Assignment.lexer.vocabulary.classify target :: Assignment.lexer.vocabulary.classify "=" ::
        (Assignment.lexer.tokenize (" ".intercalate words)).tokens := by
  obtain ⟨next, words, rfl⟩ := List.exists_cons_of_ne_nil hwords
  have hequals : Text.Complete Assignment.lexer.special "=".toList := .symbol rfl rfl rfl rfl
  rw [Lexer.tokenize, lexemes_intercalate_cons (Assignment.complete_name htarget),
    lexemes_intercalate_cons hequals]
  rfl

/-- The outcome for a text that starts with a name and an equals sign. -/
lemma Assignment.parse_intercalate {target : String} (htarget : Text.isName target = true)
    {words : List String} (hwords : words ≠ []) :
    Assignment.grammar.parse (" ".intercalate (target :: "=" :: words)) =
      (Assignment.ending target
        (readExpression Assignment.roles
          (Assignment.lexer.tokenize (" ".intercalate words)).tokens).1
        (readExpression Assignment.roles
          (Assignment.lexer.tokenize (" ".intercalate words)).tokens).2).outcome := by
  have hends := Assignment.ends_of_remaining
    (by rw [Assignment.value_classify]; exact Text.isIdentifier_of_isName htarget)
    (Assignment.value_classify "=") (Assignment.remaining_intercalate htarget hwords)
  rw [Assignment.value_classify] at hends
  rw [Grammar.parse, Grammar.runText]
  exact congrArg Ending.outcome (Grammar.ending_run hends)

/-! ### Reading back what was written -/

variable {target : String} {tree : Tree String}

/-- The words of a right hand side without equals signs are its lexemes. -/
lemma Assignment.tokens_rightHandSide
    (hleaves : ∀ value ∈ tree.leaves, Text.isName value = true ∨ Text.isNumber value = true)
    (hoperators : ∀ operator ∈ tree.operators, ∃ tier, operator ∈ Operators.standard.ofTier tier)
    (hequals : ∀ operator ∈ tree.operators, '=' ∉ operator.toList) :
    (Assignment.lexer.tokenize (" ".intercalate (Assignment.rightHandSide tree ++ [";"]))).tokens =
      (Assignment.rightHandSide tree).map Assignment.lexer.vocabulary.classify ++
        [Assignment.lexer.vocabulary.classify ";"] := by
  have hcomplete : ∀ word ∈ Assignment.rightHandSide tree ++ [";"],
      Text.Complete Assignment.lexer.special word.toList := by
    intro word hword
    rw [List.mem_append, List.mem_singleton] at hword
    rcases hword with hword | rfl
    · have hmem := Layout.mem_written hword
      rw [Tree.tree_layout] at hmem
      rcases hmem with rfl | rfl | hleaf | hoperator
      · exact .symbol rfl rfl rfl rfl
      · exact .symbol rfl rfl rfl rfl
      · rcases hleaves word hleaf with hname | hnumber
        · exact Assignment.complete_name hname
        · exact .number (Text.isNumeral_of_isNumber hnumber)
      · obtain ⟨tier, htier⟩ := hoperators word hoperator
        exact Assignment.complete_operator htier (hequals word hoperator)
    · exact .symbol rfl rfl rfl rfl
  have hlexemes := lexemes_intercalate (.of_complete (List.forall_mem_map.mpr hcomplete))
  rw [Lexer.tokenize, hlexemes, Lexer.classifyAll, List.map_append]
  rfl

/-! ### The parts that classified words play -/

lemma Assignment.isStop_classify (text : String) :
    Assignment.roles.isStop (Assignment.lexer.vocabulary.classify text) = (text == ";") := by
  rw [Bool.eq_iff_iff, Assignment.isStop_iff, Assignment.value_classify, beq_iff_eq]

lemma Assignment.isOpen_classify (text : String) :
    Assignment.roles.isOpen (Assignment.lexer.vocabulary.classify text) = (text == "(") := by
  simp only [Assignment.roles, Roles.ofTokens, Assignment.value_classify]

lemma Assignment.isClose_classify (text : String) :
    Assignment.roles.isClose (Assignment.lexer.vocabulary.classify text) = (text == ")") := by
  simp only [Assignment.roles, Roles.ofTokens, Assignment.value_classify]

lemma Assignment.isOperator_classify (tier : Tier) (text : String) :
    Assignment.roles.isOperator tier (Assignment.lexer.vocabulary.classify text) =
      Operators.standard.containsText tier text := by
  simp only [Assignment.roles, Roles.ofTokens, Assignment.value_classify]

lemma Assignment.opens_classify :
    Assignment.roles.Opens (Assignment.lexer.vocabulary.classify "(") :=
  ⟨Assignment.isStop_classify "(", Assignment.isOpen_classify "(", Assignment.isClose_classify "("⟩

lemma Assignment.closes_classify :
    Assignment.roles.Closes (Assignment.lexer.vocabulary.classify ")") := by
  refine ⟨Assignment.isClose_classify ")", ?_⟩
  intro tier hacts
  have hoperator := hacts.isOperator
  rw [Assignment.isOperator_classify] at hoperator
  cases tier <;> exact absurd hoperator (by decide)

lemma Assignment.halts_classify :
    Assignment.roles.Halts [Assignment.lexer.vocabulary.classify ";"] := by
  intro item hitem tier hacts
  obtain rfl : Assignment.lexer.vocabulary.classify ";" = item := by simpa using hitem
  have hstop := hacts.isStop
  rw [Assignment.isStop_classify] at hstop
  cases hstop

lemma Assignment.isOperand_classify {text : String}
    (h : Text.isName text = true ∨ Text.isNumber text = true) :
    Assignment.roles.IsOperand (Assignment.lexer.vocabulary.classify text) := by
  have hsymbol : ∀ symbol, Text.isName symbol = false → Text.isNumber symbol = false →
      (text == symbol) = false := by
    intro symbol hname hnumber
    apply beq_false_of_ne
    rintro rfl
    rcases h with h | h
    · exact absurd h (by simp [hname])
    · exact absurd h (by simp [hnumber])
  exact ⟨(Assignment.isStop_classify text).trans (hsymbol ";" rfl rfl),
    (Assignment.isOpen_classify text).trans (hsymbol "(" rfl rfl),
    (Assignment.isClose_classify text).trans (hsymbol ")" rfl rfl)⟩

/-- An operator acts as one of the tightest tier that lists it, and ignoring case adds no tier. -/
lemma Assignment.actsAs_classify {operator : String} {holder : Tier}
    (h : operator ∈ Operators.standard.ofTier holder) :
    ∃ tier, Operators.standard.tightest? operator = some tier ∧
      Assignment.roles.ActsAs tier (Assignment.lexer.vocabulary.classify operator) := by
  have hfacts : ∀ operator ∈ Operators.standard.ofTier holder, (operator == ";") = false ∧
      (Tier.tightestFirst.find? fun tier => Operators.standard.containsText tier operator) =
        Operators.standard.tightest? operator ∧
      (Operators.standard.tightest? operator).isSome = true := by
    cases holder <;> decide
  obtain ⟨hsemicolon, htightest, hsome⟩ := hfacts operator h
  obtain ⟨tier, htier⟩ := Option.isSome_iff_exists.mp hsome
  refine ⟨tier, htier, Roles.tier?_eq_some_iff.mp ?_⟩
  simp only [Roles.tier?, Assignment.isStop_classify, hsemicolon, Assignment.isOperator_classify,
    htightest, htier, Bool.false_eq_true, if_false]

/-- A right hand side without equals signs is read back. -/
lemma Assignment.parse_written (htarget : Text.isName target = true)
    (hleaves : ∀ value ∈ tree.leaves, Text.isName value = true ∨ Text.isNumber value = true)
    (hoperators : ∀ operator ∈ tree.operators, ∃ tier, operator ∈ Operators.standard.ofTier tier)
    (hnesting : (tree.layout Operators.standard.tightest? 0).nesting ≤ 128)
    (hequals : ∀ operator ∈ tree.operators, '=' ∉ operator.toList) :
    Assignment.grammar.parse (Assignment.written target tree) =
      .ok { target, expression := some (tree.map Assignment.lexer.vocabulary.classify) } := by
  have hread := Layout.readExpression_written Assignment.opens_classify
    Assignment.closes_classify (tree.layout Operators.standard.tightest? 0) ?_ ?_
    (tree.suffices_layout 0) hnesting Assignment.halts_classify
  · rw [Tree.tree_layout, ← Assignment.rightHandSide,
      ← Assignment.tokens_rightHandSide hleaves hoperators hequals] at hread
    rw [Assignment.written, Assignment.parse_intercalate htarget (by simp), hread]
    simp [Assignment.ending, Assignment.value_classify, Ending.outcome]
  · rw [Tree.tree_layout]
    intro value hvalue
    exact Assignment.isOperand_classify (hleaves value hvalue)
  · rw [Tree.tree_layout]
    intro operator hoperator
    obtain ⟨tier, htier⟩ := hoperators operator hoperator
    exact Assignment.actsAs_classify htier

/-! ### Equals signs -/

lemma Tree.operators_map {α β : Type} (f : α → β) (tree : Tree α) :
    (tree.map f).operators = tree.operators.map f := by
  induction tree with
  | leaf value => rfl
  | branch value left right ihl ihr => simp [Tree.map, Tree.operators, ihl, ihr]

lemma Tree.Related.of_mem_operators {α β : Type} {P : α → β → Prop} {tree : Tree α}
    {tree' : Tree β} (h : tree.Related P tree') {value : α} (hmem : value ∈ tree.operators) :
    ∃ value', P value value' := by
  induction h with
  | leaf hvalue => cases hmem
  | @branch a b left right left' right' hvalue hleft hright ihl ihr =>
    rw [Tree.operators, List.mem_append, List.mem_cons] at hmem
    rcases hmem with hmem | rfl | hmem
    · exact ihl hmem
    · exact ⟨b, hvalue⟩
    · exact ihr hmem

/-- The operators of an expression that was read are among the items. -/
lemma mem_of_readExpression {α : Type} {roles : Roles α} {items : List α} {tree : Tree α}
    (h : (readExpression roles items).1 = .ok (some tree)) {value : α}
    (hmem : value ∈ tree.operators) : value ∈ items := by
  -- every item corresponds to itself, and so do the values of what is read
  have hself : roles.Correspond (fun a b => a ∈ items ∧ b = a) Eq roles :=
    roles.correspond_comap id items
  have hitems : List.Forall₂ (fun a b => a ∈ items ∧ b = a) items items :=
    List.forall₂_same.mpr fun a ha => ⟨ha, rfl⟩
  have houtcome := (hself.readExpression hitems).1
  rw [h] at houtcome
  cases houtcome with
  | ok hexpression =>
    cases hexpression with
    | some htree =>
      obtain ⟨_, hitem, -⟩ := htree.of_mem_operators hmem
      exact hitem

/-- A token without quotes is a complete lexeme. -/
lemma Assignment.complete_of_mem_tokens {text : String} {token : Token}
    (hmem : token ∈ (Assignment.lexer.tokenize text).tokens)
    (hquotes : ∀ c ∈ token.value.toList, Text.isQuote c = false) :
    Text.Complete Assignment.lexer.special token.value.toList := by
  obtain ⟨lexeme, hlexeme, rfl⟩ := List.mem_map.mp hmem
  rw [Assignment.value_classify] at hquotes ⊢
  have hseparable := separable_munch Assignment.lexer.special text.toList
  rw [← toList_lexemes] at hseparable
  exact hseparable.complete (List.mem_map_of_mem hlexeme) hquotes

lemma Text.isQuote_of_isIdentifier {text : String} (h : Text.isIdentifier text = true) :
    ∀ c ∈ text.toList, Text.isQuote c = false := by
  obtain ⟨first, rest, htext, hfirst, hrest⟩ := Text.isIdentifier_iff.mp h
  rw [htext]
  intro c hc
  have hword : Text.isWordChar c = true := by
    rcases List.mem_cons.mp hc with rfl | hc
    · simp [Text.isWordChar, hfirst]
    · exact hrest c hc
  by_contra hquote
  rcases Text.isQuote_iff.mp (by simpa using hquote) with rfl | rfl <;> cases hword

/-- The usual operators with an equals sign are no tokens of any text. -/
lemma Assignment.not_mem_tokens_of_equals {text : String} {token : Token} {tier : Tier}
    (htier : token.value ∈ Operators.standard.ofTier tier) (hequals : '=' ∈ token.value.toList) :
    token ∉ (Assignment.lexer.tokenize text).tokens := by
  have hfacts : ∀ operator ∈ Operators.standard.ofTier tier,
      operator.toList.all (fun c => !Text.isQuote c) = true ∧ operator.toList ≠ ['='] := by
    cases tier <;> decide
  obtain ⟨hquotes, hne⟩ := hfacts token.value htier
  have hnone : ∀ c ∈ token.value.toList, Text.isQuote c = false := by simpa using hquotes
  intro hmem
  have hcomplete := Assignment.complete_of_mem_tokens hmem hnone
  exact hne (hcomplete.eq_singleton hnone hequals rfl rfl (by decide))

/-- Words end at digits, so an identifier that is a lexeme is a name. -/
lemma Assignment.isName_of_complete {text : String} (hidentifier : Text.isIdentifier text = true)
    (h : Text.Complete Assignment.lexer.special text.toList) : Text.isName text = true := by
  obtain ⟨c, rest, htext, hc, hrest⟩ := Text.isIdentifier_iff.mp hidentifier
  refine Text.isName_iff.mpr ⟨c, rest, htext, hc, ?_⟩
  rw [htext] at h
  generalize hlexeme : c :: rest = lexeme at h
  -- a number starts with a digit, and a string holds a quote; an identifier does neither
  cases h with
  | number h =>
    subst hlexeme
    simp [Text.isNumeral, Text.isDigit_of_isAlpha hc] at h
  | symbol hblank hquote hdigit hspecial =>
    cases hlexeme
    simp
  | word hne hrun =>
    subst hlexeme
    intro d hd
    have hplain := hrun d (List.mem_cons_of_mem c hd)
    simp only [Text.isPlain, Bool.and_eq_true, Bool.not_eq_true'] at hplain
    simpa [Text.isWordChar, hplain.1.2] using hrest d hd
  | @string run body quote hrun hquote hbody =>
    have hnone := Text.isQuote_of_isIdentifier hidentifier quote (by simp [htext, hlexeme])
    rw [hquote] at hnone
    cases hnone

lemma Assignment.isName_of_mem_tokens {text : String} {token : Token}
    (hidentifier : Text.isIdentifier token.value = true)
    (hmem : token ∈ (Assignment.lexer.tokenize text).tokens) : Text.isName token.value = true :=
  Assignment.isName_of_complete hidentifier
    (Assignment.complete_of_mem_tokens hmem (Text.isQuote_of_isIdentifier hidentifier))

/-- A target that can be read off a text is a name. -/
lemma Assignment.isName_of_parse {text : String} {assignment : Assignment}
    (hidentifier : Text.isIdentifier assignment.target = true)
    (h : Assignment.grammar.parse text = .ok assignment) :
    Text.isName assignment.target = true := by
  rcases Assignment.target_of_outcome h with hempty | ⟨token, hmem, hvalue⟩
  · rw [hempty] at hidentifier
    cases hidentifier
  · rw [← hvalue] at hidentifier ⊢
    exact Assignment.isName_of_mem_tokens hidentifier hmem

/-- An assignment that is written as text is read back if and only if its target is a name without
digits and no operator of its tree holds an equals sign. -/
theorem Assignment.parse_written_iff (target : String) (tree : Tree String)
    (htarget : Text.isIdentifier target = true)
    (hleaves : ∀ value ∈ tree.leaves, Text.isName value = true ∨ Text.isNumber value = true)
    (hoperators : ∀ operator ∈ tree.operators, ∃ tier, operator ∈ Operators.standard.ofTier tier)
    (hnesting : (tree.layout Operators.standard.tightest? 0).nesting ≤ 128) :
    (∃ expression : Tree Token,
      Assignment.grammar.parse (Assignment.written target tree) =
          .ok { target, expression := some expression } ∧
        expression.map Token.value = tree) ↔
      Text.isName target = true ∧ ∀ operator ∈ tree.operators, '=' ∉ operator.toList := by
  constructor
  · rintro ⟨expression, hparse, rfl⟩
    have hname := Assignment.isName_of_parse htarget hparse
    refine ⟨hname, ?_⟩
    intro operator hoperator hequals
    obtain ⟨tier, htier⟩ := hoperators operator hoperator
    -- an operator that was read is the value of a token, and no token holds such a sign
    rw [Tree.operators_map] at hoperator
    obtain ⟨token, htoken, rfl⟩ := List.mem_map.mp hoperator
    rw [Assignment.written, Assignment.parse_intercalate hname (by simp)] at hparse
    have hmem := mem_of_readExpression (Assignment.eq_ok_of_outcome_ending hparse).2 htoken
    exact Assignment.not_mem_tokens_of_equals htier hequals hmem
  · rintro ⟨hname, hequals⟩
    refine ⟨_, Assignment.parse_written hname hleaves hoperators hnesting hequals, ?_⟩
    rw [Tree.map_map]
    have hid : Token.value ∘ Assignment.lexer.vocabulary.classify = id :=
      funext Assignment.value_classify
    rw [hid, Tree.map_id]

/-- In `rate = ( a or b ) - and * 1.5 ;` a word stands as an operator and another one as an
operand. -/
theorem Assignment.parse_written_iff_words :
    let tree : Tree String :=
      .branch "-" (.branch "or" (.leaf "a") (.leaf "b"))
        (.branch "*" (.leaf "and") (.leaf "1.5"))
    Assignment.written "rate" tree = "rate = ( a or b ) - and * 1.5 ;" ∧
      ∃ expression : Tree Token,
        Assignment.grammar.parse "rate = ( a or b ) - and * 1.5 ;" =
            .ok { target := "rate", expression := some expression } ∧
          expression.map Token.value = tree := by
  intro tree
  have hwritten : Assignment.written "rate" tree = "rate = ( a or b ) - and * 1.5 ;" := by decide
  have hleaves : ∀ value ∈ tree.leaves, Text.isName value = true ∨ Text.isNumber value = true := by
    decide
  have hoperators : ∀ operator ∈ tree.operators,
      ∃ tier, operator ∈ Operators.standard.ofTier tier := by
    simp only [tree, Tree.operators, List.nil_append, List.cons_append, List.forall_mem_cons]
    exact ⟨⟨.logical, by decide⟩, ⟨.additive, by decide⟩, ⟨.multiplicative, by decide⟩, by simp⟩
  have hequals : ∀ operator ∈ tree.operators, '=' ∉ operator.toList := by decide
  have hparse := (Assignment.parse_written_iff "rate" tree rfl hleaves hoperators (by decide)).mpr
    ⟨rfl, hequals⟩
  rw [hwritten] at hparse
  exact ⟨hwritten, hparse⟩

/-- The operator `<=` is cut in two. Its equals sign is taken for the right operand of `<`, and so
the name behind it can neither go on with the expression nor end the assignment. -/
theorem Assignment.parse_written_cut :
    let tree : Tree String := .branch "<=" (.leaf "a") (.leaf "b")
    "<=" ∈ Operators.standard.ofTier .relational ∧ Text.isName "t" = true ∧
      Text.isName "a" = true ∧ Text.isName "b" = true ∧
      Assignment.written "t" tree = "t = a <= b ;" ∧
      Assignment.grammar.parse (Assignment.written "t" tree) = .error (.noMatch "b" 2) := by
  intro tree
  have hwritten : Assignment.written "t" tree = "t = a <= b ;" := by decide
  refine ⟨by decide, rfl, rfl, rfl, hwritten, ?_⟩
  have htokens : Assignment.grammar.machine.lexer.tokenize "t = a <= b ;" = { tokens :=
      [⟨.identifier, "t"⟩, ⟨.character, "="⟩, ⟨.identifier, "a"⟩, ⟨.operator, "<"⟩,
        ⟨.character, "="⟩, ⟨.identifier, "b"⟩, ⟨.character, ";"⟩] } := rfl
  have hstop : Assignment.roles.isStop ⟨.identifier, "a"⟩ = false := rfl
  have hread := readExpression_cons Assignment.roles
    [⟨.operator, "<"⟩, ⟨.character, "="⟩, ⟨.identifier, "b"⟩, ⟨.character, ";"⟩] hstop
  rw [hwritten, Grammar.parse, Grammar.runText, htokens, Assignment.ending_run]
  simp only [Cursor.remaining, List.drop_zero, Assignment.endingOver, hread]
  rfl

end TableGrammar
