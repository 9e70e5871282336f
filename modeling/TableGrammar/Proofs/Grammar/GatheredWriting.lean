import TableGrammar.Proofs.Grammar.Agreement
import TableGrammar.Proofs.Grammar.Writing
import TableGrammar.Proofs.Machine.Composition

/-!
# Gathered assignments written as text

A tree over the arithmetic operators, written in infix order with the parentheses that it needs,
alternates between operands and operators as the table for gathered assignments wants it to
(`Layout.follows_written`). So the table walks along the whole right hand side, and what it has
gathered evaluates to the tree. Parsing the text of an assignment gives the target, the words of the
right hand side and the tree back, if and only if the target holds no digit
(`Gathering.parse_arithmetic_iff`).
-/

namespace TableGrammar

/-! ### What one token does -/

lemma Gathering.machine_blind : Gathering.machine.Blind := by
  refine Machine.blind_ofList rfl ?_
  simp [Gathering.entries, Action.Blind, Gathering.takeTarget, Gathering.push, Gathering.finish]

/-- A token becomes the target, or is passed over, or is added to the formula; or it is the
semicolon, at which the formula is evaluated. -/
lemma Gathering.moveOn_cases {state next : Nat} {gathering last : Gathering} {token : Token}
    (h : (Gathering.machine.moveOn state gathering token).outcome = .ok (next, last)) :
    (last = { gathering with target := token.value } ∨ last = gathering ∨
        last = { gathering with formula := gathering.formula.add token.value }) ∧
        next ≠ Gathering.done ∨
      next = Gathering.done ∧ token.value = ";" ∧
        ∃ tree, gathering.formula.evaluate id = .ok tree ∧ last = { gathering with tree } := by
  obtain ⟨transition, htransition, hnext, hreply⟩ := Machine.moveOn_eq_ok_iff.mp h
  have haccepts := Table.accepts_of_transition? htransition
  have hmem : (state, transition) ∈ Gathering.entries :=
    Table.mem_transitions_ofList (Table.mem_of_transition? htransition)
  simp only [Gathering.entries, List.mem_cons, List.not_mem_nil, or_false, Prod.mk.injEq] at hmem
  rcases hmem with ⟨-, rfl⟩ | ⟨-, rfl⟩ | ⟨-, rfl⟩ | ⟨-, rfl⟩ | ⟨-, rfl⟩ | ⟨-, rfl⟩ | ⟨-, rfl⟩ |
    ⟨-, rfl⟩ <;> cases hnext
  -- the semicolon, whose action is the only one that can fail
  case inr.inr.inr.inr.inr.inr.inr =>
    right
    refine ⟨rfl, Assignment.accepts_semicolon_iff.mp haccepts, ?_⟩
    simp only [Transition.perform, Gathering.finish, Action.apply] at hreply
    cases hevaluate : gathering.formula.evaluate id with
    | error fault =>
      rw [hevaluate] at hreply
      cases hreply
    | ok tree =>
      rw [hevaluate] at hreply
      cases hreply
      exact ⟨tree, rfl, rfl⟩
  all_goals cases hreply
  · exact Or.inl ⟨Or.inl rfl, by decide⟩
  · exact Or.inl ⟨Or.inr (Or.inl rfl), by decide⟩
  all_goals exact Or.inl ⟨Or.inr (Or.inr rfl), by decide⟩

/-- The target of a gathered assignment is the value of a token, unless there is none. -/
lemma Gathering.target_of_parse {text : String} {gathering : Gathering}
    (h : Gathering.grammar.parse text = .ok gathering) :
    gathering.target = "" ∨
      ∃ token ∈ (Assignment.lexer.tokenize text).tokens, token.value = gathering.target := by
  have hrun := Gathering.machine_blind.run_eq (Assignment.lexer.tokenize text)
  have houtcome : (Gathering.machine.trail 0 {}
      (Assignment.lexer.tokenize text).tokens).ending.outcome = .ok gathering :=
    (congrArg (fun run => run.ending.outcome) hrun).symm.trans h
  -- every move keeps the target or takes the value of a token for it
  refine Machine.trail_invariant (P := fun gathering => gathering.target = "" ∨
    ∃ token ∈ (Assignment.lexer.tokenize text).tokens, token.value = gathering.target) ?_
    (Or.inl rfl) houtcome
  intro token htoken state earlier next later hearlier hmove
  rcases Gathering.moveOn_cases hmove with ⟨rfl | rfl | rfl, -⟩ | ⟨-, -, tree, -, rfl⟩
  · exact Or.inr ⟨token, htoken, rfl⟩
  · exact hearlier
  · exact hearlier
  · exact hearlier

/-! ### The table walks along what is written -/

lemma Gathering.transitions_operand :
    Gathering.machine.table.transitions (Gathering.stateOf .operand) =
      [{ matcher := .shape .identifier, next := 3, action := some Gathering.push },
       { matcher := .shape .number, next := 3, action := some Gathering.push },
       { matcher := (Entry.character '(').matcher, next := 2, action := some Gathering.push }] :=
  rfl

lemma Gathering.transitions_operator :
    Gathering.machine.table.transitions (Gathering.stateOf .operator) =
      [{ matcher := Gathering.arithmetic, next := 2, action := some Gathering.push },
       { matcher := (Entry.character ')').matcher, next := 3, action := some Gathering.push },
       { matcher := Assignment.semicolon, next := Gathering.done,
         action := some Gathering.finish }] :=
  rfl

/-- A part leads to what is due after it. -/
lemma Gathering.Part.transition? {token : Token} {mode next : Sweep.Mode}
    (h : Gathering.Part token mode next) :
    (Gathering.machine.table.transition? (Gathering.stateOf mode) token).bind
      Transition.nextState? = some (Gathering.stateOf next) := by
  rw [Table.transition?]
  cases h with
  | identifier h =>
    have hidentifier : (Matcher.shape .identifier).accepts token = true := h
    simp only [Gathering.transitions_operand, List.find?_cons, hidentifier]
    rfl
  | number h =>
    have hnumber : (Matcher.shape .number).accepts token = true := h
    simp only [Gathering.transitions_operand, List.find?_cons, hnumber]
    cases (Matcher.shape .identifier).accepts token <;> rfl
  | opening h =>
    have hidentifier : (Matcher.shape .identifier).accepts token = false := by
      rw [Matcher.accepts, h]
      rfl
    have hnumber : (Matcher.shape .number).accepts token = false := by
      rw [Matcher.accepts, h]
      rfl
    have hopening : (Entry.character '(').matcher.accepts token = true :=
      (Matcher.accepts_exact_iff rfl).mpr h
    simp only [Gathering.transitions_operand, List.find?_cons, hidentifier, hnumber, hopening]
    rfl
  | operator h =>
    have harithmetic := Gathering.accepts_arithmetic_iff.mpr h
    simp only [Gathering.transitions_operator, List.find?_cons, harithmetic]
    rfl
  | closing h =>
    have harithmetic : Gathering.arithmetic.accepts token = false := by
      rw [← Bool.not_eq_true, Gathering.accepts_arithmetic_iff, h]
      decide
    have hclosing : (Entry.character ')').matcher.accepts token = true :=
      (Matcher.accepts_exact_iff rfl).mpr h
    simp only [Gathering.transitions_operator, List.find?_cons, harithmetic, hclosing]
    rfl

lemma Gathering.transition?_semicolon {semicolon : Token} (h : semicolon.value = ";") :
    (Gathering.machine.table.transition? (Gathering.stateOf .operator) semicolon).bind
      Transition.nextState? = some Gathering.done := by
  have harithmetic : Gathering.arithmetic.accepts semicolon = false := by
    rw [← Bool.not_eq_true, Gathering.accepts_arithmetic_iff, h]
    decide
  have hclosing : (Entry.character ')').matcher.accepts semicolon = false := by
    rw [← Bool.not_eq_true, Entry.matcher, Matcher.accepts_exact_iff rfl, h]
    decide
  rw [Table.transition?]
  simp only [Gathering.transitions_operator, List.find?_cons, harithmetic, hclosing,
    Assignment.accepts_semicolon_iff.mpr h]
  rfl

lemma Gathering.transition?_target {target : Token} (h : Text.isIdentifier target.value = true) :
    (Gathering.machine.table.transition? 0 target).bind Transition.nextState? = some 1 := by
  have htransition : Gathering.machine.table.transition? 0 target =
      some { matcher := .shape .identifier, next := 1, action := some Gathering.takeTarget } :=
    List.find?_cons_of_pos h
  rw [htransition]
  rfl

lemma Gathering.transition?_equals {equals : Token} (h : equals.value = "=") :
    (Gathering.machine.table.transition? 1 equals).bind Transition.nextState? = some 2 := by
  have htransition : Gathering.machine.table.transition? 1 equals =
      some { matcher := (Entry.character '=').matcher, next := 2 } :=
    List.find?_cons_of_pos ((Matcher.accepts_exact_iff rfl).mpr h)
  rw [htransition]
  rfl

/-- The table leads over a right hand side that it accepts to the semicolon behind it. -/
lemma Gathering.Follows.walk? {mode : Sweep.Mode} {items : List Token}
    (h : Gathering.Follows mode items) {semicolon : Token} (hsemicolon : semicolon.value = ";") :
    Gathering.machine.table.walk? (Gathering.stateOf mode) (items ++ [semicolon]) =
      some Gathering.done := by
  induction h with
  | nil =>
    rw [List.nil_append, Table.walk?_cons, Gathering.transition?_semicolon hsemicolon]
    rfl
  | cons hpart h ih =>
    rw [List.cons_append, Table.walk?_cons, hpart.transition?, Option.bind_some, ih]

/-- Items that can stand where an operand is due can do so within parentheses. -/
lemma Gathering.follows_enclosed {classify : String → Token}
    (hvalue : ∀ text, (classify text).value = text) {items : List String}
    (h : ∀ rest, Gathering.Follows .operator rest →
      Gathering.Follows .operand (items.map classify ++ rest)) (pairs : Nat)
    {rest : List Token} (hrest : Gathering.Follows .operator rest) :
    Gathering.Follows .operand ((enclosed "(" ")" pairs items).map classify ++ rest) := by
  induction pairs generalizing rest with
  | zero => exact h rest hrest
  | succ pairs ih =>
    have hinside := ih (.cons (.closing (hvalue ")")) hrest)
    rw [enclosed, List.cons_append, List.map_cons, List.map_append, List.cons_append,
      List.append_assoc]
    exact .cons (.opening (hvalue "(")) hinside

/-- A tree over the arithmetic operators, in infix order, can stand where an operand is due. -/
lemma Layout.follows_written {classify : String → Token}
    (hvalue : ∀ text, (classify text).value = text) {layout : Layout String}
    (hleaves : ∀ value ∈ layout.tree.leaves, Text.isName value = true ∨ Text.isNumber value = true)
    (hoperators : ∀ operator ∈ layout.tree.operators, operator ∈ ["+", "-", "*", "/", "%"])
    {rest : List Token} (hrest : Gathering.Follows .operator rest) :
    Gathering.Follows .operand ((layout.written "(" ")").map classify ++ rest) := by
  induction layout generalizing rest with
  | leaf pairs value =>
    refine Gathering.follows_enclosed hvalue ?_ pairs hrest
    intro rest hrest
    rcases hleaves value (by simp [Layout.tree, Tree.leaves]) with hname | hnumber
    · refine .cons (.identifier ?_) hrest
      rw [hvalue]
      exact Text.isIdentifier_of_isName hname
    · refine .cons (.number ?_) hrest
      rwa [hvalue]
  | branch pairs operator left right ihl ihr =>
    simp only [Layout.tree, Tree.leaves, List.mem_append] at hleaves
    rw [Layout.tree, Tree.operators, List.forall_mem_append, List.forall_mem_cons] at hoperators
    obtain ⟨hleft, hroot, hright⟩ := hoperators
    refine Gathering.follows_enclosed hvalue ?_ pairs hrest
    intro rest hrest
    have hafter := ihr (fun value hmem => hleaves value (Or.inr hmem)) hright hrest
    have hoperator : (classify operator).value ∈ ["+", "-", "*", "/", "%"] := by rwa [hvalue]
    rw [List.map_append, List.map_cons, List.append_assoc, List.cons_append]
    exact ihl (fun value hmem => hleaves value (Or.inl hmem)) hleft
      (.cons (.operator hoperator) hafter)

/-! ### Parsing what is written -/

section

variable {target : String} {tree : Tree String}

/-- What is gathered from a right hand side. -/
def Gathering.formulaOf (tree : Tree String) : Formula String :=
  { Formula.standard with values := (Assignment.rightHandSide tree).toArray }

lemma Gathering.arithmetic_standard {operator : String}
    (h : operator ∈ ["+", "-", "*", "/", "%"]) :
    (∃ tier, operator ∈ Operators.standard.ofTier tier) ∧ '=' ∉ operator.toList := by
  have hfacts : ∀ operator ∈ ["+", "-", "*", "/", "%"],
      (operator ∈ Operators.standard.ofTier .additive ∨
        operator ∈ Operators.standard.ofTier .multiplicative) ∧ '=' ∉ operator.toList := by
    decide
  obtain ⟨hadditive | hmultiplicative, hequals⟩ := hfacts operator h
  · exact ⟨⟨.additive, hadditive⟩, hequals⟩
  · exact ⟨⟨.multiplicative, hmultiplicative⟩, hequals⟩

/-- What is gathered from the right hand side of a tree evaluates to the tree. -/
lemma Gathering.evaluate_formulaOf
    (hleaves : ∀ value ∈ tree.leaves, Text.isName value = true ∨ Text.isNumber value = true)
    (hoperators : ∀ operator ∈ tree.operators, operator ∈ ["+", "-", "*", "/", "%"])
    (hnesting : (tree.layout Operators.standard.tightest? 0).nesting ≤ 128) :
    (Gathering.formulaOf tree).evaluate id = .ok (some tree) := by
  let roles := Formula.standard.roles id
  have hopens : roles.Opens (id "(") := Formula.standard.opens_opening id (by decide)
  have hcloses : roles.Closes (id ")") :=
    Formula.standard.closes_closing id fun tier => by cases tier <;> rfl
  have hoperand : ∀ value ∈ tree.leaves, roles.IsOperand (id value) := by
    intro value hvalue
    have hsymbol : ∀ symbol, Text.isName symbol = false → Text.isNumber symbol = false →
        value ≠ symbol := by
      rintro symbol hname hnumber rfl
      simpa [hname, hnumber] using hleaves value hvalue
    exact Formula.standard.isOperand_of_ne id (hsymbol "(" rfl rfl) (hsymbol ")" rfl rfl)
  have hacts : ∀ operator ∈ tree.operators,
      ∃ tier, Operators.standard.tightest? operator = some tier ∧
        roles.ActsAs tier (id operator) := by
    intro operator hoperator
    obtain ⟨⟨tier, htier⟩, -⟩ := Gathering.arithmetic_standard (hoperators operator hoperator)
    have hcontains : Operators.standard.contains tier operator = true := by
      simpa [Operators.contains] using htier
    exact Formula.standard.exists_tightest? id ⟨tier, hcontains⟩
  have hhalts : roles.Halts [] := by simp [Roles.Halts]
  have hread := Layout.readExpression_written hopens hcloses
    (tree.layout Operators.standard.tightest? 0) (by rwa [Tree.tree_layout])
    (by rwa [Tree.tree_layout]) (tree.suffices_layout 0) hnesting hhalts
  rw [List.map_id, List.append_nil, Tree.map_id, Tree.tree_layout] at hread
  have hvalues : readExpression ((Gathering.formulaOf tree).roles id)
      (Gathering.formulaOf tree).values.toList = (.ok (some tree), []) := hread
  rw [Formula.evaluate, hvalues]

/-- An assignment to a name, over the arithmetic operators, is read back. -/
lemma Gathering.parse_written (htarget : Text.isName target = true)
    (hleaves : ∀ value ∈ tree.leaves, Text.isName value = true ∨ Text.isNumber value = true)
    (hoperators : ∀ operator ∈ tree.operators, operator ∈ ["+", "-", "*", "/", "%"])
    (hnesting : (tree.layout Operators.standard.tightest? 0).nesting ≤ 128) :
    Gathering.grammar.parse (Assignment.written target tree) =
      .ok { target, formula := Gathering.formulaOf tree, tree := some tree } := by
  let classify := Assignment.lexer.vocabulary.classify
  let cursor := Assignment.lexer.tokenize (Assignment.written target tree)
  let items := (Assignment.rightHandSide tree).map classify
  -- what is written is lexed into its words, which the table accepts up to the semicolon
  have hremaining : cursor.remaining =
      classify target :: classify "=" :: (items ++ [classify ";"]) := by
    have hstandard := fun operator hoperator =>
      Gathering.arithmetic_standard (hoperators operator hoperator)
    rw [← Assignment.tokens_rightHandSide hleaves
      (fun operator hoperator => (hstandard operator hoperator).1)
      (fun operator hoperator => (hstandard operator hoperator).2)]
    exact Assignment.remaining_intercalate htarget (by simp)
  have hfollows : Gathering.Follows .operand items := by
    have hwritten := @Layout.follows_written classify Assignment.value_classify
      (tree.layout Operators.standard.tightest? 0) (by rwa [Tree.tree_layout])
      (by rwa [Tree.tree_layout]) [] .nil
    rwa [List.append_nil] at hwritten
  have hwalk : Gathering.machine.table.walk? 0 cursor.remaining = some Gathering.done := by
    have hname : Text.isIdentifier (classify target).value = true := by
      rw [Assignment.value_classify]
      exact Text.isIdentifier_of_isName htarget
    rw [hremaining, Table.walk?_cons, Gathering.transition?_target hname, Option.bind_some,
      Table.walk?_cons, Gathering.transition?_equals (Assignment.value_classify "="),
      Option.bind_some]
    exact hfollows.walk? (Assignment.value_classify ";")
  -- so the words of the right hand side are gathered, and evaluated at the semicolon
  obtain ⟨name, equals, found, semicolon, hfound, -, -, -, -, hends⟩ :=
    Gathering.ends_of_walk?_zero hwalk
  rw [hremaining, List.cons.injEq, List.cons.injEq] at hfound
  obtain ⟨rfl, -, hitems⟩ := hfound
  obtain ⟨rfl, -⟩ := List.append_inj' hitems rfl
  have hvalues : items.map Token.value = Assignment.rightHandSide tree := by
    rw [List.map_map]
    exact List.map_id'' Assignment.value_classify _
  have hformula : (items.map Token.value).foldl Formula.add Formula.standard =
      Gathering.formulaOf tree := by
    rw [hvalues, Formula.foldl_add, Formula.standard, Array.empty_append]
    rfl
  have hparse : Gathering.grammar.parse (Assignment.written target tree) =
      (Gathering.ending { target, formula := Gathering.formulaOf tree }).outcome := by
    rw [Assignment.value_classify, hformula] at hends
    exact congrArg Ending.outcome (Grammar.ending_run hends)
  rw [hparse, Gathering.ending]
  simp only [Gathering.evaluate_formulaOf hleaves hoperators hnesting]
  rfl

/-- A target that can be read off a text is a name. -/
lemma Gathering.isName_of_parse {text : String} {gathering : Gathering}
    (hidentifier : Text.isIdentifier gathering.target = true)
    (h : Gathering.grammar.parse text = .ok gathering) :
    Text.isName gathering.target = true := by
  rcases Gathering.target_of_parse h with hempty | ⟨token, hmem, hvalue⟩
  · rw [hempty] at hidentifier
    cases hidentifier
  · rw [← hvalue] at hidentifier ⊢
    exact Assignment.isName_of_mem_tokens hidentifier hmem

end

/-- An arithmetic assignment that is written as text is read back, with the words of its right hand
side as the gathered values and with its tree, if and only if its target is a name without
digits. -/
theorem Gathering.parse_arithmetic_iff (target : String) (tree : Tree String)
    (htarget : Text.isIdentifier target = true)
    (hleaves : ∀ value ∈ tree.leaves, Text.isName value = true ∨ Text.isNumber value = true)
    (hoperators : ∀ operator ∈ tree.operators, operator ∈ ["+", "-", "*", "/", "%"])
    (hnesting : (tree.layout Operators.standard.tightest? 0).nesting ≤ 128) :
    Gathering.grammar.parse (Assignment.written target tree) =
        .ok
          { target
            formula :=
              { Formula.standard with values := (Assignment.rightHandSide tree).toArray }
            tree := some tree } ↔
      Text.isName target = true :=
  ⟨fun hparse => Gathering.isName_of_parse htarget hparse,
    fun hname => Gathering.parse_written hname hleaves hoperators hnesting⟩

/-- In `rate = ( and + or ) * 1.5 - x_y % 2 ;` the names of two operators stand as operands. -/
theorem Gathering.parse_arithmetic_iff_words :
    let tree : Tree String :=
      .branch "-" (.branch "*" (.branch "+" (.leaf "and") (.leaf "or")) (.leaf "1.5"))
        (.branch "%" (.leaf "x_y") (.leaf "2"))
    Assignment.written "rate" tree = "rate = ( and + or ) * 1.5 - x_y % 2 ;" ∧
      Gathering.grammar.parse "rate = ( and + or ) * 1.5 - x_y % 2 ;" =
        .ok
          { target := "rate"
            formula :=
              { Formula.standard with
                values := #["(", "and", "+", "or", ")", "*", "1.5", "-", "x_y", "%", "2"] }
            tree := some tree } := by
  intro tree
  have hwritten : Assignment.written "rate" tree = "rate = ( and + or ) * 1.5 - x_y % 2 ;" := by
    decide
  have hparse := (Gathering.parse_arithmetic_iff "rate" tree rfl (by decide) (by decide)
    (by decide)).mpr rfl
  rw [hwritten] at hparse
  exact ⟨hwritten, hparse⟩

/-- A digit ends the word before it, so a target with a digit is cut in two. -/
theorem Gathering.parse_arithmetic_digit :
    Text.isIdentifier "x1" = true ∧ Text.isName "a" = true ∧
      Assignment.written "x1" (.leaf "a") = "x1 = a ;" ∧
      Gathering.grammar.parse "x1 = a ;" = .error (.noMatch "1" 1) := by
  have hwritten : Assignment.written "x1" (.leaf "a") = "x1 = a ;" := by decide
  exact ⟨rfl, rfl, hwritten, rfl⟩

end TableGrammar
