import TableGrammar.Grammar.Gathering
import TableGrammar.Proofs.Expression.Layout
import TableGrammar.Proofs.Expression.Sweep
import TableGrammar.Proofs.Expression.Truncation
import TableGrammar.Proofs.Grammar.Endings

/-!
# The two grammars of assignments agree

One grammar reads the right hand side as an expression, the other walks along it and evaluates the
values it has gathered. On an assignment that the table of the second grammar accepts up to its
semicolon, one succeeds exactly when the other does, with the same tree
(`Gathering.isOk_iff_isOk_assignment`).

What the table accepts alternates between operands and arithmetic operators (`Gathering.Follows`).
There it makes no difference that the first grammar ignores the case of its operators, and the
semicolon is where the second one stops gathering.
-/

namespace TableGrammar

/-! ### What the table accepts -/

/-- The state of the table in which this is due. -/
def Gathering.stateOf : Sweep.Mode → Nat
  | .operand => 2
  | .operator => 3

/-- The part that the table takes a token for, and what is due after it. -/
inductive Gathering.Part (token : Token) : Sweep.Mode → Sweep.Mode → Prop where
  | identifier (h : Text.isIdentifier token.value = true) : Part token .operand .operator
  | number (h : Text.isNumber token.value = true) : Part token .operand .operator
  | opening (h : token.value = "(") : Part token .operand .operand
  | operator (h : token.value ∈ ["+", "-", "*", "/", "%"]) : Part token .operator .operand
  | closing (h : token.value = ")") : Part token .operator .operator

/-- The tokens of a right hand side that the table accepts, starting with what is due. -/
inductive Gathering.Follows : Sweep.Mode → List Token → Prop where
  | nil : Follows .operator []
  | cons {mode next : Sweep.Mode} {token : Token} {tokens : List Token}
      (hpart : Gathering.Part token mode next) (h : Follows next tokens) :
      Follows mode (token :: tokens)

lemma Gathering.accepts_arithmetic_iff {token : Token} :
    Gathering.arithmetic.accepts token = true ↔ token.value ∈ ["+", "-", "*", "/", "%"] := by
  have hexact : ∀ text ∈ ["+", "-", "*", "/", "%"],
      (Entry.operator text).matcher.accepts token = true ↔ token.value = text := by
    simp only [List.forall_mem_cons]
    exact ⟨Matcher.accepts_exact_iff rfl, Matcher.accepts_exact_iff rfl,
      Matcher.accepts_exact_iff rfl, Matcher.accepts_exact_iff rfl, Matcher.accepts_exact_iff rfl,
      by simp⟩
  rw [Gathering.arithmetic, Matcher.accepts, Matcher.acceptsValue_anyOf, List.any_map,
    List.any_eq_true]
  constructor
  · rintro ⟨text, htext, haccepts⟩
    rwa [(hexact text htext).mp haccepts]
  · intro htext
    exact ⟨token.value, htext, (hexact _ htext).mpr rfl⟩

/-- The transitions of the two states for a right hand side: all but the semicolon's add the token
to the formula. -/
lemma Gathering.transition_cases {mode : Sweep.Mode} {transition : Transition Gathering}
    {token : Token}
    (hmem : transition ∈ Gathering.machine.table.transitions (Gathering.stateOf mode))
    (haccepts : transition.matcher.accepts token = true) :
    (∃ next, transition.nextState? = some (Gathering.stateOf next) ∧
        transition.action = some Gathering.push ∧ Gathering.Part token mode next) ∨
      mode = .operator ∧ token.value = ";" ∧ transition.nextState? = some Gathering.done ∧
        transition.action = some Gathering.finish := by
  cases mode with
  | operand =>
    have hrow : transition ∈
        [{ matcher := .shape .identifier, next := 3, action := some Gathering.push },
         { matcher := .shape .number, next := 3, action := some Gathering.push },
         { matcher := (Entry.character '(').matcher, next := 2,
           action := some Gathering.push }] := hmem
    left
    simp only [List.mem_cons, List.not_mem_nil, or_false] at hrow
    rcases hrow with rfl | rfl | rfl
    · exact ⟨.operator, rfl, rfl, .identifier haccepts⟩
    · exact ⟨.operator, rfl, rfl, .number haccepts⟩
    · exact ⟨.operand, rfl, rfl, .opening ((Matcher.accepts_exact_iff rfl).mp haccepts)⟩
  | operator =>
    have hrow : transition ∈
        [{ matcher := Gathering.arithmetic, next := 2, action := some Gathering.push },
         { matcher := (Entry.character ')').matcher, next := 3, action := some Gathering.push },
         { matcher := Assignment.semicolon, next := Gathering.done,
           action := some Gathering.finish }] := hmem
    simp only [List.mem_cons, List.not_mem_nil, or_false] at hrow
    rcases hrow with rfl | rfl | rfl
    · left
      exact ⟨.operand, rfl, rfl, .operator (Gathering.accepts_arithmetic_iff.mp haccepts)⟩
    · left
      exact ⟨.operator, rfl, rfl, .closing ((Matcher.accepts_exact_iff rfl).mp haccepts)⟩
    · right
      exact ⟨rfl, Assignment.accepts_semicolon_iff.mp haccepts, rfl, rfl⟩

/-- The ending at the semicolon. -/
def Gathering.ending (gathering : Gathering) : Ending Gathering :=
  match gathering.formula.evaluate id with
  | .error fault => .failed (.expression fault)
  | .ok tree => .terminal Gathering.done { gathering with tree }

/-- A right hand side that the table accepts is gathered and evaluated at its semicolon. -/
lemma Gathering.ends_of_walk? {mode : Sweep.Mode} {tokens : List Token} {cursor : Cursor}
    (hwalk : Gathering.machine.table.walk? (Gathering.stateOf mode) tokens = some Gathering.done)
    (hremaining : cursor.remaining = tokens) (gathering : Gathering) :
    ∃ items semicolon, tokens = items ++ [semicolon] ∧ semicolon.value = ";" ∧
      Gathering.Follows mode items ∧
      Gathering.machine.Ends (Gathering.stateOf mode) gathering cursor
        (Gathering.ending { gathering with
          formula := (items.map Token.value).foldl Formula.add gathering.formula }) := by
  induction tokens generalizing mode cursor gathering with
  | nil => cases mode <;> cases hwalk
  | cons token tokens ih =>
    obtain ⟨transition, next, htransition, hnext, hwalk⟩ := Table.walk?_cons_eq_some hwalk
    have hafter : (cursor.advance 1).remaining = tokens := Cursor.remaining_advance_one hremaining
    -- a token of the right hand side is added and the walk goes on, or the semicolon ends it
    rcases Gathering.transition_cases (Table.mem_of_transition? htransition)
      (Table.accepts_of_transition? htransition) with
      ⟨due, hdue, haction, hpart⟩ | ⟨rfl, hvalue, hdone, haction⟩
    · obtain rfl : next = Gathering.stateOf due := Option.some.inj (hnext.symm.trans hdue)
      have hterminal : Gathering.machine.isTerminal (Gathering.stateOf due) = false := by
        cases due <;> rfl
      have hperform : transition.perform token.value gathering (cursor.advance 1) =
          ({ outcome := .ok { gathering with formula := gathering.formula.add token.value } },
            cursor.advance 1) := by
        rw [Transition.perform, haction]
        rfl
      obtain ⟨items, semicolon, rfl, hsemicolon, hfollows, hends⟩ := ih hwalk hafter
        { gathering with formula := gathering.formula.add token.value }
      refine ⟨token :: items, semicolon, rfl, hsemicolon, .cons hpart hfollows, ?_⟩
      refine .of_ok hremaining htransition hnext hterminal
        (congrArg (fun reply => reply.1.outcome) hperform) ?_
      rw [hperform]
      exact hends
    · obtain rfl : next = Gathering.done := Option.some.inj (hnext.symm.trans hdone)
      -- no transition leaves the state of a complete assignment
      obtain rfl : tokens = [] := by
        cases tokens with
        | nil => rfl
        | cons other tokens =>
          obtain ⟨_, _, hnone, -, -⟩ := Table.walk?_cons_eq_some hwalk
          cases hnone
      refine ⟨[], token, rfl, hvalue, .nil, ?_⟩
      simp only [List.map_nil, List.foldl_nil, Gathering.ending]
      cases hevaluate : gathering.formula.evaluate id with
      | error fault =>
        refine .of_error hremaining htransition hnext ?_
        simp [Transition.perform, haction, Gathering.finish, Action.apply, hevaluate]
      | ok tree =>
        refine .of_terminal hremaining htransition hnext rfl ?_
        simp [Transition.perform, haction, Gathering.finish, Action.apply, hevaluate]

/-- An assignment that the table accepts has a name, an equals sign, a right hand side that it
accepts and a semicolon, and what was gathered is evaluated there. -/
lemma Gathering.ends_of_walk?_zero {cursor : Cursor}
    (hwalk : Gathering.machine.table.walk? 0 cursor.remaining = some Gathering.done) :
    ∃ target equals items semicolon,
      cursor.remaining = target :: equals :: (items ++ [semicolon]) ∧
      Text.isIdentifier target.value = true ∧ equals.value = "=" ∧ semicolon.value = ";" ∧
      Gathering.Follows .operand items ∧
      Gathering.machine.Ends 0 Gathering.machine.start cursor
        (Gathering.ending
          { target := target.value
            formula := (items.map Token.value).foldl Formula.add Formula.standard }) := by
  -- states 0 and 1 have one transition each, so the walk starts with a name and an equals sign
  cases hremaining : cursor.remaining with
  | nil =>
    rw [hremaining] at hwalk
    cases hwalk
  | cons target rest =>
    rw [hremaining] at hwalk
    obtain ⟨named, _, hnamed, hnext, hwalk⟩ := Table.walk?_cons_eq_some hwalk
    have htarget := Table.accepts_of_transition? hnamed
    obtain rfl := List.mem_singleton.mp (Table.mem_of_transition? hnamed)
    cases hnext
    have hafter : (cursor.advance 1).remaining = rest := Cursor.remaining_advance_one hremaining
    cases rest with
    | nil => cases hwalk
    | cons equals rest =>
      obtain ⟨equated, _, hequated, hnext, hwalk⟩ := Table.walk?_cons_eq_some hwalk
      have hequals := Table.accepts_of_transition? hequated
      obtain rfl := List.mem_singleton.mp (Table.mem_of_transition? hequated)
      cases hnext
      obtain ⟨items, semicolon, rfl, hsemicolon, hfollows, hends⟩ :=
        @Gathering.ends_of_walk? .operand _ _ hwalk (Cursor.remaining_advance_one hafter)
          { target := target.value }
      exact ⟨target, equals, items, semicolon, rfl, htarget,
        (Matcher.accepts_exact_iff rfl).mp hequals, hsemicolon, hfollows,
        .of_ok hremaining hnamed rfl rfl rfl (.of_ok hafter hequated rfl rfl rfl hends)⟩

/-! ### Reading what the table accepts -/

/-- The roles of tokens by the roles of their values in a formula. -/
def Gathering.roles : Roles Token :=
  (Formula.standard.roles id).comap Token.value

lemma Gathering.Part.value_ne {token : Token} {mode next : Sweep.Mode}
    (h : Gathering.Part token mode next) : token.value ≠ ";" := by
  intro hvalue
  cases h with
  | identifier h | number h | opening h | operator h | closing h =>
    rw [hvalue] at h
    exact absurd h (by decide)

/-- Where an operator is due, the table accepts no token whose tier depends on the case of
letters. -/
lemma Gathering.Part.tier?_eq {token : Token} {next : Sweep.Mode}
    (h : Gathering.Part token .operator next) :
    Assignment.roles.unstopped.tier? token = Gathering.roles.tier? token := by
  have hvalue : token.value ∈ ["+", "-", "*", "/", "%", ")"] := by
    cases h with
    | operator h => exact List.mem_append_left [")"] h
    | closing h => simp [h]
  have hcase : ∀ value ∈ ["+", "-", "*", "/", "%", ")"], ∀ tier,
      Operators.standard.containsText tier value = Operators.standard.contains tier value := by
    intro value hvalue tier
    cases tier <;> revert value <;> decide
  simp only [Roles.tier?, Roles.unstopped, Gathering.roles, Roles.comap, Formula.roles,
    Bool.false_eq_true, if_false]
  congr 1
  funext tier
  exact hcase token.value hvalue tier

lemma Gathering.Part.mode_of_advances {token : Token} {mode next : Sweep.Mode}
    (h : Gathering.Part token mode next) {reading further : Reading Token}
    (hmode : reading.due.mode = mode) (hadvances : reading.Advances Gathering.roles token further) :
    further.due.mode = next := by
  -- its value decides what the token is, for the table and for the reading, so that no other two
  -- cases go together
  cases hadvances with
  | opening hopens hdepth =>
    have hvalue : token.value = "(" := beq_iff_eq.mp hopens.isOpen
    cases h with
    | identifier h | number h =>
      rw [hvalue] at h
      exact absurd h (by decide)
    | opening h => rfl
    | operator h | closing h => cases hmode
  | operand hoperand =>
    cases h with
    | identifier h | number h => rfl
    | opening h => exact absurd h (beq_eq_false_iff_ne.mp hoperand.isOpen)
    | operator h | closing h => cases hmode
  | @operator tier last left waiting further outer hacts hreduce =>
    cases h with
    | identifier h | number h | opening h => cases hmode
    | operator h => rfl
    | closing h =>
      have hoperator : Operators.standard.contains tier token.value = true := hacts.isOperator
      rw [h] at hoperator
      cases tier <;> cases hoperator
  | closing hcloses =>
    have hvalue : token.value = ")" := beq_iff_eq.mp hcloses.isClose
    cases h with
    | identifier h | number h | opening h => cases hmode
    | operator h =>
      rw [hvalue] at h
      exact absurd h (by decide)
    | closing h => rfl

/-- Over what the table accepts, reading tokens is reading their values. -/
lemma Gathering.Follows.readAll {mode : Sweep.Mode} {items : List Token}
    (h : Gathering.Follows mode items) {reading : Reading Token} (hmode : reading.due.mode = mode) :
    reading.readAll Assignment.roles.unstopped items = reading.readAll Gathering.roles items := by
  induction h generalizing reading with
  | nil => rfl
  | @cons mode next token tokens hpart h ih =>
    have hagree : Assignment.roles.unstopped.Agree Gathering.roles token := ⟨rfl, rfl, rfl, rfl⟩
    -- the roles differ in tiers only, and tiers are asked for only where an operator is due
    have hread : reading.read Assignment.roles.unstopped token =
        reading.read Gathering.roles token := by
      refine hagree.read reading ?_
      intro last hdue
      rw [hdue] at hmode
      subst hmode
      exact hpart.tier?_eq
    rw [Reading.readAll, Reading.readAll, hread]
    cases hnext : reading.read Gathering.roles token with
    | next further => exact ih (hpart.mode_of_advances hmode (Reading.read_eq_next_iff.mp hnext))
    | before outcome => rfl
    | after error => rfl

lemma Gathering.Follows.value_ne {mode : Sweep.Mode} {items : List Token}
    (h : Gathering.Follows mode items) : ∀ item ∈ items, item.value ≠ ";" := by
  induction h with
  | nil => simp
  | cons hpart h ih => exact List.forall_mem_cons.mpr ⟨hpart.value_ne, ih⟩

/-- Reading what the table accepts, up to its semicolon, is reading its values. -/
lemma Gathering.Follows.readExpression_semicolon {items : List Token} {semicolon : Token}
    (h : Gathering.Follows .operand items) (hsemicolon : semicolon.value = ";") :
    readExpression Assignment.roles (items ++ [semicolon]) =
      (Assignment.roles.outcomeBefore [semicolon] (readExpression Gathering.roles items).1
          (readExpression Gathering.roles items).2,
        (readExpression Gathering.roles items).2 ++ [semicolon]) := by
  have hread : readExpression Assignment.roles.unstopped items =
      readExpression Gathering.roles items := by
    cases items with
    | nil => rfl
    | cons first items =>
      rw [readExpression_cons Assignment.roles.unstopped items rfl,
        readExpression_cons Gathering.roles items rfl, h.readAll rfl]
  have hitems : ∀ item ∈ items, Assignment.roles.isStop item = false := by
    intro item hitem
    rw [← Bool.not_eq_true, Assignment.isStop_iff]
    exact h.value_ne item hitem
  have hcuts : Assignment.roles.CutsOff [semicolon] := by
    intro token htoken
    cases htoken
    refine ⟨Assignment.isStop_iff.mpr hsemicolon, ?_⟩
    simp [Assignment.roles, Roles.ofTokens, hsemicolon]
  rw [← hread]
  exact readExpression_append hitems hcuts

/-- The gathered values evaluate to what reading the tokens by their values gives. -/
lemma Gathering.evaluate_values (items : List Token) :
    Formula.evaluate ((items.map Token.value).foldl Formula.add Formula.standard) id =
      match readExpression Gathering.roles items with
      | (.error fault, _) => .error fault
      | (.ok expression, []) => .ok (expression.map (Tree.map Token.value))
      | (.ok _, token :: _) =>
        if token.value == ")" then .error .unopenedParenthesis
        else .error (.trailingInput token.value) := by
  let formula : Formula String :=
    { Formula.standard with values := (items.map Token.value).toArray }
  have hformula : (items.map Token.value).foldl Formula.add Formula.standard = formula := by
    rw [Formula.foldl_add, Formula.standard, Array.empty_append]
    rfl
  have hread : readExpression (formula.roles id) formula.values.toList =
      ((readExpression Gathering.roles items).1.map (Option.map (Tree.map Token.value)),
        (readExpression Gathering.roles items).2.map Token.value) :=
    readExpression_comap Token.value (Formula.standard.roles id) items
  rw [hformula, Formula.evaluate, hread]
  cases readExpression Gathering.roles items with
  | mk outcome rest =>
    cases outcome with
    | error fault => rfl
    | ok expression => cases rest <;> rfl

/-! ### The two grammars agree -/

/-- Both endings are successful, with the same target and the same tree, or both are failures. -/
inductive Gathering.EndsLike : Ending Gathering → Ending Assignment → Prop where
  | ok {target : String} {formula : Formula String} {expression : Expression Token} :
      EndsLike
        (.terminal Gathering.done
          { target, formula, tree := expression.map (Tree.map Token.value) })
        (.exhausted 2 { target, expression })
  | failed {failure failure' : Failure} : EndsLike (.failed failure) (.failed failure')

lemma Gathering.Follows.endsLike {items : List Token} {semicolon : Token}
    (h : Gathering.Follows .operand items) (hsemicolon : semicolon.value = ";")
    (target : String) :
    Gathering.EndsLike
      (Gathering.ending
        { target, formula := (items.map Token.value).foldl Formula.add Formula.standard })
      (Assignment.ending target (readExpression Assignment.roles (items ++ [semicolon])).1
        (readExpression Assignment.roles (items ++ [semicolon])).2) := by
  have hsuffix := readExpression_suffix Gathering.roles items
  rw [Gathering.ending, Gathering.evaluate_values, h.readExpression_semicolon hsemicolon]
  cases hread : readExpression Gathering.roles items with
  | mk outcome rest =>
    rw [hread] at hsuffix
    cases outcome with
    | error fault => cases fault <;> cases rest <;> exact .failed
    | ok expression =>
      rw [Roles.outcomeBefore_ok]
      cases rest with
      | nil =>
        have hending : Assignment.ending target (.ok expression) ([] ++ [semicolon]) =
            .exhausted 2 { target, expression } := by
          simp [Assignment.ending, hsemicolon]
        rw [hending]
        exact .ok
      | cons token rest =>
        -- a token is left over before the semicolon, at which one grammar fails to match and the
        -- other reports what is left
        have htoken : token.value ≠ ";" := h.value_ne token (hsuffix.subset List.mem_cons_self)
        have hending : Assignment.ending target (.ok expression) (token :: rest ++ [semicolon]) =
            .failed (.noMatch token.value 2) := by
          simp [Assignment.ending, htoken]
        rw [hending]
        dsimp only
        split_ifs
        · exact .failed
        · exact .failed

/-- On every assignment that the table accepts up to its semicolon, gathering succeeds exactly when
reading the right hand side does. Then the targets are the same, and the tree is the expression with
every token replaced by its value. -/
theorem Gathering.isOk_iff_isOk_assignment (cursor : Cursor)
    (h : Gathering.machine.table.walk? 0 cursor.remaining = some Gathering.done) :
    ((∃ gathering, (Gathering.grammar.run cursor).ending.outcome = .ok gathering) ↔
      ∃ assignment, (Assignment.grammar.run cursor).ending.outcome = .ok assignment) ∧
    ∀ gathering assignment, (Gathering.grammar.run cursor).ending.outcome = .ok gathering →
      (Assignment.grammar.run cursor).ending.outcome = .ok assignment →
      gathering.target = assignment.target ∧
        gathering.tree = assignment.expression.map (Tree.map Token.value) := by
  obtain ⟨target, equals, items, semicolon, hremaining, htarget, hequals, hsemicolon, hfollows,
    hgathering⟩ := Gathering.ends_of_walk?_zero h
  have hassignment := Assignment.ends_of_remaining htarget hequals hremaining
  have hlike : Gathering.EndsLike (Gathering.grammar.run cursor).ending
      (Assignment.grammar.run cursor).ending := by
    rw [Grammar.ending_run hgathering, Grammar.ending_run hassignment]
    exact hfollows.endsLike hsemicolon target.value
  generalize (Gathering.grammar.run cursor).ending = gathered at hlike ⊢
  generalize (Assignment.grammar.run cursor).ending = assigned at hlike ⊢
  cases hlike with
  | ok =>
    refine ⟨⟨fun _ => ⟨_, rfl⟩, fun _ => ⟨_, rfl⟩⟩, ?_⟩
    intro gathering assignment hgathering hassignment
    cases hgathering
    cases hassignment
    exact ⟨rfl, rfl⟩
  | failed => simp [Ending.outcome]

/-- In `x = ( AND + 2 ) * or ;` the names of two operators stand as operands. -/
theorem Gathering.isOk_iff_isOk_assignment_parenthesized :
    let cursor : Cursor :=
      { tokens := [⟨.identifier, "x"⟩, ⟨.character, "="⟩, ⟨.character, "("⟩,
          ⟨.identifier, "AND"⟩, ⟨.operator, "+"⟩, ⟨.number, "2"⟩, ⟨.character, ")"⟩,
          ⟨.operator, "*"⟩, ⟨.identifier, "or"⟩, ⟨.character, ";"⟩] }
    Gathering.machine.table.walk? 0 cursor.remaining = some Gathering.done ∧
      ∃ gathering, (Gathering.grammar.run cursor).ending.outcome = .ok gathering ∧
        gathering.target = "x" ∧
        gathering.tree =
          some (.branch "*" (.branch "+" (.leaf "AND") (.leaf "2")) (.leaf "or")) := by
  intro cursor
  have hwalk : Gathering.machine.table.walk? 0 cursor.remaining = some Gathering.done := by
    decide
  have hassignment : ∃ assignment, (Assignment.grammar.run cursor).ending.outcome = .ok assignment ∧
      assignment.target = "x" ∧ assignment.expression.map (Tree.map Token.value) =
        some (.branch "*" (.branch "+" (.leaf "AND") (.leaf "2")) (.leaf "or")) := by
    have hstop : Assignment.roles.isStop ⟨.character, "("⟩ = false := rfl
    have hread := readExpression_cons Assignment.roles
      [⟨.identifier, "AND"⟩, ⟨.operator, "+"⟩, ⟨.number, "2"⟩, ⟨.character, ")"⟩,
        ⟨.operator, "*"⟩, ⟨.identifier, "or"⟩, ⟨.character, ";"⟩] hstop
    rw [Assignment.ending_run]
    simp only [cursor, Cursor.remaining, List.drop_zero, Assignment.endingOver, hread]
    exact ⟨_, rfl, rfl, rfl⟩
  obtain ⟨assignment, houtcome, htarget, htree⟩ := hassignment
  obtain ⟨hiff, hsame⟩ := Gathering.isOk_iff_isOk_assignment cursor hwalk
  obtain ⟨gathering, hgathering⟩ := hiff.mpr ⟨assignment, houtcome⟩
  obtain ⟨htargets, htrees⟩ := hsame gathering assignment hgathering houtcome
  exact ⟨hwalk, gathering, hgathering, htargets.trans htarget, htrees.trans htree⟩

end TableGrammar
