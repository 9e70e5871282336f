import Mathlib
import TableGrammar.Grammar.Assignment
import TableGrammar.Proofs.Machine.Runs
import TableGrammar.Proofs.Text.Case

/-!
# How the run of an assignment ends

After a name and an equals sign all that matters is what reading the right hand side gives: a fault
ends the run, and an expression is the result if nothing but semicolons is left
(`Assignment.ends_of_remaining`). So the tokens determine the ending (`Assignment.ending_run`), and
the target of a result is the value of one of them (`Assignment.target_of_outcome`).
-/

namespace TableGrammar

/-! ### Symbols -/

/-- A matcher for a token without letters accepts the value of that token only. -/
lemma Matcher.accepts_exact_iff {token found : Token}
    (h : token.value.toList.any Char.isAlpha = false) :
    (Matcher.exact token).accepts found = true ↔ found.value = token.value := by
  rw [Matcher.accepts, Matcher.acceptsValue, Text.alike_iff_eq h]

/-! ### Assignments -/

/-- The roles of tokens on the right hand side of an assignment. -/
def Assignment.roles : Roles Token :=
  Roles.ofTokens Operators.standard [Assignment.semicolon]

/-- The ending after a right hand side that was read with an outcome and left these tokens. -/
def Assignment.ending (target : String) (outcome : Except Fault (Expression Token))
    (rest : List Token) : Ending Assignment :=
  match outcome with
  | .error fault => .failed (.expression fault)
  | .ok expression =>
    match rest.find? fun token => token.value != ";" with
    | none => .exhausted 2 { target, expression }
    | some token => .failed (.noMatch token.value 2)

lemma Assignment.accepts_semicolon_iff {token : Token} :
    Assignment.semicolon.accepts token = true ↔ token.value = ";" :=
  Matcher.accepts_exact_iff rfl

lemma Assignment.isStop_iff {token : Token} :
    Assignment.roles.isStop token = true ↔ token.value = ";" := by
  rw [← Assignment.accepts_semicolon_iff]
  simp [Assignment.roles, Roles.ofTokens]

/-- Reading the right hand side keeps the target and moves the cursor to what reading has left. -/
lemma Assignment.apply_readRightHandSide (value : String) (assignment : Assignment)
    (cursor : Cursor) :
    (Assignment.readRightHandSide.apply value assignment cursor).1.outcome =
        (match (readExpression Assignment.roles cursor.remaining).1 with
        | .error fault => .error (.expression fault)
        | .ok expression => .ok { assignment with expression }) ∧
      (Assignment.readRightHandSide.apply value assignment cursor).2.remaining =
        (readExpression Assignment.roles cursor.remaining).2 := by
  constructor
  · simp only [Assignment.readRightHandSide, Action.apply, Cursor.readExpression]
    rw [Assignment.roles]
    cases (readExpression (Roles.ofTokens Operators.standard [Assignment.semicolon])
      cursor.remaining).1 <;> rfl
  · exact Cursor.remaining_readExpression Operators.standard [Assignment.semicolon] cursor

/-- Behind the right hand side semicolons are passed over, and anything else is a failure. -/
lemma Assignment.ends_after_expression (target : String) (expression : Expression Token)
    {rest : List Token} {cursor : Cursor} (h : cursor.remaining = rest) :
    Assignment.machine.Ends 2 { target, expression } cursor
      (Assignment.ending target (.ok expression) rest) := by
  induction rest generalizing cursor with
  | nil => exact .exhausted h
  | cons token rest ih =>
    by_cases hsemicolon : token.value = ";"
    · have htransition : Assignment.machine.table.transition? 2 token =
          some { matcher := Assignment.semicolon, next := 2 } :=
        List.find?_cons_of_pos (Assignment.accepts_semicolon_iff.mpr hsemicolon)
      have hending : Assignment.ending target (.ok expression) (token :: rest) =
          Assignment.ending target (.ok expression) rest := by
        simp [Assignment.ending, hsemicolon]
      rw [hending]
      exact .of_ok h htransition rfl rfl rfl (ih (Cursor.remaining_advance_one h))
    · have htransition : Assignment.machine.table.transition? 2 token = none :=
        List.find?_cons_of_neg (Assignment.accepts_semicolon_iff.not.mpr hsemicolon)
      have hending : Assignment.ending target (.ok expression) (token :: rest) =
          .failed (.noMatch token.value 2) := by
        simp [Assignment.ending, hsemicolon]
      rw [hending]
      exact .of_unmatched h htransition

/-- At the equals sign the right hand side is read. -/
lemma Assignment.ends_after_target (target : String) {cursor : Cursor} {equals : Token}
    {rest : List Token} (hequals : equals.value = "=") (h : cursor.remaining = equals :: rest) :
    Assignment.machine.Ends 1 { target } cursor
      (Assignment.ending target (readExpression Assignment.roles rest).1
        (readExpression Assignment.roles rest).2) := by
  have htransition : Assignment.machine.table.transition? 1 equals =
      some { matcher := (Entry.character '=').matcher, next := 2,
             action := some Assignment.readRightHandSide } :=
    List.find?_cons_of_pos ((Matcher.accepts_exact_iff rfl).mpr hequals)
  obtain ⟨happly, hremaining⟩ :=
    Assignment.apply_readRightHandSide equals.value { target } (cursor.advance 1)
  rw [Cursor.remaining_advance_one h] at happly hremaining
  cases hread : (readExpression Assignment.roles rest).1 with
  | error fault =>
    rw [hread] at happly
    exact .of_error h htransition rfl happly
  | ok expression =>
    rw [hread] at happly
    exact .of_ok h htransition rfl rfl happly
      (Assignment.ends_after_expression target expression hremaining)

/-- The run over an assignment ends with what reading its right hand side gives. -/
lemma Assignment.ends_of_remaining {cursor : Cursor} {target equals : Token} {rest : List Token}
    (htarget : Text.isIdentifier target.value = true) (hequals : equals.value = "=")
    (h : cursor.remaining = target :: equals :: rest) :
    Assignment.machine.Ends 0 Assignment.machine.start cursor
      (Assignment.ending target.value (readExpression Assignment.roles rest).1
        (readExpression Assignment.roles rest).2) := by
  have htransition : Assignment.machine.table.transition? 0 target =
      some { matcher := .shape .identifier, next := 1, action := some Assignment.begin } :=
    List.find?_cons_of_pos htarget
  exact .of_ok h htransition rfl rfl rfl
    (Assignment.ends_after_target target.value hequals (Cursor.remaining_advance_one h))

/-- A right hand side gives a result if it was read and only semicolons are left. -/
lemma Assignment.outcome_ending_eq_ok_iff {target : String}
    {outcome : Except Fault (Expression Token)} {rest : List Token} {assignment : Assignment} :
    (Assignment.ending target outcome rest).outcome = .ok assignment ↔
      assignment.target = target ∧ outcome = .ok assignment.expression ∧
        ∀ token ∈ rest, token.value = ";" := by
  have hsemicolons : rest.find? (fun token => token.value != ";") = none ↔
      ∀ token ∈ rest, token.value = ";" := by
    simp [List.find?_eq_none]
  cases outcome with
  | error fault => simp [Assignment.ending, Ending.outcome]
  | ok expression =>
    rw [← hsemicolons, Assignment.ending]
    cases rest.find? (fun token => token.value != ";") with
    | some token => simp [Ending.outcome]
    | none =>
      constructor
      · intro h
        cases h
        exact ⟨rfl, rfl, rfl⟩
      · rintro ⟨rfl, hread, -⟩
        cases hread
        rfl

lemma Assignment.eq_ok_of_outcome_ending {target : String}
    {outcome : Except Fault (Expression Token)} {rest : List Token} {assignment : Assignment}
    (h : (Assignment.ending target outcome rest).outcome = .ok assignment) :
    assignment.target = target ∧ outcome = .ok assignment.expression := by
  obtain ⟨htarget, hread, -⟩ := Assignment.outcome_ending_eq_ok_iff.mp h
  exact ⟨htarget, hread⟩

/-- The ending of a run over these tokens. -/
def Assignment.endingOver : List Token → Ending Assignment
  | [] => .exhausted 0 {}
  | [target] =>
    if Text.isIdentifier target.value then .exhausted 1 { target := target.value }
    else .failed (.noMatch target.value 0)
  | target :: equals :: rest =>
    if Text.isIdentifier target.value then
      if equals.value = "=" then
        Assignment.ending target.value (readExpression Assignment.roles rest).1
          (readExpression Assignment.roles rest).2
      else .failed (.noMatch equals.value 1)
    else .failed (.noMatch target.value 0)

lemma Assignment.ends_of_not_isIdentifier {cursor : Cursor} {target : Token} {rest : List Token}
    (htarget : Text.isIdentifier target.value = false) (h : cursor.remaining = target :: rest) :
    Assignment.machine.Ends 0 Assignment.machine.start cursor
      (.failed (.noMatch target.value 0)) := by
  have hnone : Assignment.machine.table.transition? 0 target = none :=
    List.find?_cons_of_neg (Bool.not_eq_true _ ▸ htarget)
  exact .of_unmatched h hnone

/-- Every run ends in one of these ways. -/
lemma Assignment.ending_run (cursor : Cursor) :
    (Assignment.grammar.run cursor).ending = Assignment.endingOver cursor.remaining := by
  refine Grammar.ending_run ?_
  -- how the run ends depends on the target, then on the equals sign, then on the right hand side
  cases hremaining : cursor.remaining with
  | nil => exact .exhausted hremaining
  | cons target rest =>
    cases htarget : Text.isIdentifier target.value with
    | false =>
      have hending : Assignment.endingOver (target :: rest) =
          .failed (.noMatch target.value 0) := by
        cases rest <;> simp [Assignment.endingOver, htarget]
      rw [hending]
      exact Assignment.ends_of_not_isIdentifier htarget hremaining
    | true =>
      have hafter := Cursor.remaining_advance_one hremaining
      have htransition : Assignment.machine.table.transition? 0 target =
          some { matcher := .shape .identifier, next := 1, action := some Assignment.begin } :=
        List.find?_cons_of_pos htarget
      cases rest with
      | nil =>
        simp only [Assignment.endingOver, htarget, if_true]
        exact .of_ok hremaining htransition rfl rfl rfl (.exhausted hafter)
      | cons equals rest =>
        simp only [Assignment.endingOver, htarget, if_true]
        by_cases hequals : equals.value = "="
        · rw [if_pos hequals]
          exact Assignment.ends_of_remaining htarget hequals hremaining
        · have hnone : Assignment.machine.table.transition? 1 equals = none :=
            List.find?_cons_of_neg ((Matcher.accepts_exact_iff rfl).not.mpr hequals)
          rw [if_neg hequals]
          exact .of_ok hremaining htransition rfl rfl rfl (.of_unmatched hafter hnone)

/-- The target of an assignment is the value of a token, unless there is none. -/
lemma Assignment.target_of_outcome {cursor : Cursor} {assignment : Assignment}
    (h : (Assignment.grammar.run cursor).ending.outcome = .ok assignment) :
    assignment.target = "" ∨ ∃ token ∈ cursor.remaining, token.value = assignment.target := by
  rw [Assignment.ending_run] at h
  generalize cursor.remaining = tokens at h ⊢
  unfold Assignment.endingOver at h
  split at h
  case h_1 =>
    cases h
    exact Or.inl rfl
  case h_2 target =>
    refine Or.inr ⟨target, List.mem_cons_self, ?_⟩
    split at h <;> cases h
    rfl
  case h_3 target equals rest =>
    refine Or.inr ⟨target, List.mem_cons_self, ?_⟩
    split at h
    · split at h
      · exact (Assignment.eq_ok_of_outcome_ending h).1.symm
      · cases h
    · cases h

end TableGrammar
