import TableGrammar.Proofs.Expression.Precedence
import TableGrammar.Proofs.Expression.Sweep
import TableGrammar.Proofs.Grammar.Endings

/-!
# The language of assignments

The table of assignments says little about the right hand side: reading it is left to an action,
which takes an unknown number of tokens off the cursor. `Assignment.Spells` gives the language
without the table, and the grammar accepts just that (`Assignment.outcome_eq_ok_iff_spells`).

Where the right hand side ends is never in doubt. An expression that is followed by semicolons only
is read to its end, since a semicolon neither starts an expression nor continues one; and whatever
is read derives the tree that is built from it.
-/

namespace TableGrammar

/-! ### Expressions with nothing behind them -/

section

variable {α : Type} {roles : Roles α}

/-- The items make up the expression: there are none, or they derive its tree, with groups nested at
most 128 deep. -/
inductive Roles.Expresses (roles : Roles α) : List α → Expression α → Prop where
  | none : Expresses roles [] none
  | some {items : List α} {tree : Tree α} (h : roles.Derives (.chain .lowest) 128 items tree) :
      Expresses roles items (some tree)

/-- What is read without a fault is the expression that the items in front of the rest make up. -/
lemma Roles.exists_expresses_of_readExpression {items rest : List α} {expression : Expression α}
    (h : readExpression roles items = (.ok expression, rest)) :
    ∃ front, items = front ++ rest ∧ roles.Expresses front expression := by
  by_cases hstarts : roles.Starts items
  · obtain ⟨first, hfirst, hstop⟩ := hstarts
    obtain ⟨tail, rfl⟩ := List.head?_eq_some_iff.mp hfirst
    obtain ⟨tree, front, rfl, hsplit, hderives, -⟩ :=
      Roles.exists_derives_of_readExpression hstop h
    exact ⟨front, hsplit, .some hderives⟩
  · rw [readExpression_of_not_starts hstarts] at h
    cases h
    exact ⟨[], rfl, .none⟩

/-- What makes up an expression is read as that expression, up to an item that ends it. -/
lemma Roles.Expresses.readExpression {items rest : List α} {expression : Expression α}
    (h : roles.Expresses items expression)
    (hrest : ∀ item ∈ rest.head?, roles.isStop item = true) :
    readExpression roles (items ++ rest) = (.ok expression, rest) := by
  cases h with
  | none =>
    refine readExpression_of_not_starts ?_
    rintro ⟨first, hfirst, hstop⟩
    rw [hrest first hfirst] at hstop
    cases hstop
  | some h =>
    refine h.readExpression fun item hitem tier hacts => ?_
    have hstop := hacts.isStop
    rw [hrest item hitem] at hstop
    cases hstop

/-- The same items make up one expression only. -/
lemma Roles.Expresses.unique {items : List α} {a b : Expression α} (ha : roles.Expresses items a)
    (hb : roles.Expresses items b) : a = b := by
  have hread : TableGrammar.readExpression roles (items ++ []) = (.ok a, []) :=
    ha.readExpression (by simp)
  rw [hb.readExpression (by simp)] at hread
  cases hread
  rfl

end

/-! ### The language -/

/-- The tokens spell out the assignment. They may break off before the equals sign; behind it there
is an expression, which may be empty, and then any number of semicolons. -/
inductive Assignment.Spells : List Token → Assignment → Prop where
  | nothing : Spells [] {}
  | target {target : Token} (htarget : Text.isIdentifier target.value = true) :
      Spells [target] { target := target.value }
  | whole {target equals : Token} {items semicolons : List Token} {expression : Expression Token}
      (htarget : Text.isIdentifier target.value = true) (hequals : equals.value = "=")
      (hitems : Assignment.roles.Expresses items expression)
      (hsemicolons : ∀ token ∈ semicolons, token.value = ";") :
      Spells (target :: equals :: (items ++ semicolons)) { target := target.value, expression }

lemma Assignment.spells_of_endingOver {tokens : List Token} {assignment : Assignment}
    (h : (Assignment.endingOver tokens).outcome = .ok assignment) :
    Assignment.Spells tokens assignment := by
  unfold Assignment.endingOver at h
  split at h
  case h_1 =>
    cases h
    exact .nothing
  case h_2 target =>
    split at h
    case isTrue htarget =>
      cases h
      exact .target htarget
    case isFalse => cases h
  case h_3 target equals rest =>
    split_ifs at h with htarget hequals
    · obtain ⟨name, expression⟩ := assignment
      -- behind the expression only semicolons can be left
      obtain ⟨rfl, hread, hsemicolons⟩ := Assignment.outcome_ending_eq_ok_iff.mp h
      obtain ⟨items, happend, hitems⟩ :=
        Roles.exists_expresses_of_readExpression (Prod.ext hread rfl)
      rw [happend]
      exact .whole htarget hequals hitems hsemicolons
    · cases h
    · cases h

lemma Assignment.Spells.outcome_endingOver {tokens : List Token} {assignment : Assignment}
    (h : Assignment.Spells tokens assignment) :
    (Assignment.endingOver tokens).outcome = .ok assignment := by
  cases h with
  | nothing => rfl
  | target htarget => simp [Assignment.endingOver, htarget, Ending.outcome]
  | @whole target equals items semicolons expression htarget hequals hitems hsemicolons =>
    have hread : readExpression Assignment.roles (items ++ semicolons) =
        (.ok expression, semicolons) :=
      hitems.readExpression fun token htoken =>
        Assignment.isStop_iff.mpr (hsemicolons token (List.mem_of_mem_head? htoken))
    rw [Assignment.endingOver, if_pos htarget, if_pos hequals, hread]
    exact Assignment.outcome_ending_eq_ok_iff.mpr ⟨rfl, rfl, hsemicolons⟩

/-- The first token behind the expression that is not a semicolon ends the run. -/
lemma Assignment.ending_of_leftover (target : String) (expression : Expression Token)
    {semicolons behind : List Token} {token : Token}
    (hsemicolons : ∀ other ∈ semicolons, other.value = ";") (htoken : token.value ≠ ";") :
    Assignment.ending target (.ok expression) (semicolons ++ token :: behind) =
      .failed (.noMatch token.value 2) := by
  have hnone : semicolons.find? (fun other => other.value != ";") = none := by
    simpa [List.find?_eq_none] using hsemicolons
  simp [Assignment.ending, List.find?_append, hnone, htoken]

/-- A run succeeds exactly on the tokens that spell out an assignment, with that assignment as its
result, and no right hand side makes up two expressions. Where the right hand side can be read, the
first token behind it that is not a semicolon fails to match in state 2. -/
theorem Assignment.outcome_eq_ok_iff_spells :
    (∀ (cursor : Cursor) (assignment : Assignment),
      (Assignment.grammar.run cursor).ending.outcome = .ok assignment ↔
        Assignment.Spells cursor.remaining assignment) ∧
    (∀ (items : List Token) (a b : Expression Token), Assignment.roles.Expresses items a →
      Assignment.roles.Expresses items b → a = b) ∧
    ∀ (cursor after : Cursor) (target equals token : Token) (rest semicolons behind : List Token)
      (expression : Expression Token), cursor.remaining = target :: equals :: rest →
      Text.isIdentifier target.value = true → equals.value = "=" →
      (cursor.advance 2).readExpression Operators.standard [Assignment.semicolon] =
        (.ok expression, after) →
      after.remaining = semicolons ++ token :: behind →
      (∀ other ∈ semicolons, other.value = ";") → token.value ≠ ";" →
      (Assignment.grammar.run cursor).ending.outcome = .error (.noMatch token.value 2) := by
  refine ⟨fun cursor assignment => ?_, fun items a b ha hb => ha.unique hb, ?_⟩
  · rw [Assignment.ending_run]
    exact ⟨Assignment.spells_of_endingOver, Assignment.Spells.outcome_endingOver⟩
  · intro cursor after target equals token rest semicolons behind expression hremaining htarget
      hequals hread hafter hsemicolons htoken
    have hrest : (cursor.advance 2).remaining = rest :=
      Cursor.remaining_advance_one (Cursor.remaining_advance_one hremaining)
    -- the cursor behind the expression has what reading the tokens leaves over
    have hleft := Cursor.remaining_readExpression Operators.standard [Assignment.semicolon]
      (cursor.advance 2)
    rw [hread, hafter, hrest] at hleft
    have houtcome : (readExpression Assignment.roles rest).1 = .ok expression := by
      rw [← hrest]
      exact congrArg Prod.fst hread
    rw [Assignment.ending_run, hremaining, Assignment.endingOver, if_pos htarget, if_pos hequals,
      houtcome, Assignment.roles, ← hleft,
      Assignment.ending_of_leftover target.value expression hsemicolons htoken]
    rfl

/-- In `x = ( a ) Or b ; ;` the operator is found whatever its case, and the second semicolon is
passed over like the first; were it followed by `c`, that would fail to match. -/
theorem Assignment.outcome_eq_ok_iff_spells_leftover :
    let semicolon : Token := ⟨.character, ";"⟩
    let items : List Token := [⟨.character, "("⟩, ⟨.identifier, "a"⟩, ⟨.character, ")"⟩,
      ⟨.identifier, "Or"⟩, ⟨.identifier, "b"⟩]
    let tree : Tree Token :=
      .branch ⟨.identifier, "Or"⟩ (.leaf ⟨.identifier, "a"⟩) (.leaf ⟨.identifier, "b"⟩)
    let cursor (behind : List Token) : Cursor :=
      { tokens := ⟨.identifier, "x"⟩ :: ⟨.character, "="⟩ :: (items ++ behind) }
    Assignment.roles.Expresses items (some tree) ∧
      (Assignment.grammar.run (cursor [semicolon, semicolon])).ending.outcome =
        .ok { target := "x", expression := some tree } ∧
      (Assignment.grammar.run
          (cursor [semicolon, semicolon, ⟨.identifier, "c"⟩])).ending.outcome =
        .error (.noMatch "c" 2) := by
  intro semicolon items tree cursor
  have hleft : Assignment.roles.IsOperand ⟨.identifier, "a"⟩ := ⟨rfl, rfl, rfl⟩
  have hright : Assignment.roles.IsOperand ⟨.identifier, "b"⟩ := ⟨rfl, rfl, rfl⟩
  have hopening : Assignment.roles.Opens ⟨.character, "("⟩ := ⟨rfl, rfl, rfl⟩
  have hclosing : Assignment.roles.Closes ⟨.character, ")"⟩ :=
    ⟨rfl, Roles.tier?_eq_none_iff.mp rfl⟩
  have hoperator : Assignment.roles.ActsAs .lowest ⟨.identifier, "Or"⟩ :=
    Roles.tier?_eq_some_iff.mp rfl
  have hinside : Assignment.roles.Derives .factor 127 _ _ := .item hleft
  have hgroup := Roles.Derives.group hopening (hinside.loosen (Nat.zero_le _)) hclosing
  have hitems : Assignment.roles.Expresses items (some tree) :=
    .some (.chain (hgroup.loosen (Nat.zero_le _)) hoperator
      ((Roles.Derives.item hright).loosen (by decide)))
  obtain ⟨haccepted, -, hleftover⟩ := Assignment.outcome_eq_ok_iff_spells
  refine ⟨hitems, ?_, ?_⟩
  · exact (haccepted _ _).mpr (.whole rfl rfl hitems (by simp [semicolon]))
  · let whole := cursor [semicolon, semicolon, ⟨.identifier, "c"⟩]
    have hread : (whole.advance 2).readExpression Operators.standard [Assignment.semicolon] =
        (.ok (some tree), whole.advance 7) := by
      have hitems' : readExpression Assignment.roles (whole.advance 2).remaining =
          (.ok (some tree), [semicolon, semicolon, ⟨.identifier, "c"⟩]) :=
        hitems.readExpression (by simpa [semicolon] using Assignment.isStop_iff.mpr rfl)
      rw [Assignment.roles] at hitems'
      simp only [Cursor.readExpression, hitems']
      rfl
    exact hleftover whole _ _ _ ⟨.identifier, "c"⟩ _ [semicolon, semicolon] [] _ rfl rfl rfl hread
      rfl (by simp [semicolon]) (by decide)

end TableGrammar
