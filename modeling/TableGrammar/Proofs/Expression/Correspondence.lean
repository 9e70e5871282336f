import Mathlib.Data.List.Forall2
import TableGrammar.Expression.Formula
import TableGrammar.Expression.OfTokens
import TableGrammar.Proofs.Expression.Climbing

/-!
# Reading does not look into items

All that reading knows of an item is the part it plays and its text. So if two lists of items
correspond, item by item, and corresponding items play the same parts, then reading one list goes
step by step like reading the other: trees have the same shape and corresponding values, faults are
the same up to their texts, and what is left over corresponds (`Roles.Correspond.readExpression`).

Tokens correspond to their values. So a formula evaluates to what reading the tokens gives, as long
as the case of letters makes no difference to its operators
(`evaluate_values_eq_of_readExpression`).
-/

namespace TableGrammar

variable {α β : Type} {P : α → β → Prop} {S : String → String → Prop}

/-! ### Related results -/

/-- The trees have one shape, and their values are related node by node. -/
inductive Tree.Related (P : α → β → Prop) : Tree α → Tree β → Prop where
  | leaf {a : α} {b : β} (h : P a b) : Related P (.leaf a) (.leaf b)
  | branch {a : α} {b : β} {left right : Tree α} {left' right' : Tree β} (h : P a b)
      (hleft : Related P left left') (hright : Related P right right') :
      Related P (.branch a left right) (.branch b left' right')

/-- The faults are of one kind, and their texts are related. -/
inductive Fault.Related (S : String → String → Prop) : Fault → Fault → Prop where
  | unclosedParenthesis {a b : String} (h : S a b) :
      Related S (.unclosedParenthesis a) (.unclosedParenthesis b)
  | unopenedParenthesis : Related S .unopenedParenthesis .unopenedParenthesis
  | missingOperand {a b : String} (h : S a b) : Related S (.missingOperand a) (.missingOperand b)
  | trailingInput {a b : String} (h : S a b) : Related S (.trailingInput a) (.trailingInput b)
  | depthExceeded : Related S .depthExceeded .depthExceeded

/-- Both outcomes are faults, which are related, or neither is, and their results are related. -/
inductive OutcomeRelated {γ δ : Type} (S : String → String → Prop) (Q : γ → δ → Prop) :
    Except Fault γ → Except Fault δ → Prop where
  | error {fault fault' : Fault} (h : fault.Related S fault') :
      OutcomeRelated S Q (.error fault) (.error fault')
  | ok {result : γ} {result' : δ} (h : Q result result') :
      OutcomeRelated S Q (.ok result) (.ok result')

lemma OutcomeRelated.map_some {γ δ : Type} {Q : γ → δ → Prop} {outcome : Except Fault γ}
    {outcome' : Except Fault δ} (h : OutcomeRelated S Q outcome outcome') :
    OutcomeRelated S (Option.Rel Q) (outcome.map some) (outcome'.map some) := by
  cases h with
  | error hfault => exact .error hfault
  | ok hresult => exact .ok (.some hresult)

/-! ### Related readings -/

/-- The operators and their left operands are related, and the tiers are the same. -/
structure Reading.Waiting.Related (P : α → β → Prop) (waiting : Reading.Waiting α)
    (waiting' : Reading.Waiting β) : Prop where
  tier : waiting.tier = waiting'.tier
  operator : P waiting.operator waiting'.operator
  left : waiting.left.Related P waiting'.left

/-- The same is due after related items. -/
inductive Reading.Due.Related (P : α → β → Prop) (S : String → String → Prop) :
    Reading.Due α → Reading.Due β → Prop where
  | operand {after after' : String} (h : S after after') :
      Related P S (.operand after) (.operand after')
  | operator {last : Tree α} {last' : Tree β} (h : last.Related P last') :
      Related P S (.operator last) (.operator last')

/-- The readings have come equally far over related items. -/
structure Reading.Related (P : α → β → Prop) (S : String → String → Prop) (reading : Reading α)
    (reading' : Reading β) : Prop where
  due : reading.due.Related P S reading'.due
  waiting : List.Forall₂ (Reading.Waiting.Related P) reading.waiting reading'.waiting
  outer : List.Forall₂ (List.Forall₂ (Reading.Waiting.Related P)) reading.outer reading'.outer

/-- The steps lead to the same. -/
inductive Reading.Step.Related (P : α → β → Prop) (S : String → String → Prop) :
    Reading.Step α → Reading.Step β → Prop where
  | next {reading : Reading α} {reading' : Reading β} (h : reading.Related P S reading') :
      Related P S (.next reading) (.next reading')
  | before {outcome : Except Fault (Tree α)} {outcome' : Except Fault (Tree β)}
      (h : OutcomeRelated S (Tree.Related P) outcome outcome') :
      Related P S (.before outcome) (.before outcome')
  | after {fault fault' : Fault} (h : fault.Related S fault') :
      Related P S (.after fault) (.after fault')

/-- Reducing keeps readings related. -/
lemma Reading.reduce_related (tier : Tier) {waiting : List (Reading.Waiting α)}
    {waiting' : List (Reading.Waiting β)} {right : Tree α} {right' : Tree β}
    (hwaiting : List.Forall₂ (Reading.Waiting.Related P) waiting waiting')
    (hright : right.Related P right') :
    (Reading.reduce tier right waiting).1.Related P (Reading.reduce tier right' waiting').1 ∧
      List.Forall₂ (Reading.Waiting.Related P) (Reading.reduce tier right waiting).2
        (Reading.reduce tier right' waiting').2 := by
  induction hwaiting generalizing right right' with
  | nil => exact ⟨hright, .nil⟩
  | @cons operator operator' waiting waiting' hoperator hwaiting ih =>
    rw [Reading.reduce, Reading.reduce, hoperator.tier]
    split_ifs
    · exact ih (.branch hoperator.operator hoperator.left hright)
    · exact ⟨hright, .cons hoperator hwaiting⟩

lemma Reading.complete_related {waiting : List (Reading.Waiting α)}
    {waiting' : List (Reading.Waiting β)} {last : Tree α} {last' : Tree β}
    (hwaiting : List.Forall₂ (Reading.Waiting.Related P) waiting waiting')
    (hlast : last.Related P last') :
    (Reading.complete last waiting).Related P (Reading.complete last' waiting') :=
  (Reading.reduce_related Tier.lowest hwaiting hlast).1

/-! ### Corresponding roles -/

/-- Related items play the same parts and have related texts. -/
structure Roles.Correspond (P : α → β → Prop) (S : String → String → Prop) (roles : Roles α)
    (roles' : Roles β) : Prop where
  isStop : ∀ {a : α} {b : β}, P a b → roles.isStop a = roles'.isStop b
  isOpen : ∀ {a : α} {b : β}, P a b → roles.isOpen a = roles'.isOpen b
  isClose : ∀ {a : α} {b : β}, P a b → roles.isClose a = roles'.isClose b
  isOperator : ∀ {a : α} {b : β}, P a b →
    ∀ tier, roles.isOperator tier a = roles'.isOperator tier b
  text : ∀ {a : α} {b : β}, P a b → S (roles.text a) (roles'.text b)
  endOfInput : S endOfInput endOfInput

variable {roles : Roles α} {roles' : Roles β}

lemma Roles.Correspond.tier? (h : roles.Correspond P S roles') {a : α} {b : β} (hab : P a b) :
    roles.tier? a = roles'.tier? b := by
  simp only [Roles.tier?, h.isStop hab, h.isOperator hab]

lemma Roles.Correspond.readOperand (h : roles.Correspond P S roles') {reading : Reading α}
    {reading' : Reading β} (hreading : reading.Related P S reading') {after after' : String}
    (hafter : S after after') {a : α} {b : β} (hab : P a b) :
    (reading.readOperand roles after a).Related P S (reading'.readOperand roles' after' b) := by
  simp only [Reading.readOperand, h.isStop hab, h.isOpen hab, h.isClose hab,
    hreading.outer.length_eq]
  split_ifs
  · exact .before (.error (.missingOperand hafter))
  · exact .before (.error .unopenedParenthesis)
  · exact .next ⟨.operand (h.text hab), .nil, .cons hreading.waiting hreading.outer⟩
  · exact .after .depthExceeded
  · exact .next ⟨.operator (.leaf hab), hreading.waiting, hreading.outer⟩

lemma Roles.Correspond.readOperator (h : roles.Correspond P S roles') {reading : Reading α}
    {reading' : Reading β} (hreading : reading.Related P S reading') {last : Tree α}
    {last' : Tree β} (hlast : last.Related P last') {a : α} {b : β} (hab : P a b) :
    (reading.readOperator roles last a).Related P S (reading'.readOperator roles' last' b) := by
  obtain ⟨due, waiting, outer⟩ := reading
  obtain ⟨due', waiting', outer'⟩ := reading'
  obtain ⟨-, hwaiting, houter⟩ := hreading
  simp only [Reading.readOperator, h.tier? hab, h.isClose hab]
  cases roles'.tier? b with
  | some tier =>
    obtain ⟨hleft, hrest⟩ := Reading.reduce_related tier hwaiting hlast
    exact .next ⟨.operand (h.text hab), .cons ⟨rfl, hab, hleft⟩ hrest, houter⟩
  | none =>
    have hcomplete := Reading.complete_related hwaiting hlast
    cases houter with
    | nil => exact .before (.ok hcomplete)
    | cons hinner houter =>
      simp only
      split_ifs
      · exact .next ⟨.operator hcomplete, hinner, houter⟩
      · exact .before (.error (.unclosedParenthesis (h.text hab)))

/-- Related readings that meet related items stay related. -/
lemma Roles.Correspond.read (h : roles.Correspond P S roles') {reading : Reading α}
    {reading' : Reading β} (hreading : reading.Related P S reading') {a : α} {b : β} (hab : P a b) :
    (reading.read roles a).Related P S (reading'.read roles' b) := by
  obtain ⟨due, waiting, outer⟩ := reading
  obtain ⟨due', waiting', outer'⟩ := reading'
  cases hreading.due with
  | operand hafter => exact h.readOperand hreading hafter hab
  | operator hlast => exact h.readOperator hreading hlast hab

lemma Roles.Correspond.atEnd (h : roles.Correspond P S roles') {reading : Reading α}
    {reading' : Reading β} (hreading : reading.Related P S reading') :
    OutcomeRelated S (Tree.Related P) reading.atEnd reading'.atEnd := by
  obtain ⟨due, waiting, outer⟩ := reading
  obtain ⟨due', waiting', outer'⟩ := reading'
  obtain ⟨hdue, hwaiting, houter⟩ := hreading
  cases hdue with
  | operand hafter => exact .error (.missingOperand hafter)
  | operator hlast =>
    cases houter with
    | nil => exact .ok (Reading.complete_related hwaiting hlast)
    | cons => exact .error (.unclosedParenthesis h.endOfInput)

/-- Related readings over related items come to related outcomes and leave related items. -/
lemma Roles.Correspond.readAll (h : roles.Correspond P S roles') {reading : Reading α}
    {reading' : Reading β} (hreading : reading.Related P S reading') {items : List α}
    {items' : List β} (hitems : List.Forall₂ P items items') :
    OutcomeRelated S (Tree.Related P) (reading.readAll roles items).1
        (reading'.readAll roles' items').1 ∧
      List.Forall₂ P (reading.readAll roles items).2 (reading'.readAll roles' items').2 := by
  induction hitems generalizing reading reading' with
  | nil => exact ⟨h.atEnd hreading, .nil⟩
  | @cons a b items items' hab hitems ih =>
    have hstep := h.read hreading hab
    rw [Reading.readAll, Reading.readAll]
    -- related steps are of the same kind
    cases hread : reading.read roles a <;> cases hread' : reading'.read roles' b <;>
      rw [hread, hread'] at hstep <;> cases hstep
    case next.next hfurther => exact ih hfurther
    case before.before houtcome => exact ⟨houtcome, .cons hab hitems⟩
    case after.after hfault => exact ⟨.error hfault, hitems⟩

/-- Expressions read off related items are related, and so is what is left over. -/
lemma Roles.Correspond.readExpression (h : roles.Correspond P S roles') {items : List α}
    {items' : List β} (hitems : List.Forall₂ P items items') :
    OutcomeRelated S (Option.Rel (Tree.Related P)) (readExpression roles items).1
        (readExpression roles' items').1 ∧
      List.Forall₂ P (readExpression roles items).2 (readExpression roles' items').2 := by
  cases hitems with
  | nil => exact ⟨.ok .none, .nil⟩
  | @cons a b items items' hab hitems =>
    cases hstop : roles.isStop a with
    | true =>
      rw [readExpression_cons_of_stop roles items hstop,
        readExpression_cons_of_stop roles' items' (h.isStop hab ▸ hstop)]
      exact ⟨.ok .none, .cons hab hitems⟩
    | false =>
      rw [readExpression_cons roles items hstop,
        readExpression_cons roles' items' (h.isStop hab ▸ hstop)]
      have hstart : Reading.Related P S { due := .operand TableGrammar.endOfInput }
          { due := .operand TableGrammar.endOfInput } := ⟨.operand h.endOfInput, .nil, .nil⟩
      obtain ⟨houtcome, hrest⟩ := h.readAll hstart (.cons hab hitems)
      exact ⟨houtcome.map_some, hrest⟩

/-! ### Items replaced by what a function makes of them -/

lemma Tree.Related.eq_map {f : α → β} {tree : Tree α} {tree' : Tree β}
    (h : tree.Related P tree') (hP : ∀ a b, P a b → b = f a) : tree' = tree.map f := by
  induction h with
  | leaf hab => rw [Tree.map, hP _ _ hab]
  | branch hab _ _ ihl ihr => rw [Tree.map, ← hP _ _ hab, ihl, ihr]

lemma Fault.Related.eq {fault fault' : Fault} (h : fault.Related Eq fault') : fault' = fault := by
  cases h <;> subst_vars <;> rfl

lemma OutcomeRelated.eq_map {f : α → β} {outcome : Except Fault (Expression α)}
    {outcome' : Except Fault (Expression β)}
    (h : OutcomeRelated Eq (Option.Rel (Tree.Related P)) outcome outcome')
    (hP : ∀ a b, P a b → b = f a) : outcome' = outcome.map (Option.map (Tree.map f)) := by
  cases h with
  | error hfault =>
    rw [hfault.eq]
    rfl
  | ok hexpression =>
    cases hexpression with
    | none => rfl
    | some htree =>
      rw [htree.eq_map hP]
      rfl

/-- Where a function leaves the items of a list the parts they play and their texts, reading what it
makes of them is reading the items. -/
lemma readExpression_map {f : α → β} {items : List α}
    (h : roles.Correspond (fun a b => a ∈ items ∧ b = f a) Eq roles') :
    readExpression roles' (items.map f) =
      ((readExpression roles items).1.map (Option.map (Tree.map f)),
        (readExpression roles items).2.map f) := by
  have hitems : List.Forall₂ (fun a b => a ∈ items ∧ b = f a) items (items.map f) := by
    rw [List.forall₂_map_right_iff, List.forall₂_same]
    exact fun a ha => ⟨ha, rfl⟩
  obtain ⟨houtcome, hrest⟩ := h.readExpression hitems
  refine Prod.ext (houtcome.eq_map fun a b hab => hab.2) ?_
  have heq : List.Forall₂ Eq ((readExpression roles items).2.map f)
      (readExpression roles' (items.map f)).2 :=
    List.forall₂_map_left_iff.mpr (hrest.imp fun a b hab => hab.2.symm)
  rw [List.forall₂_eq_eq_eq] at heq
  exact heq.symm

/-- The roles of items, given the roles of what a function makes of them. -/
def Roles.comap (f : α → β) (roles : Roles β) : Roles α where
  isStop item := roles.isStop (f item)
  isOpen item := roles.isOpen (f item)
  isClose item := roles.isClose (f item)
  isOperator tier item := roles.isOperator tier (f item)
  text item := roles.text (f item)

lemma Roles.correspond_comap (f : α → β) (roles : Roles β) (items : List α) :
    (roles.comap f).Correspond (fun a b => a ∈ items ∧ b = f a) Eq roles := by
  refine ⟨?_, ?_, ?_, ?_, ?_, rfl⟩ <;> rintro item _ ⟨-, rfl⟩
  · rfl
  · rfl
  · rfl
  · exact fun tier => rfl
  · rfl

lemma readExpression_comap (f : α → β) (roles : Roles β) (items : List α) :
    readExpression roles (items.map f) =
      ((readExpression (roles.comap f) items).1.map (Option.map (Tree.map f)),
        (readExpression (roles.comap f) items).2.map f) :=
  readExpression_map (roles.correspond_comap f items)

/-! ### Tokens and their values -/

/-- Tokens play the parts that their values play in a formula with the usual parentheses, if the
case of letters makes no difference to the operators. -/
lemma Roles.ofTokens_correspond {operators : Operators String} {tokens : List Token}
    (hcase : ∀ token ∈ tokens, ∀ tier,
      operators.containsText tier token.value = operators.contains tier token.value)
    (values : Array String) :
    (Roles.ofTokens operators []).Correspond
      (fun token value => token ∈ tokens ∧ value = token.value)
      Eq (Formula.roles ⟨operators, "(", ")", values⟩ id) := by
  constructor
  · rintro token _ ⟨htoken, rfl⟩; rfl
  · rintro token _ ⟨htoken, rfl⟩; rfl
  · rintro token _ ⟨htoken, rfl⟩; rfl
  · rintro token _ ⟨htoken, rfl⟩ tier; exact hcase token htoken tier
  · rintro token _ ⟨htoken, rfl⟩; rfl
  · rfl

/-- The values of tokens, as a formula with the usual parentheses, evaluate to what reading the
tokens gives: the same fault, or the same expression with every token replaced by its value. A token
that is left over is a fault of the formula. -/
theorem evaluate_values_eq_of_readExpression (operators : Operators String) (tokens : List Token)
    (hcase : ∀ token ∈ tokens, ∀ tier,
      operators.containsText tier token.value = operators.contains tier token.value) :
    Formula.evaluate ⟨operators, "(", ")", (tokens.map Token.value).toArray⟩ id =
      match Cursor.readExpression operators [] { tokens } with
      | (.error fault, _) => .error fault
      | (.ok expression, cursor) =>
        match cursor.remaining with
        | [] => .ok (expression.map (Tree.map Token.value))
        | token :: _ =>
          if token.value = ")" then .error .unopenedParenthesis
          else .error (.trailingInput token.value) := by
  have hmap := readExpression_map (Roles.ofTokens_correspond hcase (tokens.map Token.value).toArray)
  have hremaining := Cursor.remaining_readExpression operators [] { tokens }
  rw [show Cursor.remaining { tokens } = tokens from rfl] at hremaining
  rw [Formula.evaluate, hmap, ← hremaining]
  have houtcome : (readExpression (Roles.ofTokens operators []) tokens).1 =
      (Cursor.readExpression operators [] { tokens }).1 := rfl
  rw [houtcome]
  cases Cursor.readExpression operators [] { tokens } with
  | mk outcome cursor =>
    cases outcome with
    | error fault => rfl
    | ok expression => cases hrest : cursor.remaining <;> simp [hrest, Except.map]

/-- In `( a + b ) * c )` the first seven tokens make an expression, and so the values of all of them
close a group that was not opened. -/
theorem evaluate_values_eq_of_readExpression_unopened :
    let tokens : List Token :=
      [⟨.character, "("⟩, ⟨.identifier, "a"⟩, ⟨.operator, "+"⟩, ⟨.identifier, "b"⟩,
        ⟨.character, ")"⟩, ⟨.operator, "*"⟩, ⟨.identifier, "c"⟩, ⟨.character, ")"⟩]
    (∀ token ∈ tokens, ∀ tier, Operators.standard.containsText tier token.value =
        Operators.standard.contains tier token.value) ∧
      Formula.evaluate ⟨.standard, "(", ")", (tokens.map Token.value).toArray⟩ id =
        .error .unopenedParenthesis := by
  intro tokens
  have hcase : ∀ token ∈ tokens, ∀ tier, Operators.standard.containsText tier token.value =
      Operators.standard.contains tier token.value := by
    intro token htoken tier
    cases tier <;> revert token <;> decide
  have hread : Cursor.readExpression .standard [] { tokens } =
      (.ok (some (.branch ⟨.operator, "*"⟩
        (.branch ⟨.operator, "+"⟩ (.leaf ⟨.identifier, "a"⟩) (.leaf ⟨.identifier, "b"⟩))
        (.leaf ⟨.identifier, "c"⟩))), { tokens, position := 7 }) :=
    (Cursor.readExpression_cons rfl rfl).trans rfl
  have hevaluate := evaluate_values_eq_of_readExpression .standard tokens hcase
  rw [hread] at hevaluate
  exact ⟨hcase, hevaluate⟩

end TableGrammar
