import TableGrammar.Expression.Formula
import TableGrammar.Proofs.Expression.Precedence

/-!
# Trees written in infix order

A layout of a tree says how many pairs of parentheses are written around each of its nodes. Two
kinds of operands need a pair: a left operand whose operator binds looser than the one it belongs
to, and a right operand whose operator does not bind tighter. `Tree.layout` sets just these. With at
least these (`Layout.Suffices`), what is written derives the tree (`Layout.derives_written`), so a
formula that is given the written values evaluates to the tree (`Formula.evaluate_written`).
-/

namespace TableGrammar

variable {α β : Type}

/-! ### Layouts -/

/-- A tree with the number of pairs of parentheses that are written around each node. -/
inductive Layout (α : Type) where
  | leaf (pairs : Nat) (value : α)
  | branch (pairs : Nat) (operator : α) (left right : Layout α)

/-- The tree that is written. -/
def Layout.tree : Layout α → Tree α
  | .leaf _ value => .leaf value
  | .branch _ operator left right => .branch operator left.tree right.tree

/-- The number of pairs of parentheses around the whole tree. -/
def Layout.pairs : Layout α → Nat
  | .leaf pairs _ => pairs
  | .branch pairs _ _ _ => pairs

/-- Items with pairs of parentheses around them. -/
def enclosed (opening closing : α) : Nat → List α → List α
  | 0, items => items
  | pairs + 1, items => opening :: enclosed opening closing pairs items ++ [closing]

/-- The tree in infix order. -/
def Layout.written (opening closing : α) : Layout α → List α
  | .leaf pairs value => enclosed opening closing pairs [value]
  | .branch pairs operator left right =>
    enclosed opening closing pairs
      (left.written opening closing ++ operator :: right.written opening closing)

/-- How deep parentheses are nested. -/
def Layout.nesting : Layout α → Nat
  | .leaf pairs _ => pairs
  | .branch pairs _ left right => pairs + max left.nesting right.nesting

/-- The values of the leaves, from left to right. -/
def Tree.leaves : Tree α → List α
  | .leaf value => [value]
  | .branch _ left right => left.leaves ++ right.leaves

/-- The values of the branches, from left to right. -/
def Tree.operators : Tree α → List α
  | .leaf _ => []
  | .branch operator left right => left.operators ++ operator :: right.operators

/-! ### Where parentheses are needed -/

/-- The tightest tier that holds a value. -/
def Operators.tightest? [BEq α] (operators : Operators α) (value : α) : Option Tier :=
  Tier.tightestFirst.find? fun tier => operators.contains tier value

section

variable (tier? : α → Option Tier)

/-- The tier of the operator at the root. A leaf has none. -/
def Tree.rootTier? : Tree α → Option Tier
  | .leaf _ => none
  | .branch operator _ _ => tier? operator

/-- A left operand needs parentheses if its operator binds looser than the one it belongs to. -/
def Tree.leftNeeds (operator : α) (left : Tree α) : Bool :=
  match tier? operator, left.rootTier? tier? with
  | some outer, some inner => inner.rank < outer.rank
  | _, _ => false

/-- A right operand needs parentheses if its operator binds looser than the one it belongs to, or
equally tight. -/
def Tree.rightNeeds (operator : α) (right : Tree α) : Bool :=
  match tier? operator, right.rootTier? tier? with
  | some outer, some inner => inner.rank ≤ outer.rank
  | _, _ => false

/-- Every operand that needs parentheses has them. -/
def Layout.Suffices : Layout α → Prop
  | .leaf _ _ => True
  | .branch _ operator left right =>
    left.Suffices ∧ right.Suffices ∧
      (left.tree.leftNeeds tier? operator = true → 0 < left.pairs) ∧
      (right.tree.rightNeeds tier? operator = true → 0 < right.pairs)

/-- The layout with one pair of parentheses around every operand that needs it. -/
def Tree.layout (pairs : Nat) : Tree α → Layout α
  | .leaf value => .leaf pairs value
  | .branch operator left right =>
    .branch pairs operator (left.layout (left.leftNeeds tier? operator).toNat)
      (right.layout (right.rightNeeds tier? operator).toNat)

/-- The phrase of the grammar that the written tree is. -/
def Layout.phrase (layout : Layout α) : Phrase :=
  if 0 < layout.pairs then .factor
  else match layout.tree.rootTier? tier? with
    | some tier => .chain tier
    | none => .factor

end

variable {tier? : α → Option Tier}

@[simp] lemma Tree.tree_layout (pairs : Nat) (tree : Tree α) :
    (tree.layout tier? pairs).tree = tree := by
  induction tree generalizing pairs with
  | leaf value => rfl
  | branch operator left right ihl ihr => rw [Tree.layout, Layout.tree, ihl, ihr]

@[simp] lemma Tree.pairs_layout (pairs : Nat) (tree : Tree α) :
    (tree.layout tier? pairs).pairs = pairs := by
  cases tree <;> rfl

lemma Tree.suffices_layout (pairs : Nat) (tree : Tree α) :
    (tree.layout tier? pairs).Suffices tier? := by
  induction tree generalizing pairs with
  | leaf value => trivial
  | branch operator left right ihl ihr =>
    refine ⟨ihl _, ihr _, ?_, ?_⟩
    · intro hneeds
      rw [Tree.tree_layout] at hneeds
      simp [hneeds]
    · intro hneeds
      rw [Tree.tree_layout] at hneeds
      simp [hneeds]

lemma Layout.rank_le_phrase {layout : Layout α} {rank : Nat} (hrank : rank ≤ 4)
    (h : ∀ inner, layout.tree.rootTier? tier? = some inner → inner.rank < rank →
      0 < layout.pairs) :
    rank ≤ (layout.phrase tier?).rank := by
  rw [Layout.phrase]
  split_ifs with hpairs
  · exact hrank
  · -- a leaf is a factor, and a tree without parentheses is a chain of the tier of its root
    cases hroot : layout.tree.rootTier? tier? with
    | none => exact hrank
    | some inner => exact Nat.le_of_not_lt fun hlt => hpairs (h inner hroot hlt)

lemma Layout.rank_le_phrase_left {operator : α} {tier : Tier} {left : Layout α}
    (htier : tier? operator = some tier)
    (h : left.tree.leftNeeds tier? operator = true → 0 < left.pairs) :
    tier.rank ≤ (left.phrase tier?).rank := by
  refine Layout.rank_le_phrase (Nat.le_of_lt tier.rank_lt_four) ?_
  intro inner hroot hlt
  exact h (by simpa [Tree.leftNeeds, htier, hroot] using hlt)

lemma Layout.rank_lt_phrase_right {operator : α} {tier : Tier} {right : Layout α}
    (htier : tier? operator = some tier)
    (h : right.tree.rightNeeds tier? operator = true → 0 < right.pairs) :
    tier.rank < (right.phrase tier?).rank := by
  refine Layout.rank_le_phrase tier.rank_lt_four ?_
  intro inner hroot hlt
  exact h (by simpa [Tree.rightNeeds, htier, hroot] using Nat.le_of_lt_succ hlt)

/-! ### What is written derives the tree -/

variable {roles : Roles β} {f : α → β} {opening closing : α}

lemma Roles.Derives.enclosed {phrase : Phrase} {depth : Nat} {items : List α} {tree : Tree β}
    (hopening : roles.Opens (f opening)) (hclosing : roles.Closes (f closing))
    (h : roles.Derives phrase depth (items.map f) tree) (pairs : Nat) :
    roles.Derives (if 0 < pairs then .factor else phrase) (pairs + depth)
      ((TableGrammar.enclosed opening closing pairs items).map f) tree := by
  induction pairs with
  | zero => simpa [TableGrammar.enclosed] using h
  | succ pairs ih =>
    have hinside : roles.Derives (.chain .lowest) _ _ tree := ih.loosen (Nat.zero_le _)
    have hgroup := Roles.Derives.group hopening hinside hclosing
    rw [if_pos (Nat.succ_pos pairs), Nat.add_right_comm]
    simpa [TableGrammar.enclosed] using hgroup

/-- What is written derives the tree, where leaves can stand as operands and every operator acts as
one of the tier by which parentheses are set. -/
lemma Layout.derives_written (hopening : roles.Opens (f opening))
    (hclosing : roles.Closes (f closing)) (layout : Layout α)
    (hleaves : ∀ value ∈ layout.tree.leaves, roles.IsOperand (f value))
    (hoperators : ∀ operator ∈ layout.tree.operators,
      ∃ tier, tier? operator = some tier ∧ roles.ActsAs tier (f operator))
    (hsuffices : layout.Suffices tier?) :
    roles.Derives (layout.phrase tier?) layout.nesting ((layout.written opening closing).map f)
      (layout.tree.map f) := by
  induction layout with
  | leaf pairs value =>
    have hitem : roles.Derives .factor 0 ([value].map f) (.leaf (f value)) :=
      .item (hleaves value (by simp [Layout.tree, Tree.leaves]))
    have hwritten := Roles.Derives.enclosed hopening hclosing hitem pairs
    rw [ite_self, Nat.add_zero] at hwritten
    have hphrase : (Layout.leaf pairs value).phrase tier? = .factor := ite_self _
    rw [hphrase]
    exact hwritten
  | branch pairs operator left right ihl ihr =>
    obtain ⟨hleft, hright, hleftNeeds, hrightNeeds⟩ := hsuffices
    simp only [Layout.tree, Tree.leaves, List.mem_append] at hleaves
    simp only [Layout.tree, Tree.operators, List.mem_append, List.mem_cons] at hoperators
    obtain ⟨tier, htier, hacts⟩ := hoperators operator (Or.inr (Or.inl rfl))
    have hl := ihl (fun value hmem => hleaves value (Or.inl hmem))
      (fun other hmem => hoperators other (Or.inl hmem)) hleft
    have hr := ihr (fun value hmem => hleaves value (Or.inr hmem))
      (fun other hmem => hoperators other (Or.inr (Or.inr hmem))) hright
    -- an operand without parentheses binds at least as tight as its place requires
    have hlrank : (Phrase.chain tier).rank ≤ (left.phrase tier?).rank :=
      Layout.rank_le_phrase_left htier hleftNeeds
    have hrrank : tier.operands.rank ≤ (right.phrase tier?).rank := by
      rw [Phrase.rank_operands]
      exact Layout.rank_lt_phrase_right htier hrightNeeds
    have hchain := Roles.Derives.chain
      ((hl.loosen hlrank).deepen (Nat.le_max_left _ right.nesting)) hacts
      ((hr.loosen hrrank).deepen (Nat.le_max_right left.nesting _))
    rw [← List.map_cons, ← List.map_append] at hchain
    have hphrase : (Layout.branch pairs operator left right).phrase tier? =
        if 0 < pairs then .factor else .chain tier := by
      simp [Layout.phrase, Layout.pairs, Layout.tree, Tree.rootTier?, htier]
    rw [hphrase]
    exact Roles.Derives.enclosed hopening hclosing hchain pairs

lemma Layout.readExpression_written (hopening : roles.Opens (f opening))
    (hclosing : roles.Closes (f closing)) (layout : Layout α)
    (hleaves : ∀ value ∈ layout.tree.leaves, roles.IsOperand (f value))
    (hoperators : ∀ operator ∈ layout.tree.operators,
      ∃ tier, tier? operator = some tier ∧ roles.ActsAs tier (f operator))
    (hsuffices : layout.Suffices tier?) (hnesting : layout.nesting ≤ Reading.maxDepth)
    {rest : List β} (hrest : roles.Halts rest) :
    readExpression roles ((layout.written opening closing).map f ++ rest) =
      (.ok (some (layout.tree.map f)), rest) := by
  have hderives := Layout.derives_written hopening hclosing layout hleaves hoperators hsuffices
  exact ((hderives.loosen (Nat.zero_le _)).deepen hnesting).readExpression hrest

lemma Layout.mem_enclosed {value : α} {pairs : Nat} {items : List α}
    (h : value ∈ enclosed opening closing pairs items) :
    value = opening ∨ value = closing ∨ value ∈ items := by
  induction pairs with
  | zero => exact Or.inr (Or.inr h)
  | succ pairs ih =>
    rw [enclosed, List.cons_append, List.mem_cons, List.mem_append, List.mem_singleton] at h
    rcases h with hopening | hinside | hclosing
    · exact Or.inl hopening
    · exact ih hinside
    · exact Or.inr (Or.inl hclosing)

/-- Nothing is written but the parentheses and the values of the tree. -/
lemma Layout.mem_written {value : α} {layout : Layout α}
    (h : value ∈ layout.written opening closing) :
    value = opening ∨ value = closing ∨ value ∈ layout.tree.leaves ∨
      value ∈ layout.tree.operators := by
  induction layout with
  | leaf pairs other =>
    have hmem := Layout.mem_enclosed h
    simpa [Layout.tree, Tree.leaves, Tree.operators] using hmem
  | branch pairs operator left right ihl ihr =>
    rw [Layout.tree, Tree.leaves, Tree.operators, List.mem_append, List.mem_append, List.mem_cons]
    rcases Layout.mem_enclosed h with hopening | hclosing | hmem
    · exact Or.inl hopening
    · exact Or.inr (Or.inl hclosing)
    · rw [List.mem_append, List.mem_cons] at hmem
      rcases hmem with hmem | hoperator | hmem
      · exact (ihl hmem).imp_right (Or.imp_right (Or.imp Or.inl Or.inl))
      · exact Or.inr (Or.inr (Or.inr (Or.inr (Or.inl hoperator))))
      · exact (ihr hmem).imp_right (Or.imp_right (Or.imp Or.inr fun h => Or.inr (Or.inr h)))

/-! ### Formulas -/

lemma Tree.map_map {γ : Type} (f : α → β) (g : β → γ) (tree : Tree α) :
    (tree.map f).map g = tree.map (g ∘ f) := by
  induction tree with
  | leaf value => rfl
  | branch value left right ihl ihr => simp [Tree.map, ihl, ihr]

lemma Tree.map_id (tree : Tree α) : tree.map id = tree := by
  induction tree with
  | leaf value => rfl
  | branch value left right ihl ihr => rw [Tree.map, ihl, ihr, id]

lemma Formula.foldl_add (formula : Formula α) (values : List α) :
    values.foldl Formula.add formula =
      { formula with values := formula.values ++ values.toArray } := by
  induction values generalizing formula with
  | nil => simp
  | cons value values ih =>
    rw [List.foldl_cons, ih]
    simp [Formula.add]

section

variable [BEq α] [LawfulBEq α] (formula : Formula α) (render : α → String)

lemma Formula.opens_opening (h : formula.opening ≠ formula.closing) :
    (formula.roles render).Opens formula.opening :=
  ⟨rfl, BEq.rfl, beq_false_of_ne h⟩

lemma Formula.closes_closing (h : ∀ tier, formula.operators.contains tier formula.closing = false) :
    (formula.roles render).Closes formula.closing := by
  refine ⟨BEq.rfl, ?_⟩
  intro tier hacts
  have hoperator : formula.operators.contains tier formula.closing = true := hacts.isOperator
  rw [h tier] at hoperator
  cases hoperator

lemma Formula.isOperand_of_ne {value : α} (hopening : value ≠ formula.opening)
    (hclosing : value ≠ formula.closing) : (formula.roles render).IsOperand value :=
  ⟨rfl, beq_false_of_ne hopening, beq_false_of_ne hclosing⟩

omit [LawfulBEq α] in
/-- In a formula a value acts as an operator of the tightest tier that holds it. -/
lemma Formula.exists_tightest? {value : α}
    (h : ∃ tier, formula.operators.contains tier value = true) :
    ∃ tier, formula.operators.tightest? value = some tier ∧
      (formula.roles render).ActsAs tier value := by
  obtain ⟨holder, hholder⟩ := h
  have hfound : (formula.operators.tightest? value).isSome := by
    rw [Operators.tightest?, List.find?_isSome]
    exact ⟨holder, by cases holder <;> decide, hholder⟩
  obtain ⟨tier, htier⟩ := Option.isSome_iff_exists.mp hfound
  exact ⟨tier, htier, Roles.tier?_eq_some_iff.mp htier⟩

end

/-- A formula that is given a tree in infix order evaluates to that tree, as long as there are
enough parentheses and they are not nested too deeply. -/
theorem Formula.evaluate_written [BEq α] [LawfulBEq α] (operators : Operators α)
    (opening closing : α) (render : α → String) (layout : Layout α)
    (hparentheses : opening ≠ closing)
    (hclosing : ∀ tier, operators.contains tier closing = false)
    (hoperators : ∀ operator ∈ layout.tree.operators,
      ∃ tier, operators.contains tier operator = true)
    (hleaves : ∀ value ∈ layout.tree.leaves, value ≠ opening ∧ value ≠ closing)
    (hsuffices : layout.Suffices operators.tightest?) (hnesting : layout.nesting ≤ 128) :
    Formula.evaluate
        ((layout.written opening closing).foldl Formula.add { operators, opening, closing })
        render = .ok (some layout.tree) := by
  let formula : Formula α :=
    { operators, opening, closing, values := (layout.written opening closing).toArray }
  have hformula : (layout.written opening closing).foldl Formula.add
      { operators, opening, closing } = formula := by
    rw [Formula.foldl_add, Array.empty_append]
  have hrest : (formula.roles render).Halts [] := by simp [Roles.Halts]
  have hread := Layout.readExpression_written (f := id)
    (formula.opens_opening render hparentheses) (formula.closes_closing render hclosing) layout
    (fun value hvalue => formula.isOperand_of_ne render (hleaves value hvalue).1
      (hleaves value hvalue).2)
    (fun operator hoperator => formula.exists_tightest? render (hoperators operator hoperator))
    hsuffices hnesting hrest
  rw [List.map_id, List.append_nil, Tree.map_id] at hread
  rw [hformula, Formula.evaluate, List.toList_toArray, hread]

/-- Numbers with the operators 0, 1 and 2, of which 1 stands in two tiers and 0 is the opening
parenthesis, too. The leaf 2 is an operator, and the parentheses around the leaf 8 are redundant. -/
theorem Formula.evaluate_written_overlapping :
    let operators : Operators Nat :=
      { logical := [0, 1], additive := [2], multiplicative := [1] }
    let layout : Layout Nat :=
      .branch 1 2 (.branch 1 0 (.leaf 0 2) (.leaf 2 8)) (.branch 0 1 (.leaf 0 7) (.leaf 0 9))
    layout.written 0 5 = [0, 0, 2, 0, 0, 0, 8, 5, 5, 5, 2, 7, 1, 9, 5] ∧
      Formula.evaluate
          ([0, 0, 2, 0, 0, 0, 8, 5, 5, 5, 2, 7, 1, 9, 5].foldl Formula.add
            { operators, opening := 0, closing := 5 }) toString =
        .ok (some (.branch 2 (.branch 0 (.leaf 2) (.leaf 8)) (.branch 1 (.leaf 7) (.leaf 9)))) := by
  intro operators layout
  have hoperators : ∀ operator ∈ layout.tree.operators,
      ∃ tier, operators.contains tier operator = true := by
    simp only [layout, Layout.tree, Tree.operators, List.nil_append, List.cons_append,
      List.forall_mem_cons]
    exact ⟨⟨.logical, rfl⟩, ⟨.additive, rfl⟩, ⟨.logical, rfl⟩, by simp⟩
  have hsuffices : layout.Suffices operators.tightest? :=
    ⟨⟨trivial, trivial, by decide, by decide⟩, ⟨trivial, trivial, by decide, by decide⟩,
      by decide, by decide⟩
  refine ⟨rfl, Formula.evaluate_written operators 0 5 toString layout (by decide) ?_ hoperators
    (by decide) hsuffices (by decide)⟩
  intro tier
  cases tier <;> rfl

end TableGrammar
