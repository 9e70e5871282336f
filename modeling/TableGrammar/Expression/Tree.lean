/-!
Expression trees.

A leaf holds an operand and a branch holds an operator with its two operands. A tree is shown, and
listed, in post-order: the order in which a stack machine would evaluate it.
-/

namespace TableGrammar

/-- A binary tree with a value at every node. -/
inductive Tree (α : Type) where
  | leaf (value : α)
  | branch (value : α) (left right : Tree α)
  deriving BEq, Repr

variable {α β : Type}

/-- The value at the root. -/
def Tree.value : Tree α → α
  | .leaf value | .branch value _ _ => value

/-- The left operand of a branch. -/
def Tree.left? : Tree α → Option (Tree α)
  | .leaf _ => none
  | .branch _ left _ => some left

/-- The right operand of a branch. -/
def Tree.right? : Tree α → Option (Tree α)
  | .leaf _ => none
  | .branch _ _ right => some right

/-- Has the root no operands? -/
def Tree.isLeaf : Tree α → Bool
  | .leaf _ => true
  | .branch .. => false

/-- The number of nodes. -/
def Tree.size : Tree α → Nat
  | .leaf _ => 1
  | .branch _ left right => left.size + right.size + 1

/-- The tree with a function applied to every value. -/
def Tree.map (f : α → β) : Tree α → Tree β
  | .leaf value => .leaf (f value)
  | .branch value left right => .branch (f value) (left.map f) (right.map f)

/-- The values with the root first, then those of the left operand, then those of the right. -/
def Tree.preorder : Tree α → List α
  | .leaf value => [value]
  | .branch value left right => value :: (left.preorder ++ right.preorder)

/-- A tree that a walk still has to list, and whether its operands have been put in front of it. -/
structure Tree.Visit (α : Type) where
  tree : Tree α
  opened : Bool := false

/-- Lists the nodes of the trees on a stack in post-order. A branch met for the first time is put
back behind its operands; met again, it is listed. The first argument bounds the number of steps. -/
def Tree.walk : Nat → List (Tree.Visit α) → List (Tree α)
  | 0, _ | _, [] => []
  | fuel + 1, ⟨.leaf value, _⟩ :: stack => .leaf value :: Tree.walk fuel stack
  | fuel + 1, ⟨.branch value left right, true⟩ :: stack =>
    .branch value left right :: Tree.walk fuel stack
  | fuel + 1, ⟨.branch value left right, false⟩ :: stack =>
    Tree.walk fuel ({ tree := left } :: { tree := right } ::
      { tree := .branch value left right, opened := true } :: stack)

/-- The nodes in post-order. No node is met more than twice. -/
def Tree.nodes (tree : Tree α) : List (Tree α) :=
  Tree.walk (2 * tree.size) [{ tree }]

/-- The values in post-order. -/
def Tree.values (tree : Tree α) : List α :=
  tree.nodes.map Tree.value

/-- The values in post-order, separated by single spaces. -/
def Tree.text (render : α → String) (tree : Tree α) : String :=
  " ".intercalate (tree.values.map render)

/-- The result of reading an expression: a tree, or nothing when there was nothing to read. -/
abbrev Expression (α : Type) := Option (Tree α)

/-- The values of an expression in post-order. -/
def Expression.values (expression : Expression α) : List α :=
  expression.elim [] Tree.values

/-- The values of an expression in post-order, separated by single spaces. -/
def Expression.text (render : α → String) (expression : Expression α) : String :=
  expression.elim "" (Tree.text render)

end TableGrammar
