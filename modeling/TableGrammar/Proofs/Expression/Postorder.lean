import Mathlib.Tactic.Common
import TableGrammar.Expression.Tree

/-!
# Trees and their post-order

The walk over a tree keeps a stack of trees that are still to be listed. `Tree.Walks` says what it
does, round by round and without a bound: whatever lies below it on the stack, a tree is listed in
post-order (`Tree.Walks.postorder`). So the walk ends, and the bound that it is given is enough.

What is listed, each value with whether it stands at a leaf, is a program for a stack machine that
builds the tree again (`Tree.assemble`). So a tree is known by that list, and nothing about it is
lost when it is written down (`Tree.faithful_nodes`).
-/

namespace TableGrammar

variable {α : Type}

/-! ### The walk -/

/-- The nodes of a tree: those of the left operand, those of the right operand, then the root. -/
def Tree.postorder : Tree α → List (Tree α)
  | .leaf value => [.leaf value]
  | .branch value left right => left.postorder ++ right.postorder ++ [.branch value left right]

/-- How often a tree or one of its parts is taken off the stack: a leaf once, a branch twice. -/
def Tree.rounds : Tree α → Nat
  | .leaf _ => 1
  | .branch _ left right => left.rounds + right.rounds + 2

/-- The walk from the stack comes to an end after so many rounds, and has listed these nodes. -/
inductive Tree.Walks : List (Tree.Visit α) → Nat → List (Tree α) → Prop where
  | done : Walks [] 0 []
  | leaf {value : α} {opened : Bool} {stack : List (Tree.Visit α)} {rounds : Nat}
      {nodes : List (Tree α)} (h : Walks stack rounds nodes) :
      Walks (⟨.leaf value, opened⟩ :: stack) (rounds + 1) (.leaf value :: nodes)
  | opening {value : α} {left right : Tree α} {stack : List (Tree.Visit α)} {rounds : Nat}
      {nodes : List (Tree α)}
      (h : Walks
        ({ tree := left } :: { tree := right } ::
          { tree := .branch value left right, opened := true } :: stack) rounds nodes) :
      Walks ({ tree := .branch value left right } :: stack) (rounds + 1) nodes
  | closing {value : α} {left right : Tree α} {stack : List (Tree.Visit α)} {rounds : Nat}
      {nodes : List (Tree α)} (h : Walks stack rounds nodes) :
      Walks (⟨.branch value left right, true⟩ :: stack) (rounds + 1)
        (.branch value left right :: nodes)

/-- A tree on top of a stack is listed in post-order before the walk turns to what is below it. -/
lemma Tree.Walks.postorder {stack : List (Tree.Visit α)} {rounds : Nat} {nodes : List (Tree α)}
    (h : Tree.Walks stack rounds nodes) (tree : Tree α) :
    Tree.Walks ({ tree } :: stack) (tree.rounds + rounds) (tree.postorder ++ nodes) := by
  induction tree generalizing stack rounds nodes with
  | leaf value =>
    rw [Tree.rounds, Nat.add_comm]
    exact .leaf h
  | branch value left right ihl ihr =>
    -- the operands lie on top of the node, which is listed when the walk comes back to it
    have hoperands := ihl (ihr (@Tree.Walks.closing α value left right stack rounds nodes h))
    have hrounds : (Tree.branch value left right).rounds + rounds =
        left.rounds + (right.rounds + (rounds + 1)) + 1 := by
      simp only [Tree.rounds]
      omega
    rw [hrounds]
    simpa [Tree.postorder] using Tree.Walks.opening hoperands

/-- With a bound that is not less than the number of rounds, the walk lists what it would list
without a bound. -/
lemma Tree.Walks.walk_eq {stack : List (Tree.Visit α)} {rounds bound : Nat}
    {nodes : List (Tree α)} (h : Tree.Walks stack rounds nodes) (hbound : rounds ≤ bound) :
    Tree.walk bound stack = nodes := by
  induction h generalizing bound with
  | done => cases bound <;> rfl
  | leaf h ih =>
    obtain ⟨bound, rfl⟩ := Nat.exists_eq_add_one_of_ne_zero (Nat.ne_zero_of_lt hbound)
    rw [Tree.walk, ih (Nat.le_of_succ_le_succ hbound)]
  | opening h ih =>
    obtain ⟨bound, rfl⟩ := Nat.exists_eq_add_one_of_ne_zero (Nat.ne_zero_of_lt hbound)
    rw [Tree.walk, ih (Nat.le_of_succ_le_succ hbound)]
  | closing h ih =>
    obtain ⟨bound, rfl⟩ := Nat.exists_eq_add_one_of_ne_zero (Nat.ne_zero_of_lt hbound)
    rw [Tree.walk, ih (Nat.le_of_succ_le_succ hbound)]

lemma Tree.walks_postorder (tree : Tree α) : Tree.Walks [{ tree }] tree.rounds tree.postorder := by
  simpa using Tree.Walks.done.postorder tree

lemma Tree.rounds_le (tree : Tree α) : tree.rounds ≤ 2 * tree.size := by
  induction tree with
  | leaf value => simp [Tree.rounds, Tree.size]
  | branch value left right ihl ihr =>
    simp only [Tree.rounds, Tree.size]
    omega

lemma Tree.nodes_eq_postorder (tree : Tree α) : tree.nodes = tree.postorder :=
  tree.walks_postorder.walk_eq tree.rounds_le

lemma Tree.length_postorder (tree : Tree α) : tree.postorder.length = tree.size := by
  induction tree with
  | leaf value => rfl
  | branch value left right ihl ihr => simp [Tree.postorder, Tree.size, ihl, ihr, Nat.add_assoc]

/-! ### The way back -/

/-- The values in post-order, each with whether it stands at a leaf. -/
def Tree.codes (tree : Tree α) : List (α × Bool) :=
  tree.nodes.map fun node => (node.value, node.isLeaf)

/-- Runs a stack machine over values: a leaf is pushed, and any other value takes its right operand
and then its left operand from the stack. There is no result if operands are missing. -/
def Tree.assemble : List (Tree α) → List (α × Bool) → Option (List (Tree α))
  | stack, [] => some stack
  | stack, (value, true) :: codes => Tree.assemble (.leaf value :: stack) codes
  | right :: left :: stack, (value, false) :: codes =>
    Tree.assemble (.branch value left right :: stack) codes
  | _, (_, false) :: _ => none

lemma Tree.codes_leaf (value : α) : (Tree.leaf value).codes = [(value, true)] := rfl

lemma Tree.codes_branch (value : α) (left right : Tree α) :
    (Tree.branch value left right).codes = left.codes ++ right.codes ++ [(value, false)] := by
  simp [Tree.codes, Tree.nodes_eq_postorder, Tree.postorder, Tree.value, Tree.isLeaf]

/-- Whatever is on the stack and whatever follows, the codes of a tree push that tree. -/
lemma Tree.assemble_codes_append (tree : Tree α) (stack : List (Tree α)) (rest : List (α × Bool)) :
    Tree.assemble stack (tree.codes ++ rest) = Tree.assemble (tree :: stack) rest := by
  induction tree generalizing stack rest with
  | leaf value => rw [Tree.codes_leaf, List.singleton_append, Tree.assemble]
  | branch value left right ihl ihr =>
    rw [Tree.codes_branch, List.append_assoc, List.append_assoc, ihl, ihr, List.singleton_append,
      Tree.assemble]

lemma Tree.assemble_codes (tree : Tree α) : Tree.assemble [] tree.codes = some [tree] := by
  have hpushed := tree.assemble_codes_append [] []
  rwa [List.append_nil, Tree.assemble] at hpushed

lemma Tree.codes_inj {a b : Tree α} : a.codes = b.codes ↔ a = b := by
  constructor
  · intro h
    have hassembled := a.assemble_codes
    rw [h, b.assemble_codes] at hassembled
    simpa using hassembled.symm
  · rintro rfl
    rfl

/-- The walk over a tree ends, and has listed every node once, in post-order. A stack machine that
runs over what has been listed ends with that tree alone on its stack. So trees with the same codes
are the same, and the text of a tree is made of the listed values, with single spaces between
them. -/
theorem Tree.faithful_nodes (tree : Tree α) :
    Tree.Walks [{ tree }] tree.rounds tree.postorder ∧ tree.nodes = tree.postorder ∧
      tree.nodes.length = tree.size ∧ Tree.assemble [] tree.codes = some [tree] ∧
      (∀ other : Tree α, tree.codes = other.codes ↔ tree = other) ∧
      ∀ render : α → String,
        tree.text render = " ".intercalate (tree.codes.map fun code => render code.1) := by
  refine ⟨tree.walks_postorder, tree.nodes_eq_postorder, ?_, tree.assemble_codes, ?_, ?_⟩
  · rw [tree.nodes_eq_postorder, tree.length_postorder]
  · intro other
    exact Tree.codes_inj
  · intro render
    simp [Tree.text, Tree.values, Tree.codes, Function.comp_def]

/-- In `a b + c +` the operators are told from the operands by their place; a leaf may hold an
operator. -/
example :
    let tree : Tree String := .branch "+" (.branch "+" (.leaf "a") (.leaf "+")) (.leaf "c")
    tree.text id = "a + + c +" ∧
      tree.codes = [("a", true), ("+", true), ("+", false), ("c", true), ("+", false)] := by
  decide

end TableGrammar
