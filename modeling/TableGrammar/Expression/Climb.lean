import TableGrammar.Event
import TableGrammar.Expression.Fault
import TableGrammar.Expression.Tree

/-!
Building a tree from a list of items by operator precedence.

An operand of an operator is anything that binds more tightly than the operator does, down to the
factors: a single item, or an expression between parentheses. So each tier reads its operands at the
next tier, and joins them for as long as one of its own operators follows. All operators are binary
and associate to the left.

The roles of items may overlap. An item in several tiers counts for the tightest of them, an item
that ends the expression is no operator, and an operator that stands where an operand is due is an
operand.
-/

namespace TableGrammar

/-- The part that each item can play in an expression. -/
structure Roles (α : Type) where
  /-- Ends the expression. -/
  isStop : α → Bool
  /-- Opens a group. -/
  isOpen : α → Bool
  /-- Closes a group. -/
  isClose : α → Bool
  /-- Is an operator of a tier. -/
  isOperator : Tier → α → Bool
  /-- How the item is named in messages. -/
  text : α → String

variable {α : Type} (roles : Roles α)

/-! ### Parts of an expression -/

/-- What a part of an expression comes to, read off the front of some items: a tree or a fault, and
the items that are left. -/
structure Climb (items : List α) where
  outcome : Except Fault (Tree α)
  rest : List α
  suffix : rest <:+ items

namespace Climb

variable {items rest : List α}

/-- Succeeds with a tree. -/
def ok (tree : Tree α) (rest : List α) (suffix : rest <:+ items) : Climb items :=
  ⟨.ok tree, rest, suffix⟩

/-- Fails. -/
def fail (fault : Fault) (rest : List α) (suffix : rest <:+ items) : Climb items :=
  ⟨.error fault, rest, suffix⟩

/-- The same, where more items stood in front. -/
def behind (climb : Climb rest) (suffix : rest <:+ items) : Climb items :=
  ⟨climb.outcome, climb.rest, climb.suffix.trans suffix⟩

/-- Goes on with the tree and the items that are left, unless there is a fault. -/
def andThen (climb : Climb items)
    (next : Tree α → (rest : List α) → rest <:+ items → Climb rest) : Climb items :=
  match climb with
  | ⟨.ok tree, rest, suffix⟩ => (next tree rest suffix).behind suffix
  | ⟨.error fault, rest, suffix⟩ => fail fault rest suffix

end Climb

/-! ### Single items -/

/-- Consumes the next item, if it is an operator of the tier and does not end the expression. -/
def Roles.operator? (tier : Tier) : List α → Option (α × List α)
  | [] => none
  | item :: rest =>
    if !roles.isStop item && roles.isOperator tier item then some (item, rest) else none

/-- How the next item is named in messages. -/
def Roles.describeNext (items : List α) : String :=
  (items.head?.map roles.text).getD endOfInput

/-- Consumes the item that closes the group around a tree. It counts even if it would end the
expression elsewhere. -/
def Roles.closeGroup (inner : Tree α) (items : List α) : Climb items :=
  match items with
  | [] => .fail (.unclosedParenthesis (roles.describeNext [])) [] List.suffix_rfl
  | item :: rest =>
    if roles.isClose item then
      .ok inner rest (List.suffix_cons item rest)
    else
      .fail (.unclosedParenthesis (roles.describeNext (item :: rest))) (item :: rest)
        List.suffix_rfl

/-- The most groups that may be open at once. -/
def Reading.maxDepth : Nat := 128

/-- Goes into a group, unless as many are open as may be. -/
def Climb.deeper (depth : Nat) (items : List α) (inner : Nat → Climb items) : Climb items :=
  if Reading.maxDepth ≤ depth then
    .fail .depthExceeded items List.suffix_rfl
  else
    inner (depth + 1)

theorem Roles.eq_cons_of_operator? {roles : Roles α} {tier : Tier} {items rest : List α}
    {operator : α} (h : roles.operator? tier items = some (operator, rest)) :
    items = operator :: rest := by
  cases items with
  | nil => cases h
  | cons item items =>
    simp only [Roles.operator?] at h
    split at h
    · cases h
      rfl
    · cases h

/-! ### Climbing -/

-- No step leaves more items than it was given, and one that consumes none goes to a tighter tier,
-- from the tightest of them to a factor, or from a tier to its first operand.
mutual

/-- Reads an expression at a tier, with `depth` groups open around it. The text names what stands
before it. -/
def Roles.climbTier (depth : Nat) (tier : Tier) (after : String) (items : List α) : Climb items :=
  (Roles.climbOperand depth tier after items).andThen fun left rest _hrest =>
    Roles.climbOperators depth tier left rest
termination_by (items.length, 4 - tier.rank, 2)
decreasing_by
  · exact .right _ (.right _ (by decide))
  · exact Prod.Lex.right' _ _hrest.length_le (.right _ (by decide))

/-- Joins operands for as long as an operator of the tier follows the tree on the left. -/
def Roles.climbOperators (depth : Nat) (tier : Tier) (left : Tree α) (items : List α) :
    Climb items :=
  match hnext : roles.operator? tier items with
  | none => .ok left items List.suffix_rfl
  | some (operator, rest) =>
    have hitems : items = operator :: rest := Roles.eq_cons_of_operator? hnext
    ((Roles.climbOperand depth tier (roles.text operator) rest).andThen fun right rest' _hrest =>
      Roles.climbOperators depth tier (.branch operator left right) rest').behind
        (hitems ▸ List.suffix_cons operator rest)
termination_by (items.length, 4 - tier.rank, 0)
decreasing_by
  · exact .left _ _ (by simp [hitems])
  · exact .left _ _ (by simpa [hitems] using Nat.lt_succ_of_le _hrest.length_le)

/-- Reads an operand of an operator of the tier. -/
def Roles.climbOperand (depth : Nat) (tier : Tier) (after : String) (items : List α) :
    Climb items :=
  match _hnext : tier.next? with
  | some next => Roles.climbTier depth next after items
  | none => Roles.climbFactor depth after items
termination_by (items.length, 4 - tier.rank, 1)
decreasing_by
  · have hrank := Tier.rank_of_next? _hnext
    exact .right _ (.left _ _ (by have := tier.rank_lt_four; omega))
  · exact .right _ (.left _ _ (by have := tier.rank_lt_four; omega))

/-- Reads a single item, or a group. -/
def Roles.climbFactor (depth : Nat) (after : String) (items : List α) : Climb items :=
  match items with
  | [] => .fail (.missingOperand after) [] List.suffix_rfl
  | item :: rest =>
    if roles.isStop item then .fail (.missingOperand after) (item :: rest) List.suffix_rfl
    else if roles.isClose item then .fail .unopenedParenthesis (item :: rest) List.suffix_rfl
    else if roles.isOpen item then
      ((Climb.deeper depth rest fun depth =>
        Roles.climbTier depth .lowest (roles.text item) rest).andThen fun inner rest' _ =>
          roles.closeGroup inner rest').behind (List.suffix_cons item rest)
    else .ok (.leaf item) rest (List.suffix_cons item rest)
termination_by (items.length, 0, 0)

end

theorem Roles.climbOperators_of_none {tier : Tier} {items : List α} (depth : Nat) (left : Tree α)
    (hnext : roles.operator? tier items = none) :
    roles.climbOperators depth tier left items = .ok left items List.suffix_rfl := by
  rw [Roles.climbOperators]
  split
  · rfl
  · simp_all

theorem Roles.climbOperators_cons {tier : Tier} {operator : α} {rest : List α} (depth : Nat)
    (left : Tree α) (hnext : roles.operator? tier (operator :: rest) = some (operator, rest)) :
    roles.climbOperators depth tier left (operator :: rest) =
      ((roles.climbOperand depth tier (roles.text operator) rest).andThen fun right rest' _ =>
        roles.climbOperators depth tier (.branch operator left right) rest').behind
          (List.suffix_cons operator rest) := by
  rw [Roles.climbOperators]
  split
  · simp_all
  · rename_i hsome
    cases hnext.symm.trans hsome
    rfl

theorem Roles.climbOperand_of_next {tier next : Tier} (depth : Nat) (after : String)
    (items : List α) (hnext : tier.next? = some next) :
    roles.climbOperand depth tier after items = roles.climbTier depth next after items := by
  rw [Roles.climbOperand]
  split <;> simp_all

theorem Roles.climbOperand_of_none {tier : Tier} (depth : Nat) (after : String)
    (items : List α) (hnext : tier.next? = none) :
    roles.climbOperand depth tier after items = roles.climbFactor depth after items := by
  rw [Roles.climbOperand]
  split <;> simp_all

/-- Reads the expression at the front of a list of items, and returns what has not been consumed.
There is none if the list is empty or starts with an item that ends an expression. -/
def readExpression (items : List α) : Except Fault (Expression α) × List α :=
  match items with
  | [] => (.ok none, [])
  | first :: _ =>
    if roles.isStop first then
      (.ok none, items)
    else
      let climb := roles.climbTier 0 .lowest endOfInput items
      (climb.outcome.map some, climb.rest)

/-! ### What is reported -/

/-- The tier of an item that acts as an operator: the tightest one that holds it, unless the item
ends the expression. -/
def Roles.tier? (item : α) : Option Tier :=
  if roles.isStop item then none
  else Tier.tightestFirst.find? fun tier => roles.isOperator tier item

/-- The operators among consumed items, with their tiers. The flag says whether an operand is due:
an item there is no operator, and unless it opens a group an operator is due after it. -/
def Roles.operatorsIn : Bool → List α → List (Tier × α)
  | _, [] => []
  | true, item :: rest => Roles.operatorsIn (roles.isOpen item) rest
  | false, item :: rest =>
    match roles.tier? item with
    | some tier => (tier, item) :: Roles.operatorsIn true rest
    | none => Roles.operatorsIn false rest

/-- What is reported while the expression at the front of a list of items is read. -/
def readingEvents (items : List α) : List Event :=
  let (outcome, rest) := readExpression roles items
  let consumed := items.take (items.length - rest.length)
  let operators := (roles.operatorsIn true consumed).map fun (tier, operator) =>
    Event.operatorRead tier (roles.text operator)
  match outcome with
  | .ok (some tree) => operators ++ [.expressionBuilt (tree.text roles.text)]
  | _ => operators

/-- An item that ends the expression is left where it is. -/
theorem readExpression_cons_of_stop {first : α} (tail : List α) (h : roles.isStop first = true) :
    readExpression roles (first :: tail) = (.ok none, first :: tail) := by
  simp only [readExpression, h, if_true]

/-- What is left after the expression is an end piece of the items. -/
theorem readExpression_suffix (items : List α) : (readExpression roles items).2 <:+ items := by
  unfold readExpression
  split
  · exact List.suffix_refl []
  · split
    · exact List.suffix_refl _
    · exact Climb.suffix _

end TableGrammar
