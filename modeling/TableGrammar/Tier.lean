import TableGrammar.Text.Ascii

/-!
The four tiers of binary operators, from the loosest binding to the tightest, and the operators of
each.
-/

namespace TableGrammar

/-- How tightly an operator binds. -/
inductive Tier where
  | logical
  | relational
  | additive
  | multiplicative
  deriving DecidableEq, Repr

/-- The name of a tier, as it is shown to people. -/
def Tier.name : Tier → String
  | .logical => "logical"
  | .relational => "relational"
  | .additive => "additive"
  | .multiplicative => "multiplicative"

/-- The place of a tier, counted from the loosest. -/
def Tier.rank : Tier → Nat
  | .logical => 0
  | .relational => 1
  | .additive => 2
  | .multiplicative => 3

/-- The loosest tier, at which reading an expression starts. -/
def Tier.lowest : Tier := .logical

/-- The next tighter tier. -/
def Tier.next? : Tier → Option Tier
  | .logical => some .relational
  | .relational => some .additive
  | .additive => some .multiplicative
  | .multiplicative => none

/-- All tiers, the tightest first. -/
def Tier.tightestFirst : List Tier :=
  [.multiplicative, .additive, .relational, .logical]

/-- The tier with a given name. -/
def Tier.ofName? (name : String) : Option Tier :=
  Tier.tightestFirst.find? fun tier => tier.name == name

/-- Tiers are ordered by how tightly they bind. -/
instance : Ord Tier where
  compare a b := compare a.rank b.rank

/-- The operators of each tier. One operator may stand in several tiers. -/
structure Operators (α : Type) where
  logical : List α := []
  relational : List α := []
  additive : List α := []
  multiplicative : List α := []
  deriving BEq, Repr

/-- The operators of one tier, in the order given. -/
def Operators.ofTier {α : Type} (operators : Operators α) : Tier → List α
  | .logical => operators.logical
  | .relational => operators.relational
  | .additive => operators.additive
  | .multiplicative => operators.multiplicative

/-- Is a value an operator of a tier? -/
def Operators.contains {α : Type} [BEq α] (operators : Operators α) (tier : Tier) (value : α) :
    Bool :=
  (operators.ofTier tier).any (· == value)

/-- Is a text an operator of a tier, up to the case of ASCII letters? -/
def Operators.containsText (operators : Operators String) (tier : Tier) (text : String) : Bool :=
  (operators.ofTier tier).any fun operator => Text.alike operator text

/-- The usual operators. -/
def Operators.standard : Operators String where
  logical := ["and", "or"]
  relational := ["<", ">", "<=", ">=", "==", "!="]
  additive := ["+", "-"]
  multiplicative := ["*", "/", "%"]

/-- Every tier is found under its name. -/
theorem Tier.ofName?_name (tier : Tier) : Tier.ofName? tier.name = some tier := by
  cases tier <;> decide

theorem Tier.rank_lt_four (tier : Tier) : tier.rank < 4 := by
  cases tier <;> decide

/-- No tier is tighter than the last. -/
theorem Tier.rank_of_next?_eq_none {tier : Tier} (h : tier.next? = none) : tier.rank + 1 = 4 := by
  cases tier <;> cases h
  rfl

/-- The next tier is one step tighter. -/
theorem Tier.rank_of_next? {tier next : Tier} (h : tier.next? = some next) :
    next.rank = tier.rank + 1 := by
  cases tier <;> cases h <;> rfl

end TableGrammar
