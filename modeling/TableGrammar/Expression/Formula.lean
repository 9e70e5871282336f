import TableGrammar.Expression.Climb

/-!
Expressions collected value by value.

A formula is a flat sequence of values of any type; the whole of it is turned into a tree at once.
Operators and parentheses are recognised by equality, nothing ends a formula early, and every value
has to be used.
-/

namespace TableGrammar

/-- A sequence of values, with what counts as an operator and as a parenthesis. -/
structure Formula (α : Type) where
  operators : Operators α
  opening : α
  closing : α
  values : Array α := #[]

/-- An empty formula with the usual operators and parentheses. -/
def Formula.standard : Formula String where
  operators := Operators.standard
  opening := "("
  closing := ")"

variable {α : Type} (formula : Formula α)

/-- Adds a value at the end. -/
def Formula.add (value : α) : Formula α :=
  { formula with values := formula.values.push value }

/-- Drops all values and keeps the rest. -/
def Formula.clear : Formula α :=
  { formula with values := #[] }

/-- The values separated by single spaces. -/
def Formula.text (render : α → String) : String :=
  " ".intercalate (formula.values.toList.map render)

variable [BEq α] (render : α → String)

/-- The roles of the values of a formula. -/
def Formula.roles : Roles α where
  isStop _ := false
  isOpen value := value == formula.opening
  isClose value := value == formula.closing
  isOperator tier value := formula.operators.contains tier value
  text := render

/-- The tree of a formula. A value that is left over is a fault. -/
def Formula.evaluate : Except Fault (Expression α) :=
  match readExpression (formula.roles render) formula.values.toList with
  | (.error fault, _) => .error fault
  | (.ok expression, []) => .ok expression
  | (.ok _, value :: _) =>
    if value == formula.closing then .error .unopenedParenthesis
    else .error (.trailingInput (render value))

/-- What is reported while the tree of a formula is built. -/
def Formula.events : List Event :=
  readingEvents (formula.roles render) formula.values.toList

end TableGrammar
