/-!
What can be wrong with the structure of an expression.
-/

namespace TableGrammar

/-- A structural fault of an expression. -/
inductive Fault where
  /-- A group was not closed where it had to be. -/
  | unclosedParenthesis (found : String)
  /-- A group was closed that had not been opened. -/
  | unopenedParenthesis
  /-- An operator, a group or the expression itself lacks an operand. -/
  | missingOperand (after : String)
  /-- Something follows a complete expression. -/
  | trailingInput (found : String)
  /-- Groups are nested too deeply. -/
  | depthExceeded
  deriving DecidableEq, Repr

/-- How the end of the input is called where an item is expected. -/
def endOfInput : String := "end of input"

/-- The wording of a fault. -/
def Fault.message : Fault → String
  | .unclosedParenthesis found => s!"expected closing parenthesis but found {found}"
  | .unopenedParenthesis => "closing parenthesis without an opening one"
  | .missingOperand after => s!"missing operand after {after}"
  | .trailingInput found => s!"unexpected {found} after a complete expression"
  | .depthExceeded => "parentheses nested too deeply"

end TableGrammar
