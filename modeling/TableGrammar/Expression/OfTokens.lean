import TableGrammar.Cursor
import TableGrammar.Expression.Climb
import TableGrammar.Matcher

/-!
Expressions read off a cursor.

Operators are compared with the values of tokens without regard to the case of ASCII letters, and
the parentheses are the tokens `(` and `)`. Reading stops before the first token that one of the
stop matchers accepts, and leaves it for whoever uses the cursor next.
-/

namespace TableGrammar

/-- The roles of tokens, given the operators and what ends an expression. -/
def Roles.ofTokens (operators : Operators String) (stops : List Matcher) : Roles Token where
  isStop token := stops.any fun stop => stop.accepts token
  isOpen token := token.value == "("
  isClose token := token.value == ")"
  isOperator tier token := operators.containsText tier token.value
  text := Token.value

variable (operators : Operators String) (stops : List Matcher) (cursor : Cursor)

/-- Reads an expression, and moves the cursor behind it, or to where a fault was found. -/
def Cursor.readExpression : Except Fault (Expression Token) × Cursor :=
  let roles := Roles.ofTokens operators stops
  let (outcome, rest) := TableGrammar.readExpression roles cursor.remaining
  (outcome, cursor.advance (cursor.remaining.length - rest.length))

/-- What is reported while an expression is read. -/
def Cursor.readingEvents : List Event :=
  TableGrammar.readingEvents (Roles.ofTokens operators stops) cursor.remaining

/-- Reading an expression gives no token back. -/
theorem Cursor.countRemaining_readExpression_le :
    (cursor.readExpression operators stops).2.countRemaining ≤ cursor.countRemaining := by
  simp only [Cursor.readExpression, Cursor.countRemaining, Cursor.advance, Cursor.length]
  omega

/-- What remains after an expression has been read off a cursor is what reading has left. -/
theorem Cursor.remaining_readExpression :
    (cursor.readExpression operators stops).2.remaining =
      (TableGrammar.readExpression (Roles.ofTokens operators stops) cursor.remaining).2 := by
  have hsuffix := readExpression_suffix (Roles.ofTokens operators stops) cursor.remaining
  rw [List.suffix_iff_eq_drop.mp hsuffix]
  simp only [Cursor.readExpression, Cursor.advance, Cursor.remaining, List.drop_drop]

end TableGrammar
