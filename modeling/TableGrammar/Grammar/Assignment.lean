import TableGrammar.Expression.OfTokens
import TableGrammar.Grammar.Basic

/-!
Assignments whose right hand side is read as an expression as soon as the equals sign has been met.
-/

namespace TableGrammar

/-- A name and the expression given to it. -/
structure Assignment where
  target : String := ""
  expression : Expression Token := none

/-- An assignment as text. -/
def Assignment.text (assignment : Assignment) : String :=
  assignment.target ++ " = " ++ Expression.text Token.value assignment.expression

/-- The operators that are recognised in the text of assignments. -/
def Assignment.operatorEntries : List Entry :=
  ["+", "-", "*", "/", "%", "<", ">", "<=", ">=", "==", "!="].map Entry.operator

/-- The words and symbols of assignments. -/
def Assignment.vocabulary : Vocabulary :=
  Vocabulary.registerAll {}
    ([.character '=', .character ';', .character '(', .character ')']
      ++ Assignment.operatorEntries)

/-- How the text of assignments is cut and classified. -/
def Assignment.lexer : Lexer where
  vocabulary := Assignment.vocabulary
  special := ['+', '-', '=', ';', '(', ')']

/-- The semicolon, which ends an assignment. -/
def Assignment.semicolon : Matcher :=
  (Entry.character ';').matcher

/-- Starts an assignment to a name. -/
def Assignment.begin : Action Assignment :=
  .fold fun value _ => { target := value }

/-- Reads the right hand side up to a semicolon. -/
def Assignment.readRightHandSide : Action Assignment :=
  .withCursor fun _ assignment cursor =>
    let (outcome, after) := cursor.readExpression Operators.standard [Assignment.semicolon]
    let events := cursor.readingEvents Operators.standard [Assignment.semicolon]
    let reply := match outcome with
      | .error fault => { outcome := .error (.expression fault), events }
      | .ok expression =>
        { outcome := .ok { assignment with expression }
          events := events ++ [.rightHandSide (Expression.text Token.value expression)] }
    (reply, after)

/-- The transitions of assignments. -/
def Assignment.entries : List (Nat × Transition Assignment) :=
  let equals := (Entry.character '=').matcher
  [(0, { matcher := .shape .identifier, next := 1, action := some Assignment.begin }),
   (1, { matcher := equals, next := 2, action := some Assignment.readRightHandSide }),
   (2, { matcher := Assignment.semicolon, next := 2 })]

/-- The machine for assignments. -/
def Assignment.machine : Machine Assignment where
  lexer := Assignment.lexer
  table := Table.ofList Assignment.entries
  start := {}

/-- Reading the right hand side gives no token back. -/
theorem Assignment.readRightHandSide_thrifty : Assignment.readRightHandSide.Thrifty :=
  fun _ _ cursor =>
    cursor.countRemaining_readExpression_le Operators.standard [Assignment.semicolon]

/-- The machine for assignments is thrifty. -/
theorem Assignment.machine_thrifty : Assignment.machine.Thrifty := by
  refine Machine.thrifty_ofList rfl fun entry hentry action haction => ?_
  simp only [Assignment.entries, List.mem_cons, List.not_mem_nil, or_false] at hentry
  rcases hentry with rfl | rfl | rfl <;> cases haction
  · exact Action.thrifty_fold _
  · exact Assignment.readRightHandSide_thrifty

/-- The grammar of assignments. -/
def Assignment.grammar : Grammar Assignment :=
  ⟨Assignment.machine, Assignment.machine_thrifty⟩

end TableGrammar
