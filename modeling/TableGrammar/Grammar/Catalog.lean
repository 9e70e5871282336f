import TableGrammar.Grammar.Gathering
import TableGrammar.Grammar.Selection
import TableGrammar.Machine.Summary

/-!
The grammars that can be picked by name.
-/

namespace TableGrammar

/-- The names of the grammars. -/
inductive GrammarName where
  | select
  | assignment
  | builder
  deriving DecidableEq, Repr

/-- The spelling of a name. -/
def GrammarName.text : GrammarName → String
  | .select => "select"
  | .assignment => "assignment"
  | .builder => "builder"

/-- All names. -/
def GrammarName.all : List GrammarName :=
  [.select, .assignment, .builder]

/-- The name with a spelling, in any case. -/
def GrammarName.ofText? (text : String) : Option GrammarName :=
  GrammarName.all.find? fun name => Text.alike name.text text

/-- What is said about a text that names no grammar. -/
def GrammarName.unknownMessage (text : String) : String :=
  "unknown grammar '" ++ text ++ "', expected one of: "
    ++ ", ".intercalate (GrammarName.all.map GrammarName.text)

/-- A grammar with any type of result, and how its results are shown. -/
structure NamedGrammar where
  title : String
  Result : Type
  grammar : Grammar Result
  render : Result → String

/-- The grammar with a name. -/
def GrammarName.grammar : GrammarName → NamedGrammar
  | .select => ⟨"Select", Selection, Selection.grammar, Selection.text⟩
  | .assignment => ⟨"Assignment", Assignment, Assignment.grammar, Assignment.text⟩
  | .builder => ⟨"Builder", Gathering, Gathering.grammar, Gathering.text⟩

/-- What is reported when a grammar is built. -/
def GrammarName.builtEvent (name : GrammarName) : Event :=
  .grammarBuilt name.text

variable (named : NamedGrammar)

/-- How a grammar's text is cut and classified. -/
def NamedGrammar.lexer : Lexer :=
  named.grammar.machine.lexer

/-- The result for a text, as text. -/
def NamedGrammar.parse (text : String) : Except Failure String :=
  (named.grammar.parse text).map named.render

/-- The table of a grammar, as text. -/
def NamedGrammar.tableText : String :=
  named.grammar.machine.table.text

/-- A grammar in one line. -/
def NamedGrammar.summary : String :=
  named.title ++ "(" ++ named.grammar.machine.summary ++ ")"

/-- Every name is found under its spelling. -/
theorem GrammarName.ofText?_text (name : GrammarName) :
    GrammarName.ofText? name.text = some name := by
  cases name <;> decide

end TableGrammar
