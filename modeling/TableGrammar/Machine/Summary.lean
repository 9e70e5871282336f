import TableGrammar.Machine.Run
import TableGrammar.Text.Escape

/-!
A machine summed up in one line: its vocabulary, its special characters, the number of its states
and the terminal ones.
-/

namespace TableGrammar

/-- Items between braces, separated by commas. -/
def Text.braced (items : List String) : String :=
  "\x7b" ++ ", ".intercalate items ++ "\x7d"

/-- A name with named fields between braces. -/
def Text.record (name : String) (fields : List (String × String)) : String :=
  let body := ", ".intercalate (fields.map fun (field, value) => field ++ ": " ++ value)
  name ++ " \x7b " ++ body ++ " \x7d"

/-- A vocabulary in one line. -/
def Vocabulary.summary (vocabulary : Vocabulary) : String :=
  Text.record "Vocabulary"
    [("keywords", Text.braced (vocabulary.keywords.map Text.quoted)),
     ("operators", Text.braced (vocabulary.operators.map Text.quoted)),
     ("chars", Text.braced (vocabulary.characters.map Text.quoted))]

/-- A lexer in one line. -/
def Lexer.summary (lexer : Lexer) : String :=
  Text.record "Lexer"
    [("vocabulary", lexer.vocabulary.summary),
     ("special_chars", "[" ++ ", ".intercalate (lexer.special.map Text.quotedChar) ++ "]")]

/-- A machine in one line. -/
def Machine.summary {ρ : Type} (machine : Machine ρ) : String :=
  Text.record "Parser"
    [("lexer", machine.lexer.summary),
     ("states", toString machine.table.length),
     ("terminal_states", Text.braced (machine.terminal.map toString))]

end TableGrammar
