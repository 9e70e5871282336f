import TableGrammar.Cursor
import TableGrammar.Event
import TableGrammar.Scan
import TableGrammar.Vocabulary

/-!
From text to tokens: the text is cut into lexemes, and each lexeme is classified.
-/

namespace TableGrammar

/-- The characters that are tokens of their own unless a grammar says otherwise. -/
def defaultSpecial : List Char :=
  [',', '.', '(', ')', '?', '\x7b', '\x7d']

/-- How a grammar's texts are cut and classified. -/
structure Lexer where
  vocabulary : Vocabulary := {}
  special : List Char := defaultSpecial

variable (lexer : Lexer)

/-- The token of each text, for texts that have been cut already. -/
def Lexer.classifyAll (texts : List String) : Cursor :=
  { tokens := texts.map lexer.vocabulary.classify }

/-- The tokens of a text. -/
def Lexer.tokenize (text : String) : Cursor :=
  lexer.classifyAll (lexemes lexer.special text)

/-- What is reported when tokens have been made. -/
def Cursor.lexedEvent (cursor : Cursor) : Event :=
  .lexed cursor.length

end TableGrammar
