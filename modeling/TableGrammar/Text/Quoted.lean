/-!
Quoted strings: a text between two quotes of one kind, in which a backslash keeps the character
after it.
-/

namespace TableGrammar

/-- Both the single and the double quote open a string. -/
def Text.isQuote (c : Char) : Bool :=
  c == '\'' || c == '"'

/-- Given what follows an opening quote, is the first unescaped quote of that kind the last
character? -/
def Text.closes (quote : Char) : List Char → Bool
  | [] => false
  | ['\\'] => false
  | '\\' :: _ :: rest => Text.closes quote rest
  | c :: rest => if c == quote then rest.isEmpty else Text.closes quote rest

/-- A closed string starts with a quote, and the first unescaped quote of that kind after it ends
the text. -/
def Text.isClosedString (text : String) : Bool :=
  match text.toList with
  | [] => false
  | quote :: rest => Text.isQuote quote && Text.closes quote rest

/-- A wrapped text has a quote at each end, both of one kind. Whether the string in between is
properly closed is left open: see `Text.isClosedString`. -/
def Text.isWrapped (text : String) : Bool :=
  match text.toList with
  | quote :: rest => Text.isQuote quote && rest.getLast? == some quote
  | [] => false

end TableGrammar
