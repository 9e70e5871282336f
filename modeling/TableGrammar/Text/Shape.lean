/-!
The shapes of words and numbers.

Digits and letters are those of ASCII: a word with any other character has none of these shapes.
-/

namespace TableGrammar

/-- The characters that may follow the first one of an identifier. -/
def Text.isWordChar (c : Char) : Bool :=
  c.isAlpha || c.isDigit || c == '_'

/-- An identifier is a letter followed by letters, digits and underscores. -/
def Text.isIdentifier (text : String) : Bool :=
  match text.toList with
  | [] => false
  | c :: rest => c.isAlpha && rest.all Text.isWordChar

/-- At least one character, and nothing but digits. -/
def Text.isDigits (cs : List Char) : Bool :=
  !cs.isEmpty && cs.all Char.isDigit

/-- A whole number is a sequence of digits. -/
def Text.isInteger (text : String) : Bool :=
  Text.isDigits text.toList

/-- A number is a whole number, or two of them around a point. -/
def Text.isNumber (text : String) : Bool :=
  let whole := text.toList.takeWhile Char.isDigit
  match text.toList.dropWhile Char.isDigit with
  | [] => Text.isDigits whole
  | '.' :: fraction => Text.isDigits whole && Text.isDigits fraction
  | _ => false

/-- The two truth values, in lower case only. -/
def Text.isBoolean (text : String) : Bool :=
  text == "true" || text == "false"

end TableGrammar
