import TableGrammar.Unicode.Category
import TableGrammar.Unicode.Property

/-!
Texts and characters written between quotes, with what cannot be seen spelled out.

The common control characters, the backslash and the quote in use are written with a backslash;
any other character that does not print on its own is written as its code point in braces.
-/

namespace TableGrammar

/-- The code points that show nothing of their own: control and format characters, separators other
than the space, private and unassigned code points, and marks that extend the character before
them. -/
def Text.unprintable : List Unicode.Span :=
  Unicode.withCategory ["Cc", "Cf", "Cn", "Co", "Cs", "Zl", "Zp", "Zs"] ++ Unicode.graphemeExtend

/-- Does a character print on its own? -/
def Text.isPrintable (c : Char) : Bool :=
  c == ' ' || !Unicode.inSpans Text.unprintable c.toNat

/-- A character as it is written between quotes of the given kind. -/
def Text.escapeChar (quote c : Char) : String :=
  if c == '\x00' then "\\0"
  else if c == '\t' then "\\t"
  else if c == '\r' then "\\r"
  else if c == '\n' then "\\n"
  else if c == '\\' || c == quote then String.ofList ['\\', c]
  else if Text.isPrintable c then c.toString
  else "\\u\x7b" ++ String.ofList (Nat.toDigits 16 c.toNat) ++ "\x7d"

/-- A text between double quotes. -/
def Text.quoted (text : String) : String :=
  "\"" ++ String.join (text.toList.map (Text.escapeChar '"')) ++ "\""

/-- A character between single quotes. -/
def Text.quotedChar (c : Char) : String :=
  "'" ++ Text.escapeChar '\'' c ++ "'"

end TableGrammar
