import TableGrammar.Text.Blank
import TableGrammar.Text.Quoted

/-!
Cutting text into lexemes.

A scan reads one character at a time and is always in one of three modes: between tokens or inside
a word, inside a quoted string, or inside a number. Scanning never fails: a string that is not
closed runs to the end of the text.
-/

namespace TableGrammar

/-- What a scan is in the middle of. -/
inductive Scan.Mode where
  /-- Between lexemes or inside a word. -/
  | normal
  /-- Inside a string opened by `quote`; `escaped` right after a backslash. -/
  | quoted (quote : Char) (escaped : Bool)
  /-- Inside a number; `point` once its decimal point has been read. -/
  | number (point : Bool)
  deriving DecidableEq, Repr

/-- A scan that has read some text. The pending characters and the finished lexemes are held latest
first. -/
structure Scan where
  mode : Scan.Mode := .normal
  pending : List Char := []
  lexemes : List (List Char) := []
  deriving DecidableEq, Repr

variable (special : List Char)

/-- Appends a character to the lexeme being read. -/
def Scan.take (scan : Scan) (c : Char) : Scan :=
  { scan with pending := c :: scan.pending }

/-- Ends the lexeme being read, if it has any characters. -/
def Scan.flush (scan : Scan) : Scan :=
  match scan.pending with
  | [] => scan
  | _ => { scan with pending := [], lexemes := scan.pending.reverse :: scan.lexemes }

/-- Reads a character outside strings and numbers. A quote opens a string without ending the word
before it; a digit and a special character do end that word. -/
def Scan.readNormal (scan : Scan) (c : Char) : Scan :=
  if Text.isBlank c then scan.flush
  else if Text.isQuote c then { scan.take c with mode := .quoted c false }
  else if c.isDigit then { scan.flush.take c with mode := .number false }
  else if special.contains c then (scan.flush.take c).flush
  else scan.take c

/-- Reads a character inside a string. The string ends at the first quote of its kind that no
backslash keeps. -/
def Scan.readQuoted (scan : Scan) (quote : Char) (escaped : Bool) (c : Char) : Scan :=
  if escaped then { scan.take c with mode := .quoted quote false }
  else if c == '\\' then { scan.take c with mode := .quoted quote true }
  else if c == quote then { (scan.take c).flush with mode := .normal }
  else scan.take c

/-- Reads a character inside a number. One that does not continue the number ends it, and is read
again by the normal rules. -/
def Scan.readNumber (scan : Scan) (point : Bool) (c : Char) : Scan :=
  if c.isDigit then scan.take c
  else if c == '.' && !point then { scan.take c with mode := .number true }
  else Scan.readNormal special { scan.flush with mode := .normal } c

/-- Reads one character. -/
def Scan.read (scan : Scan) (c : Char) : Scan :=
  match scan.mode with
  | .normal => scan.readNormal special c
  | .quoted quote escaped => scan.readQuoted quote escaped c
  | .number point => scan.readNumber special point c

/-- Reads a whole text. -/
def Scan.readAll (scan : Scan) (text : List Char) : Scan :=
  text.foldl (Scan.read special) scan

/-- The lexemes read so far, in order, the one being read included. -/
def Scan.words (scan : Scan) : List (List Char) :=
  scan.flush.lexemes.reverse

/-- The lexemes of a text, in order. -/
def lexemes (text : String) : List String :=
  (Scan.readAll special {} text.toList).words.map String.ofList

end TableGrammar
