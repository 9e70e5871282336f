import TableGrammar.Regex.Syntax
import TableGrammar.Text.Blank

/-!
Reading the smallest parts of a pattern: numbers, escapes and single characters.

A reader takes the text that is left and returns what it read with what is left then, or nothing if
the text is malformed. In verbose mode blanks and comments are skipped wherever `skip` is applied.
-/

namespace TableGrammar.Regex

/-- Drops blanks, and comments from a number sign to the end of the line. The flag says whether the
text starts inside a comment. -/
def skipComments : Bool → List Char → List Char
  | _, [] => []
  | true, c :: rest => skipComments (c != '\n') rest
  | false, c :: rest =>
    if Text.isBlank c then skipComments false rest
    else if c == '#' then skipComments true rest
    else c :: rest

/-- Drops what verbose mode ignores; outside of it, nothing. -/
def skip (verbose : Bool) (text : List Char) : List Char :=
  if verbose then skipComments false text else text

/-- The characters with a meaning of their own, which a backslash turns into plain ones. -/
def isMeta (c : Char) : Bool :=
  "\\.+*?()|[]\x7b\x7d^$#&-~".toList.contains c

/-- The characters that a backslash leaves as they are: those with a meaning of their own, and any
other of ASCII that is neither a letter, a digit nor an angle bracket. -/
def isEscapable (c : Char) : Bool :=
  isMeta c || (c.toNat < 0x80 && !c.isAlphanum && c != '<' && c != '>')

/-- The value of a hexadecimal digit. -/
def hexDigit? (c : Char) : Option Nat :=
  if c.isDigit then some (c.toNat - '0'.toNat)
  else if 'a' ≤ c ∧ c ≤ 'f' then some (c.toNat - 'a'.toNat + 10)
  else if 'A' ≤ c ∧ c ≤ 'F' then some (c.toNat - 'A'.toNat + 10)
  else none

/-- The number that hexadecimal digits stand for. -/
def hexNumber? (digits : List Char) : Option Nat :=
  digits.foldlM (fun number c => (hexDigit? c).map (16 * number + ·)) 0

/-- The character with a code point, if it is one of a character. -/
def charOfPoint? (point : Nat) : Option Char :=
  if point.isValidChar then some (Char.ofNat point) else none

/-- Takes exactly `count` characters, skipping after each of them. -/
def takeDigits (verbose : Bool) : Nat → List Char → Option (List Char × List Char)
  | 0, text => some ([], text)
  | _ + 1, [] => none
  | count + 1, c :: rest =>
    (takeDigits verbose count (skip verbose rest)).map fun (digits, left) => (c :: digits, left)

/-- Takes the characters up to a closing brace, skipping after each of them; the brace is dropped.
The number bounds how many characters are taken. -/
def takeBraced (verbose : Bool) : Nat → List Char → Option (List Char × List Char)
  | 0, _ | _, [] => none
  | fuel + 1, c :: rest =>
    if c == '\x7d' then some ([], rest)
    else (takeBraced verbose fuel (skip verbose rest)).map fun (body, left) => (c :: body, left)

/-- The text between braces, of which the opening one has been read. -/
def readBraced (verbose : Bool) (text : List Char) : Option (List Char × List Char) :=
  takeBraced verbose (text.length + 1) (skip verbose text)

/-- Reads the code of a character, after the letter that says how many digits it has. -/
def readHex (verbose : Bool) (width : Nat) (text : List Char) : Option (Literal × List Char) :=
  match skip verbose text with
  | '\x7b' :: rest => do
    let (digits, left) ← readBraced verbose rest
    guard !digits.isEmpty
    let c ← charOfPoint? (← hexNumber? digits)
    return ({ char := c }, skip verbose left)
  | rest => do
    let (digits, left) ← takeDigits verbose width rest
    let c ← charOfPoint? (← hexNumber? digits)
    return ({ char := c, byte := width == 2 }, left)

/-- Cuts a text at the first place where a separator stands. -/
def cutAt (separator : List Char) : List Char → Option (List Char × List Char)
  | [] => none
  | c :: rest =>
    if separator.isPrefixOf (c :: rest) then some ([], (c :: rest).drop separator.length)
    else (cutAt separator rest).map fun (before, after) => (c :: before, after)

/-- What the text between braces asks for, and whether it asks for the opposite. -/
def propertyQuery (body : List Char) : PropertyQuery × Bool :=
  match cutAt ['!', '='] body with
  | some (property, value) => (.withValue property value, true)
  | none =>
    match cutAt [':'] body with
    | some (property, value) => (.withValue property value, false)
    | none =>
      match cutAt ['='] body with
      | some (property, value) => (.withValue property value, false)
      | none => (.named body, false)

/-- Reads the name of a property, after the letter that introduces it. -/
def readProperty (verbose negated : Bool) (text : List Char) : Option (ClassName × List Char) :=
  match skip verbose text with
  | [] => none
  | '\x7b' :: rest => do
    let (body, left) ← readBraced verbose rest
    let (query, opposite) := propertyQuery body
    return (.property query (negated != opposite), left)
  | '\\' :: _ => none
  | c :: rest => some (.property (.named [c]) negated, skip verbose rest)

/-- The letters and hyphens of the name of a special word boundary, skipping after each. The number
bounds how many are taken. -/
def takeName (verbose : Bool) : Nat → List Char → List Char × List Char
  | 0, text => ([], text)
  | _, [] => ([], [])
  | fuel + 1, c :: rest =>
    if c.isAlpha || c == '-' then
      let (name, left) := takeName verbose fuel (skip verbose rest)
      (c :: name, left)
    else
      ([], c :: rest)

/-- The special word boundary with a name. -/
def wordBoundaryNamed? (name : List Char) : Option Assertion :=
  let name := String.ofList name
  if name == "start" then some .wordStart
  else if name == "end" then some .wordEnd
  else if name == "start-half" then some .wordStartHalf
  else if name == "end-half" then some .wordEndHalf
  else none

/-- Reads a word boundary, after its letter. A name in braces may follow; a brace that no name
follows belongs to a repetition. -/
def readWordBoundary (verbose : Bool) (text : List Char) : Option (Assertion × List Char) :=
  match text with
  | '\x7b' :: rest =>
    match takeName verbose rest.length (skip verbose rest) with
    | ([], _) => some (.wordBoundary, text)
    | (name, '\x7d' :: left) => (wordBoundaryNamed? name).map fun kind => (kind, left)
    | _ => none
  | _ => some (.wordBoundary, text)

/-- What can be written without parentheses, brackets and repetitions. -/
inductive Atom where
  | literal (literal : Literal)
  | dot
  | assertion (assertion : Assertion)
  | named (name : ClassName)

/-- The control character that a letter after a backslash stands for. -/
def controlChar? (c : Char) : Option Char :=
  match c with
  | 'a' => some '\x07'
  | 'f' => some '\x0c'
  | 't' => some '\t'
  | 'n' => some '\n'
  | 'r' => some '\r'
  | 'v' => some '\x0b'
  | _ => none

/-- The place that a letter after a backslash stands for. -/
def assertionOf? (c : Char) : Option Assertion :=
  match c with
  | 'A' => some .textStart
  | 'z' => some .textEnd
  | 'B' => some .notWordBoundary
  | '<' => some .wordStart
  | '>' => some .wordEnd
  | _ => none

/-- The class that a letter after a backslash stands for; the capital letter asks for the
opposite. -/
def shorthand? (c : Char) : Option ClassName :=
  match c with
  | 'd' => some (.shorthand .digit false)
  | 'D' => some (.shorthand .digit true)
  | 's' => some (.shorthand .blank false)
  | 'S' => some (.shorthand .blank true)
  | 'w' => some (.shorthand .word false)
  | 'W' => some (.shorthand .word true)
  | _ => none

/-- Reads what follows a backslash. -/
def readEscape (verbose : Bool) (text : List Char) : Option (Atom × List Char) :=
  match text with
  | [] => none
  | 'x' :: rest => (readHex verbose 2 rest).map fun (c, left) => (.literal c, left)
  | 'u' :: rest => (readHex verbose 4 rest).map fun (c, left) => (.literal c, left)
  | 'U' :: rest => (readHex verbose 8 rest).map fun (c, left) => (.literal c, left)
  | 'p' :: rest => (readProperty verbose false rest).map fun (name, left) => (.named name, left)
  | 'P' :: rest => (readProperty verbose true rest).map fun (name, left) => (.named name, left)
  | 'b' :: rest => (readWordBoundary verbose rest).map fun (kind, left) => (.assertion kind, left)
  | c :: rest =>
    if isEscapable c then some (.literal { char := c }, rest)
    else
      ((shorthand? c).map Atom.named
        <|> (controlChar? c).map (fun control => Atom.literal { char := control })
        <|> (assertionOf? c).map Atom.assertion).map fun atom => (atom, rest)

/-- Reads an atom that stands outside brackets. -/
def readAtom (verbose : Bool) (text : List Char) : Option (Atom × List Char) :=
  match text with
  | [] => none
  | '\\' :: rest => readEscape verbose rest
  | '.' :: rest => some (.dot, rest)
  | '^' :: rest => some (.assertion .lineStart, rest)
  | '$' :: rest => some (.assertion .lineEnd, rest)
  | c :: rest => some (.literal { char := c }, rest)

/-- An atom as a pattern. -/
def Atom.pattern : Atom → Pattern
  | .literal c => .literal c
  | .dot => .dot
  | .assertion kind => .assertion kind
  | .named name => .named name

end TableGrammar.Regex
