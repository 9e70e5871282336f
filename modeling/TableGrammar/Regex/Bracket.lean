import TableGrammar.Regex.Escape

/-!
Reading a class of characters between brackets.

Classes nest, and inside one bracket items are joined first and then put together by the operators
`&&`, `--` and `~~`, from left to right. What is still open is held on a stack of frames.
-/

namespace TableGrammar.Regex

/-- A class that is being read, or the left side of an operator that waits for its right side. -/
inductive Frame where
  /-- A bracket, with the items of the class around it, the latest first. -/
  | bracket (negated : Bool) (around : List ClassSet)
  | operation (kind : SetOperation) (left : ClassSet)

/-- Joins items, of which the latest comes first. -/
def ClassSet.join : List ClassSet → ClassSet
  | [] => .empty
  | [item] => item
  | item :: earlier => .union (ClassSet.join earlier) item

/-- Gives the operator on top of the stack, if there is one, its right side. -/
def Frame.reduce (right : ClassSet) : List Frame → ClassSet × List Frame
  | .operation kind left :: frames => (.operation kind left right, frames)
  | frames => (right, frames)

/-- The class of ASCII characters with a name. -/
def asciiClassNamed? (name : List Char) : Option AsciiClass :=
  let table : List (String × AsciiClass) :=
    [("alnum", .alnum), ("alpha", .alpha), ("ascii", .ascii), ("blank", .blank),
     ("cntrl", .cntrl), ("digit", .digit), ("graph", .graph), ("lower", .lower),
     ("print", .print), ("punct", .punct), ("space", .space), ("upper", .upper),
     ("word", .word), ("xdigit", .xdigit)]
  table.lookup (String.ofList name)

/-- Reads a named class of ASCII characters, after its opening bracket and colon. What does not
have this form may still be a class within the class. -/
def readAsciiClass? (text : List Char) : Option (ClassSet × List Char) :=
  let (negated, text) := match text with
    | '^' :: rest => (true, rest)
    | _ => (false, text)
  match text.dropWhile (· != ':') with
  | ':' :: ']' :: rest =>
    (asciiClassNamed? (text.takeWhile (· != ':'))).map fun kind => (.ascii kind negated, rest)
  | _ => none

/-- Takes the hyphens that stand first in a class; there they are plain characters. The number
bounds how many are taken. -/
def takeHyphens (verbose : Bool) : Nat → List ClassSet → List Char → List ClassSet × List Char
  | fuel + 1, items, '-' :: rest =>
    takeHyphens verbose fuel (.literal { char := '-' } :: items) (skip verbose rest)
  | _, items, text => (items, text)

/-- Reads the start of a class, after its opening bracket: whether it is negated, and the hyphens
or the closing bracket that stand first and are plain characters. -/
def readBracketStart (verbose : Bool) (text : List Char) : Bool × List ClassSet × List Char :=
  let (negated, text) := match skip verbose text with
    | '^' :: rest => (true, skip verbose rest)
    | text => (false, text)
  match takeHyphens verbose text.length [] text with
  | ([], ']' :: rest) => (negated, [.literal { char := ']' }], skip verbose rest)
  | (items, rest) => (negated, items, rest)

/-- Reads one character or class inside brackets. -/
def readSetAtom (verbose : Bool) (text : List Char) : Option (Atom × List Char) :=
  match text with
  | [] => none
  | '\\' :: rest => readEscape verbose rest
  | c :: rest => some (.literal { char := c }, rest)

/-- An atom as an item of a class; places and the dot are not allowed there. -/
def Atom.classSet? : Atom → Option ClassSet
  | .literal c => some (.literal c)
  | .named name => some (.named name)
  | .dot | .assertion _ => none

/-- An atom as an end of a range. -/
def Atom.literal? : Atom → Option Literal
  | .literal c => some c
  | _ => none

/-- The character that comes after the current one. In verbose mode blanks are passed over, and at
most one number sign. -/
def peekPast (verbose : Bool) (text : List Char) : Option Char :=
  if verbose then
    match text.dropWhile Text.isBlank with
    | '#' :: rest => (rest.dropWhile Text.isBlank).head?
    | rest => rest.head?
  else
    text.head?

/-- Reads an item of a class: a character, a class, or the range between two characters. -/
def readSetItem (verbose : Bool) (text : List Char) : Option (ClassSet × List Char) := do
  let (first, rest) ← readSetAtom verbose text
  match skip verbose rest with
  | '-' :: after =>
    let next := peekPast verbose after
    if next == some ']' || next == some '-' then
      return (← first.classSet?, '-' :: after)
    let (second, left) ← readSetAtom verbose (skip verbose after)
    let low ← first.literal?
    let high ← second.literal?
    guard (low.char ≤ high.char)
    return (.range low high, left)
  | left => return (← first.classSet?, left)

/-- Reads a class until its bracket is closed. `frames` holds what is open and `items` the items of
the innermost bracket, the latest first. The number bounds the steps: each one takes a character
at least. -/
def readClassFrom (verbose : Bool) :
    Nat → List Frame → List ClassSet → List Char → Option (Pattern × List Char)
  | 0, _, _, _ => none
  | fuel + 1, frames, items, text =>
    let operator (kind : SetOperation) (rest : List Char) :=
      let (left, frames) := Frame.reduce (ClassSet.join items) frames
      readClassFrom verbose fuel (.operation kind left :: frames) [] rest
    match skip verbose text with
    | [] => none
    | '[' :: rest =>
      let ascii := match rest with
        | ':' :: name => readAsciiClass? name
        | _ => none
      match ascii with
      | some (item, left) => readClassFrom verbose fuel frames (item :: items) left
      | none =>
        let (negated, inner, left) := readBracketStart verbose rest
        readClassFrom verbose fuel (.bracket negated items :: frames) inner left
    | ']' :: rest =>
      let (body, frames) := Frame.reduce (ClassSet.join items) frames
      match frames with
      | [.bracket negated _] => some (.bracketed negated body, rest)
      | .bracket negated around :: frames =>
        readClassFrom verbose fuel frames (.bracketed negated body :: around) rest
      | _ => none
    | '&' :: '&' :: rest => operator .intersection rest
    | '-' :: '-' :: rest => operator .difference rest
    | '~' :: '~' :: rest => operator .symmetricDifference rest
    | text =>
      match readSetItem verbose text with
      | some (item, left) => readClassFrom verbose fuel frames (item :: items) left
      | none => none

/-- Reads a class, after its opening bracket. -/
def readClass (verbose : Bool) (text : List Char) : Option (Pattern × List Char) :=
  let (negated, items, rest) := readBracketStart verbose text
  readClassFrom verbose (text.length + 1) [.bracket negated []] items rest

end TableGrammar.Regex
