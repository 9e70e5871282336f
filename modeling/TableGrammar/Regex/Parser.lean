import TableGrammar.Regex.Bracket
import TableGrammar.Unicode.Lookup

/-!
Reading a whole pattern.

The text is read once from left to right. Groups that are still open are held on a stack, each with
what stood before it; so an unbalanced parenthesis is noticed where it stands or at the end.
-/

namespace TableGrammar.Regex

/-- A group that is still open: what it is, and the state of reading before it. -/
structure OpenGroup where
  kind : GroupKind
  verbose : Bool
  items : List Pattern
  branches : List Pattern

/-- A pattern that has been read in part. -/
structure Parsing where
  /-- Are blanks and comments ignored? -/
  verbose : Bool := false
  /-- The names of groups so far. -/
  names : List (List Char) := []
  /-- The parts of the current branch, the latest first. -/
  items : List Pattern := []
  /-- The branches before it in the innermost group, the latest first. -/
  branches : List Pattern := []
  /-- The groups that are open, the innermost first. -/
  groups : List OpenGroup := []

/-- Puts parts into a row, of which the latest comes first. -/
def Pattern.row : List Pattern → Pattern
  | [] => .empty
  | [item] => item
  | item :: earlier => .cat (Pattern.row earlier) item

/-- Puts branches side by side, of which the latest comes first. -/
def Pattern.choice : List Pattern → Pattern
  | [] => .empty
  | [branch] => branch
  | branch :: earlier => .alt (Pattern.choice earlier) branch

/-- The innermost group as far as it has been read. -/
def Parsing.body (parsing : Parsing) : Pattern :=
  Pattern.choice (Pattern.row parsing.items :: parsing.branches)

/-- Adds a part to the current branch. -/
def Parsing.push (parsing : Parsing) (item : Pattern) : Parsing :=
  { parsing with items := item :: parsing.items }

/-- Opens a group. -/
def Parsing.openGroup (parsing : Parsing) (kind : GroupKind) : Parsing :=
  let verbose := match kind with
    | .flags change => (change.state? .verbose).getD parsing.verbose
    | .capture => parsing.verbose
  { parsing with
    verbose, items := [], branches := [],
    groups := ⟨kind, parsing.verbose, parsing.items, parsing.branches⟩ :: parsing.groups }

/-- Closes the innermost group, if one is open. -/
def Parsing.closeGroup? (parsing : Parsing) : Option Parsing :=
  match parsing.groups with
  | [] => none
  | group :: groups => some { parsing with
      verbose := group.verbose,
      items := .group group.kind parsing.body :: group.items,
      branches := group.branches,
      groups }

/-- Starts a new branch of the innermost group. -/
def Parsing.branch (parsing : Parsing) : Parsing :=
  { parsing with items := [], branches := Pattern.row parsing.items :: parsing.branches }

/-- The letter of a flag. -/
def flag? (c : Char) : Option Flag :=
  match c with
  | 'i' => some .caseInsensitive
  | 'm' => some .multiLine
  | 's' => some .dotMatchesNewline
  | 'U' => some .swapGreed
  | 'u' => some .unicode
  | 'R' => some .crlf
  | 'x' => some .verbose
  | _ => none

/-- Reads flags up to a closing parenthesis or a colon, which is left. No flag may be named twice;
there is at most one hyphen, which switches off what follows it, and something must follow it. -/
def readFlags : (off : Bool) → (dangling : Bool) → FlagChange → List Char →
    Option (FlagChange × List Char)
  | _, _, _, [] => none
  | off, dangling, change, c :: rest =>
    if c == ':' || c == ')' then
      if dangling then none else some (change.reverse, c :: rest)
    else if c == '-' then
      if off then none else readFlags true true change rest
    else
      match flag? c with
      | none => none
      | some flag =>
        if (FlagChange.state? change flag).isSome then none
        else readFlags off false ((flag, !off) :: change) rest

/-- May a character stand in the name of a group? The first one is a letter or an underscore. -/
def isNameChar (first : Bool) (c : Char) : Bool :=
  if first then c == '_' || Unicode.isLetter c
  else c == '_' || c == '.' || c == '[' || c == ']' || Unicode.isLetterOrNumber c

/-- Reads the name of a group and the angle bracket after it. -/
def readName (text : List Char) : Option (List Char × List Char) :=
  let name := text.takeWhile (· != '>')
  match name, text.dropWhile (· != '>') with
  | first :: others, _ :: rest =>
    if isNameChar true first && others.all (isNameChar false) then some (name, rest) else none
  | _, _ => none

/-- Opens a group with a name, which no other group may have. -/
def Parsing.openNamed (parsing : Parsing) (text : List Char) : Option (Parsing × List Char) := do
  let (name, rest) ← readName text
  guard !parsing.names.contains name
  return ({ parsing with names := name :: parsing.names }.openGroup .capture, rest)

/-- Opens a group with flags, or sets flags for the rest of the innermost group. -/
def Parsing.openFlags (parsing : Parsing) (text : List Char) : Option (Parsing × List Char) := do
  let (change, rest) ← readFlags false false [] text
  match rest with
  | ')' :: rest =>
    guard !change.isEmpty
    let verbose := (FlagChange.state? change .verbose).getD parsing.verbose
    return ({ parsing with verbose }.push (.flags change), rest)
  | _ :: rest => return (parsing.openGroup (.flags change), rest)
  | [] => none

/-- Reads the start of a group, after its parenthesis. Conditions on what stands around a place are
not supported. -/
def Parsing.readGroupStart (parsing : Parsing) (text : List Char) : Option (Parsing × List Char) :=
  match skip parsing.verbose text with
  | '?' :: '=' :: _ | '?' :: '!' :: _ | '?' :: '<' :: '=' :: _ | '?' :: '<' :: '!' :: _ => none
  | '?' :: 'P' :: '<' :: rest | '?' :: '<' :: rest => parsing.openNamed rest
  | '?' :: rest => parsing.openFlags rest
  | rest => some (parsing.openGroup .capture, rest)

/-- Repeats the latest part of the branch, if there is one that can be repeated. -/
def Parsing.repeatLatest? (parsing : Parsing) (least : Nat) (most : Option Nat) : Option Parsing :=
  match parsing.items with
  | [] | .flags _ :: _ => none
  | item :: items => some { parsing with items := .times item least most :: items }

/-- Drops the sign that makes a repetition prefer few rounds, which does not change what can
match. -/
def dropLazy (text : List Char) : List Char :=
  match text with
  | '?' :: rest => rest
  | _ => text

/-- Takes decimal digits, skipping after each of them. The number bounds how many are taken. -/
def takeDecimal (verbose : Bool) : Nat → List Char → List Char × List Char
  | fuel + 1, c :: rest =>
    if c.isDigit then
      let (digits, left) := takeDecimal verbose fuel (skip verbose rest)
      (c :: digits, left)
    else
      ([], c :: rest)
  | _, text => ([], text)

/-- The greatest count that a repetition can name. -/
def maxCount : Nat := 0xFFFFFFFF

/-- The number that decimal digits stand for, unless it is too great. -/
def decimalNumber? (digits : List Char) : Option Nat :=
  let number := digits.foldl (fun number c => 10 * number + (c.toNat - '0'.toNat)) 0
  if !digits.isEmpty && number ≤ maxCount then some number else none

/-- Reads a count, with blanks around it. Without any digit there is no count. -/
def readCount (verbose : Bool) (text : List Char) : Option Nat × List Char :=
  let text := text.dropWhile Text.isBlank
  let (digits, rest) := takeDecimal verbose text.length text
  (decimalNumber? digits, skip verbose (rest.dropWhile Text.isBlank))

/-- Reads how often something is repeated, after the opening brace: so many times, at least so many
times, or between so many and so many times. -/
def readCounts (verbose : Bool) (text : List Char) :
    Option ((Nat × Option Nat) × List Char) := do
  match readCount verbose (skip verbose text) with
  | (least, ',' :: rest) =>
    let least ← least
    match skip verbose rest with
    | '\x7d' :: rest => return ((least, none), rest)
    | rest =>
      match readCount verbose rest with
      | (some most, '\x7d' :: rest) =>
        guard (least ≤ most)
        return ((least, some most), rest)
      | _ => none
  | (some count, '\x7d' :: rest) => return ((count, some count), rest)
  | _ => none

/-- Reads a pattern to the end of its text. The number bounds the steps: each one takes a character
at least. -/
def Parsing.readAll : Nat → Parsing → List Char → Option Pattern
  | 0, _, _ => none
  | fuel + 1, parsing, text =>
    let repeated (least : Nat) (most : Option Nat) (rest : List Char) :=
      (parsing.repeatLatest? least most).bind fun parsing =>
        Parsing.readAll fuel parsing (dropLazy rest)
    match skip parsing.verbose text with
    | [] => if parsing.groups.isEmpty then some parsing.body else none
    | '(' :: rest =>
      (parsing.readGroupStart rest).bind fun (parsing, rest) => Parsing.readAll fuel parsing rest
    | ')' :: rest =>
      parsing.closeGroup?.bind fun parsing => Parsing.readAll fuel parsing rest
    | '|' :: rest => Parsing.readAll fuel parsing.branch rest
    | '[' :: rest =>
      (readClass parsing.verbose rest).bind fun (item, rest) =>
        Parsing.readAll fuel (parsing.push item) rest
    | '?' :: rest => repeated 0 (some 1) rest
    | '*' :: rest => repeated 0 none rest
    | '+' :: rest => repeated 1 none rest
    | '\x7b' :: rest =>
      (readCounts parsing.verbose rest).bind fun ((least, most), rest) =>
        repeated least most (skip parsing.verbose rest)
    | text =>
      (readAtom parsing.verbose text).bind fun (atom, rest) =>
        Parsing.readAll fuel (parsing.push atom.pattern) rest

/-- The deepest nesting that a pattern may have. -/
def maxHeight : Nat := 250

/-- Reads a pattern; nothing if it is malformed or nested too deeply. -/
def Pattern.parse? (text : List Char) : Option Pattern := do
  let pattern ← Parsing.readAll (text.length + 1) {} text
  guard (pattern.height .none ≤ maxHeight)
  return pattern

end TableGrammar.Regex
