import TableGrammar.Regex.CharSet

/-!
What a pattern matches.

A node is a pattern whose flags have been worked in. Matching is described by positions: from each
position in a text a node leads to the positions at which a match can end, and a whole set of
positions is moved at once, so that the work does not grow with the number of ways to match.
-/

namespace TableGrammar.Regex

/-- A condition on a position between the characters of a text. Lines end at a line feed or, where
`crlf` is set, also at a carriage return, and the pair of both is one end. Words are those of
Unicode or of ASCII. -/
inductive Look where
  | textStart
  | textEnd
  | lineStart (crlf : Bool)
  | lineEnd (crlf : Bool)
  | wordBoundary (unicode : Bool)
  | notWordBoundary (unicode : Bool)
  | wordStart (unicode : Bool)
  | wordEnd (unicode : Bool)
  | wordStartHalf (unicode : Bool)
  | wordEndHalf (unicode : Bool)
  deriving DecidableEq, Repr

/-- A pattern whose flags have been worked in. -/
inductive Node where
  | empty
  /-- One character of a set. -/
  | chars (set : CharSet)
  | look (look : Look)
  | cat (a b : Node)
  | alt (a b : Node)
  /-- At least so many rounds, and at most so many if there is a bound. -/
  | times (body : Node) (least : Nat) (most : Option Nat)
  | capture (body : Node)

/-- The characters of words, of Unicode or of ASCII. -/
def isWordChar (unicode : Bool) (c : Char) : Bool :=
  if unicode then Unicode.inSpans Unicode.wordChars c.toNat else c.isAlphanum || c == '_'

variable (text : Array Char)

/-- The character before a position. -/
def charBefore? (position : Nat) : Option Char :=
  if position = 0 then none else text[position - 1]?

/-- Is there a character of a word before a position? -/
def wordBefore (unicode : Bool) (position : Nat) : Bool :=
  (charBefore? text position).any (isWordChar unicode)

/-- Is there a character of a word after a position? -/
def wordAfter (unicode : Bool) (position : Nat) : Bool :=
  text[position]?.any (isWordChar unicode)

/-- Does a line start at a position? -/
def atLineStart (crlf : Bool) (position : Nat) : Bool :=
  match charBefore? text position with
  | none => true
  | some c => c == '\n' || (crlf && c == '\r' && text[position]? != some '\n')

/-- Does a line end at a position? -/
def atLineEnd (crlf : Bool) (position : Nat) : Bool :=
  match text[position]? with
  | none => true
  | some c =>
    if crlf then c == '\r' || (c == '\n' && charBefore? text position != some '\r') else c == '\n'

/-- Does a condition hold at a position? -/
def Look.holds : Look → Nat → Bool
  | .textStart, position => position == 0
  | .textEnd, position => position == text.size
  | .lineStart crlf, position => atLineStart text crlf position
  | .lineEnd crlf, position => atLineEnd text crlf position
  | .wordBoundary unicode, position =>
    wordBefore text unicode position != wordAfter text unicode position
  | .notWordBoundary unicode, position =>
    wordBefore text unicode position == wordAfter text unicode position
  | .wordStart unicode, position =>
    !wordBefore text unicode position && wordAfter text unicode position
  | .wordEnd unicode, position =>
    wordBefore text unicode position && !wordAfter text unicode position
  | .wordStartHalf unicode, position => !wordBefore text unicode position
  | .wordEndHalf unicode, position => !wordAfter text unicode position

/-- The positions of either set, each once. -/
def unite (a b : List Nat) : List Nat :=
  a ++ b.filter fun position => !a.contains position

/-- Moves a set of positions a fixed number of rounds. It may stop as soon as a round changes
nothing. -/
def moveExactly (round : List Nat → List Nat) : Nat → List Nat → List Nat
  | 0, positions => positions
  | count + 1, positions =>
    let moved := round positions
    if moved == positions then positions else moveExactly round count moved

/-- All positions reached within a number of rounds. `reached` holds those found so far and `latest`
the ones among them from which no round has been tried. -/
def moveUpTo (round : List Nat → List Nat) : Nat → List Nat → List Nat → List Nat
  | 0, reached, _ => reached
  | count + 1, reached, latest =>
    let fresh := (round latest).filter fun position => !reached.contains position
    if fresh.isEmpty then reached else moveUpTo round count (reached ++ fresh) fresh

/-- The positions at which a match of a node can end that starts at one of the given positions. A
repetition without a bound needs no more rounds than there are positions. -/
def Node.ends : Node → List Nat → List Nat
  | .empty, starts => starts
  | .chars set, starts => starts.filterMap fun position =>
    if text[position]?.any set.contains then some (position + 1) else none
  | .look condition, starts => starts.filter (condition.holds text)
  | .cat a b, starts => b.ends (a.ends starts)
  | .alt a b, starts => unite (a.ends starts) (b.ends starts)
  | .capture body, starts => body.ends starts
  | .times body least most, starts =>
    let round := fun positions => body.ends positions
    let needed := moveExactly round least starts
    let further := match most with
      | some most => most - least
      | none => text.size + 1
    moveUpTo round further needed needed

/-- Is there a match anywhere in the text? -/
def Node.occursIn (node : Node) : Bool :=
  !(node.ends text (List.range (text.size + 1))).isEmpty

end TableGrammar.Regex
