/-!
Regular expressions as they are written.

A pattern is a tree of what stands in its text; the flags that are in force at a place, and so what
the parts mean, are not yet taken into account.
-/

namespace TableGrammar.Regex

/-- A switch that a pattern can set. -/
inductive Flag where
  | caseInsensitive
  | multiLine
  | dotMatchesNewline
  | swapGreed
  | unicode
  | crlf
  | verbose
  deriving DecidableEq, Repr

/-- Flags to switch on and off, in the order written. -/
abbrev FlagChange := List (Flag × Bool)

/-- A condition on a place between characters. -/
inductive Assertion where
  | lineStart
  | lineEnd
  | textStart
  | textEnd
  | wordBoundary
  | notWordBoundary
  | wordStart
  | wordEnd
  | wordStartHalf
  | wordEndHalf
  deriving DecidableEq, Repr

/-- A class with a letter of its own. -/
inductive Shorthand where
  | digit
  | blank
  | word
  deriving DecidableEq, Repr

/-- A class of ASCII characters with a name. -/
inductive AsciiClass where
  | alnum
  | alpha
  | ascii
  | blank
  | cntrl
  | digit
  | graph
  | lower
  | print
  | punct
  | space
  | upper
  | word
  | xdigit
  deriving DecidableEq, Repr

/-- How a class of characters is asked for by property. -/
inductive PropertyQuery where
  | named (name : List Char)
  | withValue (property value : List Char)
  deriving DecidableEq, Repr

/-- A single character; `byte` if it was written as a code of two hexadecimal digits. -/
structure Literal where
  char : Char
  byte : Bool := false
  deriving DecidableEq, Repr

/-- A class that can stand inside and outside brackets. -/
inductive ClassName where
  | shorthand (kind : Shorthand) (negated : Bool)
  | property (query : PropertyQuery) (negated : Bool)
  deriving DecidableEq, Repr

/-- How two classes in brackets are put together. -/
inductive SetOperation where
  | intersection
  | difference
  | symmetricDifference
  deriving DecidableEq, Repr

/-- What stands between brackets. -/
inductive ClassSet where
  | empty
  | literal (literal : Literal)
  | range (first final : Literal)
  | ascii (kind : AsciiClass) (negated : Bool)
  | named (name : ClassName)
  | bracketed (negated : Bool) (body : ClassSet)
  | union (a b : ClassSet)
  | operation (kind : SetOperation) (a b : ClassSet)
  deriving Repr

/-- What a group does besides grouping. -/
inductive GroupKind where
  | capture
  | flags (change : FlagChange)
  deriving DecidableEq, Repr

/-- A pattern. -/
inductive Pattern where
  | empty
  | literal (literal : Literal)
  | dot
  | assertion (assertion : Assertion)
  | named (name : ClassName)
  | bracketed (negated : Bool) (body : ClassSet)
  /-- Sets flags for what follows. -/
  | flags (change : FlagChange)
  | group (kind : GroupKind) (body : Pattern)
  /-- At least so many times, and at most so many if there is a bound. -/
  | times (body : Pattern) (least : Nat) (most : Option Nat)
  | cat (a b : Pattern)
  | alt (a b : Pattern)
  deriving Repr

/-- How deeply a class is nested. A union of many items is one level; `inUnion` says that it has
been counted already. -/
def ClassSet.height : Bool → ClassSet → Nat
  | inUnion, .union a b => (if inUnion then 0 else 1) + max (a.height true) (b.height true)
  | _, .bracketed _ body => 1 + body.height false
  | _, .operation _ a b => 1 + max (a.height false) (b.height false)
  | _, _ => 0

/-- The kind of row that a part of a pattern stands in directly. -/
inductive Row where
  | none
  | cat
  | alt
  deriving DecidableEq, Repr

/-- How deeply a pattern is nested. A row of many parts is one level; `row` says which row has been
counted already. -/
def Pattern.height : Row → Pattern → Nat
  | row, .cat a b => (if row = .cat then 0 else 1) + max (a.height .cat) (b.height .cat)
  | row, .alt a b => (if row = .alt then 0 else 1) + max (a.height .alt) (b.height .alt)
  | _, .group _ body | _, .times body _ _ => 1 + body.height .none
  | _, .bracketed _ body => 1 + body.height false
  | _, _ => 0

/-- The state of a flag after a change, if the change names it. -/
def FlagChange.state? (change : FlagChange) (flag : Flag) : Option Bool :=
  (change.find? fun (named, _) => named = flag).map Prod.snd

end TableGrammar.Regex
