import TableGrammar.Regex.Node
import TableGrammar.Regex.Syntax

/-!
From what is written to what it matches.

Flags are in force from where they are set to the end of the innermost group, across its branches.
Where Unicode is switched off, classes are made of ASCII characters: whatever would reach beyond
them is refused.
-/

namespace TableGrammar.Regex

/-- The flags in force at a place. -/
structure Flags where
  caseInsensitive : Bool := false
  multiLine : Bool := false
  dotMatchesNewline : Bool := false
  unicode : Bool := true
  crlf : Bool := false

/-- The flags after a change. Those that say how a pattern is written or which match is preferred
have no part in what can match. -/
def Flags.apply (flags : Flags) (change : FlagChange) : Flags where
  caseInsensitive := (change.state? .caseInsensitive).getD flags.caseInsensitive
  multiLine := (change.state? .multiLine).getD flags.multiLine
  dotMatchesNewline := (change.state? .dotMatchesNewline).getD flags.dotMatchesNewline
  unicode := (change.state? .unicode).getD flags.unicode
  crlf := (change.state? .crlf).getD flags.crlf

variable (flags : Flags)

/-- Closes a set under case if case is ignored, and then takes its complement if asked for. No
complement stays within ASCII. -/
def Flags.finish? (negated : Bool) (set : CharSet) : Option CharSet :=
  if flags.unicode then
    some (CharSet.complIf negated (if flags.caseInsensitive then .caseless set else set))
  else if negated then none
  else some (if flags.caseInsensitive then .asciiCaseless set else set)

/-- The code points of a shorthand class. -/
def Shorthand.spans (unicode : Bool) : Shorthand → List Unicode.Span
  | .digit => if unicode then Unicode.digits else [(0x30, 0x39)]
  | .blank => if unicode then Text.blankRanges else [(0x09, 0x0D), (0x20, 0x20)]
  | .word =>
    if unicode then Unicode.wordChars
    else [(0x30, 0x39), (0x41, 0x5A), (0x5F, 0x5F), (0x61, 0x7A)]

/-- The code points of a named class of ASCII characters. -/
def AsciiClass.spans : AsciiClass → List Unicode.Span
  | .alnum => [(0x30, 0x39), (0x41, 0x5A), (0x61, 0x7A)]
  | .alpha => [(0x41, 0x5A), (0x61, 0x7A)]
  | .ascii => [(0x00, 0x7F)]
  | .blank => [(0x09, 0x09), (0x20, 0x20)]
  | .cntrl => [(0x00, 0x1F), (0x7F, 0x7F)]
  | .digit => [(0x30, 0x39)]
  | .graph => [(0x21, 0x7E)]
  | .lower => [(0x61, 0x7A)]
  | .print => [(0x20, 0x7E)]
  | .punct => [(0x21, 0x2F), (0x3A, 0x40), (0x5B, 0x60), (0x7B, 0x7E)]
  | .space => [(0x09, 0x0D), (0x20, 0x20)]
  | .upper => [(0x41, 0x5A)]
  | .word => [(0x30, 0x39), (0x41, 0x5A), (0x5F, 0x5F), (0x61, 0x7A)]
  | .xdigit => [(0x30, 0x39), (0x41, 0x46), (0x61, 0x66)]

/-- The code points with a property. -/
def PropertyQuery.spans? : PropertyQuery → Option (List Unicode.Span)
  | .named name => Unicode.named? name
  | .withValue property value => Unicode.withValue? property value

/-- The set of a named class. Properties are known of Unicode only. -/
def ClassName.charSet? : ClassName → Option CharSet
  | .shorthand kind negated =>
    if negated && !flags.unicode then none
    else some (CharSet.complIf negated (.spans (kind.spans flags.unicode)))
  | .property query negated =>
    if flags.unicode then query.spans?.bind fun spans => flags.finish? negated (.spans spans)
    else none

/-- The character of a literal in a class; without Unicode it has to be of ASCII. -/
def Literal.member? (literal : Literal) : Option Char :=
  if flags.unicode || literal.char.toNat < 0x80 then some literal.char else none

/-- Closes a set under case if case is ignored. -/
def Flags.closeCase (set : CharSet) : CharSet :=
  if !flags.caseInsensitive then set
  else if flags.unicode then .caseless set
  else .asciiCaseless set

/-- The set of what stands between brackets. -/
def ClassSet.charSet? : ClassSet → Option CharSet
  | .empty => some CharSet.empty
  | .literal c => (c.member? flags).map CharSet.single
  | .range first final => do
    let first ← first.member? flags
    let final ← final.member? flags
    return CharSet.range first final
  | .ascii kind negated => flags.finish? negated (.spans kind.spans)
  | .named name => name.charSet? flags
  | .bracketed negated body => do flags.finish? negated (← body.charSet?)
  | .union a b => do return .union (← a.charSet?) (← b.charSet?)
  | .operation kind a b => do
    let a := flags.closeCase (← a.charSet?)
    let b := flags.closeCase (← b.charSet?)
    match kind with
    | .intersection => return .inter a b
    | .difference => return .diff a b
    | .symmetricDifference => return .symmDiff a b

/-- The set of a character that stands for itself. A code of two digits beyond ASCII stands for a
byte where Unicode is off, and no text has such a byte alone. -/
def Literal.charSet? (literal : Literal) : Option CharSet :=
  if flags.unicode then
    let set := CharSet.single literal.char
    some (if flags.caseInsensitive then .caseless set else set)
  else if literal.byte && 0x80 ≤ literal.char.toNat then none
  else
    let set := CharSet.single literal.char
    some (if flags.caseInsensitive then .asciiCaseless set else set)

/-- The set of the dot: all characters, or all that do not end a line. Without Unicode it would
match single bytes. -/
def Flags.dot? : Option CharSet :=
  if !flags.unicode then none
  else if flags.dotMatchesNewline then some (CharSet.allBut [])
  else if flags.crlf then some (CharSet.allBut ['\r', '\n'])
  else some (CharSet.allBut ['\n'])

/-- The condition that an assertion stands for. -/
def Assertion.look : Assertion → Look
  | .lineStart => if flags.multiLine then .lineStart flags.crlf else .textStart
  | .lineEnd => if flags.multiLine then .lineEnd flags.crlf else .textEnd
  | .textStart => .textStart
  | .textEnd => .textEnd
  | .wordBoundary => .wordBoundary flags.unicode
  | .notWordBoundary => .notWordBoundary flags.unicode
  | .wordStart => .wordStart flags.unicode
  | .wordEnd => .wordEnd flags.unicode
  | .wordStartHalf => .wordStartHalf flags.unicode
  | .wordEndHalf => .wordEndHalf flags.unicode

/-- The node of a pattern where the given flags are in force, with the flags in force after it. -/
def Pattern.node? : Flags → Pattern → Option (Node × Flags)
  | flags, .empty => some (.empty, flags)
  | flags, .literal c => (c.charSet? flags).map fun set => (.chars set, flags)
  | flags, .dot => flags.dot?.map fun set => (.chars set, flags)
  | flags, .assertion kind => some (.look (kind.look flags), flags)
  | flags, .named name => (name.charSet? flags).map fun set => (.chars set, flags)
  | flags, .bracketed negated body => do
    let set ← flags.finish? negated (← body.charSet? flags)
    return (.chars set, flags)
  | current, .flags change => some (.empty, current.apply change)
  | flags, .group .capture body => do
    let (node, _) ← body.node? flags
    return (.capture node, flags)
  | flags, .group (.flags change) body => do
    let (node, _) ← body.node? (flags.apply change)
    return (node, flags)
  | flags, .times body least most => do
    let (node, after) ← body.node? flags
    return (.times node least most, after)
  | flags, .cat a b => do
    let (left, between) ← a.node? flags
    let (right, after) ← b.node? between
    return (.cat left right, after)
  | flags, .alt a b => do
    let (left, between) ← a.node? flags
    let (right, after) ← b.node? between
    return (.alt left right, after)

end TableGrammar.Regex
