import TableGrammar.Regex.Engine
import TableGrammar.Regex.Meaning
import TableGrammar.Regex.Parser

/-!
A library of regular expressions to run with.

A pattern is parsed, given its meaning as a node, and searched for by moving sets of positions. The
library refuses what it has no tables for, and patterns whose compiled form it takes to be too
large. Nothing that is known of regular expressions elsewhere rests on it but that there is a
library that does what is documented.
-/

namespace TableGrammar.Regex

/-- How many bytes encode a code point. -/
def encodedLength (point : Nat) : Nat :=
  if point < 0x80 then 1
  else if point < 0x800 then 2
  else if point < 0x10000 then 3
  else 4

/-- An estimate of the memory, in bytes, that the ranges of a compiled set take: little for a range
within ASCII and more for any other. -/
def CharSet.weight : CharSet → Nat
  | .spans ranges => (ranges.map fun (_, final) => if final < 0x80 then 8 else 62).foldl (· + ·) 0
  | .union a b => a.weight + b.weight
  | .inter a b | .diff a b | .symmDiff a b => max a.weight b.weight
  | .compl a => a.weight + 400
  | .caseless a | .asciiCaseless a => 2 * a.weight

/-- An estimate of the memory, in bytes, that a compiled set of characters takes: a step for each
byte of a single character, and two steps with their ranges for any other set. -/
def CharSet.cost : CharSet → Nat
  | .spans [(first, final)] =>
    if first = final then 32 * encodedLength first
    else if final < 0x80 then 72
    else 200
  | set => 64 + set.weight

/-- An estimate of the memory, in bytes, that a compiled node takes. A repetition with a bound is a
copy of its body for each round. -/
def Node.cost : Node → Nat
  | .empty | .look _ => 32
  | .chars set => set.cost
  | .cat a b => a.cost + b.cost
  | .alt a b => a.cost + b.cost + 40
  | .capture body => body.cost + 64
  | .times body least none => max least 1 * body.cost + 40
  | .times body least (some most) => least * body.cost + (most - least) * (body.cost + 40) + 32

/-- The most memory, in bytes, that a compiled pattern may take. -/
def maxCost : Nat := 10 * 1024 * 1024

/-- The node of a pattern by itself; nothing if the pattern is malformed or too large. -/
def Node.compile? (text : List Char) : Option Node := do
  let pattern ← Pattern.parse? text
  let (node, _) ← pattern.node? {}
  guard (node.cost ≤ maxCost)
  return node

end TableGrammar.Regex

namespace TableGrammar

/-- The library that compiles patterns to nodes. -/
instance Regex.nodes : Regex.Engine where
  Program := Regex.Node
  compile? text := Regex.Node.compile? text.toList
  occursIn node text := node.occursIn text.toList.toArray

end TableGrammar
