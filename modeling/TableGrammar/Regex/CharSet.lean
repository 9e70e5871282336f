import TableGrammar.Text.Blank
import TableGrammar.Unicode.CaseFold
import TableGrammar.Unicode.Lookup

/-!
Sets of characters, as a pattern describes them.

A set is kept as it is put together, and whether a character is in it is found by going through the
description. So the closure under case asks for each variant of the character in turn, and no set
is ever written out.
-/

namespace TableGrammar.Regex

/-- A description of a set of characters. -/
inductive CharSet where
  /-- The code points in the given ranges. -/
  | spans (ranges : List Unicode.Span)
  | union (a b : CharSet)
  | inter (a b : CharSet)
  | diff (a b : CharSet)
  | symmDiff (a b : CharSet)
  | compl (a : CharSet)
  /-- The characters that differ from one in the set in case only. -/
  | caseless (a : CharSet)
  /-- The same, but only ASCII letters have two cases. -/
  | asciiCaseless (a : CharSet)

/-- The upper and the lower case of an ASCII letter; any other code point is alone. -/
def asciiVariants (point : Nat) : List Nat :=
  [point, (Char.ofNat point).toLower.toNat, (Char.ofNat point).toUpper.toNat]

/-- Is a code point in the set? -/
def CharSet.containsPoint : CharSet → Nat → Bool
  | .spans ranges, point => Unicode.inSpans ranges point
  | .union a b, point => a.containsPoint point || b.containsPoint point
  | .inter a b, point => a.containsPoint point && b.containsPoint point
  | .diff a b, point => a.containsPoint point && !b.containsPoint point
  | .symmDiff a b, point => a.containsPoint point != b.containsPoint point
  | .compl a, point => !a.containsPoint point
  | .caseless a, point => (Unicode.caseVariants point).any fun variant => a.containsPoint variant
  | .asciiCaseless a, point => (asciiVariants point).any fun variant => a.containsPoint variant

/-- Is a character in the set? -/
def CharSet.contains (set : CharSet) (c : Char) : Bool :=
  set.containsPoint c.toNat

/-- No character at all. -/
def CharSet.empty : CharSet := .spans []

/-- One character. -/
def CharSet.single (c : Char) : CharSet := .spans [(c.toNat, c.toNat)]

/-- The characters from one to another, both included. -/
def CharSet.range (first final : Char) : CharSet := .spans [(first.toNat, final.toNat)]

/-- Every character but the given ones. -/
def CharSet.allBut (cs : List Char) : CharSet :=
  .compl (.spans (cs.map fun c => (c.toNat, c.toNat)))

/-- The complement of a set if asked for. -/
def CharSet.complIf (negated : Bool) (set : CharSet) : CharSet :=
  if negated then .compl set else set

end TableGrammar.Regex
