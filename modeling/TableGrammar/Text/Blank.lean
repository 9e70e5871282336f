/-!
The characters that separate words: those with the Unicode property `White_Space`.
-/

namespace TableGrammar

/-- The code points of the blanks, as inclusive ranges in increasing order. -/
def Text.blankRanges : List (Nat × Nat) :=
  [(0x09, 0x0D), (0x20, 0x20), (0x85, 0x85), (0xA0, 0xA0), (0x1680, 0x1680), (0x2000, 0x200A),
   (0x2028, 0x2029), (0x202F, 0x202F), (0x205F, 0x205F), (0x3000, 0x3000)]

/-- A blank is any character with the property `White_Space`. -/
def Text.isBlank (c : Char) : Bool :=
  Text.blankRanges.any fun (lo, hi) => lo ≤ c.toNat && c.toNat ≤ hi

/-- A text is blank when it holds nothing but blanks. -/
def Text.isAllBlank (text : String) : Bool :=
  text.toList.all Text.isBlank

end TableGrammar
