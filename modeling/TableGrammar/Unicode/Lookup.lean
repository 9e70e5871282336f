import TableGrammar.Unicode.Category
import TableGrammar.Unicode.Property
import TableGrammar.Unicode.Script

/-!
Sets of code points found by name.

A name is looked up without regard to case, blanks, underscores, hyphens and a leading `is`.
-/

namespace TableGrammar

/-- Keeps the ASCII characters that tell names apart, in lower case. -/
def Unicode.plainChars (name : List Char) : List Char :=
  (name.filter fun c => c.toNat < 0x80 && c != ' ' && c != '_' && c != '-').map Char.toLower

/-- The plain form of a name. The name `isc` stands for itself and is not the name `c`. -/
def Unicode.plainName (name : List Char) : String :=
  match name with
  | a :: b :: rest =>
    if a.toLower == 'i' && b.toLower == 's' then
      let plain := Unicode.plainChars rest
      if plain == ['c'] then "isc" else String.ofList plain
    else
      String.ofList (Unicode.plainChars name)
  | _ => String.ofList (Unicode.plainChars name)

/-- The code points of the general category with the given plain name; `any`, `assigned` and
`ascii` are taken for categories too. -/
def Unicode.generalCategory? (plain : String) : Option (List Unicode.Span) :=
  if plain == "any" then some [(0, Unicode.last)]
  else if plain == "assigned" then
    some ((Unicode.categories.filter fun run => run.label != "Cn").map Unicode.Labelled.span)
  else if plain == "ascii" then some [(0, 0x7F)]
  else Unicode.category? plain

/-- The code points that a single name stands for: a property, else a category, else a script. -/
def Unicode.named? (name : List Char) : Option (List Unicode.Span) :=
  let plain := Unicode.plainName name
  (Unicode.property? plain).orElse fun _ =>
    (Unicode.generalCategory? plain).orElse fun _ => Unicode.script? plain

/-- The code points for which a property has a value. The general category and the script can be
asked for. -/
def Unicode.withValue? (property value : List Char) : Option (List Unicode.Span) :=
  let property := Unicode.plainName property
  let value := Unicode.plainName value
  if property == "gc" || property == "generalcategory" then Unicode.generalCategory? value
  else if property == "sc" || property == "script" then Unicode.script? value
  else none

/-- Decimal digits of any script. -/
def Unicode.digits : List Unicode.Span :=
  Unicode.withCategory ["Nd"]

/-- Letters of any script. -/
def Unicode.isLetter (c : Char) : Bool :=
  Unicode.inSpans Unicode.alphabetic c.toNat

/-- The code points of numbers of any script. -/
def Unicode.numerals : List Unicode.Span :=
  Unicode.withCategory ["Nd", "Nl", "No"]

/-- Letters and numbers of any script. -/
def Unicode.isLetterOrNumber (c : Char) : Bool :=
  Unicode.isLetter c || Unicode.inSpans Unicode.numerals c.toNat

end TableGrammar
