/-!
Compact tables over the code points.

Code points are listed in order as runs of neighbours that share a label or a property; a table is
a text, broken into lines, that gives the lengths of the runs.
-/

namespace TableGrammar

/-- The code points from the first to the second number, both included. -/
abbrev Unicode.Span := Nat × Nat

/-- A label and the code points of one run that has it. -/
structure Unicode.Labelled where
  label : String
  span : Unicode.Span

/-- The greatest code point. -/
def Unicode.last : Nat := 0x10FFFF

/-- Appends a decimal digit to a number. -/
def Unicode.appendDigit (number : Nat) (digit : Char) : Nat :=
  10 * number + (digit.toNat - '0'.toNat)

/-- The numbers of a text, which blanks separate. -/
def Unicode.numbers : Nat → List Char → List Nat
  | number, [] => [number]
  | number, c :: rest =>
    if c == ' ' then number :: Unicode.numbers 0 rest
    else Unicode.numbers (Unicode.appendDigit number c) rest

/-- Turns lengths, by turns of a gap and of a run, into the spans of the runs. -/
def Unicode.spansFrom (start : Nat) : List Nat → List Unicode.Span
  | gap :: length :: rest =>
    (start + gap, start + gap + length - 1) :: Unicode.spansFrom (start + gap + length) rest
  | _ => []

/-- The spans of a property, given by turns how many code points lack it and how many have it. -/
def Unicode.spans (table : List String) : List Unicode.Span :=
  Unicode.spansFrom 0 (Unicode.numbers 0 (table.flatMap String.toList))

/-- A labelled run that starts at a code point; a run without a written length is one long. -/
def Unicode.labelledRun (start : Nat) (label : List Char) (length : Nat) : Unicode.Labelled :=
  ⟨String.ofList label.reverse, (start, start + max length 1 - 1)⟩

/-- Reads labelled runs. `label` holds the letters of the run being read, latest first, and
`length` its length so far. -/
def Unicode.labelledRunsFrom (start : Nat) (label : List Char) (length : Nat) :
    List Char → List Unicode.Labelled
  | [] => [Unicode.labelledRun start label length]
  | c :: rest =>
    if c.isDigit then
      Unicode.labelledRunsFrom start label (Unicode.appendDigit length c) rest
    else if c.isUpper && !label.isEmpty then
      Unicode.labelledRun start label length ::
        Unicode.labelledRunsFrom (start + max length 1) [c] 0 rest
    else
      Unicode.labelledRunsFrom start (c :: label) length rest

/-- The runs of a table in which every label starts with a capital letter. -/
def Unicode.labelledRuns (table : List String) : List Unicode.Labelled :=
  Unicode.labelledRunsFrom 0 [] 0 (table.flatMap String.toList)

/-- The spans of the runs that have one of the given labels. -/
def Unicode.withLabel (labels : List String) (runs : List Unicode.Labelled) : List Unicode.Span :=
  (runs.filter fun run => labels.contains run.label).map Unicode.Labelled.span

/-- Is a code point in one of the spans? -/
def Unicode.inSpans (spans : List Unicode.Span) (point : Nat) : Bool :=
  spans.any fun (first, final) => first ≤ point && point ≤ final

end TableGrammar
