import TableGrammar.Grammar.Basic

/-!
A small query language: `SELECT` with a star or columns, `FROM` and a table.
-/

namespace TableGrammar

/-- What a query asks for. -/
structure Selection where
  /-- Was there a star? -/
  all : Bool := false
  columns : List String := []
  table : Option String := none
  deriving DecidableEq, Repr

/-- A query as text. -/
def Selection.text (selection : Selection) : String :=
  let columns := if selection.all then "*" :: selection.columns else selection.columns
  let table := match selection.table with
    | some table => " FROM " ++ table
    | none => ""
  "SELECT " ++ ", ".intercalate columns ++ table

/-- The words and symbols of queries. -/
def Selection.vocabulary : Vocabulary :=
  Vocabulary.registerAll {} [.keyword "select", .keyword "from", .character '*', .character ',']

/-- Starts afresh. -/
def Selection.begin : Action Selection :=
  .fold fun _ _ => {}

/-- Notes a star. -/
def Selection.takeAll : Action Selection :=
  .fold fun _ selection => { selection with all := true }

/-- Notes a column. -/
def Selection.takeColumn : Action Selection :=
  .fold fun value selection => { selection with columns := selection.columns ++ [value] }

/-- Notes the table. -/
def Selection.takeTable : Action Selection :=
  .fold fun value selection => { selection with table := some value }

/-- The transitions of queries. States 1 to 6 are in the list of columns, state 7 is before the
table. -/
def Selection.entries : List (Nat × Transition Selection) :=
  let select := (Entry.keyword "select").matcher
  let fromWord := (Entry.keyword "from").matcher
  let star := (Entry.character '*').matcher
  let comma := (Entry.character ',').matcher
  let name := Matcher.shape .identifier
  [(0, { matcher := select, next := 1, action := some Selection.begin }),
   (1, { matcher := star, next := 2, action := some Selection.takeAll }),
   (1, { matcher := name, next := 3, action := some Selection.takeColumn }),
   (2, { matcher := fromWord, next := 7 }),
   (3, { matcher := fromWord, next := 7 }),
   (3, { matcher := name, next := 4, action := some Selection.takeColumn }),
   (3, { matcher := comma, next := 1 }),
   (4, { matcher := name, next := 6, action := some Selection.takeColumn }),
   (4, { matcher := star, next := 6, action := some Selection.takeAll }),
   (5, { matcher := comma, next := 1 }),
   (6, { matcher := fromWord, next := 7 }),
   (6, { matcher := name, next := 5 }),
   (6, { matcher := comma, next := 1 }),
   (7, { matcher := name, next := 8, action := some Selection.takeTable })]

/-- The machine for queries. -/
def Selection.machine : Machine Selection where
  lexer := { vocabulary := Selection.vocabulary, special := ['*', ','] }
  table := Table.ofList Selection.entries
  start := {}

/-- No action of the machine for queries sees the cursor. -/
theorem Selection.machine_thrifty : Selection.machine.Thrifty := by
  refine Machine.thrifty_ofList rfl fun entry hentry action haction => ?_
  simp only [Selection.entries, List.mem_cons, List.not_mem_nil, or_false] at hentry
  rcases hentry with rfl | rfl | rfl | rfl | rfl | rfl | rfl | rfl | rfl | rfl | rfl | rfl | rfl
    | rfl <;> cases haction <;> exact Action.thrifty_fold _

/-- The grammar of queries. -/
def Selection.grammar : Grammar Selection :=
  ⟨Selection.machine, Selection.machine_thrifty⟩

end TableGrammar
