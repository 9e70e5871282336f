import TableGrammar.Expression.Formula
import TableGrammar.Grammar.Assignment

/-!
Assignments whose right hand side is gathered token by token.

The table itself walks along the right hand side and adds each value to a formula, which is turned
into a tree at the semicolon. The table knows the arithmetic operators only, the formula knows all.
-/

namespace TableGrammar

/-- A name, the values gathered for it, and the tree that they make. -/
structure Gathering where
  target : String := ""
  formula : Formula String := Formula.standard
  tree : Expression String := none

/-- A gathered assignment as text. -/
def Gathering.text (gathering : Gathering) : String :=
  gathering.target ++ " = " ++ Expression.text id gathering.tree

/-- The state of a complete assignment. -/
def Gathering.done : Nat := 999

/-- Notes the name. -/
def Gathering.takeTarget : Action Gathering :=
  .fold fun value gathering => { gathering with target := value }

/-- Adds a value to the formula. -/
def Gathering.push : Action Gathering :=
  .fold fun value gathering => { gathering with formula := gathering.formula.add value }

/-- Turns the formula into a tree. -/
def Gathering.finish : Action Gathering :=
  .tryFold fun _ gathering =>
    { outcome := match gathering.formula.evaluate id with
        | .error fault => .error (.expression fault)
        | .ok tree => .ok { gathering with tree }
      events := gathering.formula.events id }

/-- The arithmetic operators, any one of them. -/
def Gathering.arithmetic : Matcher :=
  .anyOf (["+", "-", "*", "/", "%"].map fun text => (Entry.operator text).matcher)

/-- The transitions of gathered assignments. In state 2 an operand is due, in state 3 an
operator. -/
def Gathering.entries : List (Nat × Transition Gathering) :=
  let equals := (Entry.character '=').matcher
  let opening := (Entry.character '(').matcher
  let closing := (Entry.character ')').matcher
  [(0, { matcher := .shape .identifier, next := 1, action := some Gathering.takeTarget }),
   (1, { matcher := equals, next := 2 }),
   (2, { matcher := .shape .identifier, next := 3, action := some Gathering.push }),
   (2, { matcher := .shape .number, next := 3, action := some Gathering.push }),
   (2, { matcher := opening, next := 2, action := some Gathering.push }),
   (3, { matcher := Gathering.arithmetic, next := 2, action := some Gathering.push }),
   (3, { matcher := closing, next := 3, action := some Gathering.push }),
   (3, { matcher := Assignment.semicolon, next := Gathering.done,
         action := some Gathering.finish })]

/-- The machine for gathered assignments. -/
def Gathering.machine : Machine Gathering where
  lexer := Assignment.lexer
  table := Table.ofList Gathering.entries
  terminal := [Gathering.done]
  start := {}

/-- No action of the machine for gathered assignments sees the cursor. -/
theorem Gathering.machine_thrifty : Gathering.machine.Thrifty := by
  refine Machine.thrifty_ofList rfl fun entry hentry action haction => ?_
  simp only [Gathering.entries, List.mem_cons, List.not_mem_nil, or_false] at hentry
  rcases hentry with rfl | rfl | rfl | rfl | rfl | rfl | rfl | rfl <;> cases haction
  case inr.inr.inr.inr.inr.inr.inr.refl => exact Action.thrifty_tryFold _
  all_goals exact Action.thrifty_fold _

/-- The grammar of gathered assignments. -/
def Gathering.grammar : Grammar Gathering :=
  ⟨Gathering.machine, Gathering.machine_thrifty⟩

end TableGrammar
