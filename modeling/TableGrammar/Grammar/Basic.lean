import TableGrammar.Machine.Run

/-!
Grammars: machines that have a run on every cursor.
-/

namespace TableGrammar

/-- A machine none of whose actions gives tokens back. -/
structure Grammar (ρ : Type) where
  machine : Machine ρ
  thrifty : machine.Thrifty

variable {ρ : Type} (grammar : Grammar ρ)

/-- The run over what remains of a cursor. -/
def Grammar.run (cursor : Cursor) : Run ρ :=
  grammar.machine.run grammar.thrifty cursor

/-- The run over the tokens of a text. -/
def Grammar.runText (text : String) : Run ρ :=
  grammar.run (grammar.machine.lexer.tokenize text)

/-- The result for a text, or the failure that ended the run. -/
def Grammar.parse (text : String) : Except Failure ρ :=
  (grammar.runText text).ending.outcome

/-- What is reported while a text is parsed. -/
def Grammar.events (text : String) : List Event :=
  (grammar.machine.lexer.tokenize text).lexedEvent :: (grammar.runText text).events

/-- A machine is thrifty if the actions in the list that its table is made from are. -/
theorem Machine.thrifty_ofList {entries : List (Nat × Transition ρ)} {machine : Machine ρ}
    (htable : machine.table = Table.ofList entries)
    (h : ∀ entry ∈ entries, ∀ action, entry.2.action = some action → action.Thrifty) :
    machine.Thrifty := by
  intro state transition hmem action haction
  rw [htable] at hmem
  exact h _ (Table.mem_transitions_ofList hmem) action haction

end TableGrammar
