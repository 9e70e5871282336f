import TableGrammar.Lexer
import TableGrammar.Machine.Table

/-!
Running a table over a cursor.

A run starts in state 0. For each token the first transition of the state that accepts it is taken:
its action updates the result, and the machine moves on. The run ends in a terminal state, when no
token is left, or with a failure.

Actions may put tokens back, so a run need not end; it is given a budget of transitions. The budget
of a machine whose actions are thrifty is the number of tokens that remain, and such a machine has a
run on every cursor.
-/

namespace TableGrammar

/-- A table with what it needs to run on text. The terminal states are in increasing order. -/
structure Machine (ρ : Type) where
  lexer : Lexer
  table : Table ρ
  terminal : List Nat := []
  start : ρ

/-- A transition that was taken, with what its action reported. -/
structure Step where
  state : Nat
  token : Token
  index : Nat
  label : String
  next : Nat
  events : List Event := []

/-- How a run ended. -/
inductive Ending (ρ : Type) where
  /-- In a terminal state. -/
  | terminal (state : Nat) (result : ρ)
  /-- Because no token was left. -/
  | exhausted (state : Nat) (result : ρ)
  | failed (failure : Failure)

/-- A run that has ended: how, where it left the cursor, and the transitions it took. -/
structure Run (ρ : Type) where
  ending : Ending ρ
  cursor : Cursor
  steps : List Step := []

/-- What becomes of one token: the next state and result or a failure, the cursor, and the
transition if one was taken. -/
structure Move (ρ : Type) where
  outcome : Except Failure (Nat × ρ)
  cursor : Cursor
  step? : Option Step := none

variable {ρ : Type} (machine : Machine ρ)

/-- Is a state terminal? -/
def Machine.isTerminal (state : Nat) : Bool :=
  machine.terminal.contains state

/-- Inserts a state into a list of states that increases strictly. -/
def insertState (state : Nat) : List Nat → List Nat
  | [] => [state]
  | first :: rest =>
    if state = first then first :: rest
    else if state < first then state :: first :: rest
    else first :: insertState state rest

/-- Makes states terminal. -/
def Machine.withTerminal (states : List Nat) : Machine ρ :=
  { machine with terminal := states.foldr insertState machine.terminal }

/-- Takes the transition for a token that has just been consumed. -/
def Machine.move (state : Nat) (result : ρ) (token : Token) (cursor : Cursor) : Move ρ :=
  match machine.table.select? state token with
  | none => { outcome := .error (.noMatch token.value state), cursor }
  | some (transition, index) =>
    match transition.nextState? with
    | none => { outcome := .error (.noNextState token.value state), cursor }
    | some next =>
      let (reply, moved) := transition.perform token.value result cursor
      { outcome := reply.outcome.map fun result => (next, result)
        cursor := moved
        step? := some
          { state, token, index, label := transition.matcher.label, next, events := reply.events } }

/-- Runs from a state and a result, and takes at most `budget` transitions; nothing if they do not
suffice. -/
def Machine.runFrom (budget state : Nat) (result : ρ) (cursor : Cursor) : Option (Run ρ) :=
  match cursor.next? with
  | none => some { ending := .exhausted state result, cursor }
  | some (token, after) =>
    match budget with
    | 0 => none
    | budget + 1 =>
      let move := machine.move state result token after
      match move.outcome with
      | .error failure =>
        some { ending := .failed failure, cursor := move.cursor, steps := move.step?.toList }
      | .ok (next, result) =>
        if machine.isTerminal next then
          some
            { ending := .terminal next result, cursor := move.cursor, steps := move.step?.toList }
        else
          (Machine.runFrom budget next result move.cursor).map fun run =>
            { run with steps := move.step?.toList ++ run.steps }

/-- Runs over what remains of a cursor, within a budget of transitions. -/
def Machine.run? (budget : Nat) (cursor : Cursor) : Option (Run ρ) :=
  machine.runFrom budget 0 machine.start cursor

/-- The result of a run, or the failure that ended it. -/
def Ending.outcome : Ending ρ → Except Failure ρ
  | .terminal _ result | .exhausted _ result => .ok result
  | .failed failure => .error failure

/-- What is reported at the end of a run. -/
def Ending.events : Ending ρ → List Event
  | .terminal state _ => [.terminalReached state]
  | .exhausted state _ => [.tokensExhausted state]
  | .failed _ => []

/-- What is reported when a transition is taken, before and by its action. -/
def Step.report (step : Step) : List Event :=
  .transitionTaken step.state step.token.value step.index step.label step.next :: step.events

/-- What is reported during a run. -/
def Run.events (run : Run ρ) : List Event :=
  run.steps.flatMap Step.report ++ run.ending.events

/-- A machine none of whose actions gives tokens back. -/
def Machine.Thrifty : Prop :=
  ∀ state, ∀ transition ∈ machine.table.transitions state,
    ∀ action, transition.action = some action → action.Thrifty

/-- A move of a thrifty machine gives no token back. -/
theorem Machine.countRemaining_move_le (thrifty : machine.Thrifty) (state : Nat) (result : ρ)
    (token : Token) (cursor : Cursor) :
    (machine.move state result token cursor).cursor.countRemaining ≤ cursor.countRemaining := by
  unfold Machine.move
  split
  case h_1 => exact Nat.le_refl _
  case h_2 transition index hselect =>
    split
    case h_1 => exact Nat.le_refl _
    case h_2 =>
      exact transition.countRemaining_perform_le
        (thrifty state transition (machine.table.mem_of_select? hselect)) token.value result cursor

/-- A thrifty machine needs no more transitions than there are tokens. -/
theorem Machine.isSome_runFrom (thrifty : machine.Thrifty) (budget state : Nat) (result : ρ)
    (cursor : Cursor) (h : cursor.countRemaining ≤ budget) :
    (machine.runFrom budget state result cursor).isSome := by
  induction budget generalizing state result cursor with
  | zero =>
    have hnone : cursor.next? = none := by
      rw [Cursor.next?_eq_none_iff, Cursor.remaining, List.drop_eq_nil_iff]
      simp only [Cursor.countRemaining, Cursor.length] at h
      omega
    rw [Machine.runFrom, hnone]
    rfl
  | succ budget ih =>
    rw [Machine.runFrom]
    split
    case h_1 => rfl
    case h_2 token after hnext =>
      have hafter : after.countRemaining ≤ budget := by
        have hlt := Cursor.countRemaining_of_next? cursor hnext
        omega
      dsimp only
      split
      case h_1 => rfl
      case h_2 next further _ =>
        split
        case isTrue => rfl
        case isFalse =>
          rw [Option.isSome_map]
          exact ih next further _
            (Nat.le_trans (machine.countRemaining_move_le thrifty state result token after) hafter)

/-- The run of a thrifty machine over what remains of a cursor. -/
def Machine.run (thrifty : machine.Thrifty) (cursor : Cursor) : Run ρ :=
  (machine.run? cursor.countRemaining cursor).get
    (machine.isSome_runFrom thrifty _ 0 machine.start cursor (Nat.le_refl _))

end TableGrammar
