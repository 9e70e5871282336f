import TableGrammar.Cursor
import TableGrammar.Event
import TableGrammar.Expression.Fault

/-!
What a transition does to the result of a run.
-/

namespace TableGrammar

/-- What can end a run early. -/
inductive Failure where
  /-- No transition of the state accepts the token. -/
  | noMatch (token : String) (state : Nat)
  /-- The transition that accepts the token leads nowhere. -/
  | noNextState (token : String) (state : Nat)
  /-- An expression is malformed. -/
  | expression (fault : Fault)
  /-- A regular expression is malformed. -/
  | invalidPattern
  deriving DecidableEq, Repr

/-- The wording of a failure. -/
def Failure.message : Failure → String
  | .noMatch token state => s!"no match for token={token} in state={state}"
  | .noNextState token _ => s!"no next state for token {token}"
  | .expression fault => fault.message
  | .invalidPattern => "invalid pattern"

/-- What an action gives back: the new result or a failure, and what it reports. -/
structure Reply (ρ : Type) where
  outcome : Except Failure ρ
  events : List Event := []

/-- What to do with the result when a transition is taken. Every action is given the value of the
accepted token and the result so far. -/
inductive Action (ρ : Type) where
  /-- Changes the result. -/
  | fold (f : String → ρ → ρ)
  /-- Changes the result or fails. -/
  | tryFold (f : String → ρ → Reply ρ)
  /-- Also moves the cursor; the run goes on from where the action leaves it. -/
  | withCursor (f : String → ρ → Cursor → Reply ρ × Cursor)

variable {ρ : Type}

/-- Carries an action out. -/
def Action.apply (action : Action ρ) (value : String) (result : ρ) (cursor : Cursor) :
    Reply ρ × Cursor :=
  match action with
  | .fold f => ({ outcome := .ok (f value result) }, cursor)
  | .tryFold f => (f value result, cursor)
  | .withCursor f => f value result cursor

/-- The name of the kind of an action. -/
def Action.kindName : Action ρ → String
  | .fold _ => "fold"
  | .tryFold _ => "try_fold"
  | .withCursor _ => "with_cursor"

/-- How an action is shown. -/
def Action.text (action : Action ρ) : String :=
  s!"Action({action.kindName})"

/-- An action that never leaves more tokens to consume than it was given. -/
def Action.Thrifty (action : Action ρ) : Prop :=
  ∀ value result cursor,
    (action.apply value result cursor).2.countRemaining ≤ cursor.countRemaining

/-- An action that does not see the cursor is thrifty. -/
theorem Action.thrifty_fold (f : String → ρ → ρ) : (Action.fold f).Thrifty :=
  fun _ _ _ => Nat.le_refl _

/-- An action that may fail but does not see the cursor is thrifty. -/
theorem Action.thrifty_tryFold (f : String → ρ → Reply ρ) : (Action.tryFold f).Thrifty :=
  fun _ _ _ => Nat.le_refl _

end TableGrammar
