import TableGrammar.Tier

/-!
What a run reports about itself while it goes on.

An event is a cause; its level, the part of the program it belongs to and its wording are read off
it, so that a report can be filtered without looking at text.
-/

namespace TableGrammar

/-- How much detail an event carries. -/
inductive Level where
  | info
  | debug
  | trace
  deriving DecidableEq, Repr

/-- The name of a level. -/
def Level.name : Level → String
  | .info => "INFO"
  | .debug => "DEBUG"
  | .trace => "TRACE"

/-- The least verbosity at which events of a level are shown. -/
def Level.verbosity : Level → Nat
  | .info => 1
  | .debug => 2
  | .trace => 3

/-- Something that happened. -/
inductive Event where
  /-- A grammar was built. -/
  | grammarBuilt (name : String)
  /-- A text was cut into tokens. -/
  | lexed (count : Nat)
  /-- An operator was read inside an expression. -/
  | operatorRead (tier : Tier) (text : String)
  /-- An expression was read to its end. -/
  | expressionBuilt (text : String)
  /-- A machine took a transition. -/
  | transitionTaken (state : Nat) (token : String) (index : Nat) (label : String) (next : Nat)
  /-- A machine stopped because its state is terminal. -/
  | terminalReached (state : Nat)
  /-- A machine stopped because no token was left. -/
  | tokensExhausted (state : Nat)
  /-- The right hand side of an assignment was read. -/
  | rightHandSide (text : String)
  deriving DecidableEq, Repr

/-- The level of an event. -/
def Event.level : Event → Level
  | .grammarBuilt _ => .info
  | .lexed _ | .expressionBuilt _ | .rightHandSide _ => .debug
  | .operatorRead .. | .transitionTaken .. | .terminalReached _ | .tokensExhausted _ => .trace

/-- The part of the program that an event belongs to. -/
def Event.origin : Event → String
  | .grammarBuilt _ => "grammars"
  | .lexed _ => "parser::lexer"
  | .operatorRead .. | .expressionBuilt _ => "parser::expression::climb"
  | .transitionTaken .. | .terminalReached _ | .tokensExhausted _ => "parser::parser"
  | .rightHandSide _ => "grammars::assignment"

/-- The wording of an event. -/
def Event.message : Event → String
  | .grammarBuilt name => s!"building the {name} grammar"
  | .lexed count => s!"lexed {count} tokens"
  | .operatorRead tier text => s!"{tier.name} operator {text}"
  | .expressionBuilt text => s!"built expression {text}"
  | .transitionTaken state token index label next =>
    s!"state {state}: '{token}' matched transition {index} ({label}) to {next}"
  | .terminalReached state => s!"reached terminal state {state}"
  | .tokensExhausted state => s!"ran out of tokens in state {state}"
  | .rightHandSide text => s!"right hand side is {text}"

end TableGrammar
