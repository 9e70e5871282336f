import Std.Data.HashSet
import TableGrammar.Text.Ascii

/-!
Tokens: a piece of text together with the kind of thing it was taken for.

Tokens of the exact kinds (keywords, operators, single characters) are compared without regard to
the case of ASCII letters, all others letter by letter. The hash of a token is computed from its
`Token.key`, so that equal tokens have equal hashes.
-/

namespace TableGrammar

/-- What a token was taken for. -/
inductive Kind where
  | keyword
  | operator
  | character
  | identifier
  | number
  | string
  | boolean
  deriving DecidableEq, Hashable, Repr

/-- The name of a kind, as it is shown to people. -/
def Kind.name : Kind → String
  | .keyword => "keyword"
  | .operator => "operator"
  | .character => "character"
  | .identifier => "identifier"
  | .number => "number"
  | .string => "string"
  | .boolean => "boolean"

/-- All kinds. -/
def Kind.all : List Kind :=
  [.keyword, .operator, .character, .identifier, .number, .string, .boolean]

/-- The kind with a given name. -/
def Kind.ofName? (name : String) : Option Kind :=
  Kind.all.find? fun kind => kind.name == name

/-- The exact kinds are those whose tokens a grammar lists one by one. -/
def Kind.isExact : Kind → Bool
  | .keyword | .operator | .character => true
  | .identifier | .number | .string | .boolean => false

/-- A piece of text and its kind. -/
structure Token where
  kind : Kind
  value : String
  deriving Repr

/-- Compares the value of a token with a text by the rule of the token's kind. -/
def Token.valueEq (token : Token) (text : String) : Bool :=
  if token.kind.isExact then Text.alike token.value text else token.value == text

/-- Tokens are equal when their kinds are and their values agree by the rule of that kind. -/
instance : BEq Token where
  beq a b := a.kind == b.kind && a.valueEq b.value

/-- What a token is hashed by: its kind, and its value with the case of exact kinds removed. -/
def Token.key (token : Token) : Kind × String :=
  (token.kind, if token.kind.isExact then Text.upper token.value else token.value)

instance : Hashable Token where
  hash token := hash token.key

/-- For each token, whether it is new to the set of the tokens before it. -/
def Token.novelties (tokens : List Token) : List Bool :=
  go ∅ tokens
where
  go (seen : Std.HashSet Token) : List Token → List Bool
    | [] => []
    | token :: rest => (!seen.contains token) :: go (seen.insert token) rest

/-- Every kind is found under its name. -/
theorem Kind.ofName?_name (kind : Kind) : Kind.ofName? kind.name = some kind := by
  cases kind <;> decide

end TableGrammar
