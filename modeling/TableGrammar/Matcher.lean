import TableGrammar.Regex.Engine
import TableGrammar.Text.Quoted
import TableGrammar.Text.Shape
import TableGrammar.Token

/-!
Matchers decide which tokens are accepted.

A matcher looks at the value of a token only, never at its kind. Two matchers are equal when they
describe the same thing: regular expressions when their sources are equal, exact matchers when their
tokens are.
-/

namespace TableGrammar

/-- The built-in shapes of text. -/
inductive Shape where
  | identifier
  | number
  | integer
  | string
  | boolean
  deriving DecidableEq, Repr

/-- Does a text have the shape? -/
def Shape.fits : Shape → String → Bool
  | .identifier => Text.isIdentifier
  | .number => Text.isNumber
  | .integer => Text.isInteger
  | .string => Text.isClosedString
  | .boolean => Text.isBoolean

/-- How a shape is shown. -/
def Shape.label : Shape → String
  | .identifier => "Identifier"
  | .number => "NumericString"
  | .integer => "NumericString.ANY_INTEGER"
  | .string => "CharString"
  | .boolean => "BooleanString"

/-- Something that accepts or rejects tokens. -/
inductive Matcher where
  /-- Accepts every token. -/
  | any
  /-- Accepts tokens with the value of this one, up to the case of ASCII letters. -/
  | exact (token : Token)
  /-- Accepts tokens whose value has a shape. -/
  | shape (shape : Shape)
  /-- Accepts tokens whose value a regular expression accepts. -/
  | regex (regex : Regex)
  /-- Accepts what any of the members accepts. -/
  | anyOf (members : List Matcher)
  /-- Accepts what another matcher rejects. -/
  | not (inner : Matcher)

mutual

/-- Does the matcher accept a token with this value? -/
def Matcher.acceptsValue (value : String) : Matcher → Bool
  | .any => true
  | .exact token => Text.alike token.value value
  | .shape kind => kind.fits value
  | .regex expression => expression.accepts value
  | .anyOf members => Matcher.anyAcceptsValue value members
  | .not inner => !inner.acceptsValue value

/-- Does any of the matchers accept a token with this value? -/
def Matcher.anyAcceptsValue (value : String) : List Matcher → Bool
  | [] => false
  | matcher :: others => matcher.acceptsValue value || Matcher.anyAcceptsValue value others

end

/-- Does the matcher accept the token? -/
def Matcher.accepts (matcher : Matcher) (token : Token) : Bool :=
  matcher.acceptsValue token.value

mutual

/-- How a matcher is shown in a table. -/
def Matcher.label : Matcher → String
  | .any => "MATCH_ANY"
  | .exact token => token.value
  | .shape kind => kind.label
  | .regex expression => "Regex: " ++ expression.source
  | .anyOf members => "|".intercalate (Matcher.labels members)
  | .not inner => "negated(" ++ inner.label ++ ")"

/-- How each of the matchers is shown. -/
def Matcher.labels : List Matcher → List String
  | [] => []
  | matcher :: others => matcher.label :: Matcher.labels others

end

mutual

/-- Do two matchers describe the same thing? -/
def Matcher.same : Matcher → Matcher → Bool
  | .any, .any => true
  | .exact a, .exact b => a == b
  | .shape a, .shape b => a == b
  | .regex a, .regex b => a.source == b.source
  | .anyOf as, .anyOf bs => Matcher.sameAll as bs
  | .not a, .not b => a.same b
  | _, _ => false

/-- Do two lists of matchers describe the same things, one by one? -/
def Matcher.sameAll : List Matcher → List Matcher → Bool
  | [], [] => true
  | a :: as, b :: bs => a.same b && Matcher.sameAll as bs
  | _, _ => false

end

instance : BEq Matcher where
  beq := Matcher.same

/-- A matcher for tokens whose whole value fits a regular expression; nothing if the expression is
malformed or too large. -/
def Matcher.ofRegex? [Regex.Engine] (source : String) : Option Matcher :=
  (Regex.compile? source).map Matcher.regex

/-- A union accepts what any of its members accepts. -/
theorem Matcher.acceptsValue_anyOf (members : List Matcher) (value : String) :
    (Matcher.anyOf members).acceptsValue value =
      members.any fun member => member.acceptsValue value := by
  rw [Matcher.acceptsValue]
  induction members with
  | nil => rfl
  | cons member members ih => rw [Matcher.anyAcceptsValue, ih, List.any_cons]

end TableGrammar
