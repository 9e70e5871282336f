import TableGrammar.Matcher

/-!
The words and symbols that a grammar lists, and how texts are classified by them.

Registering an entry both adds it to the vocabulary and gives the matcher for it.
-/

namespace TableGrammar

/-- What a grammar can list. -/
inductive Entry where
  /-- A word that is recognised in any case. -/
  | keyword (word : String)
  | operator (text : String)
  | character (c : Char)
  deriving DecidableEq, Repr

/-- The token that an entry stands for. Keywords are written in upper case. -/
def Entry.token : Entry → Token
  | .keyword word => ⟨.keyword, Text.upper word⟩
  | .operator text => ⟨.operator, text⟩
  | .character c => ⟨.character, c.toString⟩

/-- The matcher for the token of an entry. -/
def Entry.matcher (entry : Entry) : Matcher :=
  .exact entry.token

/-- Inserts a text into a list of texts that increases strictly by code points. -/
def Text.insert (text : String) : List String → List String
  | [] => [text]
  | first :: rest =>
    if text == first then first :: rest
    else if text < first then text :: first :: rest
    else first :: Text.insert text rest

/-- The texts of a grammar, each list in increasing order. Keywords are in upper case. -/
structure Vocabulary where
  keywords : List String := []
  operators : List String := []
  characters : List String := []
  deriving Repr

variable (vocabulary : Vocabulary)

/-- Adds an entry. -/
def Vocabulary.register (entry : Entry) : Vocabulary :=
  let value := entry.token.value
  match entry with
  | .keyword _ => { vocabulary with keywords := Text.insert value vocabulary.keywords }
  | .operator _ => { vocabulary with operators := Text.insert value vocabulary.operators }
  | .character _ => { vocabulary with characters := Text.insert value vocabulary.characters }

/-- Adds entries in order. -/
def Vocabulary.registerAll (entries : List Entry) : Vocabulary :=
  entries.foldl Vocabulary.register vocabulary

/-- Has a text been registered as anything? -/
def Vocabulary.contains (text : String) : Bool :=
  vocabulary.keywords.contains (Text.upper text) || vocabulary.operators.contains text
    || vocabulary.characters.contains text

/-- The token for a text: a keyword, else an operator, else a listed character, else a number, else
a string in quotes, else an identifier. -/
def Vocabulary.classify (text : String) : Token :=
  let upper := Text.upper text
  if vocabulary.keywords.contains upper then ⟨.keyword, upper⟩
  else if vocabulary.operators.contains text then ⟨.operator, text⟩
  else if vocabulary.characters.contains text then ⟨.character, text⟩
  else if Text.isNumber text then ⟨.number, text⟩
  else if Text.isWrapped text then ⟨.string, text⟩
  else ⟨.identifier, text⟩

end TableGrammar
