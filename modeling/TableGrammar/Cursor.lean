import TableGrammar.Token

/-!
A list of tokens and a place in it.

A machine and the expressions it reads share one cursor, so what one of them has consumed the other
does not see. Tokens can be read again by moving back, and new ones can be put in front.
-/

namespace TableGrammar

/-- Tokens, the first `position` of which have been consumed. -/
structure Cursor where
  tokens : List Token
  position : Nat := 0

variable (cursor : Cursor)

/-- The number of tokens, consumed or not. -/
def Cursor.length : Nat :=
  cursor.tokens.length

/-- Are there no tokens at all, consumed or not? -/
def Cursor.isEmpty : Bool :=
  cursor.tokens.isEmpty

/-- The tokens that have not been consumed. -/
def Cursor.remaining : List Token :=
  cursor.tokens.drop cursor.position

/-- The next token, which stays where it is. -/
def Cursor.peek? : Option Token :=
  cursor.tokens[cursor.position]?

/-- Is there a token left to consume? -/
def Cursor.hasNext : Bool :=
  cursor.position < cursor.length

/-- Is there a token to move back over? -/
def Cursor.hasPrevious : Bool :=
  0 < cursor.position

/-- The cursor after `count` more tokens have been consumed. -/
def Cursor.advance (count : Nat) : Cursor :=
  { cursor with position := cursor.position + count }

/-- Consumes the next token. -/
def Cursor.next? : Option (Token × Cursor) :=
  cursor.peek?.map fun token => (token, cursor.advance 1)

/-- Moves back over one token, which becomes the next one. -/
def Cursor.previous? : Option (Token × Cursor) :=
  if cursor.hasPrevious then
    let back := { cursor with position := cursor.position - 1 }
    back.peek?.map fun token => (token, back)
  else
    none

/-- Inserts a token at the cursor, so that it is the next one. -/
def Cursor.pushBack (token : Token) : Cursor :=
  { cursor with
    tokens := cursor.tokens.take cursor.position ++ token :: cursor.tokens.drop cursor.position }

/-- How many tokens are left to consume. -/
def Cursor.countRemaining : Nat :=
  cursor.length - cursor.position

/-- A cursor without a next token has nothing remaining. -/
theorem Cursor.next?_eq_none_iff : cursor.next? = none ↔ cursor.remaining = [] := by
  simp [Cursor.next?, Cursor.peek?, Cursor.remaining]

/-- Consuming a token takes it off the front of what remains. -/
theorem Cursor.remaining_of_next? {token : Token} {after : Cursor}
    (h : cursor.next? = some (token, after)) : cursor.remaining = token :: after.remaining := by
  obtain ⟨found, hfound, hafter⟩ := Option.map_eq_some_iff.mp h
  obtain ⟨rfl, rfl⟩ := Prod.mk.inj hafter
  obtain ⟨hlt, hget⟩ := List.getElem?_eq_some_iff.mp hfound
  simp only [Cursor.remaining, Cursor.advance]
  rw [List.drop_eq_getElem_cons hlt, hget]

/-- Consuming a token leaves one less. -/
theorem Cursor.countRemaining_of_next? {token : Token} {after : Cursor}
    (h : cursor.next? = some (token, after)) :
    cursor.countRemaining = after.countRemaining + 1 := by
  obtain ⟨found, hfound, hafter⟩ := Option.map_eq_some_iff.mp h
  obtain ⟨rfl, rfl⟩ := Prod.mk.inj hafter
  obtain ⟨hlt, -⟩ := List.getElem?_eq_some_iff.mp hfound
  simp only [Cursor.countRemaining, Cursor.length, Cursor.advance]
  omega

end TableGrammar
