import Mathlib.Logic.Function.Iterate
import TableGrammar.Expression.OfTokens

/-!
# A cursor is a zipper

A cursor is one list of tokens with a place in it, and no definition says that the place is in
range. What the calls to a cursor do is simpler to say of two lists, the tokens behind the cursor
and those ahead of it (`Zipper`): moving on takes the first token ahead to the end of those behind,
moving back undoes that, a token that is pushed back comes first among those ahead, and reading an
expression is moving on a number of times.

A zipper has one cursor (`Zipper.cursor`), whose place is in range, and every call does the same to
both (`Zipper.perform_cursor`). A fresh cursor is that of the zipper with nothing behind, so
whatever is called, the place stays in range and no token is lost (`Cursor.performAll_eq_zipper`).
-/

namespace TableGrammar

/-! ### Calls -/

/-- What a cursor can be asked to do. -/
inductive Cursor.Call where
  /-- Consume the next token. -/
  | next
  /-- Show the next token. -/
  | peek
  /-- Move back over one token. -/
  | previous
  /-- Insert a token. -/
  | pushBack (token : Token)
  /-- Read an expression. -/
  | readExpression (operators : Operators String) (stops : List Matcher)

/-- What a call is answered with. -/
inductive Cursor.Answer where
  | token (found : Option Token)
  | done
  | expression (outcome : Except Fault (Expression Token))

/-- The token that is moved over, and the state after it. Where there is none the state stays. -/
def answerMove {σ : Type} (state : σ) : Option (Token × σ) → Cursor.Answer × σ
  | some (token, after) => (.token (some token), after)
  | none => (.token none, state)

/-- Carries out one call. -/
def Cursor.perform (cursor : Cursor) : Cursor.Call → Cursor.Answer × Cursor
  | .next => answerMove cursor cursor.next?
  | .peek => (.token cursor.peek?, cursor)
  | .previous => answerMove cursor cursor.previous?
  | .pushBack token => (.done, cursor.pushBack token)
  | .readExpression operators stops =>
    Prod.map .expression id (cursor.readExpression operators stops)

/-- Carries out calls one after the other, and gathers the answers. -/
def performAll {σ : Type} (perform : σ → Cursor.Call → Cursor.Answer × σ) (state : σ) :
    List Cursor.Call → List Cursor.Answer × σ
  | [] => ([], state)
  | call :: calls =>
    let (answer, after) := perform state call
    let (answers, last) := performAll perform after calls
    (answer :: answers, last)

/-- The token that a call inserts. -/
def Cursor.Call.pushed? : Cursor.Call → Option Token
  | .pushBack token => some token
  | _ => none

/-- The tokens that calls insert, the first to be inserted first. -/
def pushedBack (calls : List Cursor.Call) : List Token :=
  calls.filterMap Cursor.Call.pushed?

/-! ### Zippers -/

/-- The tokens on both sides of a cursor, in their order. -/
structure Zipper where
  behind : List Token
  ahead : List Token

variable (zipper : Zipper)

/-- Moves the first token ahead to the end of those behind. -/
def Zipper.next? : Zipper → Option (Token × Zipper)
  | ⟨_, []⟩ => none
  | ⟨behind, token :: ahead⟩ => some (token, ⟨behind ++ [token], ahead⟩)

/-- Moves the last token behind to the front of those ahead. -/
def Zipper.previous? : Option (Token × Zipper) :=
  zipper.behind.getLast?.map fun token =>
    (token, ⟨zipper.behind.dropLast, token :: zipper.ahead⟩)

/-- Puts a token in front of those ahead. -/
def Zipper.pushBack (token : Token) : Zipper :=
  { zipper with ahead := token :: zipper.ahead }

/-- Moves on by one token, if there is one. -/
def Zipper.moveOn : Zipper :=
  (answerMove zipper zipper.next?).2

/-- Reads an expression off the tokens ahead, and moves on over each token that reading consumes. -/
def Zipper.readExpression (operators : Operators String) (stops : List Matcher) :
    Except Fault (Expression Token) × Zipper :=
  let (outcome, rest) := TableGrammar.readExpression (.ofTokens operators stops) zipper.ahead
  (outcome, Zipper.moveOn^[zipper.ahead.length - rest.length] zipper)

/-- Carries out one call on a zipper. -/
def Zipper.perform : Cursor.Call → Cursor.Answer × Zipper
  | .next => answerMove zipper zipper.next?
  | .peek => (.token zipper.ahead.head?, zipper)
  | .previous => answerMove zipper zipper.previous?
  | .pushBack token => (.done, zipper.pushBack token)
  | .readExpression operators stops =>
    Prod.map .expression id (zipper.readExpression operators stops)

/-! ### The cursor of a zipper -/

/-- The cursor between the tokens behind and those ahead. -/
def Zipper.cursor : Cursor where
  tokens := zipper.behind ++ zipper.ahead
  position := zipper.behind.length

@[simp]
lemma Zipper.take_cursor : zipper.cursor.tokens.take zipper.cursor.position = zipper.behind :=
  List.take_left

@[simp]
lemma Zipper.drop_cursor : zipper.cursor.tokens.drop zipper.cursor.position = zipper.ahead :=
  List.drop_left

lemma Zipper.remaining_cursor : zipper.cursor.remaining = zipper.ahead :=
  zipper.drop_cursor

lemma Zipper.position_cursor_le : zipper.cursor.position ≤ zipper.cursor.length := by
  simp [Zipper.cursor, Cursor.length]

lemma Zipper.peek?_cursor : zipper.cursor.peek? = zipper.ahead.head? := by
  rw [Cursor.peek?, ← List.head?_drop, Zipper.drop_cursor]

lemma Zipper.next?_cursor :
    zipper.cursor.next? = zipper.next?.map (Prod.map id Zipper.cursor) := by
  rw [Cursor.next?, Zipper.peek?_cursor]
  obtain ⟨behind, ahead⟩ := zipper
  cases ahead with
  | nil => rfl
  | cons token ahead => simp [Zipper.next?, Zipper.cursor, Cursor.advance]

lemma Zipper.previous?_cursor :
    zipper.cursor.previous? = zipper.previous?.map (Prod.map id Zipper.cursor) := by
  obtain ⟨behind, ahead⟩ := zipper
  rcases List.eq_nil_or_concat behind with rfl | ⟨earlier, token, rfl⟩
  · rfl
  · simp [Cursor.previous?, Cursor.hasPrevious, Cursor.peek?, Zipper.previous?, Zipper.cursor]

lemma Zipper.pushBack_cursor (token : Token) :
    zipper.cursor.pushBack token = (zipper.pushBack token).cursor := by
  simp [Cursor.pushBack, Zipper.pushBack, Zipper.cursor]

/-- Moving on over tokens that are there is advancing the cursor by their number. -/
lemma Zipper.advance_cursor {count : Nat} (h : count ≤ zipper.ahead.length) :
    zipper.cursor.advance count = (Zipper.moveOn^[count] zipper).cursor := by
  -- the first move leaves a zipper with one token less ahead, for which the rest is known
  induction count generalizing zipper with
  | zero => rfl
  | succ count ih =>
    obtain ⟨behind, ahead⟩ := zipper
    cases ahead with
    | nil => cases h
    | cons token ahead =>
      rw [Function.iterate_succ_apply]
      have hmoved : Zipper.moveOn ⟨behind, token :: ahead⟩ = ⟨behind ++ [token], ahead⟩ := rfl
      rw [hmoved, ← ih _ (Nat.le_of_succ_le_succ h)]
      simp [Zipper.cursor, Cursor.advance, Nat.add_assoc, Nat.add_comm 1 count]

lemma Zipper.readExpression_cursor (operators : Operators String) (stops : List Matcher) :
    zipper.cursor.readExpression operators stops =
      Prod.map id Zipper.cursor (zipper.readExpression operators stops) := by
  simp only [Cursor.readExpression, Zipper.readExpression, Zipper.remaining_cursor]
  rw [Zipper.advance_cursor zipper (Nat.sub_le _ _)]
  rfl

/-- A call does the same to a zipper and to its cursor. -/
lemma Zipper.perform_cursor (call : Cursor.Call) :
    zipper.cursor.perform call = Prod.map id Zipper.cursor (zipper.perform call) := by
  cases call with
  | next =>
    rw [Cursor.perform, Zipper.perform, Zipper.next?_cursor]
    cases zipper.next? <;> rfl
  | peek =>
    rw [Cursor.perform, Zipper.perform, Zipper.peek?_cursor]
    rfl
  | previous =>
    rw [Cursor.perform, Zipper.perform, Zipper.previous?_cursor]
    cases zipper.previous? <;> rfl
  | pushBack token =>
    rw [Cursor.perform, Zipper.perform, Zipper.pushBack_cursor]
    rfl
  | readExpression operators stops =>
    rw [Cursor.perform, Zipper.perform, Zipper.readExpression_cursor]
    rfl

/-- So do any number of calls. -/
lemma Zipper.performAll_cursor (calls : List Cursor.Call) :
    performAll Cursor.perform zipper.cursor calls =
      Prod.map id Zipper.cursor (performAll Zipper.perform zipper calls) := by
  induction calls generalizing zipper with
  | nil => rfl
  | cons call calls ih =>
    simp only [performAll, Zipper.perform_cursor, Prod.map_fst, Prod.map_snd, ih]
    rfl

/-! ### Insertions -/

/-- The last list is the one before it with the further items inserted: it has all items of both,
and those it had before stand in the order they had. -/
structure Inserted {α : Type} (further before after : List α) : Prop where
  keeps : before.Sublist after
  adds : after.Perm (before ++ further)

section

variable {α : Type}

lemma Inserted.refl (items : List α) : Inserted [] items items :=
  ⟨List.Sublist.refl items, by simp⟩

lemma Inserted.between (left right : List α) (item : α) :
    Inserted [item] (left ++ right) (left ++ item :: right) where
  keeps := (List.sublist_cons_self item right).append_left left
  adds := by
    -- the item goes to the end over the items on its right, which stay
    rw [List.append_assoc]
    exact (List.perm_append_singleton item right).symm.append_left left

lemma Inserted.trans {first second before middle after : List α}
    (h : Inserted first before middle) (h' : Inserted second middle after) :
    Inserted (first ++ second) before after where
  keeps := h.keeps.trans h'.keeps
  adds := by
    rw [← List.append_assoc]
    exact h'.adds.trans (h.adds.append_right second)

end

/-- A call loses no token, and inserts none but the one that is pushed back. -/
lemma Cursor.inserted_perform (cursor : Cursor) (call : Cursor.Call) :
    Inserted call.pushed?.toList cursor.tokens (cursor.perform call).2.tokens := by
  cases call with
  | next =>
    rw [Cursor.perform, Cursor.next?]
    cases cursor.peek? <;> exact Inserted.refl cursor.tokens
  | peek => exact Inserted.refl cursor.tokens
  | previous =>
    rw [Cursor.perform, Cursor.previous?]
    split
    · simp only
      cases Cursor.peek? _ <;> exact Inserted.refl cursor.tokens
    · exact Inserted.refl cursor.tokens
  | pushBack token =>
    have hbetween := Inserted.between (cursor.tokens.take cursor.position)
      (cursor.tokens.drop cursor.position) token
    rw [List.take_append_drop] at hbetween
    exact hbetween
  | readExpression operators stops => exact Inserted.refl cursor.tokens

lemma Cursor.inserted_performAll (cursor : Cursor) (calls : List Cursor.Call) :
    Inserted (pushedBack calls) cursor.tokens
      (performAll Cursor.perform cursor calls).2.tokens := by
  induction calls generalizing cursor with
  | nil => exact Inserted.refl cursor.tokens
  | cons call calls ih =>
    have hpushed : pushedBack (call :: calls) = call.pushed?.toList ++ pushedBack calls := by
      cases call <;> rfl
    rw [hpushed]
    exact (cursor.inserted_perform call).trans (ih (cursor.perform call).2)

/-! ### Ranges -/

/-- The items from a place on. There is no place beyond the end of the list. -/
def slice? {α : Type} (items : List α) (place : Nat) : Option (List α) :=
  if place ≤ items.length then some (items.drop place) else none

/-- The list with an item inserted at one of its places. -/
def insertAt? {α : Type} (items : List α) (place : Nat) (item : α) : Option (List α) :=
  if place ≤ items.length then some (items.insertIdx place item) else none

/-- The difference of two sizes, unless it is negative. -/
def difference? (size part : Nat) : Option Nat :=
  if part ≤ size then some (size - part) else none

lemma Zipper.slice?_cursor :
    slice? zipper.cursor.tokens zipper.cursor.position = some zipper.cursor.remaining :=
  if_pos zipper.position_cursor_le

lemma Zipper.insertAt?_cursor (token : Token) :
    insertAt? zipper.cursor.tokens zipper.cursor.position token =
      some (zipper.cursor.pushBack token).tokens := by
  have hinsert : zipper.cursor.tokens.insertIdx zipper.cursor.position token =
      (zipper.pushBack token).cursor.tokens :=
    List.modifyTailIdx_add (List.cons token) 0 zipper.behind zipper.ahead
  rw [Zipper.pushBack_cursor, ← hinsert]
  exact if_pos zipper.position_cursor_le

lemma Zipper.difference?_cursor :
    difference? zipper.cursor.length zipper.cursor.position = some zipper.cursor.countRemaining :=
  if_pos zipper.position_cursor_le

/-! ### Any calls to a fresh cursor -/

/-- Whatever a fresh cursor is asked to do, and in whatever order, its place stays in range. So what
remains can always be sliced off there, a token can be inserted there, and the count of what remains
does not fall below zero. The answers, and the tokens on both sides of the place, are those of the
zipper that starts with all tokens ahead. The tokens are the ones it was made with and those pushed
back, inserted among them, and whatever is called after that only inserts further ones. -/
theorem Cursor.performAll_eq_zipper (tokens : List Token) (calls : List Cursor.Call) :
    let run := performAll Cursor.perform { tokens } calls
    let zipped := performAll Zipper.perform { behind := [], ahead := tokens } calls
    let cursor := run.2
    (cursor.position ≤ cursor.length ∧
        slice? cursor.tokens cursor.position = some cursor.remaining ∧
        (∀ token, insertAt? cursor.tokens cursor.position token =
          some (cursor.pushBack token).tokens) ∧
        difference? cursor.length cursor.position = some cursor.countRemaining) ∧
      (run.1 = zipped.1 ∧
        cursor.tokens.take cursor.position = zipped.2.behind ∧
        cursor.tokens.drop cursor.position = zipped.2.ahead) ∧
      Inserted (pushedBack calls) tokens cursor.tokens ∧
      ∀ further, Inserted (pushedBack further) cursor.tokens
        (performAll Cursor.perform cursor further).2.tokens := by
  intro run zipped cursor
  -- a fresh cursor is, by definition, that of the zipper with nothing behind
  have hrun : run = Prod.map id Zipper.cursor zipped :=
    Zipper.performAll_cursor { behind := [], ahead := tokens } calls
  have hcursor : cursor = zipped.2.cursor := congrArg Prod.snd hrun
  refine ⟨?_, ⟨congrArg Prod.fst hrun, ?_, ?_⟩, ?_, ?_⟩
  · rw [hcursor]
    exact ⟨zipped.2.position_cursor_le, zipped.2.slice?_cursor, zipped.2.insertAt?_cursor,
      zipped.2.difference?_cursor⟩
  · rw [hcursor, Zipper.take_cursor]
  · rw [hcursor, Zipper.drop_cursor]
  · exact Cursor.inserted_performAll { tokens } calls
  · exact Cursor.inserted_performAll cursor

/-- In `a ( b` the group is not closed, and reading it fails at the end of the tokens. -/
example :
    let a : Token := ⟨.identifier, "a"⟩
    let opening : Token := ⟨.character, "("⟩
    let b : Token := ⟨.identifier, "b"⟩
    let x : Token := ⟨.identifier, "x"⟩
    performAll Cursor.perform { tokens := [a, opening, b] }
        [.next, .readExpression Operators.standard [], .next, .previous, .pushBack x, .peek] =
      ([.token (some a), .expression (.error (.unclosedParenthesis endOfInput)), .token none,
          .token (some b), .done, .token (some x)],
        { tokens := [a, opening, x, b], position := 2 }) := by
  cbv

end TableGrammar
