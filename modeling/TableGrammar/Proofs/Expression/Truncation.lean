import Mathlib.Data.List.TakeWhile
import TableGrammar.Proofs.Expression.Correspondence

/-!
# Stops cut the items off

An item that ends expressions, and closes no group, acts like the end of the items. Reading up to it
and reading just the items before it, with nothing that ends expressions, give the same outcome and
leave the same items in front of it (`readExpression_append`). The one difference is a group that is
not closed where the items before the stop run out: there the stop itself is named. For expressions
that are read off a cursor this is `Cursor.readExpression_eq_cut`.
-/

namespace TableGrammar

variable {α : Type} {roles : Roles α}

/-- The same roles, with nothing that ends an expression. -/
def Roles.unstopped (roles : Roles α) : Roles α :=
  { roles with isStop := fun _ => false }

/-- The items cut off what stands before them: there are none, or the first of them ends expressions
and closes no group. -/
def Roles.CutsOff (roles : Roles α) (rest : List α) : Prop :=
  ∀ item ∈ rest.head?, roles.isStop item = true ∧ roles.isClose item = false

/-- The outcome of reading if other items follow that cut off the ones read, given the outcome
without them and what is left then. It is the same, except that a group that is not closed where no
item is left names the first of those that follow. -/
def Roles.outcomeBefore {γ : Type} (roles : Roles α) (rest : List α) (outcome : Except Fault γ)
    (left : List α) : Except Fault γ :=
  match outcome, left, rest with
  | .error (.unclosedParenthesis _), [], item :: _ =>
    .error (.unclosedParenthesis (roles.text item))
  | outcome, _, _ => outcome

lemma Roles.outcomeBefore_nil {γ : Type} (roles : Roles α) (outcome : Except Fault γ)
    (left : List α) : roles.outcomeBefore [] outcome left = outcome := by
  simp [Roles.outcomeBefore]

lemma Roles.outcomeBefore_cons {γ : Type} (roles : Roles α) (rest : List α)
    (outcome : Except Fault γ) (item : α) (left : List α) :
    roles.outcomeBefore rest outcome (item :: left) = outcome := by
  simp [Roles.outcomeBefore]

lemma Roles.outcomeBefore_ok {γ : Type} (roles : Roles α) (rest : List α) (result : γ)
    (left : List α) : roles.outcomeBefore rest (.ok result) left = .ok result := rfl

lemma Roles.outcomeBefore_map {γ δ : Type} (roles : Roles α) (rest : List α) (f : γ → δ)
    (outcome : Except Fault γ) (left : List α) :
    roles.outcomeBefore rest (outcome.map f) left =
      (roles.outcomeBefore rest outcome left).map f := by
  cases outcome with
  | ok result => rw [Roles.outcomeBefore_ok, Except.map, Roles.outcomeBefore_ok]
  | error fault => cases fault <;> cases left <;> cases rest <;> rfl

/-! ### One item -/

/-- The item plays the same part in both roles where an operand is due, and has the same text. -/
structure Roles.Agree (roles roles' : Roles α) (item : α) : Prop where
  isStop : roles.isStop item = roles'.isStop item
  isOpen : roles.isOpen item = roles'.isOpen item
  isClose : roles.isClose item = roles'.isClose item
  text : roles.text item = roles'.text item

/-- Where an operator is due the tier counts, too. -/
lemma Roles.Agree.read {roles' : Roles α} {item : α} (h : roles.Agree roles' item)
    (reading : Reading α)
    (htier : ∀ last, reading.due = .operator last → roles.tier? item = roles'.tier? item) :
    reading.read roles item = reading.read roles' item := by
  unfold Reading.read
  split
  case h_1 after hdue => simp only [Reading.readOperand, h.isStop, h.isOpen, h.isClose, h.text]
  case h_2 last hdue => simp only [Reading.readOperator, htier last hdue, h.isClose, h.text]

lemma Reading.read_unstopped {item : α} (h : roles.isStop item = false) (reading : Reading α) :
    reading.read roles.unstopped item = reading.read roles item := by
  have hagree : roles.unstopped.Agree roles item := ⟨h.symm, rfl, rfl, rfl⟩
  refine hagree.read reading ?_
  intro last hdue
  simp [Roles.tier?, Roles.unstopped, h]

/-- Before a stop reading ends as it would at the end of the items. -/
lemma Reading.read_stop {stop : α} (hstop : roles.isStop stop = true)
    (hclose : roles.isClose stop = false) (reading : Reading α) (rest : List α) :
    reading.read roles stop = .before (roles.outcomeBefore (stop :: rest) reading.atEnd []) := by
  obtain ⟨due, waiting, outer⟩ := reading
  cases due with
  | operand after => simp [Reading.read, Reading.readOperand, hstop, Reading.atEnd,
      Roles.outcomeBefore]
  | operator last =>
    have htier : roles.tier? stop = none := by simp [Roles.tier?, hstop]
    cases outer with
    | nil => simp [Reading.read, Reading.readOperator, htier, Reading.atEnd, Roles.outcomeBefore]
    | cons around outer => simp [Reading.read, Reading.readOperator, htier, hclose, Reading.atEnd,
        Roles.outcomeBefore]

/-- A fault that is found only after an item has been consumed is that of nesting too deeply. -/
lemma Reading.eq_depthExceeded_of_read {reading : Reading α} {item : α} {fault : Fault}
    (h : reading.read roles item = .after fault) : fault = .depthExceeded := by
  unfold Reading.read at h
  split at h
  case h_1 after hdue =>
    simp only [Reading.readOperand] at h
    split_ifs at h
    cases h
    rfl
  case h_2 last hdue =>
    simp only [Reading.readOperator] at h
    split at h
    · cases h
    · split at h
      · cases h
      · split_ifs at h

/-! ### All items -/

/-- Reading up to a stop is reading the items before it, with nothing that ends expressions. -/
lemma Reading.readAll_append {items rest : List α}
    (hitems : ∀ item ∈ items, roles.isStop item = false) (hrest : roles.CutsOff rest)
    (reading : Reading α) :
    reading.readAll roles (items ++ rest) =
      (roles.outcomeBefore rest (reading.readAll roles.unstopped items).1
          (reading.readAll roles.unstopped items).2,
        (reading.readAll roles.unstopped items).2 ++ rest) := by
  induction items generalizing reading with
  | nil =>
    cases rest with
    | nil => simp [Reading.readAll, Roles.outcomeBefore_nil]
    | cons stop rest =>
      obtain ⟨hstop, hclose⟩ := hrest stop rfl
      simp [Reading.readAll, reading.read_stop hstop hclose rest]
  | cons item items ih =>
    rw [List.forall_mem_cons] at hitems
    rw [List.cons_append, Reading.readAll, Reading.readAll, Reading.read_unstopped hitems.1]
    cases hread : reading.read roles item with
    | next further => exact ih hitems.2 further
    | before outcome => simp [Roles.outcomeBefore_cons]
    | after fault =>
      -- the item may be the last one, but nesting too deeply is reported alike everywhere
      rw [Reading.eq_depthExceeded_of_read hread]
      rfl

/-- A group that is not closed when no item is left lacks its end there, and nowhere before. -/
lemma Reading.eq_endOfInput_of_readAll {reading : Reading α} {items : List α} {found : String}
    (h : reading.readAll roles items = (.error (.unclosedParenthesis found), [])) :
    found = endOfInput := by
  induction items generalizing reading with
  | nil =>
    obtain ⟨due, waiting, outer⟩ := reading
    cases due with
    | operand after => cases h
    | operator last =>
      cases outer with
      | nil => cases h
      | cons around outer =>
        cases h
        rfl
  | cons item items ih =>
    rw [Reading.readAll] at h
    cases hread : reading.read roles item with
    | next further =>
      rw [hread] at h
      exact ih h
    | before outcome =>
      rw [hread] at h
      cases h
    | after fault =>
      rw [hread, Reading.eq_depthExceeded_of_read hread] at h
      cases h

/-- Reading an expression up to a stop is reading the items before it, with nothing that ends
expressions. -/
lemma readExpression_append {items rest : List α}
    (hitems : ∀ item ∈ items, roles.isStop item = false) (hrest : roles.CutsOff rest) :
    readExpression roles (items ++ rest) =
      (roles.outcomeBefore rest (readExpression roles.unstopped items).1
          (readExpression roles.unstopped items).2,
        (readExpression roles.unstopped items).2 ++ rest) := by
  cases items with
  | nil =>
    cases rest with
    | nil => rfl
    | cons stop rest =>
      rw [List.nil_append, readExpression_cons_of_stop roles rest (hrest stop rfl).1]
      rfl
  | cons first items =>
    rw [List.cons_append, readExpression_cons roles _ (hitems first List.mem_cons_self),
      readExpression_cons roles.unstopped items rfl, ← List.cons_append,
      Reading.readAll_append hitems hrest]
    simp only [Prod.map, id, Roles.outcomeBefore_map]

lemma eq_endOfInput_of_readExpression {items : List α} {found : String}
    (h : readExpression roles items = (.error (.unclosedParenthesis found), [])) :
    found = endOfInput := by
  cases items with
  | nil => cases h
  | cons first items =>
    cases hstop : roles.isStop first with
    | true =>
      rw [readExpression_cons_of_stop roles items hstop] at h
      cases h
    | false =>
      rw [readExpression_cons roles items hstop] at h
      cases hread : Reading.readAll roles { due := .operand endOfInput } (first :: items) with
      | mk outcome left =>
        rw [hread] at h
        cases outcome with
        | ok tree => cases h
        | error fault =>
          cases h
          exact Reading.eq_endOfInput_of_readAll hread

/-! ### Expressions on a cursor -/

/-- A cursor whose tokens end behind some of those ahead has these ahead. -/
lemma Cursor.remaining_of_prefix {cursor : Cursor} {ahead : List Token}
    (h : ahead <+: cursor.remaining) :
    Cursor.remaining { cursor with tokens := cursor.tokens.take cursor.position ++ ahead } =
      ahead := by
  simp only [Cursor.remaining] at h ⊢
  rw [List.drop_append, List.drop_take_self, List.nil_append, List.length_take]
  by_cases hposition : cursor.position ≤ cursor.tokens.length
  · simp [hposition]
  · rw [List.drop_eq_nil_of_le (by omega), List.prefix_nil] at h
    simp [h]

/-- Reading an expression moves the cursor over what has been consumed. -/
lemma Cursor.position_readExpression {operators : Operators String} {stops : List Matcher}
    {cursor : Cursor} {consumed : List Token}
    (h : cursor.remaining = consumed ++ (cursor.readExpression operators stops).2.remaining) :
    (cursor.readExpression operators stops).2.position = cursor.position + consumed.length := by
  rw [Cursor.remaining_readExpression] at h
  have hlength := congrArg List.length h
  rw [List.length_append] at hlength
  simp only [Cursor.readExpression, Cursor.advance]
  omega

/-- Reading an expression off a cursor, up to the first stop ahead, is reading it off the tokens up
to that stop with nothing to stop at, as long as no stop closes a group. The outcome is the same,
except that a group that is not closed at the stop names it. Of the tokens ahead of the stop as many
are consumed, and neither the stop nor anything behind it is. -/
theorem Cursor.readExpression_eq_cut (operators : Operators String) (stops : List Matcher)
    (cursor : Cursor)
    (h : ∀ token ∈ cursor.remaining, token.value = ")" →
      ∀ stop ∈ stops, stop.accepts token = false) :
    let goesOn := fun token : Token => !stops.any fun stop => stop.accepts token
    let ahead := cursor.remaining.takeWhile goesOn
    let behind := cursor.remaining.dropWhile goesOn
    let cut : Cursor := { cursor with tokens := cursor.tokens.take cursor.position ++ ahead }
    let stopped := cursor.readExpression operators stops
    let unstopped := cut.readExpression operators []
    stopped.1 = (Roles.ofTokens operators stops).outcomeBefore behind unstopped.1
        unstopped.2.remaining ∧
      (∀ found, unstopped.1 = .error (.unclosedParenthesis found) →
        unstopped.2.remaining = [] → found = endOfInput) ∧
      stopped.2.tokens = cursor.tokens ∧ stopped.2.position = unstopped.2.position ∧
      ∃ consumed, ahead = consumed ++ unstopped.2.remaining ∧
        stopped.2.position = cursor.position + consumed.length ∧
        stopped.2.remaining = unstopped.2.remaining ++ behind := by
  intro goesOn ahead behind cut stopped unstopped
  have hsplit : cursor.remaining = ahead ++ behind := List.takeWhile_append_dropWhile.symm
  have hcut : cut.remaining = ahead := Cursor.remaining_of_prefix (List.takeWhile_prefix goesOn)
  have hahead : ∀ token ∈ ahead, (Roles.ofTokens operators stops).isStop token = false := by
    intro token htoken
    simpa [goesOn, Roles.ofTokens] using List.mem_takeWhile_imp htoken
  -- what is behind begins with a stop, and by assumption a stop does not close a group
  have hbehind : (Roles.ofTokens operators stops).CutsOff behind := by
    intro token htoken
    have hstop : (Roles.ofTokens operators stops).isStop token = true := by
      have hhead := List.head?_dropWhile_not goesOn cursor.remaining
      rw [Option.mem_def.mp htoken] at hhead
      simpa [goesOn, Roles.ofTokens] using hhead
    refine ⟨hstop, ?_⟩
    by_contra hclose
    obtain ⟨stop, hmem, haccepts⟩ := List.any_eq_true.mp hstop
    have hremaining : token ∈ cursor.remaining := by
      rw [hsplit]
      exact List.mem_append_right ahead (List.mem_of_mem_head? htoken)
    have hvalue : token.value = ")" := by simpa [Roles.ofTokens] using hclose
    rw [h token hremaining hvalue stop hmem] at haccepts
    cases haccepts
  have hread : TableGrammar.readExpression (Roles.ofTokens operators stops) cursor.remaining =
      ((Roles.ofTokens operators stops).outcomeBefore behind unstopped.1 unstopped.2.remaining,
        unstopped.2.remaining ++ behind) := by
    rw [hsplit, readExpression_append hahead hbehind, Cursor.remaining_readExpression, ← hcut]
    rfl
  -- both cursors move over the same tokens: those that the cut reading consumes of what is ahead
  obtain ⟨consumed, hconsumed⟩ : unstopped.2.remaining <:+ ahead := by
    rw [Cursor.remaining_readExpression, ← hcut]
    exact readExpression_suffix _ _
  have hremaining : stopped.2.remaining = unstopped.2.remaining ++ behind := by
    rw [Cursor.remaining_readExpression, hread]
  have hstopped : stopped.2.position = cursor.position + consumed.length := by
    refine Cursor.position_readExpression ?_
    rw [hremaining, hsplit, ← hconsumed, List.append_assoc]
  have hunstopped : unstopped.2.position = cursor.position + consumed.length :=
    Cursor.position_readExpression (hcut.trans hconsumed.symm)
  refine ⟨congrArg Prod.fst hread, ?_, rfl, hstopped.trans hunstopped.symm, consumed,
    hconsumed.symm, hstopped, hremaining⟩
  intro found hfound hleft
  rw [Cursor.remaining_readExpression] at hleft
  exact eq_endOfInput_of_readExpression (Prod.ext hfound hleft)

/-- In `x = ( a ; b` the group is not closed at the semicolon. Without a stop, and without what
stands behind it, the group is not closed at the end of the input. -/
theorem Cursor.readExpression_eq_cut_unclosed :
    let semicolon : Matcher := .exact ⟨.character, ";"⟩
    let cursor : Cursor :=
      { tokens := [⟨.identifier, "x"⟩, ⟨.character, "="⟩, ⟨.character, "("⟩, ⟨.identifier, "a"⟩,
          ⟨.character, ";"⟩, ⟨.identifier, "b"⟩]
        position := 2 }
    let cut : Cursor :=
      { tokens := [⟨.identifier, "x"⟩, ⟨.character, "="⟩, ⟨.character, "("⟩, ⟨.identifier, "a"⟩]
        position := 2 }
    (∀ token ∈ cursor.remaining, token.value = ")" →
        ∀ stop ∈ [semicolon], stop.accepts token = false) ∧
      (cut.readExpression Operators.standard []).1 =
        .error (.unclosedParenthesis endOfInput) ∧
      (cursor.readExpression Operators.standard [semicolon]).1 =
        .error (.unclosedParenthesis ";") ∧
      (cursor.readExpression Operators.standard [semicolon]).2.position = 4 := by
  intro semicolon cursor cut
  have hclose : ∀ token ∈ cursor.remaining, token.value = ")" →
      ∀ stop ∈ [semicolon], stop.accepts token = false := by
    decide
  have hcut : cut.readExpression Operators.standard [] =
      (.error (.unclosedParenthesis endOfInput), { cut with position := 4 }) :=
    (Cursor.readExpression_cons rfl rfl).trans rfl
  obtain ⟨houtcome, -, -, hposition, -⟩ :=
    Cursor.readExpression_eq_cut Operators.standard [semicolon] cursor hclose
  change _ = Roles.outcomeBefore _ _ (cut.readExpression Operators.standard []).1
    (cut.readExpression Operators.standard []).2.remaining at houtcome
  change _ = (cut.readExpression Operators.standard []).2.position at hposition
  rw [hcut] at houtcome hposition
  exact ⟨hclose, congrArg Prod.fst hcut, houtcome, hposition⟩

end TableGrammar
