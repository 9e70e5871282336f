import Mathlib
import TableGrammar.Grammar.Assignment
import TableGrammar.Proofs.Machine.Runs

/-!
# Runs see only what is ahead

A cursor knows the tokens that have been consumed, and could be moved back over them. A machine
whose actions do nothing with the cursor but read expressions off it never finds out about them: let
a cursor have consumed further tokens (`Cursor.behind`), and every move, and so every run, is the
same but for the place where it leaves the cursor (`Machine.ReadsOnly.run_behind`).

What such an action does is given by a `Strategy`. It may read as many expressions as it likes, and
choose the operators and the stops of each by what it has read before.
-/

namespace TableGrammar

variable {ρ : Type}

/-! ### Actions that only read expressions -/

/-- What reading an expression shows: the expression or the fault, and what was reported. -/
structure Observation where
  outcome : Except Fault (Expression Token)
  events : List Event

/-- What reading an expression off a cursor shows. -/
def Cursor.observe (cursor : Cursor) (operators : Operators String) (stops : List Matcher) :
    Observation where
  outcome := (cursor.readExpression operators stops).1
  events := cursor.readingEvents operators stops

/-- What an action does next. -/
inductive Decision (ρ : Type) where
  /-- Reads an expression. -/
  | read (operators : Operators String) (stops : List Matcher)
  /-- Ends, with this reply. -/
  | finish (reply : Reply ρ)

/-- A way to act that decides by nothing but the expressions read so far. -/
def Strategy (ρ : Type) : Type :=
  List Observation → Decision ρ

/-- Having `seen` these expressions, the strategy comes from the first cursor to the reply, and
leaves the second cursor. -/
inductive Strategy.Leads (strategy : Strategy ρ) :
    List Observation → Cursor → Reply ρ → Cursor → Prop where
  | finish {seen : List Observation} {cursor : Cursor} {reply : Reply ρ}
      (hdecision : strategy seen = .finish reply) :
      Leads strategy seen cursor reply cursor
  | read {seen : List Observation} {cursor after : Cursor} {reply : Reply ρ}
      {operators : Operators String} {stops : List Matcher}
      (hdecision : strategy seen = .read operators stops)
      (h : Leads strategy (seen ++ [cursor.observe operators stops])
        (cursor.readExpression operators stops).2 reply after) :
      Leads strategy seen cursor reply after

/-- An action that does nothing with the cursor but read expressions off it. -/
def Action.ReadsOnly : Action ρ → Prop
  | .fold _ | .tryFold _ => True
  | .withCursor f => ∃ strategy : String → ρ → Strategy ρ, ∀ value result cursor,
      (strategy value result).Leads [] cursor (f value result cursor).1 (f value result cursor).2

/-- A machine all of whose actions do nothing with the cursor but read expressions off it. -/
def Machine.ReadsOnly (machine : Machine ρ) : Prop :=
  ∀ state, ∀ transition ∈ machine.table.transitions state,
    ∀ action, transition.action = some action → action.ReadsOnly

/-- A strategy leads to one reply and one cursor. -/
lemma Strategy.Leads.unique {strategy : Strategy ρ} {seen : List Observation}
    {cursor after after' : Cursor} {reply reply' : Reply ρ}
    (h : strategy.Leads seen cursor reply after) (h' : strategy.Leads seen cursor reply' after') :
    reply' = reply ∧ after' = after := by
  induction h with
  | finish hdecision =>
    cases h' with
    | finish hdecision' =>
      obtain rfl := Decision.finish.inj (hdecision'.symm.trans hdecision)
      exact ⟨rfl, rfl⟩
    | read hdecision' =>
      rw [hdecision] at hdecision'
      cases hdecision'
  | read hdecision h ih =>
    cases h' with
    | finish hdecision' =>
      rw [hdecision] at hdecision'
      cases hdecision'
    | read hdecision' h' =>
      obtain ⟨rfl, rfl⟩ := Decision.read.inj (hdecision'.symm.trans hdecision)
      exact ih h'

lemma Cursor.tokens_of_next? {cursor after : Cursor} {token : Token}
    (h : cursor.next? = some (token, after)) : after.tokens = cursor.tokens := by
  obtain ⟨_, -, hafter⟩ := Option.map_eq_some_iff.mp h
  rw [← (Prod.mk.inj hafter).2, Cursor.advance]

lemma Strategy.Leads.tokens_eq {strategy : Strategy ρ} {seen : List Observation}
    {cursor after : Cursor} {reply : Reply ρ} (h : strategy.Leads seen cursor reply after) :
    after.tokens = cursor.tokens := by
  induction h with
  | finish => rfl
  | read _ _ ih => exact ih

lemma Strategy.Leads.countRemaining_le {strategy : Strategy ρ} {seen : List Observation}
    {cursor after : Cursor} {reply : Reply ρ} (h : strategy.Leads seen cursor reply after) :
    after.countRemaining ≤ cursor.countRemaining := by
  induction h with
  | finish => exact Nat.le_refl _
  | @read _ cursor _ _ operators stops _ _ ih =>
    exact Nat.le_trans ih (cursor.countRemaining_readExpression_le operators stops)

/-- Reading expressions gives no token back. -/
lemma Machine.ReadsOnly.thrifty {machine : Machine ρ} (h : machine.ReadsOnly) :
    machine.Thrifty := by
  intro state transition hmem action haction
  have hreads := h state transition hmem action haction
  cases action with
  | fold f => exact Action.thrifty_fold f
  | tryFold f => exact Action.thrifty_tryFold f
  | withCursor f =>
    obtain ⟨strategy, hleads⟩ := hreads
    intro value result cursor
    exact (hleads value result cursor).countRemaining_le

/-! ### A cursor behind further tokens -/

/-- The cursor behind further tokens, which come first and have been consumed. -/
def Cursor.behind (cursor : Cursor) (before : List Token) : Cursor where
  tokens := before ++ cursor.tokens
  position := before.length + cursor.position

section

variable (cursor : Cursor) (before : List Token)

@[simp]
lemma Cursor.remaining_behind : (cursor.behind before).remaining = cursor.remaining := by
  simp [Cursor.behind, Cursor.remaining, List.drop_append]

@[simp]
lemma Cursor.countRemaining_behind :
    (cursor.behind before).countRemaining = cursor.countRemaining := by
  simp only [Cursor.behind, Cursor.countRemaining, Cursor.length, List.length_append]
  omega

@[simp]
lemma Cursor.advance_behind (count : Nat) :
    (cursor.behind before).advance count = (cursor.advance count).behind before := by
  simp [Cursor.behind, Cursor.advance, Nat.add_assoc]

lemma Cursor.next?_behind :
    (cursor.behind before).next? =
      cursor.next?.map fun (token, after) => (token, after.behind before) := by
  have hpeek : (cursor.behind before).peek? = cursor.peek? := by
    simp [Cursor.behind, Cursor.peek?, List.getElem?_append_right]
  simp only [Cursor.next?, hpeek, Cursor.advance_behind, Option.map_map]
  rfl

lemma Cursor.readExpression_behind (operators : Operators String) (stops : List Matcher) :
    (cursor.behind before).readExpression operators stops =
      ((cursor.readExpression operators stops).1,
        (cursor.readExpression operators stops).2.behind before) := by
  simp [Cursor.readExpression]

lemma Cursor.observe_behind (operators : Operators String) (stops : List Matcher) :
    (cursor.behind before).observe operators stops = cursor.observe operators stops := by
  simp [Cursor.observe, Cursor.readingEvents, Cursor.readExpression_behind]

end

/-! ### Actions and moves behind further tokens -/

lemma Strategy.Leads.behind {strategy : Strategy ρ} {seen : List Observation}
    {cursor after : Cursor} {reply : Reply ρ} (h : strategy.Leads seen cursor reply after)
    (before : List Token) :
    strategy.Leads seen (cursor.behind before) reply (after.behind before) := by
  induction h with
  | finish hdecision => exact .finish hdecision
  | read hdecision h ih =>
    refine .read hdecision ?_
    rw [Cursor.observe_behind, Cursor.readExpression_behind]
    exact ih

lemma Action.ReadsOnly.apply_behind {action : Action ρ} (h : action.ReadsOnly) (value : String)
    (result : ρ) (cursor : Cursor) (before : List Token) :
    action.apply value result (cursor.behind before) =
      ((action.apply value result cursor).1,
        (action.apply value result cursor).2.behind before) := by
  cases action with
  | fold f => rfl
  | tryFold f => rfl
  | withCursor f =>
    obtain ⟨strategy, hleads⟩ := h
    -- The strategy that describes the action is the same from both cursors.
    obtain ⟨hreply, hafter⟩ := ((hleads value result cursor).behind before).unique
      (hleads value result (cursor.behind before))
    exact Prod.ext hreply hafter

lemma Action.ReadsOnly.tokens_apply {action : Action ρ} (h : action.ReadsOnly) (value : String)
    (result : ρ) (cursor : Cursor) :
    (action.apply value result cursor).2.tokens = cursor.tokens := by
  cases action with
  | fold f => rfl
  | tryFold f => rfl
  | withCursor f =>
    obtain ⟨strategy, hleads⟩ := h
    exact (hleads value result cursor).tokens_eq

section

variable {transition : Transition ρ}
  (h : ∀ action, transition.action = some action → action.ReadsOnly)
include h

lemma Transition.perform_behind (value : String) (result : ρ) (cursor : Cursor)
    (before : List Token) :
    transition.perform value result (cursor.behind before) =
      ((transition.perform value result cursor).1,
        (transition.perform value result cursor).2.behind before) := by
  cases haction : transition.action with
  | none => simp only [Transition.perform, haction]
  | some action => simp only [Transition.perform, haction, (h action haction).apply_behind]

lemma Transition.tokens_perform (value : String) (result : ρ) (cursor : Cursor) :
    (transition.perform value result cursor).2.tokens = cursor.tokens := by
  cases haction : transition.action with
  | none => simp only [Transition.perform, haction]
  | some action => simp only [Transition.perform, haction, (h action haction).tokens_apply]

end

/-- The move with its cursor behind further tokens. -/
def Move.behind (move : Move ρ) (before : List Token) : Move ρ :=
  { move with cursor := move.cursor.behind before }

/-- The run with its cursor behind further tokens. -/
def Run.behind (run : Run ρ) (before : List Token) : Run ρ :=
  { run with cursor := run.cursor.behind before }

section

variable {machine : Machine ρ} (h : machine.ReadsOnly)
include h

/-- What has been consumed makes no difference to a move, and stays consumed. -/
lemma Machine.ReadsOnly.move_behind (state : Nat) (result : ρ) (token : Token) (cursor : Cursor)
    (before : List Token) :
    machine.move state result token (cursor.behind before) =
      (machine.move state result token cursor).behind before := by
  cases hselect : machine.table.select? state token with
  | none => simp only [Machine.move, Move.behind, hselect]
  | some selected =>
    obtain ⟨transition, index⟩ := selected
    cases hnext : transition.nextState? with
    | none => simp only [Machine.move, Move.behind, hselect, hnext]
    | some next =>
      have hreads := h state transition (machine.table.mem_of_select? hselect)
      simp only [Machine.move, Move.behind, hselect, hnext, Transition.perform_behind hreads]

lemma Machine.ReadsOnly.tokens_move (state : Nat) (result : ρ) (token : Token) (cursor : Cursor) :
    (machine.move state result token cursor).cursor.tokens = cursor.tokens := by
  obtain ⟨-, hmove⟩ | ⟨transition, index, hselect, ⟨-, hmove⟩ | ⟨next, -, hmove⟩⟩ :=
    machine.move_cases state result token cursor
  · rw [hmove]
  · rw [hmove]
  · rw [hmove]
    have hreads := h state transition (machine.table.mem_of_select? hselect)
    exact Transition.tokens_perform hreads token.value result cursor

/-! ### Runs behind further tokens -/

/-- Within any budget, a run from behind further tokens is the run without them, moved on. -/
lemma Machine.ReadsOnly.runFrom_behind (budget state : Nat) (result : ρ) (cursor : Cursor)
    (before : List Token) :
    machine.runFrom budget state result (cursor.behind before) =
      (machine.runFrom budget state result cursor).map fun run => run.behind before := by
  induction budget generalizing state result cursor with
  | zero =>
    rw [Machine.runFrom, Machine.runFrom, Cursor.next?_behind]
    cases cursor.next? <;> rfl
  | succ budget ih =>
    rw [Machine.runFrom, Machine.runFrom, Cursor.next?_behind]
    cases cursor.next? with
    | none => rfl
    | some taken =>
      obtain ⟨token, after⟩ := taken
      simp only [Option.map_some, h.move_behind]
      simp only [Move.behind]
      cases (machine.move state result token after).outcome with
      | error failure => rfl
      | ok reached =>
        obtain ⟨next, further⟩ := reached
        by_cases hterminal : machine.isTerminal next = true
        · simp only [if_pos hterminal]
          rfl
        · simp only [if_neg hterminal, ih, Option.map_map]
          rfl

lemma Machine.ReadsOnly.tokens_runFrom {budget state : Nat} {result : ρ} {cursor : Cursor}
    {run : Run ρ} (hrun : machine.runFrom budget state result cursor = some run) :
    run.cursor.tokens = cursor.tokens := by
  fun_induction Machine.runFrom machine budget state result cursor generalizing run with
  | case1 =>
    cases hrun
    rfl
  | case2 => cases hrun
  | case3 state result cursor token after hnext =>
    cases hrun
    exact (h.tokens_move state result token after).trans (Cursor.tokens_of_next? hnext)
  | case4 state result cursor token after hnext =>
    cases hrun
    exact (h.tokens_move state result token after).trans (Cursor.tokens_of_next? hnext)
  | case5 state result cursor token after hnext budget move =>
    rename_i ih
    obtain ⟨later, hlater, rfl⟩ := Option.map_eq_some_iff.mp hrun
    calc later.cursor.tokens
        = move.cursor.tokens := ih hlater
      _ = after.tokens := h.tokens_move state result token after
      _ = cursor.tokens := Cursor.tokens_of_next? hnext

lemma Machine.ReadsOnly.run_behind (cursor : Cursor) (before : List Token) :
    machine.run h.thrifty (cursor.behind before) =
      (machine.run h.thrifty cursor).behind before := by
  -- as many tokens remain from behind further ones, so both runs have the same budget
  have hrun : machine.run? cursor.countRemaining cursor = some (machine.run h.thrifty cursor) :=
    (Option.some_get _).symm
  apply Option.some.inj
  calc some (machine.run h.thrifty (cursor.behind before))
      = machine.run? (cursor.behind before).countRemaining (cursor.behind before) :=
        Option.some_get _
    _ = (machine.run? cursor.countRemaining cursor).map fun run => run.behind before := by
        rw [Cursor.countRemaining_behind, Machine.run?, h.runFrom_behind, Machine.run?]
    _ = some ((machine.run h.thrifty cursor).behind before) := by
        rw [hrun, Option.map_some]

lemma Machine.ReadsOnly.tokens_run (cursor : Cursor) :
    (machine.run h.thrifty cursor).cursor.tokens = cursor.tokens :=
  h.tokens_runFrom (Option.some_get _).symm

end

/-! ### Assignments -/

/-- What is done about the right hand side of an assignment: one expression is read. -/
def Assignment.strategy (assignment : Assignment) : Strategy Assignment
  | [] => .read Operators.standard [Assignment.semicolon]
  | ⟨.error fault, events⟩ :: _ => .finish { outcome := .error (.expression fault), events }
  | ⟨.ok expression, events⟩ :: _ => .finish
      { outcome := .ok { assignment with expression }
        events := events ++ [.rightHandSide (Expression.text Token.value expression)] }

lemma Assignment.readRightHandSide_readsOnly : Assignment.readRightHandSide.ReadsOnly := by
  refine ⟨fun _ assignment => assignment.strategy, ?_⟩
  intro value assignment cursor
  refine .read rfl (.finish ?_)
  cases hread : (cursor.readExpression Operators.standard [Assignment.semicolon]).1 with
  | error fault => simp [Cursor.observe, Assignment.strategy, hread]
  | ok expression => simp [Cursor.observe, Assignment.strategy, hread]

lemma Assignment.machine_readsOnly : Assignment.machine.ReadsOnly := by
  intro state transition hmem action haction
  have hentry := Table.mem_transitions_ofList hmem
  simp only [Assignment.entries, List.mem_cons, Prod.mk.injEq, List.not_mem_nil, or_false] at hentry
  obtain ⟨-, rfl⟩ | ⟨-, rfl⟩ | ⟨-, rfl⟩ := hentry
  · cases haction
    trivial
  · cases haction
    exact Assignment.readRightHandSide_readsOnly
  · cases haction

/-! ### Independence from what has been consumed -/

/-- If the actions of a machine do nothing with the cursor but read expressions, a run from behind
consumed tokens is the run over the rest alone. It ends with the same result or failure, after the
same transitions; no token is changed; and it gets exactly as far. -/
theorem Machine.run_consumed (machine : Machine ρ) (h : machine.ReadsOnly)
    (before rest : List Token) :
    let moved := machine.run h.thrifty { tokens := before ++ rest, position := before.length }
    let fresh := machine.run h.thrifty { tokens := rest }
    moved.ending = fresh.ending ∧ moved.steps = fresh.steps ∧
      moved.cursor.tokens = before ++ rest ∧ fresh.cursor.tokens = rest ∧
      moved.cursor.position = before.length + fresh.cursor.position := by
  intro moved fresh
  have hmoved : moved = fresh.behind before := h.run_behind { tokens := rest } before
  have htokens : fresh.cursor.tokens = rest := h.tokens_run { tokens := rest }
  rw [hmoved]
  refine ⟨rfl, rfl, ?_, htokens, rfl⟩
  rw [Run.behind, Cursor.behind, htokens]

/-- The second of two assignments, when the first one has been consumed. -/
theorem Machine.run_consumed_assignments :
    let before : List Token :=
      [⟨.identifier, "a"⟩, ⟨.character, "="⟩, ⟨.number, "1"⟩, ⟨.character, ";"⟩]
    let rest : List Token :=
      [⟨.identifier, "b"⟩, ⟨.character, "="⟩, ⟨.identifier, "a"⟩, ⟨.operator, "+"⟩, ⟨.number, "2"⟩]
    ∃ h : Assignment.machine.ReadsOnly,
      let moved :=
        Assignment.machine.run h.thrifty { tokens := before ++ rest, position := before.length }
      moved.ending.outcome.map Assignment.text = .ok "b = a 2 +" ∧
        moved.cursor.tokens = before ++ rest ∧ moved.cursor.position = 9 := by
  intro before rest
  obtain ⟨hending, -, htokens, -, hposition⟩ :=
    Machine.run_consumed Assignment.machine Assignment.machine_readsOnly before rest
  refine ⟨Assignment.machine_readsOnly, ?_, htokens, ?_⟩
  · rw [hending]
    cbv
  · rw [hposition]
    cbv

end TableGrammar
