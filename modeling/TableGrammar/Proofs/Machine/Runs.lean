import Mathlib.Tactic.Common
import TableGrammar.Grammar.Basic

/-!
# How runs end

`Machine.Ends` says how a run from a state ends, without a budget: every rule is one token. A run
that is given a budget ends that way if it ends at all (`Machine.Ends.runFrom`), and the run of a
grammar does (`Grammar.ending_run`).

Which states a table goes through does not depend on the result of a run as long as no action fails
or moves the cursor: `Table.walk?` follows the table alone.
-/

namespace TableGrammar

variable {ρ : Type} {machine : Machine ρ}

/-! ### Taking tokens off a cursor -/

lemma Cursor.next?_of_remaining {cursor : Cursor} {token : Token} {rest : List Token}
    (h : cursor.remaining = token :: rest) : cursor.next? = some (token, cursor.advance 1) := by
  have hpeek : cursor.peek? = some token := by
    rw [Cursor.peek?, ← List.head?_drop, ← Cursor.remaining, h, List.head?_cons]
  rw [Cursor.next?, hpeek, Option.map_some]

lemma Cursor.remaining_advance_one {cursor : Cursor} {token : Token} {rest : List Token}
    (h : cursor.remaining = token :: rest) : (cursor.advance 1).remaining = rest := by
  have hafter := cursor.remaining_of_next? (Cursor.next?_of_remaining h)
  rw [h] at hafter
  exact (List.cons.inj hafter).2.symm

/-! ### Endings -/

/-- A run from the state, with this result so far, ends like this. -/
inductive Machine.Ends (machine : Machine ρ) : Nat → ρ → Cursor → Ending ρ → Prop where
  | exhausted {state : Nat} {result : ρ} {cursor : Cursor} (h : cursor.remaining = []) :
      Ends machine state result cursor (.exhausted state result)
  | failed {state : Nat} {result : ρ} {cursor : Cursor} {token : Token} {rest : List Token}
      {failure : Failure} (hremaining : cursor.remaining = token :: rest)
      (hmove : (machine.move state result token (cursor.advance 1)).outcome = .error failure) :
      Ends machine state result cursor (.failed failure)
  | terminal {state next : Nat} {result further : ρ} {cursor : Cursor} {token : Token}
      {rest : List Token} (hremaining : cursor.remaining = token :: rest)
      (hmove : (machine.move state result token (cursor.advance 1)).outcome = .ok (next, further))
      (hterminal : machine.isTerminal next = true) :
      Ends machine state result cursor (.terminal next further)
  | step {state next : Nat} {result further : ρ} {cursor : Cursor} {token : Token}
      {rest : List Token} {ending : Ending ρ} (hremaining : cursor.remaining = token :: rest)
      (hmove : (machine.move state result token (cursor.advance 1)).outcome = .ok (next, further))
      (hterminal : machine.isTerminal next = false)
      (h : Ends machine next further (machine.move state result token (cursor.advance 1)).cursor
        ending) :
      Ends machine state result cursor ending

/-- Whatever its budget, a run that ends does so in the one way there is. -/
lemma Machine.Ends.runFrom {state budget : Nat} {result : ρ} {cursor : Cursor} {ending : Ending ρ}
    {run : Run ρ} (h : machine.Ends state result cursor ending)
    (hrun : machine.runFrom budget state result cursor = some run) : run.ending = ending := by
  induction h generalizing budget run with
  | exhausted h =>
    rw [Machine.runFrom, (Cursor.next?_eq_none_iff _).mpr h] at hrun
    cases hrun
    rfl
  | failed hremaining hmove =>
    rw [Machine.runFrom, Cursor.next?_of_remaining hremaining] at hrun
    cases budget with
    | zero => cases hrun
    | succ budget =>
      simp only [hmove] at hrun
      cases hrun
      rfl
  | terminal hremaining hmove hterminal =>
    rw [Machine.runFrom, Cursor.next?_of_remaining hremaining] at hrun
    cases budget with
    | zero => cases hrun
    | succ budget =>
      simp only [hmove, hterminal, if_true] at hrun
      cases hrun
      rfl
  | step hremaining hmove hterminal h ih =>
    rw [Machine.runFrom, Cursor.next?_of_remaining hremaining] at hrun
    cases budget with
    | zero => cases hrun
    | succ budget =>
      simp only [hmove, hterminal, Bool.false_eq_true, if_false, Option.map_eq_some_iff] at hrun
      obtain ⟨later, hlater, rfl⟩ := hrun
      have hending := ih hlater
      exact hending

lemma Grammar.ending_run {grammar : Grammar ρ} {cursor : Cursor} {ending : Ending ρ}
    (h : grammar.machine.Ends 0 grammar.machine.start cursor ending) :
    (grammar.run cursor).ending = ending :=
  h.runFrom (Option.some_get _).symm

/-! ### Taking a transition -/

lemma Table.transitions_addAll (table : Table ρ) (entries : List (Nat × Transition ρ)) (s : Nat) :
    (table.addAll entries).transitions s =
      table.transitions s ++ (entries.filter fun entry => entry.1 == s).map Prod.snd := by
  induction entries generalizing table with
  | nil => simp [Table.addAll]
  | cons entry entries ih =>
    rw [Table.addAll, List.foldl_cons, ← Table.addAll, ih, Table.transitions_add]
    by_cases hs : s = entry.1
    · simp [hs]
    · simp [hs, Ne.symm hs]

/-- The transitions of a state are those of the list that leave it, in order. -/
lemma Table.transitions_ofList (entries : List (Nat × Transition ρ)) (s : Nat) :
    (Table.ofList entries).transitions s =
      (entries.filter fun entry => entry.1 == s).map Prod.snd := by
  rw [Table.ofList, Table.transitions_addAll]
  simp

/-- The first transition of a state that accepts a token. -/
def Table.transition? (table : Table ρ) (state : Nat) (token : Token) : Option (Transition ρ) :=
  (table.transitions state).find? fun transition => transition.matcher.accepts token

lemma Table.map_fst_select? (table : Table ρ) (state : Nat) (token : Token) :
    (table.select? state token).map Prod.fst = table.transition? state token := by
  rw [Table.select?, Table.transition?]
  conv_rhs => rw [← List.zipIdx_map_fst 0 (table.transitions state)]
  rw [List.find?_map]
  rfl

lemma Table.mem_of_transition? {table : Table ρ} {state : Nat} {token : Token}
    {transition : Transition ρ} (h : table.transition? state token = some transition) :
    transition ∈ table.transitions state :=
  List.mem_of_find?_eq_some h

lemma Table.accepts_of_transition? {table : Table ρ} {state : Nat} {token : Token}
    {transition : Transition ρ} (h : table.transition? state token = some transition) :
    transition.matcher.accepts token = true := by
  have haccepts := List.find?_some h
  exact haccepts

/-- A move finds no transition, or one that leads nowhere, or it takes the one it has found. -/
lemma Machine.move_cases (machine : Machine ρ) (state : Nat) (result : ρ) (token : Token)
    (cursor : Cursor) :
    machine.table.select? state token = none ∧
        machine.move state result token cursor =
          { outcome := .error (.noMatch token.value state), cursor } ∨
      ∃ transition index, machine.table.select? state token = some (transition, index) ∧
        (transition.nextState? = none ∧
            machine.move state result token cursor =
              { outcome := .error (.noNextState token.value state), cursor } ∨
          ∃ next, transition.nextState? = some next ∧
            machine.move state result token cursor =
              { outcome := (transition.perform token.value result cursor).1.outcome.map
                  fun further => (next, further)
                cursor := (transition.perform token.value result cursor).2
                step? := some
                  { state, token, index, label := transition.matcher.label, next
                    events := (transition.perform token.value result cursor).1.events } }) := by
  cases hselect : machine.table.select? state token with
  | none => simp [Machine.move, hselect]
  | some selected =>
    obtain ⟨transition, index⟩ := selected
    right
    refine ⟨transition, index, rfl, ?_⟩
    cases hnext : transition.nextState? with
    | none => simp [Machine.move, hselect, hnext]
    | some next =>
      right
      exact ⟨next, rfl, by simp [Machine.move, hselect, hnext]⟩

section

variable {state next : Nat} {token : Token} {rest : List Token} {cursor : Cursor}
  {transition : Transition ρ} {result further : ρ}

lemma Machine.move_of_transition? (result : ρ) (cursor : Cursor)
    (htransition : machine.table.transition? state token = some transition)
    (hnext : transition.nextState? = some next) :
    (machine.move state result token cursor).outcome =
        (transition.perform token.value result cursor).1.outcome.map (fun further =>
          (next, further)) ∧
      (machine.move state result token cursor).cursor =
        (transition.perform token.value result cursor).2 := by
  rw [← Table.map_fst_select?, Option.map_eq_some_iff] at htransition
  obtain ⟨⟨_, index⟩, hselect, rfl⟩ := htransition
  simp [Machine.move, hselect, hnext]

lemma Machine.Ends.of_unmatched (hremaining : cursor.remaining = token :: rest)
    (htransition : machine.table.transition? state token = none) :
    machine.Ends state result cursor (.failed (.noMatch token.value state)) := by
  rw [← Table.map_fst_select?, Option.map_eq_none_iff] at htransition
  refine .failed hremaining ?_
  simp only [Machine.move, htransition]

lemma Machine.Ends.of_error {failure : Failure} (hremaining : cursor.remaining = token :: rest)
    (htransition : machine.table.transition? state token = some transition)
    (hnext : transition.nextState? = some next)
    (hreply : (transition.perform token.value result (cursor.advance 1)).1.outcome =
      .error failure) :
    machine.Ends state result cursor (.failed failure) := by
  refine .failed hremaining ?_
  rw [(Machine.move_of_transition? _ _ htransition hnext).1, hreply]
  rfl

lemma Machine.Ends.of_terminal (hremaining : cursor.remaining = token :: rest)
    (htransition : machine.table.transition? state token = some transition)
    (hnext : transition.nextState? = some next) (hterminal : machine.isTerminal next = true)
    (hreply : (transition.perform token.value result (cursor.advance 1)).1.outcome =
      .ok further) :
    machine.Ends state result cursor (.terminal next further) := by
  refine .terminal hremaining ?_ hterminal
  rw [(Machine.move_of_transition? _ _ htransition hnext).1, hreply]
  rfl

lemma Machine.Ends.of_ok {ending : Ending ρ} (hremaining : cursor.remaining = token :: rest)
    (htransition : machine.table.transition? state token = some transition)
    (hnext : transition.nextState? = some next) (hterminal : machine.isTerminal next = false)
    (hreply : (transition.perform token.value result (cursor.advance 1)).1.outcome =
      .ok further)
    (h : machine.Ends next further
      (transition.perform token.value result (cursor.advance 1)).2 ending) :
    machine.Ends state result cursor ending := by
  obtain ⟨houtcome, hcursor⟩ := Machine.move_of_transition? result (cursor.advance 1) htransition
    hnext
  rw [hreply] at houtcome
  refine .step hremaining houtcome hterminal ?_
  rwa [hcursor]

end

/-! ### Following a table -/

/-- The state that a table leads to, token by token, if it accepts all of them. -/
def Table.walk? (table : Table ρ) : Nat → List Token → Option Nat
  | state, [] => some state
  | state, token :: tokens =>
    match table.select? state token with
    | none => none
    | some (transition, _) =>
      match transition.nextState? with
      | none => none
      | some next => table.walk? next tokens

lemma Table.walk?_cons (table : Table ρ) (state : Nat) (token : Token) (tokens : List Token) :
    table.walk? state (token :: tokens) =
      ((table.transition? state token).bind Transition.nextState?).bind fun next =>
        table.walk? next tokens := by
  rw [Table.walk?, ← Table.map_fst_select?]
  cases table.select? state token with
  | none => rfl
  | some selected =>
    obtain ⟨transition, index⟩ := selected
    simp only [Option.map_some, Option.bind_some]
    cases transition.nextState? <;> rfl

lemma Table.walk?_cons_eq_some {table : Table ρ} {state final : Nat} {token : Token}
    {tokens : List Token} (h : table.walk? state (token :: tokens) = some final) :
    ∃ transition next, table.transition? state token = some transition ∧
      transition.nextState? = some next ∧ table.walk? next tokens = some final := by
  rw [Table.walk?_cons, Option.bind_eq_some_iff] at h
  obtain ⟨next, hfound, hwalk⟩ := h
  obtain ⟨transition, htransition, hnext⟩ := Option.bind_eq_some_iff.mp hfound
  exact ⟨transition, next, htransition, hnext, hwalk⟩

end TableGrammar
