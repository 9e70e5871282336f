import TableGrammar.Proofs.Machine.Runs

/-!
# Runs over one list of tokens and then another

If no action of a machine sees the cursor, a run depends on nothing but the tokens that remain.
`Machine.trail` is such a run as a recursion on these tokens, without a cursor and without a budget
(`Machine.Blind.runFrom_eq`). It is compositional: over two lists in a row, a run that has ended
within the first list ends there, and any other goes on over the second list from where the first
one has led it (`Machine.trail_append`, and `Machine.run_append` for runs over a cursor).
-/

namespace TableGrammar

variable {ρ : Type} {machine : Machine ρ}

/-! ### Machines whose actions do not see the cursor -/

/-- An action that does not see the cursor. -/
def Action.Blind : Action ρ → Prop
  | .fold _ | .tryFold _ => True
  | .withCursor _ => False

/-- A machine none of whose actions sees the cursor. -/
def Machine.Blind (machine : Machine ρ) : Prop :=
  ∀ state, ∀ transition ∈ machine.table.transitions state,
    ∀ action, transition.action = some action → action.Blind

lemma Action.Blind.apply_eq {action : Action ρ} (h : action.Blind) (value : String) (result : ρ)
    (cursor other : Cursor) :
    action.apply value result cursor = ((action.apply value result other).1, cursor) := by
  cases action with
  | fold f => rfl
  | tryFold f => rfl
  | withCursor f => exact h.elim

lemma Machine.Blind.thrifty (h : machine.Blind) : machine.Thrifty := by
  intro state transition hmem action haction value result cursor
  have happly := (h state transition hmem action haction).apply_eq value result cursor cursor
  exact Nat.le_of_eq (congrArg (fun reply => reply.2.countRemaining) happly)

lemma Machine.blind_ofList {entries : List (Nat × Transition ρ)}
    (htable : machine.table = Table.ofList entries)
    (h : ∀ entry ∈ entries, ∀ action, entry.2.action = some action → action.Blind) :
    machine.Blind := by
  intro state transition hmem action haction
  rw [htable] at hmem
  exact h _ (Table.mem_transitions_ofList hmem) action haction

lemma Transition.perform_of_blind {transition : Transition ρ}
    (h : ∀ action, transition.action = some action → action.Blind) (value : String) (result : ρ)
    (cursor other : Cursor) :
    transition.perform value result cursor =
      ((transition.perform value result other).1, cursor) := by
  cases haction : transition.action with
  | none => simp only [Transition.perform, haction]
  | some action =>
    simp only [Transition.perform, haction]
    exact (h action haction).apply_eq value result cursor other

/-- A move leaves the cursor where it is, and does the same wherever the cursor is. -/
lemma Machine.Blind.move_eq (h : machine.Blind) (state : Nat) (result : ρ) (token : Token)
    (cursor other : Cursor) :
    machine.move state result token cursor =
      { machine.move state result token other with cursor } := by
  cases hselect : machine.table.select? state token with
  | none => simp only [Machine.move, hselect]
  | some selected =>
    obtain ⟨transition, index⟩ := selected
    have hblind := h state transition (machine.table.mem_of_select? hselect)
    cases hnext : transition.nextState? with
    | none => simp only [Machine.move, hselect, hnext]
    | some next =>
      simp only [Machine.move, hselect, hnext]
      rw [Transition.perform_of_blind hblind token.value result cursor other]

/-! ### Runs as recursions on the tokens -/

/-- What a run leaves behind: how it ended, the number of tokens it has consumed, and the
transitions it took. -/
structure Trail (ρ : Type) where
  ending : Ending ρ
  consumed : Nat := 0
  steps : List Step := []

/-- The trail of a run that consumes one token first. -/
def Trail.cons (step? : Option Step) (trail : Trail ρ) : Trail ρ :=
  { trail with consumed := trail.consumed + 1, steps := step?.toList ++ trail.steps }

/-- The trail of a run that goes on where another one has run out of tokens. -/
def Trail.andThen (trail : Trail ρ) (resume : Nat → ρ → Trail ρ) : Trail ρ :=
  match trail.ending with
  | .exhausted state result =>
    let later := resume state result
    { ending := later.ending
      consumed := trail.consumed + later.consumed
      steps := trail.steps ++ later.steps }
  | _ => trail

/-- The run over a cursor that leaves the trail behind. -/
def Trail.run (trail : Trail ρ) (cursor : Cursor) : Run ρ :=
  { ending := trail.ending, cursor := cursor.advance trail.consumed, steps := trail.steps }

/-- A move where the cursor is of no account. -/
def Machine.moveOn (machine : Machine ρ) (state : Nat) (result : ρ) (token : Token) : Move ρ :=
  machine.move state result token { tokens := [] }

/-- What a run from the state, with this result so far, leaves behind over a list of tokens. -/
def Machine.trail (machine : Machine ρ) : Nat → ρ → List Token → Trail ρ
  | state, result, [] => { ending := .exhausted state result }
  | state, result, token :: tokens =>
    let move := machine.moveOn state result token
    Trail.cons move.step? <|
      match move.outcome with
      | .error failure => { ending := .failed failure }
      | .ok (next, further) =>
        if machine.isTerminal next then { ending := .terminal next further }
        else machine.trail next further tokens

section

variable {state next : Nat} {result further : ρ} {token : Token}

lemma Machine.trail_of_error {failure : Failure}
    (h : (machine.moveOn state result token).outcome = .error failure) (tokens : List Token) :
    machine.trail state result (token :: tokens) =
      Trail.cons (machine.moveOn state result token).step? { ending := .failed failure } := by
  simp only [Machine.trail, h]

lemma Machine.trail_of_terminal
    (h : (machine.moveOn state result token).outcome = .ok (next, further))
    (hterminal : machine.isTerminal next = true) (tokens : List Token) :
    machine.trail state result (token :: tokens) =
      Trail.cons (machine.moveOn state result token).step?
        { ending := .terminal next further } := by
  simp only [Machine.trail, h, hterminal, if_true]

lemma Machine.trail_of_ok
    (h : (machine.moveOn state result token).outcome = .ok (next, further))
    (hterminal : machine.isTerminal next = false) (tokens : List Token) :
    machine.trail state result (token :: tokens) =
      Trail.cons (machine.moveOn state result token).step? (machine.trail next further tokens) := by
  simp only [Machine.trail, h, hterminal, Bool.false_eq_true, if_false]

end

/-- A move fails, or it leads to a terminal state, or the run goes on. -/
lemma Machine.moveOn_cases (machine : Machine ρ) (state : Nat) (result : ρ) (token : Token) :
    (∃ failure, (machine.moveOn state result token).outcome = .error failure) ∨
      (∃ next further, (machine.moveOn state result token).outcome = .ok (next, further) ∧
        machine.isTerminal next = true) ∨
      ∃ next further, (machine.moveOn state result token).outcome = .ok (next, further) ∧
        machine.isTerminal next = false := by
  cases (machine.moveOn state result token).outcome with
  | error failure => exact Or.inl ⟨failure, rfl⟩
  | ok reached =>
    obtain ⟨next, further⟩ := reached
    cases hterminal : machine.isTerminal next with
    | true => exact Or.inr (Or.inl ⟨next, further, rfl, hterminal⟩)
    | false => exact Or.inr (Or.inr ⟨next, further, rfl, hterminal⟩)

/-- A run over what remains of a cursor leaves the trail behind that the tokens determine. -/
lemma Machine.Blind.runFrom_eq (h : machine.Blind) {budget : Nat} (state : Nat) (result : ρ)
    (cursor : Cursor) (hbudget : cursor.remaining.length ≤ budget) :
    machine.runFrom budget state result cursor =
      some ((machine.trail state result cursor.remaining).run cursor) := by
  generalize hremaining : cursor.remaining = tokens at hbudget ⊢
  induction tokens generalizing budget state result cursor with
  | nil =>
    rw [Machine.runFrom, (Cursor.next?_eq_none_iff _).mpr hremaining]
    rfl
  | cons token tokens ih =>
    obtain ⟨budget, rfl⟩ : ∃ smaller, budget = smaller + 1 :=
      Nat.exists_eq_succ_of_ne_zero (by simp at hbudget; omega)
    have hafter := Cursor.remaining_advance_one hremaining
    -- no action looks at the cursor, so the move is the same here as without any tokens
    have hmove : machine.move state result token (cursor.advance 1) =
        { machine.moveOn state result token with cursor := cursor.advance 1 } :=
      h.move_eq state result token (cursor.advance 1) { tokens := [] }
    rw [Machine.runFrom, Cursor.next?_of_remaining hremaining]
    simp only [hmove]
    rcases machine.moveOn_cases state result token with
      ⟨failure, houtcome⟩ | ⟨next, further, houtcome, hterminal⟩ |
      ⟨next, further, houtcome, hterminal⟩
    · rw [Machine.trail_of_error houtcome]
      simp [houtcome, Trail.run, Trail.cons]
    · rw [Machine.trail_of_terminal houtcome hterminal]
      simp [houtcome, hterminal, Trail.run, Trail.cons]
    · rw [Machine.trail_of_ok houtcome hterminal]
      simp only [houtcome, hterminal, Bool.false_eq_true, if_false]
      rw [ih next further _ hafter (by simpa using hbudget)]
      simp only [Option.map_some, Trail.run, Trail.cons, Cursor.advance, Nat.add_assoc,
        Nat.add_comm 1]

lemma Machine.Blind.run_eq (h : machine.Blind) (cursor : Cursor) :
    machine.run h.thrifty cursor =
      (machine.trail 0 machine.start cursor.remaining).run cursor := by
  have hbudget : cursor.remaining.length ≤ cursor.countRemaining := by
    simp [Cursor.remaining, Cursor.countRemaining, Cursor.length]
  exact Option.get_of_eq_some _ (h.runFrom_eq 0 machine.start cursor hbudget)

/-- What every move keeps holds of the result of a run. -/
lemma Machine.trail_invariant {P : ρ → Prop} {tokens : List Token}
    (hmove : ∀ token ∈ tokens, ∀ state result next further, P result →
      (machine.moveOn state result token).outcome = .ok (next, further) → P further)
    {state : Nat} {result last : ρ} (h : P result)
    (hlast : (machine.trail state result tokens).ending.outcome = .ok last) : P last := by
  induction tokens generalizing state result with
  | nil =>
    cases hlast
    exact h
  | cons token tokens ih =>
    have hhead := hmove token List.mem_cons_self state result
    have htail := fun other hother => hmove other (List.mem_cons_of_mem token hother)
    rcases machine.moveOn_cases state result token with
      ⟨failure, houtcome⟩ | ⟨next, further, houtcome, hterminal⟩ |
      ⟨next, further, houtcome, hterminal⟩
    · rw [Machine.trail_of_error houtcome] at hlast
      cases hlast
    · rw [Machine.trail_of_terminal houtcome hterminal] at hlast
      cases hlast
      exact hhead next last h houtcome
    · rw [Machine.trail_of_ok houtcome hterminal] at hlast
      exact ih htail (hhead next further h houtcome) hlast

/-! ### Two lists in a row -/

lemma Trail.cons_andThen (step? : Option Step) (trail : Trail ρ)
    (resume : Nat → ρ → Trail ρ) :
    (trail.cons step?).andThen resume = (trail.andThen resume).cons step? := by
  obtain ⟨ending, consumed, steps⟩ := trail
  cases ending with
  | exhausted state result => simp [Trail.cons, Trail.andThen, Nat.add_right_comm]
  | terminal state result => rfl
  | failed failure => rfl

/-- The trail over two lists in a row is that over the first one, continued over the second. -/
lemma Machine.trail_append (machine : Machine ρ) (state : Nat) (result : ρ)
    (tokens further : List Token) :
    machine.trail state result (tokens ++ further) =
      (machine.trail state result tokens).andThen fun next result =>
        machine.trail next result further := by
  induction tokens generalizing state result with
  | nil => simp [Machine.trail, Trail.andThen]
  | cons token tokens ih =>
    rw [List.cons_append]
    rcases machine.moveOn_cases state result token with
      ⟨failure, houtcome⟩ | ⟨next, changed, houtcome, hterminal⟩ |
      ⟨next, changed, houtcome, hterminal⟩
    · simp only [Machine.trail_of_error houtcome]
      rfl
    · simp only [Machine.trail_of_terminal houtcome hterminal]
      rfl
    · simp only [Machine.trail_of_ok houtcome hterminal, Trail.cons_andThen, ih]

lemma Machine.consumed_of_exhausted {state final : Nat} {result last : ρ} {tokens : List Token}
    (h : (machine.trail state result tokens).ending = .exhausted final last) :
    (machine.trail state result tokens).consumed = tokens.length := by
  induction tokens generalizing state result with
  | nil => rfl
  | cons token tokens ih =>
    rcases machine.moveOn_cases state result token with
      ⟨failure, houtcome⟩ | ⟨next, further, houtcome, hterminal⟩ |
      ⟨next, further, houtcome, hterminal⟩
    · rw [Machine.trail_of_error houtcome] at h
      cases h
    · rw [Machine.trail_of_terminal houtcome hterminal] at h
      cases h
    · rw [Machine.trail_of_ok houtcome hterminal] at h ⊢
      exact congrArg (· + 1) (ih h)

/-! ### Where tokens lead -/

/-- From the state and the result the tokens lead to another state and result, and the run can go
on there. -/
def Machine.Reaches (machine : Machine ρ) (state : Nat) (result : ρ) (tokens : List Token)
    (next : Nat) (further : ρ) : Prop :=
  (machine.trail state result tokens).ending = .exhausted next further

lemma Machine.reaches_append_iff {state final : Nat} {result last : ρ}
    {tokens further : List Token} :
    machine.Reaches state result (tokens ++ further) final last ↔
      ∃ next middle, machine.Reaches state result tokens next middle ∧
        machine.Reaches next middle further final last := by
  rw [Machine.Reaches, Machine.trail_append, Trail.andThen]
  constructor
  · intro h
    split at h
    case h_1 next middle hending => exact ⟨next, middle, hending, h⟩
    case h_2 hending => exact absurd h (hending final last)
  · rintro ⟨next, middle, hfirst, hrest⟩
    rw [Machine.Reaches] at hfirst
    simp only [hfirst]
    exact hrest

/-- A move leads where the transition for its token does. -/
lemma Machine.moveOn_eq_ok_iff {state next : Nat} {result further : ρ} {token : Token} :
    (machine.moveOn state result token).outcome = .ok (next, further) ↔
      ∃ transition, machine.table.transition? state token = some transition ∧
        transition.nextState? = some next ∧
        (transition.perform token.value result { tokens := [] }).1.outcome = .ok further := by
  rw [Machine.moveOn]
  constructor
  · intro h
    cases hselect : machine.table.select? state token with
    | none =>
      simp only [Machine.move, hselect] at h
      cases h
    | some selected =>
      obtain ⟨transition, index⟩ := selected
      have htransition : machine.table.transition? state token = some transition := by
        rw [← Table.map_fst_select?, hselect, Option.map_some]
      cases hnext : transition.nextState? with
      | none =>
        simp only [Machine.move, hselect, hnext] at h
        cases h
      | some found =>
        rw [(Machine.move_of_transition? result _ htransition hnext).1] at h
        cases hreply : (transition.perform token.value result { tokens := [] }).1.outcome with
        | error failure =>
          rw [hreply] at h
          cases h
        | ok changed =>
          rw [hreply] at h
          cases h
          exact ⟨transition, htransition, hnext, hreply⟩
  · rintro ⟨transition, htransition, hnext, hreply⟩
    rw [(Machine.move_of_transition? result _ htransition hnext).1, hreply]
    rfl

lemma Machine.reaches_singleton_iff {state next : Nat} {result further : ρ} {token : Token} :
    machine.Reaches state result [token] next further ↔
      (machine.moveOn state result token).outcome = .ok (next, further) ∧
        machine.isTerminal next = false := by
  rw [Machine.Reaches]
  rcases machine.moveOn_cases state result token with
    ⟨failure, houtcome⟩ | ⟨found, changed, houtcome, hterminal⟩ |
    ⟨found, changed, houtcome, hterminal⟩
  · rw [Machine.trail_of_error houtcome]
    simp [houtcome, Trail.cons]
  · rw [Machine.trail_of_terminal houtcome hterminal]
    simp only [houtcome, Trail.cons, reduceCtorEq, false_iff, Except.ok.injEq, Prod.mk.injEq]
    rintro ⟨⟨rfl, -⟩, hfalse⟩
    rw [hterminal] at hfalse
    cases hfalse
  · rw [Machine.trail_of_ok houtcome hterminal]
    simp only [houtcome, Trail.cons, Machine.trail, Ending.exhausted.injEq, Except.ok.injEq,
      Prod.mk.injEq]
    constructor
    · rintro ⟨rfl, rfl⟩
      exact ⟨⟨rfl, rfl⟩, hterminal⟩
    · exact And.left

/-- A run that ends in a terminal state has just made a move to it. -/
lemma Machine.exists_of_terminal {state final : Nat} {result last : ρ} {tokens : List Token}
    (h : (machine.trail state result tokens).ending = .terminal final last) :
    machine.isTerminal final = true ∧
      ∃ front token rest next middle, tokens = front ++ token :: rest ∧
        (machine.trail state result tokens).consumed = front.length + 1 ∧
        machine.Reaches state result front next middle ∧
        (machine.moveOn next middle token).outcome = .ok (final, last) := by
  induction tokens generalizing state result with
  | nil => cases h
  | cons token tokens ih =>
    rcases machine.moveOn_cases state result token with
      ⟨failure, houtcome⟩ | ⟨next, further, houtcome, hterminal⟩ |
      ⟨next, further, houtcome, hterminal⟩
    · rw [Machine.trail_of_error houtcome] at h
      cases h
    · rw [Machine.trail_of_terminal houtcome hterminal] at h ⊢
      cases h
      exact ⟨hterminal, [], token, tokens, state, result, rfl, rfl, rfl, houtcome⟩
    · rw [Machine.trail_of_ok houtcome hterminal] at h ⊢
      obtain ⟨hfinal, front, found, rest, middle, changed, rfl, hconsumed, hreaches, hmove⟩ := ih h
      refine ⟨hfinal, token :: front, found, rest, middle, changed, rfl,
        congrArg (· + 1) hconsumed, ?_, hmove⟩
      rw [Machine.Reaches, Machine.trail_of_ok houtcome hterminal]
      exact hreaches

/-- A run that fails has just made the move that failed, and has not looked further. -/
lemma Machine.exists_of_failed {state : Nat} {result : ρ} {tokens : List Token} {failure : Failure}
    (h : (machine.trail state result tokens).ending = .failed failure) :
    ∃ front token rest next middle, tokens = front ++ token :: rest ∧
      machine.Reaches state result front next middle ∧
      (machine.moveOn next middle token).outcome = .error failure := by
  induction tokens generalizing state result with
  | nil => cases h
  | cons token tokens ih =>
    rcases machine.moveOn_cases state result token with
      ⟨failed, houtcome⟩ | ⟨next, further, houtcome, hterminal⟩ |
      ⟨next, further, houtcome, hterminal⟩
    · rw [Machine.trail_of_error houtcome] at h
      cases h
      exact ⟨[], token, tokens, state, result, rfl, rfl, houtcome⟩
    · rw [Machine.trail_of_terminal houtcome hterminal] at h
      cases h
    · rw [Machine.trail_of_ok houtcome hterminal] at h
      obtain ⟨front, found, rest, middle, changed, rfl, hreaches, hmove⟩ := ih h
      refine ⟨token :: front, found, rest, middle, changed, rfl, ?_, hmove⟩
      rw [Machine.Reaches, Machine.trail_of_ok houtcome hterminal]
      exact hreaches

/-- Where the tokens lead the machine, they lead along its table. -/
lemma Machine.Reaches.walk?_append {state next : Nat} {result further : ρ} {tokens : List Token}
    (h : machine.Reaches state result tokens next further) (rest : List Token) :
    machine.table.walk? state (tokens ++ rest) = machine.table.walk? next rest := by
  induction tokens generalizing state result with
  | nil =>
    cases h
    rfl
  | cons token tokens ih =>
    rw [Machine.Reaches] at h
    rcases machine.moveOn_cases state result token with
      ⟨failure, houtcome⟩ | ⟨middle, changed, houtcome, hterminal⟩ |
      ⟨middle, changed, houtcome, hterminal⟩
    · rw [Machine.trail_of_error houtcome] at h
      cases h
    · rw [Machine.trail_of_terminal houtcome hterminal] at h
      cases h
    · rw [Machine.trail_of_ok houtcome hterminal] at h
      obtain ⟨transition, htransition, hnext, -⟩ := Machine.moveOn_eq_ok_iff.mp houtcome
      rw [List.cons_append, Table.walk?_cons, htransition, Option.bind_some, hnext,
        Option.bind_some]
      exact ih h

/-- A machine without terminal states has a result wherever its tokens lead. -/
lemma Machine.outcome_eq_ok_iff_reaches (hterminal : machine.terminal = []) {state : Nat}
    {result last : ρ} {tokens : List Token} :
    (machine.trail state result tokens).ending.outcome = .ok last ↔
      ∃ final, machine.Reaches state result tokens final last := by
  constructor
  · intro h
    cases hending : (machine.trail state result tokens).ending with
    | exhausted final result =>
      rw [hending] at h
      cases h
      exact ⟨final, hending⟩
    | terminal final result =>
      have hfinal := (Machine.exists_of_terminal hending).1
      simp [Machine.isTerminal, hterminal] at hfinal
    | failed failure =>
      rw [hending] at h
      cases h
  · rintro ⟨final, h⟩
    rw [Machine.Reaches] at h
    rw [h]
    rfl

/-! ### Runs over a cursor -/

/-- How a run over one list of tokens ends decides the run over that list and a further one. If it
has failed or has reached a terminal state, nothing changes. If it has run out of tokens, it goes on
over the further list from its state and result. So the lists over which a machine runs out of
tokens are closed under initial pieces. -/
theorem Machine.run_append (machine : Machine ρ) (blind : machine.Blind)
    (tokens further : List Token) :
    let first := machine.run blind.thrifty { tokens }
    let whole := machine.run blind.thrifty { tokens := tokens ++ further }
    (match first.ending with
      | .failed _ | .terminal _ _ =>
        whole = { first with
          cursor := { tokens := tokens ++ further, position := first.cursor.position } }
      | .exhausted state result =>
        ∃ later, machine.runFrom further.length state result { tokens := further } = some later ∧
          whole =
            { ending := later.ending
              cursor :=
                { tokens := tokens ++ further
                  position := tokens.length + later.cursor.position }
              steps := first.steps ++ later.steps }) ∧
      ((∃ state result, whole.ending = .exhausted state result) →
        ∃ state result, first.ending = .exhausted state result) := by
  intro first whole
  have hfirst : first = (machine.trail 0 machine.start tokens).run { tokens } :=
    blind.run_eq { tokens }
  have hwhole : whole = ((machine.trail 0 machine.start tokens).andThen fun state result =>
      machine.trail state result further).run { tokens := tokens ++ further } := by
    rw [← Machine.trail_append]
    exact blind.run_eq { tokens := tokens ++ further }
  -- where the first run has run out of tokens it has consumed them all, so the second one starts
  -- behind them
  have hconsumed : ∀ state result,
      (machine.trail 0 machine.start tokens).ending = .exhausted state result →
      (machine.trail 0 machine.start tokens).consumed = tokens.length :=
    fun _ _ hending => Machine.consumed_of_exhausted hending
  rw [hfirst, hwhole]
  generalize machine.trail 0 machine.start tokens = trail at hconsumed ⊢
  obtain ⟨ending, consumed, steps⟩ := trail
  -- the trail over both lists depends on the first trail through its ending only
  cases ending with
  | exhausted state result =>
    obtain rfl : consumed = tokens.length := hconsumed state result rfl
    have hlater := blind.runFrom_eq state result { tokens := further } (Nat.le_refl further.length)
    refine ⟨⟨_, hlater, ?_⟩, fun _ => ⟨state, result, rfl⟩⟩
    simp [Trail.andThen, Trail.run, Cursor.advance, Cursor.remaining]
  | terminal state result => simp [Trail.andThen, Trail.run, Cursor.advance]
  | failed failure => simp [Trail.andThen, Trail.run, Cursor.advance]

/-- A machine that counts numbers up to a semicolon, and for which a minus sign leads nowhere. After
two numbers it goes on over what follows; behind a minus sign nothing follows. -/
theorem Machine.run_append_counting :
    let machine : Machine Nat :=
      { lexer := {}
        table := Table.ofList
          [(0, { matcher := .shape .number, next := 0, action := some (.fold fun _ n => n + 1) }),
           (0, { matcher := (Entry.character ';').matcher, next := 3 }),
           (0, { matcher := (Entry.character '-').matcher, next := -1 })]
        terminal := [3]
        start := 0 }
    ∃ blind : machine.Blind,
      (∃ steps, machine.run blind.thrifty
          { tokens := [⟨.number, "1"⟩, ⟨.number, "2"⟩] ++ [⟨.character, ";"⟩, ⟨.number, "3"⟩] } =
        { ending := .terminal 3 2
          cursor :=
            { tokens := [⟨.number, "1"⟩, ⟨.number, "2"⟩, ⟨.character, ";"⟩, ⟨.number, "3"⟩]
              position := 3 }
          steps }) ∧
      ∃ steps, machine.run blind.thrifty
          { tokens := [⟨.number, "1"⟩, ⟨.character, "-"⟩] ++ [⟨.number, "2"⟩] } =
        { ending := .failed (.noNextState "-" 0)
          cursor :=
            { tokens := [⟨.number, "1"⟩, ⟨.character, "-"⟩, ⟨.number, "2"⟩], position := 2 }
          steps } := by
  intro machine
  have blind : machine.Blind := by
    refine Machine.blind_ofList rfl ?_
    simp [Action.Blind]
  have hlonger := (Machine.run_append machine blind [⟨.number, "1"⟩, ⟨.number, "2"⟩]
    [⟨.character, ";"⟩, ⟨.number, "3"⟩]).1
  have hsame := (Machine.run_append machine blind [⟨.number, "1"⟩, ⟨.character, "-"⟩]
    [⟨.number, "2"⟩]).1
  have hexhausted : (machine.run blind.thrifty
      { tokens := [⟨.number, "1"⟩, ⟨.number, "2"⟩] }).ending = .exhausted 0 2 := rfl
  have hfailed : (machine.run blind.thrifty
      { tokens := [⟨.number, "1"⟩, ⟨.character, "-"⟩] }).ending =
        .failed (.noNextState "-" 0) := rfl
  rw [hexhausted] at hlonger
  rw [hfailed] at hsame
  obtain ⟨later, hlater, hwhole⟩ := hlonger
  cases hlater
  exact ⟨blind, ⟨_, hwhole⟩, ⟨_, hsame⟩⟩

end TableGrammar
