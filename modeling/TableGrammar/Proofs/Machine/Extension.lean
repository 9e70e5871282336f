import TableGrammar.Proofs.Machine.Runs

/-!
# Machines with one more transition

A transition that is added to a state is tried after those that the state has. So it can only be
taken where the machine had to stop for want of a transition: everywhere else the extended machine
makes the same moves. A run that does not stop that way, in that state and at a token that the new
transition accepts, stays what it was; one that does goes on from just that token
(`Machine.run?_addTransition`).
-/

namespace TableGrammar

variable {ρ : Type} {machine : Machine ρ}

/-- The machine with one more transition, the last one of its state. -/
def Machine.addTransition (machine : Machine ρ) (state : Nat) (transition : Transition ρ) :
    Machine ρ :=
  { machine with table := machine.table.add state transition }

/-! ### Looking a transition up -/

/-- What was found before is found again; the new transition is found where nothing was. -/
lemma Table.select?_add (table : Table ρ) (state : Nat) (transition : Transition ρ) (s : Nat)
    (token : Token) :
    (table.add state transition).select? s token =
      (table.select? s token).or
        (if s = state ∧ transition.matcher.accepts token = true then
          some (transition, (table.transitions s).length)
        else none) := by
  rw [Table.select?, Table.transitions_add, Table.select?]
  by_cases hstate : s = state
  · cases haccepts : transition.matcher.accepts token with
    | true => simp [hstate, haccepts, List.zipIdx_append, List.find?_append]
    | false => simp [hstate, haccepts, List.zipIdx_append, List.find?_append]
  · simp [hstate]

lemma Table.getElem?_of_select? {table : Table ρ} {state index : Nat} {token : Token}
    {transition : Transition ρ} (h : table.select? state token = some (transition, index)) :
    (table.transitions state)[index]? = some transition :=
  List.mk_mem_zipIdx_iff_getElem?.mp (List.mem_of_find?_eq_some h)

lemma Table.getElem?_transitions_add {table : Table ρ} {state index : Nat} {taken : Transition ρ}
    (h : (table.transitions state)[index]? = some taken) (s : Nat) (transition : Transition ρ) :
    ((table.add s transition).transitions state)[index]? = some taken := by
  obtain ⟨hlt, -⟩ := List.getElem?_eq_some_iff.mp h
  rw [Table.transitions_add]
  split
  · rwa [List.getElem?_append_left hlt]
  · exact h

/-! ### Moves -/

/-- Whatever was selected is selected again, so the move is the same. -/
lemma Machine.move_addTransition {state s : Nat} {transition : Transition ρ} {token : Token}
    (h : s = state → transition.matcher.accepts token = true →
      machine.table.select? s token ≠ none) (result : ρ) (cursor : Cursor) :
    (machine.addTransition state transition).move s result token cursor =
      machine.move s result token cursor := by
  have hselect : (machine.addTransition state transition).table.select? s token =
      machine.table.select? s token := by
    rw [Machine.addTransition, Table.select?_add]
    cases hfound : machine.table.select? s token with
    | some found => rfl
    | none =>
      rw [Option.none_or, if_neg]
      rintro ⟨hstate, haccepts⟩
      exact h hstate haccepts hfound
  rw [Machine.move, hselect, Machine.move]

/-- A transition that was taken stands at its place among those of the state. -/
lemma Machine.getElem?_of_step? {state : Nat} {result : ρ} {token : Token} {cursor : Cursor}
    {step : Step} (h : (machine.move state result token cursor).step? = some step) :
    ∃ taken, (machine.table.transitions step.state)[step.index]? = some taken := by
  rcases machine.move_cases state result token cursor with
    ⟨-, hmove⟩ | ⟨transition, index, hselect, ⟨-, hmove⟩ | ⟨next, -, hmove⟩⟩
  · rw [hmove] at h
    cases h
  · rw [hmove] at h
    cases h
  · rw [hmove] at h
    cases h
    exact ⟨transition, Table.getElem?_of_select? hselect⟩

/-- A move that leads on finds a transition and takes it. -/
lemma Machine.exists_of_move_eq_ok {state next : Nat} {result further : ρ} {token : Token}
    {cursor : Cursor}
    (h : (machine.move state result token cursor).outcome = .ok (next, further)) :
    machine.table.select? state token ≠ none ∧
      ∃ step, (machine.move state result token cursor).step? = some step := by
  rcases machine.move_cases state result token cursor with
    ⟨-, hmove⟩ | ⟨transition, index, hselect, ⟨-, hmove⟩ | ⟨next, -, hmove⟩⟩
  · rw [hmove] at h
    cases h
  · rw [hmove] at h
    cases h
  · rw [hmove, hselect]
    exact ⟨Option.some_ne_none _, _, rfl⟩

/-! ### How far a run goes -/

/-- A run gets from one state and result to another by taking these steps, and has not ended. -/
inductive Machine.Goes (machine : Machine ρ) :
    Nat → ρ → Cursor → List Step → Nat → ρ → Cursor → Prop where
  | here {state : Nat} {result : ρ} {cursor : Cursor} :
      Goes machine state result cursor [] state result cursor
  | step {state next final : Nat} {result further last : ρ} {cursor after place : Cursor}
      {token : Token} {step : Step} {steps : List Step}
      (hnext : cursor.next? = some (token, after))
      (hmove : (machine.move state result token after).outcome = .ok (next, further))
      (hstep : (machine.move state result token after).step? = some step)
      (hterminal : machine.isTerminal next = false)
      (h : Goes machine next further (machine.move state result token after).cursor steps final
        last place) :
      Goes machine state result cursor (step :: steps) final last place

/-- A run stops in the state because none of its transitions accepts the next token. -/
def Machine.Stalls (machine : Machine ρ) (first : Nat) (result : ρ) (cursor : Cursor)
    (state : Nat) (token : Token) : Prop :=
  ∃ steps last place after, machine.Goes first result cursor steps state last place ∧
    place.next? = some (token, after) ∧ machine.table.select? state token = none

section

variable {first state : Nat} {result last : ρ} {cursor place : Cursor} {steps : List Step}

/-- A run with a budget passes the place that it gets to, and goes on from there with what is left
of the budget. -/
lemma Machine.Goes.runFrom (h : machine.Goes first result cursor steps state last place)
    (budget : Nat) :
    machine.runFrom (steps.length + budget) first result cursor =
      (machine.runFrom budget state last place).map fun run =>
        { run with steps := steps ++ run.steps } := by
  induction h with
  | here => simp
  | @step _ _ _ _ _ _ _ _ _ _ step steps hnext hmove hstep hterminal h ih =>
    rw [List.length_cons, Nat.add_right_comm, Machine.runFrom, hnext]
    simp only [hmove, hstep, hterminal, Bool.false_eq_true, if_false, ih, Option.map_map]
    rfl

/-- A run that has ended has passed every place that it gets to. -/
lemma Machine.Goes.exists_of_runFrom (h : machine.Goes first result cursor steps state last place)
    {budget : Nat} {run : Run ρ} (hrun : machine.runFrom budget first result cursor = some run) :
    ∃ left later, machine.runFrom left state last place = some later ∧
      run = { later with steps := steps ++ later.steps } := by
  induction h generalizing budget run with
  | here => exact ⟨budget, run, hrun, by simp⟩
  | step hnext hmove hstep hterminal h ih =>
    rw [Machine.runFrom, hnext] at hrun
    cases budget with
    | zero => cases hrun
    | succ budget =>
      simp only [hmove, hstep, hterminal, Bool.false_eq_true, if_false,
        Option.map_eq_some_iff] at hrun
      obtain ⟨earlier, hearlier, rfl⟩ := hrun
      obtain ⟨left, later, hlater, rfl⟩ := ih hearlier
      exact ⟨left, later, hlater, rfl⟩

/-- The extended machine gets to every place that the machine gets to. -/
lemma Machine.Goes.addTransition (h : machine.Goes first result cursor steps state last place)
    (s : Nat) (transition : Transition ρ) :
    (machine.addTransition s transition).Goes first result cursor steps state last place := by
  induction h with
  | here => exact .here
  | step hnext hmove hstep hterminal h ih =>
    have hselect := (Machine.exists_of_move_eq_ok hmove).1
    have hsame := @Machine.move_addTransition _ machine s _ transition _ fun _ _ => hselect
    rw [← hsame] at hmove hstep ih
    exact .step hnext hmove hstep hterminal ih

end

/-! ### Runs -/

/-- Every transition that a run takes stands at its place among those of its state. -/
lemma Machine.getElem?_of_mem_steps {budget state : Nat} {result : ρ} {cursor : Cursor}
    {run : Run ρ} (h : machine.runFrom budget state result cursor = some run) {step : Step}
    (hstep : step ∈ run.steps) :
    ∃ taken, (machine.table.transitions step.state)[step.index]? = some taken := by
  fun_induction Machine.runFrom machine budget state result cursor generalizing run with
  | case1 =>
    cases h
    cases hstep
  | case2 => cases h
  | case3 =>
    cases h
    exact Machine.getElem?_of_step? (Option.mem_toList.mp hstep)
  | case4 =>
    cases h
    exact Machine.getElem?_of_step? (Option.mem_toList.mp hstep)
  | case5 =>
    rename_i ih
    obtain ⟨later, hlater, rfl⟩ := Option.map_eq_some_iff.mp h
    rcases List.mem_append.mp hstep with hmove | hmem
    · exact Machine.getElem?_of_step? (Option.mem_toList.mp hmove)
    · exact ih hlater hmem

/-- A run that does not stop where the new transition could be taken is a run of the extended
machine. -/
lemma Machine.runFrom_addTransition {budget first state : Nat} {result : ρ} {cursor : Cursor}
    {transition : Transition ρ} {run : Run ρ}
    (hrun : machine.runFrom budget first result cursor = some run)
    (h : ∀ token, transition.matcher.accepts token = true →
      ¬ machine.Stalls first result cursor state token) :
    (machine.addTransition state transition).runFrom budget first result cursor = some run := by
  induction budget generalizing first result cursor run with
  | zero =>
    rw [Machine.runFrom] at hrun ⊢
    exact hrun
  | succ budget ih =>
    rw [Machine.runFrom] at hrun ⊢
    cases hnext : cursor.next? with
    | none =>
      rw [hnext] at hrun
      exact hrun
    | some taken =>
      obtain ⟨token, after⟩ := taken
      -- the move at hand is unchanged, or else the run stalls right here
      have hmove : (machine.addTransition state transition).move first result token after =
          machine.move first result token after := by
        refine Machine.move_addTransition ?_ result after
        rintro rfl haccepts hselect
        exact h token haccepts ⟨[], result, cursor, after, .here, hnext, hselect⟩
      rw [hnext] at hrun
      simp only [hmove] at hrun ⊢
      cases houtcome : (machine.move first result token after).outcome with
      | error failure =>
        rw [houtcome] at hrun
        exact hrun
      | ok reached =>
        obtain ⟨next, further⟩ := reached
        simp only [houtcome] at hrun ⊢
        cases hterminal : machine.isTerminal next with
        | true =>
          have hsame : (machine.addTransition state transition).isTerminal next = true := hterminal
          simpa only [hterminal, hsame, if_true] using hrun
        | false =>
          have hsame : (machine.addTransition state transition).isTerminal next = false := hterminal
          simp only [hterminal, hsame, Bool.false_eq_true, if_false,
            Option.map_eq_some_iff] at hrun ⊢
          obtain ⟨later, hlater, rfl⟩ := hrun
          refine ⟨later, ih hlater ?_, rfl⟩
          -- where the rest of the run stalls, the whole run does
          rintro token haccepts ⟨steps, last, place, behind, hgoes, hplace, hselect⟩
          obtain ⟨-, step, hstep⟩ := Machine.exists_of_move_eq_ok houtcome
          exact h token haccepts ⟨step :: steps, last, place, behind,
            .step hnext houtcome hstep hterminal hgoes, hplace, hselect⟩

/-- A run that has stalled has failed there, after the steps that led it there. -/
lemma Machine.Goes.run_eq_of_stalled {first state budget : Nat} {result last : ρ}
    {cursor place after : Cursor} {steps : List Step} {token : Token} {run : Run ρ}
    (h : machine.Goes first result cursor steps state last place)
    (hnext : place.next? = some (token, after))
    (hselect : machine.table.select? state token = none)
    (hrun : machine.runFrom budget first result cursor = some run) :
    run = { ending := .failed (.noMatch token.value state), cursor := after, steps } := by
  obtain ⟨left, later, hlater, rfl⟩ := h.exists_of_runFrom hrun
  rw [Machine.runFrom, hnext] at hlater
  cases left with
  | zero => cases hlater
  | succ left =>
    simp only [Machine.move, hselect] at hlater
    cases hlater
    simp

/-- Adding a transition changes no run that does not stop for want of it: the run takes the same
transitions, ends in the same way and leaves the same cursor. A run that stops in the state, at a
token that the new transition accepts, takes the same steps up to that token and then selects the
new transition, behind all that the state had before. -/
theorem Machine.run?_addTransition (machine : Machine ρ) (state : Nat) (transition : Transition ρ)
    {budget : Nat} {cursor : Cursor} {run : Run ρ} (h : machine.run? budget cursor = some run) :
    let extended := machine.addTransition state transition
    ((∀ token, transition.matcher.accepts token = true →
        ¬ machine.Stalls 0 machine.start cursor state token) →
      extended.run? budget cursor = some run ∧
      ∀ step ∈ run.steps, ∃ taken,
        (machine.table.transitions step.state)[step.index]? = some taken ∧
        (extended.table.transitions step.state)[step.index]? = some taken) ∧
    ∀ token, transition.matcher.accepts token = true →
      machine.Stalls 0 machine.start cursor state token →
      run.ending = .failed (.noMatch token.value state) ∧
      ∃ result place after,
        extended.Goes 0 machine.start cursor run.steps state result place ∧
        place.next? = some (token, after) ∧
        extended.table.select? state token =
          some (transition, (machine.table.transitions state).length) ∧
        ∀ left, extended.run? (run.steps.length + left) cursor =
          (extended.runFrom left state result place).map fun later =>
            { later with steps := run.steps ++ later.steps } := by
  intro extended
  refine ⟨fun hfree => ⟨Machine.runFrom_addTransition h hfree, ?_⟩, ?_⟩
  · intro step hstep
    obtain ⟨taken, htaken⟩ := Machine.getElem?_of_mem_steps h hstep
    exact ⟨taken, htaken, Table.getElem?_transitions_add htaken state transition⟩
  · rintro token haccepts ⟨steps, result, place, after, hgoes, hnext, hselect⟩
    obtain rfl := hgoes.run_eq_of_stalled hnext hselect h
    have hextended := hgoes.addTransition state transition
    -- none of the transitions before the new one accepts the token, so the new one is selected
    have hnew : extended.table.select? state token =
        some (transition, (machine.table.transitions state).length) := by
      simp [extended, Machine.addTransition, Table.select?_add, hselect, haccepts]
    exact ⟨rfl, result, place, after, hextended, hnext, hnew, hextended.runFrom⟩

/-- A machine that counts numbers stops at a semicolon. A transition for names leaves the run as it
is; one for the semicolon is selected after the two numbers. -/
theorem Machine.run?_addTransition_counting :
    let number : Transition Nat :=
      { matcher := .shape .number, next := 0, action := some (.fold fun _ n => n + 1) }
    let machine : Machine Nat := { lexer := {}, table := Table.ofList [(0, number)], start := 0 }
    let cursor : Cursor :=
      { tokens := [⟨.number, "1"⟩, ⟨.number, "2"⟩, ⟨.character, ";"⟩] }
    let name : Transition Nat := { matcher := .shape .identifier, next := 1 }
    let semicolon : Transition Nat := { matcher := (Entry.character ';').matcher, next := 0 }
    ∃ run : Run Nat, machine.run? 3 cursor = some run ∧
      run.ending = .failed (.noMatch ";" 0) ∧ run.steps.length = 2 ∧
      (machine.addTransition 0 name).run? 3 cursor = some run ∧
      ∃ result place after,
        (machine.addTransition 0 semicolon).Goes 0 0 cursor run.steps 0 result place ∧
        place.next? = some (⟨.character, ";"⟩, after) ∧
        (machine.addTransition 0 semicolon).table.select? 0 ⟨.character, ";"⟩ =
          some (semicolon, 1) := by
  intro number machine cursor name semicolon
  obtain ⟨run, hrun, hsteps⟩ : ∃ run : Run Nat, machine.run? 3 cursor = some run ∧
      run.steps.length = 2 := ⟨_, rfl, rfl⟩
  have hstalls : machine.Stalls 0 machine.start cursor 0 ⟨.character, ";"⟩ :=
    ⟨_, _, _, _, .step rfl rfl rfl rfl (.step rfl rfl rfl rfl .here), rfl, rfl⟩
  obtain ⟨hending, result, place, after, hgoes, hnext, hselect, -⟩ :=
    (Machine.run?_addTransition machine 0 semicolon hrun).2 _ (by decide) hstalls
  have hname : ∀ token, name.matcher.accepts token = true →
      ¬ machine.Stalls 0 machine.start cursor 0 token := by
    rintro token haccepts ⟨steps, last, place, after, hgoes, hnext, hselect⟩
    have hstalled := hgoes.run_eq_of_stalled hnext hselect hrun
    rw [hstalled] at hending
    simp only [Ending.failed.injEq, Failure.noMatch.injEq, and_true] at hending
    rw [Matcher.accepts, hending] at haccepts
    cases haccepts
  exact ⟨run, hrun, hending, hsteps, ((Machine.run?_addTransition machine 0 name hrun).1 hname).1,
    result, place, after, hgoes, hnext, hselect⟩

end TableGrammar
