import TableGrammar.Grammar.Catalog
import TableGrammar.Proofs.Machine.Extension

/-!
# Runs end

Every transition consumes the token that it is taken for. So if no action gives tokens back, what
remains gets shorter with every transition, whatever cycles the table has and however far the
actions move the cursor (`Machine.Goes.length_add_countRemaining_le`). A run then ends after no more
transitions than there were tokens (`Machine.haltsOn_of_keepsTaken`), and the runs of all grammars
of the catalogue do.
-/

namespace TableGrammar

variable {ρ : Type} {machine : Machine ρ}

/-! ### Actions that give no token back -/

/-- No action that sees the cursor leaves more tokens to consume than it was given, whether it
succeeds or fails. -/
def Machine.KeepsTaken (machine : Machine ρ) : Prop :=
  ∀ state, ∀ transition ∈ machine.table.transitions state,
    ∀ f, transition.action = some (.withCursor f) → ∀ value result cursor,
      (f value result cursor).2.countRemaining ≤ cursor.countRemaining

/-- Only the actions that see the cursor could give tokens back. -/
lemma Machine.keepsTaken_iff_thrifty : machine.KeepsTaken ↔ machine.Thrifty := by
  constructor
  · intro h state transition hmem action haction
    cases action with
    | fold f => exact Action.thrifty_fold f
    | tryFold f => exact Action.thrifty_tryFold f
    | withCursor f => exact h state transition hmem f haction
  · intro h state transition hmem f haction
    exact h state transition hmem (.withCursor f) haction

/-! ### Every transition costs a token -/

/-- A transition is taken for a token that has been consumed, and its action gives none back. -/
lemma Machine.Thrifty.length_step?_add_le (thrifty : machine.Thrifty) {cursor after : Cursor}
    {token : Token} (hnext : cursor.next? = some (token, after)) (state : Nat) (result : ρ) :
    (machine.move state result token after).step?.toList.length +
        (machine.move state result token after).cursor.countRemaining ≤ cursor.countRemaining := by
  have hstep : (machine.move state result token after).step?.toList.length ≤ 1 := by
    cases (machine.move state result token after).step? <;> simp
  have hafter := Cursor.countRemaining_of_next? cursor hnext
  have hmove := machine.countRemaining_move_le thrifty state result token after
  omega

/-- However far a run has got, it has taken no more transitions than tokens are gone. -/
lemma Machine.Goes.length_add_countRemaining_le {first state : Nat} {result last : ρ}
    {cursor place : Cursor} {steps : List Step}
    (h : machine.Goes first result cursor steps state last place) (thrifty : machine.Thrifty) :
    steps.length + place.countRemaining ≤ cursor.countRemaining := by
  induction h with
  | here => simp
  | @step state _ _ result _ _ _ _ _ _ _ _ hnext hmove hstep hterminal h ih =>
    have htaken := thrifty.length_step?_add_le hnext state result
    rw [hstep, Option.toList_some, List.length_singleton] at htaken
    rw [List.length_cons]
    omega

/-- A run that has ended has taken no more transitions than tokens are gone. -/
lemma Machine.Thrifty.length_steps_add_le (thrifty : machine.Thrifty) {budget state : Nat}
    {result : ρ} {cursor : Cursor} {run : Run ρ}
    (h : machine.runFrom budget state result cursor = some run) :
    run.steps.length + run.cursor.countRemaining ≤ cursor.countRemaining := by
  fun_induction Machine.runFrom machine budget state result cursor generalizing run with
  | case1 =>
    cases h
    simp
  | case2 => cases h
  | case3 state result cursor token after hnext =>
    cases h
    exact thrifty.length_step?_add_le hnext state result
  | case4 state result cursor token after hnext =>
    cases h
    exact thrifty.length_step?_add_le hnext state result
  | case5 state result cursor token after hnext budget move =>
    rename_i ih
    obtain ⟨later, hlater, rfl⟩ := Option.map_eq_some_iff.mp h
    have htaken : move.step?.toList.length + move.cursor.countRemaining ≤ cursor.countRemaining :=
      thrifty.length_step?_add_le hnext state result
    have hrest := ih hlater
    simp only [List.length_append]
    omega

/-! ### More budget changes nothing -/

/-- A run that ends within a budget is the run within every larger one. -/
lemma Machine.runFrom_of_le {budget larger state : Nat} {result : ρ} {cursor : Cursor} {run : Run ρ}
    (h : machine.runFrom budget state result cursor = some run) (hle : budget ≤ larger) :
    machine.runFrom larger state result cursor = some run := by
  induction budget generalizing larger state result cursor run with
  -- without budget a run can only end where no token is left, and it does so with any budget
  | zero =>
    rw [Machine.runFrom] at h ⊢
    cases hnext : cursor.next? with
    | none =>
      rw [hnext] at h
      exact h
    | some taken =>
      rw [hnext] at h
      cases h
  | succ budget ih =>
    obtain ⟨larger, rfl⟩ : ∃ smaller, larger = smaller + 1 :=
      Nat.exists_eq_succ_of_ne_zero (by omega)
    rw [Machine.runFrom] at h ⊢
    cases hnext : cursor.next? with
    | none =>
      rw [hnext] at h
      exact h
    | some taken =>
      obtain ⟨token, after⟩ := taken
      rw [hnext] at h
      simp only at h ⊢
      cases houtcome : (machine.move state result token after).outcome with
      | error failure =>
        rw [houtcome] at h
        exact h
      | ok reached =>
        obtain ⟨next, further⟩ := reached
        rw [houtcome] at h
        simp only at h ⊢
        split at h
        case isTrue hterminal =>
          rw [if_pos hterminal]
          exact h
        case isFalse hterminal =>
          rw [if_neg hterminal]
          obtain ⟨later, hlater, rfl⟩ := Option.map_eq_some_iff.mp h
          rw [ih hlater (Nat.le_of_succ_le_succ hle)]
          rfl

/-! ### Halting -/

/-- The run over what remains of a cursor ends. However far it has got, it has taken no more
transitions than there were tokens; and a budget of that many suffices. -/
structure Machine.HaltsOn (machine : Machine ρ) (cursor : Cursor) (run : Run ρ) : Prop where
  bounded : ∀ steps state result place,
    machine.Goes 0 machine.start cursor steps state result place →
      steps.length ≤ cursor.countRemaining
  ends : ∀ budget, cursor.countRemaining ≤ budget → machine.run? budget cursor = some run
  length_le : run.steps.length ≤ cursor.countRemaining

lemma Machine.Thrifty.haltsOn (thrifty : machine.Thrifty) (cursor : Cursor) :
    machine.HaltsOn cursor (machine.run thrifty cursor) := by
  -- the budget of the run itself is the number of tokens that remain
  have hrun : machine.run? cursor.countRemaining cursor = some (machine.run thrifty cursor) :=
    (Option.some_get _).symm
  refine ⟨?_, ?_, ?_⟩
  · intro steps state result place hgoes
    have hle := hgoes.length_add_countRemaining_le thrifty
    omega
  · intro budget hbudget
    exact Machine.runFrom_of_le hrun hbudget
  · have hle := thrifty.length_steps_add_le hrun
    omega

/-- If no action gives tokens back, the run over any cursor ends, after no more transitions than
there were tokens left. Reading the right hand side of an assignment gives none back, so that the
runs of all grammars end on every cursor. -/
theorem Machine.haltsOn_of_keepsTaken (machine : Machine ρ) (h : machine.KeepsTaken)
    (cursor : Cursor) :
    (∃ run, machine.HaltsOn cursor run) ∧ Assignment.machine.KeepsTaken ∧
      ∀ (name : GrammarName) (place : Cursor),
        name.grammar.grammar.machine.HaltsOn place (name.grammar.grammar.run place) := by
  refine ⟨?_, ?_, ?_⟩
  · exact ⟨_, (Machine.keepsTaken_iff_thrifty.mp h).haltsOn cursor⟩
  · exact Machine.keepsTaken_iff_thrifty.mpr Assignment.machine_thrifty
  · intro name place
    exact name.grammar.grammar.thrifty.haltsOn place

/-- A machine that goes around in one state, and whose action consumes a second token if there is
one. Three tokens take two transitions. -/
theorem Machine.haltsOn_of_keepsTaken_pairs :
    let skip : Action Nat := .withCursor fun _ count cursor =>
      match cursor.next? with
      | none => ({ outcome := .ok count }, cursor)
      | some (_, after) => ({ outcome := .ok (count + 1) }, after)
    let machine : Machine Nat :=
      { lexer := {}
        table := Table.ofList [(0, { matcher := .any, next := 0, action := some skip })]
        start := 0 }
    let cursor : Cursor := { tokens := [⟨.number, "1"⟩, ⟨.number, "2"⟩, ⟨.number, "3"⟩] }
    machine.KeepsTaken ∧ ∃ run, machine.HaltsOn cursor run ∧ run.steps.length = 2 ∧
      run.ending = .exhausted 0 1 := by
  intro skip machine cursor
  have hkeeps : machine.KeepsTaken := by
    intro state transition hmem f haction value result place
    have hentry := Table.mem_transitions_ofList hmem
    simp only [List.mem_singleton, Prod.mk.injEq] at hentry
    obtain ⟨-, rfl⟩ := hentry
    obtain rfl := Action.withCursor.inj (Option.some.inj haction)
    simp only
    split
    case h_1 => exact Nat.le_refl _
    case h_2 hnext =>
      have hle := Cursor.countRemaining_of_next? place hnext
      simp only
      omega
  obtain ⟨⟨run, hrun⟩, -⟩ := Machine.haltsOn_of_keepsTaken machine hkeeps cursor
  have hends : machine.run? 3 cursor = some run := hrun.ends 3 (by decide)
  cases hends
  exact ⟨hkeeps, _, hrun, rfl, rfl⟩

end TableGrammar
