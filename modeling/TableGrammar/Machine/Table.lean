import TableGrammar.Machine.Action
import TableGrammar.Matcher

/-!
The transitions of a machine, by state.

States can be declared in any order; the transitions of each state keep the order in which they were
added. A state number that was passed over is a state without transitions.
-/

namespace TableGrammar

/-- One way out of a state. A negative destination means that taking it is a failure. -/
structure Transition (ρ : Type) where
  matcher : Matcher
  next : Int
  action : Option (Action ρ) := none

/-- The destination, if there is one. -/
def Transition.nextState? {ρ : Type} (transition : Transition ρ) : Option Nat :=
  if 0 ≤ transition.next then some transition.next.toNat else none

/-- Carries out the action of a transition; without one, nothing changes. -/
def Transition.perform {ρ : Type} (transition : Transition ρ) (value : String) (result : ρ)
    (cursor : Cursor) : Reply ρ × Cursor :=
  match transition.action with
  | none => ({ outcome := .ok result }, cursor)
  | some action => action.apply value result cursor

/-- A transition with a thrifty action gives no token back. -/
theorem Transition.countRemaining_perform_le {ρ : Type} (transition : Transition ρ)
    (thrifty : ∀ action, transition.action = some action → action.Thrifty)
    (value : String) (result : ρ) (cursor : Cursor) :
    (transition.perform value result cursor).2.countRemaining ≤ cursor.countRemaining := by
  unfold Transition.perform
  split
  case h_1 => exact Nat.le_refl _
  case h_2 action haction => exact thrifty action haction value result cursor

/-- The transitions of every state, in the order added. A state that was passed over has no row, and
a row that is there has a transition. -/
structure Table (ρ : Type) where
  rows : Array (Option (List (Transition ρ))) := #[]
  nonempty : ∀ row ∈ rows, row ≠ some [] := by
    exact fun row hrow => absurd hrow (Array.not_mem_empty row)

variable {ρ : Type} (table : Table ρ)

/-- The rows, and none for every state that was passed over up to the given one. -/
def Table.grown (state : Nat) : Array (Option (List (Transition ρ))) :=
  table.rows ++ Array.replicate (state + 1 - table.rows.size) none

/-- Adds a transition at the end of a state's list. -/
def Table.add (state : Nat) (transition : Transition ρ) : Table ρ where
  rows := (table.grown state).modify state fun row => some (row.getD [] ++ [transition])
  nonempty := by
    intro row hrow
    obtain ⟨i, hi⟩ := Array.mem_iff_getElem?.mp hrow
    rw [Array.getElem?_modify] at hi
    split at hi
    case isTrue =>
      obtain ⟨old, -, rfl⟩ := Option.map_eq_some_iff.mp hi
      simp
    case isFalse =>
      rcases Array.mem_append.mp (Array.mem_of_getElem? hi) with hold | hgap
      · exact table.nonempty row hold
      · simp [(Array.mem_replicate.mp hgap).2]

/-- Adds transitions in order. -/
def Table.addAll (entries : List (Nat × Transition ρ)) : Table ρ :=
  entries.foldl (fun table (state, transition) => table.add state transition) table

/-- The table with the given transitions. -/
def Table.ofList (entries : List (Nat × Transition ρ)) : Table ρ :=
  Table.addAll {} entries

/-- The row of a state, if there is one. -/
def Table.row? (state : Nat) : Option (List (Transition ρ)) :=
  table.rows[state]?.join

/-- The transitions out of a state, in the order added. -/
def Table.transitions (state : Nat) : List (Transition ρ) :=
  (table.row? state).getD []

/-- Has anything been added to the state? -/
def Table.isDeclared (state : Nat) : Bool :=
  (table.row? state).isSome

/-- One more than the greatest state used. -/
def Table.length : Nat :=
  table.rows.size

/-- Every transition with the state it leaves, by state and then in the order added. -/
def Table.entries : List (Nat × Transition ρ) :=
  table.rows.toList.zipIdx.flatMap fun (row, state) =>
    (row.getD []).map fun transition => (state, transition)

/-- The table as text, one transition a line: state, label and destination. -/
def Table.text : String :=
  String.join (table.entries.map fun (state, transition) =>
    s!"{state} {transition.matcher.label} {transition.next}\n")

/-- The first transition of a state that accepts a token, with its place among them. -/
def Table.select? (state : Nat) (token : Token) : Option (Transition ρ × Nat) :=
  (table.transitions state).zipIdx.find? fun (transition, _) => transition.matcher.accepts token

@[simp] theorem Table.transitions_empty (state : Nat) :
    ({} : Table ρ).transitions state = [] := by
  simp [Table.transitions, Table.row?]

/-- A row that is there is not empty. -/
theorem Table.row?_ne_nil (state : Nat) : table.row? state ≠ some [] := by
  intro h
  have hrow : table.rows[state]? = some (some []) := Option.join_eq_some_iff.mp h
  exact table.nonempty _ (Array.mem_of_getElem? hrow) rfl

/-- Growing leaves all rows as they are. -/
theorem Table.join_grown (state s : Nat) : (table.grown state)[s]?.join = table.row? s := by
  unfold Table.row? Table.grown
  by_cases hlt : s < table.rows.size
  · rw [Array.getElem?_append_left hlt]
  · rw [Array.getElem?_eq_none (Nat.le_of_not_lt hlt),
      Array.getElem?_append_right (Nat.le_of_not_lt hlt), Array.getElem?_replicate]
    split <;> rfl

/-- Adding a transition appends it to its state's row and touches no other. -/
theorem Table.row?_add (state : Nat) (transition : Transition ρ) (s : Nat) :
    (table.add state transition).row? s =
      if s = state then some (table.transitions s ++ [transition]) else table.row? s := by
  have hgrown := table.join_grown state s
  rw [Table.row?, Table.add, Array.getElem?_modify]
  by_cases hs : s = state
  · subst hs
    have hsize : s < (table.grown s).size := by
      simp only [Table.grown, Array.size_append, Array.size_replicate]
      omega
    rw [Array.getElem?_eq_getElem hsize] at hgrown ⊢
    simp only [if_true, Option.map_some, Option.join_some] at hgrown ⊢
    rw [hgrown, Table.transitions]
  · rw [if_neg (Ne.symm hs), if_neg hs, hgrown]

/-- Adding a transition appends it to its state's list and touches no other. -/
theorem Table.transitions_add (state : Nat) (transition : Transition ρ) (s : Nat) :
    (table.add state transition).transitions s =
      if s = state then table.transitions s ++ [transition] else table.transitions s := by
  rw [Table.transitions, Table.row?_add]
  split <;> rfl

/-- The declared states are those with a transition. -/
theorem Table.isDeclared_iff {state : Nat} :
    table.isDeclared state = true ↔ table.transitions state ≠ [] := by
  have hnonempty := table.row?_ne_nil state
  unfold Table.isDeclared Table.transitions
  cases hrow : table.row? state with
  | none => simp
  | some row => simpa [hrow] using hnonempty

/-- What stands in a table after adding transitions was there before or has been added. -/
theorem Table.mem_transitions_addAll {entries : List (Nat × Transition ρ)} {table : Table ρ}
    {s : Nat} {transition : Transition ρ}
    (h : transition ∈ (table.addAll entries).transitions s) :
    transition ∈ table.transitions s ∨ (s, transition) ∈ entries := by
  induction entries generalizing table with
  | nil => exact .inl h
  | cons entry entries ih =>
    rcases ih h with hmem | hmem
    · rw [Table.transitions_add] at hmem
      split at hmem
      case isTrue heq =>
        rcases List.mem_append.mp hmem with hold | hnew
        · exact .inl hold
        · exact .inr (by simp [heq, List.mem_singleton.mp hnew])
      case isFalse => exact .inl hmem
    · exact .inr (List.mem_cons_of_mem entry hmem)

/-- A transition of a table made from a list is one of the list. -/
theorem Table.mem_transitions_ofList {entries : List (Nat × Transition ρ)} {s : Nat}
    {transition : Transition ρ} (h : transition ∈ (Table.ofList entries).transitions s) :
    (s, transition) ∈ entries := by
  rcases Table.mem_transitions_addAll h with hold | hnew
  · simp at hold
  · exact hnew

/-- A selected transition is one of its state. -/
theorem Table.mem_of_select? {state index : Nat} {token : Token} {transition : Transition ρ}
    (h : table.select? state token = some (transition, index)) :
    transition ∈ table.transitions state :=
  List.fst_mem_of_mem_zipIdx (List.mem_of_find?_eq_some h)

end TableGrammar
