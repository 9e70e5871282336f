import Mathlib.Data.Nat.Basic
import Mathlib.Order.Basic
import TableGrammar.Proofs.Machine.Runs

/-!
# Tables by the order of their declarations

A table keeps of the transitions that were added to it, call by call, what was added to each state
and in which order, and nothing else. Its observers are functions of that: the transitions of a
state are those added to it, the length is given by the greatest state, and the entries are the
calls, stably sorted by state (`Table.entries_ofList`). So calls can be interleaved at will, as long
as those for the same state stay in order (`Table.Reordered.ofList_eq`).
-/

namespace TableGrammar

variable {ρ : Type}

/-! ### States -/

/-- A table grows to hold the state that is added to, and never shrinks. -/
lemma Table.length_add (table : Table ρ) (state : Nat) (transition : Transition ρ) :
    (table.add state transition).length = max table.length (state + 1) := by
  simp only [Table.length, Table.add, Table.grown, Array.size_modify, Array.size_append,
    Array.size_replicate]
  omega

lemma Table.length_addAll_le_iff {table : Table ρ} {calls : List (Nat × Transition ρ)} {n : Nat} :
    (table.addAll calls).length ≤ n ↔ table.length ≤ n ∧ ∀ call ∈ calls, call.1 < n := by
  induction calls generalizing table with
  | nil => simp [Table.addAll]
  | cons call calls ih =>
    rw [Table.addAll, List.foldl_cons, ← Table.addAll, ih, Table.length_add, Nat.max_le,
      List.forall_mem_cons, and_assoc]
    rfl

/-- The length is one more than the greatest state that was added to. -/
lemma Table.length_ofList (calls : List (Nat × Transition ρ)) :
    (Table.ofList calls).length = (calls.map Prod.fst).max?.elim 0 (· + 1) := by
  -- numbers are equal if they have the same upper bounds, and a bound on the length is one on all
  -- states
  refine eq_of_forall_ge_iff fun n => ?_
  rw [Table.ofList, Table.length_addAll_le_iff]
  cases hmax : (calls.map Prod.fst).max? with
  | none =>
    obtain rfl : calls = [] := List.map_eq_nil_iff.mp (List.max?_eq_none_iff.mp hmax)
    simp [Table.length]
  | some greatest =>
    obtain ⟨hmem, hle⟩ := List.max?_eq_some_iff.mp hmax
    rw [List.forall_mem_map] at hle
    obtain ⟨call, hcall, rfl⟩ := List.mem_map.mp hmem
    constructor
    · intro h
      exact h.2 call hcall
    · intro h
      exact ⟨Nat.zero_le n, fun other hother => Nat.lt_of_le_of_lt (hle other hother) h⟩

lemma Table.isDeclared_ofList_iff {calls : List (Nat × Transition ρ)} {state : Nat} :
    (Table.ofList calls).isDeclared state = true ↔ ∃ call ∈ calls, call.1 = state := by
  simp [Table.isDeclared_iff, Table.transitions_ofList]

/-- The transitions of a state decide whether it has a row. -/
lemma Table.row?_eq_of_transitions_eq {table other : Table ρ} {state : Nat}
    (h : table.transitions state = other.transitions state) :
    table.row? state = other.row? state := by
  have hnonempty := table.row?_ne_nil state
  have hother := other.row?_ne_nil state
  simp only [Table.transitions] at h
  cases hrow : table.row? state <;> cases hrow' : other.row? state <;> simp_all

/-- A table is determined by its length and the transitions of its states. -/
lemma Table.eq_of_transitions_eq {table other : Table ρ} (hlength : table.length = other.length)
    (h : ∀ state, table.transitions state = other.transitions state) : table = other := by
  have hrows : ∀ state, table.row? state = other.row? state := fun state =>
    Table.row?_eq_of_transitions_eq (h state)
  obtain ⟨rows, hnonempty⟩ := table
  obtain ⟨others, hnonempty'⟩ := other
  congr 1
  refine Array.ext hlength fun state hrow hother => ?_
  simpa [Table.row?, hrow, hother] using hrows state

/-! ### Entries -/

/-- Rows as entries, where the first row is that of the given state. -/
def Table.entriesFrom (first : Nat) (rows : List (Option (List (Transition ρ)))) :
    List (Nat × Transition ρ) :=
  (rows.zipIdx first).flatMap fun (row, state) =>
    (row.getD []).map fun transition => (state, transition)

lemma Table.entriesFrom_cons (first : Nat) (row : Option (List (Transition ρ)))
    (rows : List (Option (List (Transition ρ)))) :
    Table.entriesFrom first (row :: rows) =
      (row.getD []).map (fun transition => (first, transition)) ++
        Table.entriesFrom (first + 1) rows := by
  rw [Table.entriesFrom, List.zipIdx_cons, List.flatMap_cons, Table.entriesFrom]

lemma Table.le_of_mem_entriesFrom {first : Nat} {rows : List (Option (List (Transition ρ)))}
    {entry : Nat × Transition ρ} (h : entry ∈ Table.entriesFrom first rows) : first ≤ entry.1 := by
  induction rows generalizing first with
  | nil => cases h
  | cons row rows ih =>
    rw [Table.entriesFrom_cons, List.mem_append, List.mem_map] at h
    rcases h with ⟨transition, -, rfl⟩ | h
    · exact Nat.le_refl first
    · exact Nat.le_of_succ_le (ih h)

lemma Table.pairwise_entriesFrom (first : Nat) (rows : List (Option (List (Transition ρ)))) :
    (Table.entriesFrom first rows).Pairwise fun a b => a.1 ≤ b.1 := by
  induction rows generalizing first with
  | nil => exact List.Pairwise.nil
  | cons row rows ih =>
    rw [Table.entriesFrom_cons, List.pairwise_append]
    refine ⟨?_, ih (first + 1), ?_⟩
    · rw [List.pairwise_map]
      exact List.pairwise_of_forall fun _ _ => Nat.le_refl first
    · intro entry hentry other hother
      obtain ⟨transition, -, rfl⟩ := List.mem_map.mp hentry
      exact Nat.le_of_succ_le (Table.le_of_mem_entriesFrom hother)

lemma Table.filter_entriesFrom (first : Nat) (rows : List (Option (List (Transition ρ))))
    (offset : Nat) :
    (Table.entriesFrom first rows).filter (fun entry => entry.1 == first + offset) =
      (rows[offset]?.join.getD []).map fun transition => (first + offset, transition) := by
  induction rows generalizing first offset with
  | nil => simp [Table.entriesFrom]
  | cons row rows ih =>
    rw [Table.entriesFrom_cons, List.filter_append, List.filter_map]
    cases offset with
    | zero =>
      have hlater : (Table.entriesFrom (first + 1) rows).filter (fun entry => entry.1 == first) =
          [] := by
        rw [List.filter_eq_nil_iff]
        intro entry hentry
        have hle := Table.le_of_mem_entriesFrom hentry
        simp only [beq_iff_eq]
        omega
      have hrow : (row.getD []).filter (fun _ => true) = row.getD [] :=
        List.filter_eq_self.mpr fun _ _ => rfl
      simp [Function.comp_def, hlater, hrow]
    | succ offset =>
      have hlater := ih (first + 1) offset
      rw [Nat.add_right_comm, Nat.add_assoc first offset 1] at hlater
      rw [hlater]
      simp [Function.comp_def]

/-- The entries of one state are its transitions, in the order added. -/
lemma Table.filter_entries (table : Table ρ) (state : Nat) :
    table.entries.filter (fun entry => entry.1 == state) =
      (table.transitions state).map fun transition => (state, transition) := by
  have h := Table.filter_entriesFrom 0 table.rows.toList state
  rw [Nat.zero_add, Array.getElem?_toList] at h
  exact h

/-! ### Stable sorting -/

lemma mem_iff_of_filter_eq {α : Type} {as bs : List (Nat × α)}
    (h : ∀ key, as.filter (fun a => a.1 == key) = bs.filter (fun b => b.1 == key))
    (entry : Nat × α) : entry ∈ as ↔ entry ∈ bs := by
  have hfilter : entry ∈ as.filter (fun a => a.1 == entry.1) ↔
      entry ∈ bs.filter (fun b => b.1 == entry.1) := by rw [h]
  simpa using hfilter

/-- Two lists that are sorted by their keys and agree on every key are the same. -/
lemma eq_of_pairwise_of_filter_eq {α : Type} {as bs : List (Nat × α)}
    (has : as.Pairwise fun a b => a.1 ≤ b.1) (hbs : bs.Pairwise fun a b => a.1 ≤ b.1)
    (h : ∀ key, as.filter (fun a => a.1 == key) = bs.filter (fun b => b.1 == key)) : as = bs := by
  induction as generalizing bs with
  | nil =>
    cases bs with
    | nil => rfl
    | cons b bs =>
      exact absurd ((mem_iff_of_filter_eq h b).mpr List.mem_cons_self) List.not_mem_nil
  | cons a as ih =>
    have ha := (mem_iff_of_filter_eq h a).mp List.mem_cons_self
    cases bs with
    | nil => exact absurd ha List.not_mem_nil
    | cons b bs =>
      have hb := (mem_iff_of_filter_eq h b).mpr List.mem_cons_self
      rw [List.pairwise_cons] at has hbs
      -- each of the first entries stands in the other list, so neither key is the greater one
      have hle : a.1 ≤ b.1 := by
        rcases List.mem_cons.mp hb with rfl | hb
        · exact Nat.le_refl _
        · exact has.1 b hb
      have hge : b.1 ≤ a.1 := by
        rcases List.mem_cons.mp ha with rfl | ha
        · exact Nat.le_refl _
        · exact hbs.1 a ha
      obtain rfl : a = b := by
        have hfirst := h a.1
        simp only [List.filter_cons, Nat.le_antisymm hge hle, beq_self_eq_true, if_true,
          List.cons.injEq] at hfirst
        exact hfirst.1
      rw [ih has.2 hbs.2]
      intro key
      have hkey := h key
      simp only [List.filter_cons] at hkey
      split at hkey
      · exact (List.cons.inj hkey).2
      · exact hkey

/-- Calls in the order of their states; calls for the same state keep their order. -/
def Table.sorted (calls : List (Nat × Transition ρ)) : List (Nat × Transition ρ) :=
  calls.mergeSort fun a b => decide (a.1 ≤ b.1)

section

variable (calls : List (Nat × Transition ρ))

lemma Table.pairwise_sorted : (Table.sorted calls).Pairwise fun a b => a.1 ≤ b.1 := by
  have h : (Table.sorted calls).Pairwise fun a b => decide (a.1 ≤ b.1) = true :=
    List.pairwise_mergeSort (by simpa using fun a _ b _ c _ => Nat.le_trans)
      (by simpa using fun a _ b _ => Nat.le_total a b) calls
  exact h.imp of_decide_eq_true

/-- Sorting is stable: the calls for one state are kept, in order. -/
lemma Table.filter_sorted (state : Nat) :
    (Table.sorted calls).filter (fun call => call.1 == state) =
      calls.filter fun call => call.1 == state := by
  have hkept : (calls.filter fun call => call.1 == state).Sublist (Table.sorted calls) := by
    refine List.sublist_mergeSort (by simpa using fun a _ b _ c _ => Nat.le_trans)
      (by simpa using fun a _ b _ => Nat.le_total a b) ?_ List.filter_sublist
    refine List.Pairwise.imp_of_mem ?_ (List.pairwise_of_forall fun _ _ => trivial)
    intro a b ha hb _
    simp only [List.mem_filter, beq_iff_eq] at ha hb
    simp [ha.2, hb.2]
  have hsublist := hkept.filter fun call => call.1 == state
  simp only [List.filter_filter, Bool.and_self] at hsublist
  -- sorting adds no call for the state, and the sublist is as long as the whole
  have hlength := ((List.mergeSort_perm calls fun a b => decide (a.1 ≤ b.1)).filter
    fun call => call.1 == state).length_eq
  exact (hsublist.eq_of_length hlength.symm).symm

/-- A table lists the calls that made it, stably sorted by state. -/
lemma Table.entries_ofList : (Table.ofList calls).entries = Table.sorted calls := by
  -- both lists are sorted, and for every state both have its calls in order
  refine eq_of_pairwise_of_filter_eq (Table.pairwise_entriesFrom 0 _) (Table.pairwise_sorted calls)
    fun state => ?_
  rw [Table.filter_entries, Table.transitions_ofList, Table.filter_sorted, List.map_map]
  refine List.map_congr_left ?_ |>.trans (List.map_id _)
  intro call hcall
  obtain ⟨-, hstate⟩ := List.mem_filter.mp hcall
  exact Prod.ext (beq_iff_eq.mp hstate).symm rfl

end

/-! ### Calls in another order -/

/-- For every state the same calls in the same order. How the calls for different states are
interleaved is left open. -/
def Table.Reordered (calls others : List (Nat × Transition ρ)) : Prop :=
  ∀ state, calls.filter (fun call => call.1 == state) = others.filter fun call => call.1 == state

lemma Table.Reordered.ofList_eq {calls others : List (Nat × Transition ρ)}
    (h : Table.Reordered calls others) : Table.ofList calls = Table.ofList others := by
  have hmem := mem_iff_of_filter_eq h
  have hlength : (Table.ofList calls).length = (Table.ofList others).length := by
    refine eq_of_forall_ge_iff fun n => ?_
    simp only [Table.ofList, Table.length_addAll_le_iff, hmem]
  refine Table.eq_of_transitions_eq hlength fun state => ?_
  rw [Table.transitions_ofList, Table.transitions_ofList, h state]

/-- A table holds for every state what was added to it, in order, and nothing else: that decides
which states are declared, how long the table is and in which order it is listed. Calls that are
only interleaved in another way make the same table, and so every machine runs in the same way. -/
theorem Table.ofList_by_declarations (calls : List (Nat × Transition ρ)) :
    (∀ state, (Table.ofList calls).transitions state =
      (calls.filter fun call => call.1 == state).map Prod.snd) ∧
    (∀ state, (Table.ofList calls).isDeclared state = true ↔ ∃ call ∈ calls, call.1 = state) ∧
    (Table.ofList calls).length = (calls.map Prod.fst).max?.elim 0 (· + 1) ∧
    (Table.ofList calls).entries = Table.sorted calls ∧
    (Table.ofList calls).text = String.join ((Table.sorted calls).map fun (state, transition) =>
      s!"{state} {transition.matcher.label} {transition.next}\n") ∧
    ∀ others, Table.Reordered calls others →
      Table.ofList calls = Table.ofList others ∧
      ∀ (machine : Machine ρ) (budget : Nat) (cursor : Cursor),
        Machine.run? { machine with table := Table.ofList calls } budget cursor =
          Machine.run? { machine with table := Table.ofList others } budget cursor := by
  refine ⟨Table.transitions_ofList calls, fun state => Table.isDeclared_ofList_iff,
    Table.length_ofList calls, Table.entries_ofList calls, ?_, ?_⟩
  · rw [Table.text, Table.entries_ofList]
  · intro others h
    refine ⟨h.ofList_eq, fun machine budget cursor => ?_⟩
    rw [h.ofList_eq]

/-- State 2 is declared before state 0 or between its transitions, and state 1 not at all. -/
theorem Table.ofList_by_declarations_interleaved :
    let count : Transition Nat :=
      { matcher := .shape .number, next := 2, action := some (.fold fun _ n => n + 1) }
    let name : Transition Nat := { matcher := .shape .identifier, next := 2 }
    let refuse : Transition Nat := { matcher := .any, next := -1 }
    let calls := [(2, count), (0, name), (2, refuse)]
    let others := [(0, name), (2, count), (2, refuse)]
    Table.Reordered calls others ∧ Table.ofList calls = Table.ofList others ∧
      (Table.ofList calls).length = 3 ∧ (Table.ofList calls).isDeclared 1 = false ∧
      (Table.ofList calls).entries = others := by
  intro count name refuse calls others
  have hreordered : Table.Reordered calls others := by
    intro state
    by_cases hzero : 0 = state
    · subst hzero
      rfl
    · simp [calls, others, List.filter_cons, hzero]
  obtain ⟨-, hdeclared, hlength, hentries, -, hsame⟩ := Table.ofList_by_declarations calls
  have hundeclared : ¬ ∃ call ∈ calls, call.1 = 1 := by simp [calls]
  refine ⟨hreordered, (hsame others hreordered).1, hlength, ?_, ?_⟩
  · rwa [← hdeclared, Bool.not_eq_true] at hundeclared
  · rw [hentries]
    simp [calls, others, Table.sorted, List.mergeSort]

end TableGrammar
