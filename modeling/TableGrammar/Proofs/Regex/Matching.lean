import Mathlib
import TableGrammar.Regex.Node

/-!
# Where matches end

`Node.Matches` says what a match is: from which position to which position of a text a node leads.
Matching moves whole sets of positions at once, gives up a fixed number of rounds as soon as one of
them changes nothing, and tries no position twice. It finds the ends of all matches that there are,
and no others (`Node.moves_ends`).

So a node occurs in a text exactly if the text has a match of it (`Node.occursIn_iff`), and between
an assertion that the text starts and one that it ends it matches the whole text or nothing
(`Node.matches_anchored_iff`).
-/

namespace TableGrammar.Regex

/-- So many steps, one after the other, lead from one position to another. -/
def Rounds (step : Nat → Nat → Prop) : Nat → Nat → Nat → Prop
  | 0, i, j => i = j
  | count + 1, i, k => ∃ j, step i j ∧ Rounds step count j k

/-- The text has a match of the node that starts at one position and ends at another. A repetition
with a bound below the least number of rounds has that number of rounds. -/
def Node.Matches (text : Array Char) : Node → Nat → Nat → Prop
  | .empty, i, j => i = j
  | .chars set, i, j => (∃ c, text[i]? = some c ∧ set.contains c = true) ∧ j = i + 1
  | .look condition, i, j => condition.holds text i = true ∧ i = j
  | .cat a b, i, k => ∃ j, a.Matches text i j ∧ b.Matches text j k
  | .alt a b, i, j => a.Matches text i j ∨ b.Matches text i j
  | .capture body, i, j => body.Matches text i j
  | .times body least most, i, j =>
    ∃ count, least ≤ count ∧ (∀ bound, most = some bound → count ≤ max least bound) ∧
      Rounds (body.Matches text) count i j

/-! ### Rounds -/

lemma Rounds.trans {step : Nat → Nat → Prop} {m n i j k : Nat} (h : Rounds step m i j)
    (h' : Rounds step n j k) : Rounds step (m + n) i k := by
  induction m generalizing i with
  | zero =>
    obtain rfl : i = j := h
    rwa [Nat.zero_add]
  | succ m ih =>
    obtain ⟨next, hstep, hrest⟩ := h
    rw [Nat.add_right_comm]
    exact ⟨next, hstep, ih hrest⟩

lemma Rounds.exists_of_add {step : Nat → Nat → Prop} {m n i k : Nat}
    (h : Rounds step (m + n) i k) : ∃ j, Rounds step m i j ∧ Rounds step n j k := by
  induction m generalizing i with
  | zero =>
    rw [Nat.zero_add] at h
    exact ⟨i, rfl, h⟩
  | succ m ih =>
    rw [Nat.add_right_comm] at h
    obtain ⟨next, hstep, hrest⟩ := h
    obtain ⟨j, hfirst, hsecond⟩ := ih hrest
    exact ⟨j, ⟨next, hstep, hfirst⟩, hsecond⟩

/-- Whatever contains a position and is not left by a step contains all that rounds lead to. -/
lemma Rounds.mem_of_closed {step : Nat → Nat → Prop} {reached : List Nat} {count i j : Nat}
    (h : Rounds step count i j) (hi : i ∈ reached)
    (hclosed : ∀ i ∈ reached, ∀ j, step i j → j ∈ reached) : j ∈ reached := by
  induction count generalizing i with
  | zero =>
    obtain rfl : i = j := h
    exact hi
  | succ count ih =>
    obtain ⟨next, hstep, hrest⟩ := h
    exact ih hrest (hclosed i hi next hstep)

/-! ### Sets of positions -/

/-- The function moves each position of a set by a step, as long as all of them are within the text,
and no step leaves the text. -/
structure Moves (size : Nat) (round : List Nat → List Nat) (step : Nat → Nat → Prop) : Prop where
  mem_iff : ∀ starts : List Nat, (∀ i ∈ starts, i ≤ size) → ∀ j,
    j ∈ round starts ↔ ∃ i ∈ starts, step i j
  le : ∀ i j, step i j → i ≤ size → j ≤ size

/-- Every position that has been reached and is not among the latest has been tried: all steps from
it lead to positions that have been reached. -/
def Tried (step : Nat → Nat → Prop) (reached latest : List Nat) : Prop :=
  latest ⊆ reached ∧ ∀ i ∈ reached, i ∉ latest → ∀ j, step i j → j ∈ reached

/-- How many positions within the text have not been reached. -/
def missing (size : Nat) (reached : List Nat) : Nat :=
  ((Finset.range (size + 1)).filter fun position => position ∉ reached).card

lemma missing_append_lt {size i : Nat} {reached fresh : List Nat} (hi : i ∈ fresh)
    (hle : i ≤ size) (hnew : i ∉ reached) :
    missing size (reached ++ fresh) < missing size reached := by
  apply Finset.card_lt_card
  rw [Finset.ssubset_iff_of_subset]
  · refine ⟨i, ?_, ?_⟩
    · simpa [hnew] using hle
    · simp [hi]
  · intro position hposition
    simp only [Finset.mem_filter, List.mem_append, not_or] at hposition ⊢
    exact ⟨hposition.1, hposition.2.1⟩

lemma missing_le (size : Nat) (reached : List Nat) : missing size reached ≤ size + 1 := by
  rw [missing]
  exact (Finset.card_filter_le _ _).trans_eq (Finset.card_range _)

lemma mem_of_missing_eq_zero {size i : Nat} {reached : List Nat} (h : missing size reached = 0)
    (hi : i ≤ size) : i ∈ reached := by
  rw [missing, Finset.card_eq_zero, Finset.filter_eq_empty_iff] at h
  simpa using h (Finset.mem_range.mpr (Nat.lt_succ_of_le hi))

section

variable {size : Nat} {round : List Nat → List Nat} {step : Nat → Nat → Prop}

lemma moveExactly_eq_iterate (round : List Nat → List Nat) (count : Nat) (starts : List Nat) :
    moveExactly round count starts = round^[count] starts := by
  induction count generalizing starts with
  | zero => rfl
  | succ count ih =>
    rw [moveExactly, Function.iterate_succ_apply]
    split
    case isTrue hsame =>
      rw [beq_iff_eq] at hsame
      rw [hsame, Function.iterate_fixed hsame]
    case isFalse => exact ih (round starts)

lemma Moves.mem_moveExactly (h : Moves size round step) (count : Nat) {starts : List Nat}
    (hstarts : ∀ i ∈ starts, i ≤ size) (j : Nat) :
    j ∈ moveExactly round count starts ↔ ∃ i ∈ starts, Rounds step count i j := by
  rw [moveExactly_eq_iterate]
  induction count generalizing starts with
  | zero => simp [Rounds]
  | succ count ih =>
    have hmoved : ∀ i ∈ round starts, i ≤ size := by
      intro i hi
      obtain ⟨start, hstart, hstep⟩ := (h.mem_iff starts hstarts i).mp hi
      exact h.le start i hstep (hstarts start hstart)
    rw [Function.iterate_succ_apply, ih hmoved]
    constructor
    · rintro ⟨i, hi, hrounds⟩
      obtain ⟨start, hstart, hstep⟩ := (h.mem_iff starts hstarts i).mp hi
      exact ⟨start, hstart, i, hstep, hrounds⟩
    · rintro ⟨start, hstart, i, hstep, hrounds⟩
      exact ⟨i, (h.mem_iff starts hstarts i).mpr ⟨start, hstart, hstep⟩, hrounds⟩

/-- A round from the latest positions reaches just what one step from any position that has been
reached adds. -/
lemma Moves.tried_append (h : Moves size round step) {reached latest : List Nat}
    (hreached : ∀ i ∈ reached, i ≤ size) (htried : Tried step reached latest) :
    let fresh := (round latest).filter fun position => !reached.contains position
    (∀ i ∈ reached ++ fresh, i ≤ size) ∧ Tried step (reached ++ fresh) fresh ∧
      (∀ j ∈ fresh, ∃ i ∈ reached, step i j) ∧
      ∀ i ∈ reached, ∀ j, step i j → j ∈ reached ++ fresh := by
  intro fresh
  have hlatest : ∀ i ∈ latest, i ≤ size := fun i hi => hreached i (htried.1 hi)
  have hfresh : ∀ j ∈ fresh, ∃ i ∈ reached, step i j := by
    intro j hj
    obtain ⟨i, hi, hstep⟩ := (h.mem_iff latest hlatest j).mp (List.mem_of_mem_filter hj)
    exact ⟨i, htried.1 hi, hstep⟩
  -- a step from a position that was tried before leads to one that has been reached
  have hsteps : ∀ i ∈ reached, ∀ j, step i j → j ∈ reached ++ fresh := by
    intro i hi j hstep
    by_cases hj : j ∈ reached
    · exact List.mem_append_left fresh hj
    · apply List.mem_append_right
      have hmoved : j ∈ round latest := by
        by_cases hilatest : i ∈ latest
        · exact (h.mem_iff latest hlatest j).mpr ⟨i, hilatest, hstep⟩
        · exact absurd (htried.2 i hi hilatest j hstep) hj
      simp [fresh, hmoved, hj]
  refine ⟨?_, ⟨List.subset_append_right _ _, ?_⟩, hfresh, hsteps⟩
  · intro j hj
    rcases List.mem_append.mp hj with hj | hj
    · exact hreached j hj
    · obtain ⟨i, hi, hstep⟩ := hfresh j hj
      exact h.le i j hstep (hreached i hi)
  · intro i hi hinew
    rcases List.mem_append.mp hi with hi | hi
    · exact hsteps i hi
    · exact absurd hi hinew

lemma Moves.mem_moveUpTo (h : Moves size round step) (count : Nat) {reached latest : List Nat}
    (hreached : ∀ i ∈ reached, i ≤ size) (htried : Tried step reached latest) (j : Nat) :
    j ∈ moveUpTo round count reached latest ↔
      ∃ rounds ≤ count, ∃ i ∈ reached, Rounds step rounds i j := by
  induction count generalizing reached latest with
  | zero => simp [moveUpTo, Rounds]
  | succ count ih =>
    obtain ⟨hgrown, htried', hfresh, hsteps⟩ := h.tried_append hreached htried
    rw [moveUpTo]
    split
    case isTrue hempty =>
      -- nothing new can be reached, so nothing is reached later, either
      rw [List.isEmpty_iff] at hempty
      rw [hempty, List.append_nil] at hsteps
      constructor
      · intro hj
        exact ⟨0, Nat.zero_le _, j, hj, rfl⟩
      · rintro ⟨rounds, -, i, hi, hrounds⟩
        exact hrounds.mem_of_closed hi hsteps
    case isFalse =>
      rw [ih hgrown htried']
      constructor
      · rintro ⟨rounds, hle, i, hi, hrounds⟩
        rcases List.mem_append.mp hi with hi | hi
        · exact ⟨rounds, Nat.le_succ_of_le hle, i, hi, hrounds⟩
        · obtain ⟨start, hstart, hstep⟩ := hfresh i hi
          exact ⟨rounds + 1, Nat.succ_le_succ hle, start, hstart, i, hstep, hrounds⟩
      · rintro ⟨rounds, hle, i, hi, hrounds⟩
        cases rounds with
        | zero => exact ⟨0, Nat.zero_le _, i, List.mem_append_left _ hi, hrounds⟩
        | succ rounds =>
          obtain ⟨next, hstep, hrest⟩ := hrounds
          exact ⟨rounds, Nat.le_of_succ_le_succ hle, next, hsteps i hi next hstep, hrest⟩

/-- With as many rounds as there are positions that have not been reached, no step leads out of what
is reached. -/
lemma Moves.closed_moveUpTo (h : Moves size round step) (count : Nat) {reached latest : List Nat}
    (hreached : ∀ i ∈ reached, i ≤ size) (htried : Tried step reached latest)
    (hcount : missing size reached ≤ count) :
    ∀ i ∈ moveUpTo round count reached latest, ∀ j, step i j →
      j ∈ moveUpTo round count reached latest := by
  induction count generalizing reached latest with
  | zero =>
    intro i hi j hstep
    rw [moveUpTo] at hi ⊢
    exact mem_of_missing_eq_zero (Nat.le_zero.mp hcount) (h.le i j hstep (hreached i hi))
  | succ count ih =>
    obtain ⟨hgrown, htried', hfresh, hsteps⟩ := h.tried_append hreached htried
    rw [moveUpTo]
    split
    case isTrue hempty =>
      rw [List.isEmpty_iff] at hempty
      rwa [hempty, List.append_nil] at hsteps
    case isFalse hnonempty =>
      -- a position that is new is missing no longer, which uses up one round
      apply ih hgrown htried'
      obtain ⟨i, hi⟩ := List.exists_mem_of_ne_nil _ (mt List.isEmpty_iff.mpr hnonempty)
      have hnew : i ∉ reached := by simpa using (List.mem_filter.mp hi).2
      have hlt := missing_append_lt hi (hgrown i (List.mem_append_right _ hi)) hnew
      omega

lemma Moves.mem_moveUpTo_size (h : Moves size round step) {starts : List Nat}
    (hstarts : ∀ i ∈ starts, i ≤ size) (j : Nat) :
    j ∈ moveUpTo round (size + 1) starts starts ↔
      ∃ rounds, ∃ i ∈ starts, Rounds step rounds i j := by
  have htried : Tried step starts starts :=
    ⟨List.Subset.refl _, fun _ hi hnot => absurd hi hnot⟩
  constructor
  · intro hj
    obtain ⟨rounds, -, i, hi, hrounds⟩ := (h.mem_moveUpTo _ hstarts htried j).mp hj
    exact ⟨rounds, i, hi, hrounds⟩
  · rintro ⟨rounds, i, hi, hrounds⟩
    have hstart : i ∈ moveUpTo round (size + 1) starts starts :=
      (h.mem_moveUpTo _ hstarts htried i).mpr ⟨0, Nat.zero_le _, i, hi, rfl⟩
    exact hrounds.mem_of_closed hstart
      (h.closed_moveUpTo _ hstarts htried (missing_le size starts))

lemma Moves.mem_moveUpTo_starts (h : Moves size round step) (count : Nat) {starts : List Nat}
    (hstarts : ∀ i ∈ starts, i ≤ size) (j : Nat) :
    j ∈ moveUpTo round count starts starts ↔
      ∃ rounds ≤ count, ∃ i ∈ starts, Rounds step rounds i j :=
  h.mem_moveUpTo count hstarts ⟨List.Subset.refl _, fun _ hi hnot => absurd hi hnot⟩ j

lemma Rounds.le {count i j : Nat} (h : Rounds step count i j)
    (hle : ∀ i j, step i j → i ≤ size → j ≤ size) (hi : i ≤ size) : j ≤ size := by
  induction count generalizing i with
  | zero =>
    obtain rfl : i = j := h
    exact hi
  | succ count ih =>
    obtain ⟨next, hstep, hrest⟩ := h
    exact ih hrest (hle i next hstep hi)

/-- Rounds that are needed, and as many further ones as are allowed, are all the rounds. -/
lemma Moves.mem_times (h : Moves size round step) (least : Nat) (most : Option Nat)
    {starts : List Nat} (hstarts : ∀ i ∈ starts, i ≤ size) (j : Nat) :
    let needed := moveExactly round least starts
    let further := match most with
      | some most => most - least
      | none => size + 1
    j ∈ moveUpTo round further needed needed ↔
      ∃ i ∈ starts, ∃ count, least ≤ count ∧
        (∀ bound, most = some bound → count ≤ max least bound) ∧ Rounds step count i j := by
  intro needed further
  have hneeded : ∀ i ∈ needed, i ≤ size := by
    intro i hi
    obtain ⟨start, hstart, hrounds⟩ := (h.mem_moveExactly least hstarts i).mp hi
    exact hrounds.le h.le (hstarts start hstart)
  have hallowed : j ∈ moveUpTo round further needed needed ↔
      ∃ rounds, (∀ bound, most = some bound → rounds ≤ bound - least) ∧
        ∃ i ∈ needed, Rounds step rounds i j := by
    cases most with
    | none => simpa using h.mem_moveUpTo_size hneeded j
    | some bound => simpa using h.mem_moveUpTo_starts (bound - least) hneeded j
  rw [hallowed]
  constructor
  · rintro ⟨rounds, hbound, i, hi, hlater⟩
    obtain ⟨start, hstart, hfirst⟩ := (h.mem_moveExactly least hstarts i).mp hi
    refine ⟨start, hstart, least + rounds, Nat.le_add_right _ _, ?_, hfirst.trans hlater⟩
    intro bound hmost
    have hle := hbound bound hmost
    omega
  · rintro ⟨start, hstart, count, hleast, hbound, hrounds⟩
    obtain ⟨rounds, rfl⟩ := Nat.exists_eq_add_of_le hleast
    obtain ⟨i, hfirst, hlater⟩ := hrounds.exists_of_add
    refine ⟨rounds, ?_, i, (h.mem_moveExactly least hstarts i).mpr ⟨start, hstart, hfirst⟩, hlater⟩
    intro bound hmost
    have hle := hbound bound hmost
    omega

end

/-! ### Nodes -/

variable (text : Array Char)

lemma Node.le_of_matches (node : Node) {i j : Nat} (h : node.Matches text i j)
    (hi : i ≤ text.size) : j ≤ text.size := by
  induction node generalizing i j with
  | empty =>
    obtain rfl : i = j := h
    exact hi
  | chars set =>
    obtain ⟨⟨c, hc, -⟩, rfl⟩ := h
    obtain ⟨hlt, -⟩ := Array.getElem?_eq_some_iff.mp hc
    exact hlt
  | look condition =>
    obtain ⟨-, rfl⟩ := h
    exact hi
  | cat a b iha ihb =>
    obtain ⟨between, ha, hb⟩ := h
    exact ihb hb (iha ha hi)
  | alt a b iha ihb =>
    rcases h with ha | hb
    · exact iha ha hi
    · exact ihb hb hi
  | times body least most ih =>
    obtain ⟨count, -, -, hrounds⟩ := h
    exact hrounds.le (fun i j hstep hi => ih hstep hi) hi
  | capture body ih => exact ih h hi

/-- From positions within the text, a node leads to the ends of all matches that start at one of
them. -/
lemma Node.moves_ends (node : Node) : Moves text.size (node.ends text) (node.Matches text) := by
  refine ⟨?_, fun i j h hi => node.le_of_matches text h hi⟩
  intro starts hstarts j
  induction node generalizing starts j with
  | empty => simp [Node.ends, Node.Matches]
  | chars set =>
    rw [Node.ends, List.mem_filterMap]
    apply exists_congr
    intro i
    rw [Node.Matches, ← Option.any_eq_true]
    apply and_congr_right
    intro hi
    by_cases hmember : text[i]?.any set.contains = true <;> simp [hmember, eq_comm (a := j)]
  | look condition =>
    rw [Node.ends, List.mem_filter]
    constructor
    · rintro ⟨hj, hholds⟩
      exact ⟨j, hj, hholds, rfl⟩
    · rintro ⟨i, hi, hholds, rfl⟩
      exact ⟨hi, hholds⟩
  | cat a b iha ihb =>
    have hmiddle : ∀ i ∈ a.ends text starts, i ≤ text.size := by
      intro i hi
      obtain ⟨start, hstart, hmatch⟩ := (iha starts hstarts i).mp hi
      exact a.le_of_matches text hmatch (hstarts start hstart)
    rw [Node.ends, ihb _ hmiddle]
    constructor
    · rintro ⟨between, hbetween, hb⟩
      obtain ⟨i, hi, ha⟩ := (iha starts hstarts between).mp hbetween
      exact ⟨i, hi, between, ha, hb⟩
    · rintro ⟨i, hi, between, ha, hb⟩
      exact ⟨between, (iha starts hstarts between).mpr ⟨i, hi, ha⟩, hb⟩
  | alt a b iha ihb =>
    have hunite : j ∈ unite (a.ends text starts) (b.ends text starts) ↔
        j ∈ a.ends text starts ∨ j ∈ b.ends text starts := by
      by_cases hj : j ∈ a.ends text starts <;> simp [unite, hj]
    rw [Node.ends, hunite, iha starts hstarts, ihb starts hstarts]
    simp only [Node.Matches, and_or_left, exists_or]
  | times body least most ih =>
    have hbody : Moves text.size (body.ends text) (body.Matches text) :=
      ⟨ih, fun i j h hi => body.le_of_matches text h hi⟩
    exact hbody.mem_times least most hstarts j
  | capture body ih => exact ih starts hstarts j

/-- A node occurs in a text if the text has a match of it somewhere. -/
lemma Node.occursIn_iff (node : Node) :
    node.occursIn text = true ↔ ∃ i ≤ text.size, ∃ j, node.Matches text i j := by
  have hstarts : ∀ i ∈ List.range (text.size + 1), i ≤ text.size := by
    intro i hi
    exact Nat.le_of_lt_succ (List.mem_range.mp hi)
  have hmoved := (node.moves_ends text).mem_iff _ hstarts
  rw [Node.occursIn, Bool.not_eq_true', List.isEmpty_eq_false_iff_exists_mem]
  constructor
  · rintro ⟨j, hj⟩
    obtain ⟨i, hi, hmatch⟩ := (hmoved j).mp hj
    exact ⟨i, hstarts i hi, j, hmatch⟩
  · rintro ⟨i, hi, j, hmatch⟩
    exact ⟨j, (hmoved j).mpr ⟨i, List.mem_range.mpr (Nat.lt_succ_of_le hi), hmatch⟩⟩

/-- Between an assertion that the text starts and one that it ends, a node matches what it matches
from the start of the text to its end. -/
lemma Node.matches_anchored_iff (node : Node) (i j : Nat) :
    (Node.cat (.cat (.look .textStart) node) (.look .textEnd)).Matches text i j ↔
      i = 0 ∧ j = text.size ∧ node.Matches text i j := by
  simp only [Node.Matches, Look.holds, beq_iff_eq]
  constructor
  · rintro ⟨_, ⟨_, ⟨rfl, rfl⟩, hmatch⟩, rfl, rfl⟩
    exact ⟨rfl, rfl, hmatch⟩
  · rintro ⟨rfl, rfl, hmatch⟩
    exact ⟨_, ⟨_, ⟨rfl, rfl⟩, hmatch⟩, rfl, rfl⟩

end TableGrammar.Regex
