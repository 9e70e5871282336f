import Mathlib.Tactic.Common
import TableGrammar.Expression.Climb

/-!
# Reading an expression item by item

The items are read once, from left to right. At every moment either an operand is due or an
operator is; operators that still wait for their right operand are held on a stack, one stack for
each group that is open. A reading is what a climb has on its way: its tree on the left for each
tier, and its groups.
-/

namespace TableGrammar

variable {α : Type} (roles : Roles α)

/-! ### Readings -/

/-- An operator that has its left operand and waits for its right one. -/
structure Reading.Waiting (α : Type) where
  tier : Tier
  operator : α
  left : Tree α

/-- What is due next. -/
inductive Reading.Due (α : Type) where
  /-- An operand, after the item with the given text. -/
  | operand (after : String)
  /-- An operator, or the end of the group whose last operand is the given tree. -/
  | operator (last : Tree α)

/-- An expression that has been read in part. -/
structure Reading (α : Type) where
  due : Reading.Due α
  /-- The operators that wait in the innermost group, the latest first. -/
  waiting : List (Reading.Waiting α) := []
  /-- The operators that wait in the groups around it, the innermost group first. -/
  outer : List (List (Reading.Waiting α)) := []

/-- Gives the latest operators their right operand, as long as they bind at least as tightly as
`tier`. -/
def Reading.reduce (tier : Tier) :
    Tree α → List (Reading.Waiting α) → Tree α × List (Reading.Waiting α)
  | right, [] => (right, [])
  | right, operator :: waiting =>
    if tier.rank ≤ operator.tier.rank then
      Reading.reduce tier (.branch operator.operator operator.left right) waiting
    else
      (right, operator :: waiting)

/-- Gives all operators of a group their right operand. -/
def Reading.complete (last : Tree α) (waiting : List (Reading.Waiting α)) : Tree α :=
  (Reading.reduce Tier.lowest last waiting).1

/-- What reading one item leads to. -/
inductive Reading.Step (α : Type) where
  /-- The item is consumed, and reading goes on. -/
  | next (reading : Reading α)
  /-- Reading ends before the item. -/
  | before (outcome : Except Fault (Tree α))
  /-- Reading fails after the item. -/
  | after (error : Fault)

/-- Reads an item where an operand is due. -/
def Reading.readOperand (reading : Reading α) (after : String) (item : α) : Reading.Step α :=
  if roles.isStop item then .before (.error (.missingOperand after))
  else if roles.isClose item then .before (.error .unopenedParenthesis)
  else if roles.isOpen item then
    if reading.outer.length < Reading.maxDepth then
      .next { due := .operand (roles.text item), outer := reading.waiting :: reading.outer }
    else
      .after .depthExceeded
  else .next { reading with due := .operator (.leaf item) }

/-- Reads an item where an operator is due. The item that closes a group counts even if it would
end the expression elsewhere. -/
def Reading.readOperator (reading : Reading α) (last : Tree α) (item : α) : Reading.Step α :=
  match roles.tier? item with
  | some tier =>
    let (left, waiting) := Reading.reduce tier last reading.waiting
    .next { reading with
      due := .operand (roles.text item), waiting := ⟨tier, item, left⟩ :: waiting }
  | none =>
    match reading.outer with
    | [] => .before (.ok (Reading.complete last reading.waiting))
    | waiting :: outer =>
      if roles.isClose item then
        .next { due := .operator (Reading.complete last reading.waiting), waiting, outer }
      else
        .before (.error (.unclosedParenthesis (roles.text item)))

/-- Reads one item. -/
def Reading.read (reading : Reading α) (item : α) : Reading.Step α :=
  match reading.due with
  | .operand after => reading.readOperand roles after item
  | .operator last => reading.readOperator roles last item

/-- The outcome when no item is left. -/
def Reading.atEnd (reading : Reading α) : Except Fault (Tree α) :=
  match reading.due, reading.outer with
  | .operand after, _ => .error (.missingOperand after)
  | .operator last, [] => .ok (Reading.complete last reading.waiting)
  | .operator _, _ :: _ => .error (.unclosedParenthesis endOfInput)

/-- Reads items until the expression ends or a fault is met; what has not been consumed is
returned with the outcome. -/
def Reading.readAll (reading : Reading α) : List α → Except Fault (Tree α) × List α
  | [] => (reading.atEnd, [])
  | item :: rest =>
    match reading.read roles item with
    | .next further => further.readAll rest
    | .before outcome => (outcome, item :: rest)
    | .after error => (.error error, rest)

/-- What is left after reading is an end piece of what was given. -/
lemma Reading.readAll_suffix (reading : Reading α) (items : List α) :
    (reading.readAll roles items).2 <:+ items := by
  induction items generalizing reading with
  | nil => exact List.suffix_refl []
  | cons item rest ih =>
    rw [Reading.readAll]
    split
    · exact (ih _).trans (List.suffix_cons item rest)
    · exact List.suffix_refl _
    · exact List.suffix_cons item rest

/-! ### Giving waiting operators their right operand -/

/-- The latest waiting operator, if there is one, binds looser than the rank. -/
def Reading.LooserThan (rank : Nat) (waiting : List (Reading.Waiting α)) : Prop :=
  ∀ operator ∈ waiting.head?, operator.tier.rank < rank

@[simp] lemma Reading.looserThan_nil (rank : Nat) :
    Reading.LooserThan rank ([] : List (Reading.Waiting α)) := by
  simp [Reading.LooserThan]

@[simp] lemma Reading.looserThan_cons {rank : Nat} {operator : Reading.Waiting α}
    {waiting : List (Reading.Waiting α)} :
    Reading.LooserThan rank (operator :: waiting) ↔ operator.tier.rank < rank := by
  simp [Reading.LooserThan]

lemma Reading.LooserThan.mono {rank tighter : Nat} {waiting : List (Reading.Waiting α)}
    (h : Reading.LooserThan rank waiting) (hle : rank ≤ tighter) :
    Reading.LooserThan tighter waiting :=
  fun operator hoperator => Nat.lt_of_lt_of_le (h operator hoperator) hle

/-- Gives every one of the operators its right operand, the latest first. -/
def Reading.attach (last : Tree α) (operators : List (Reading.Waiting α)) : Tree α :=
  operators.foldl (fun right operator => .branch operator.operator operator.left right) last

/-- Reducing takes just the operators that bind at least as tightly. -/
lemma Reading.reduce_append (tier : Tier) (last : Tree α) (inner waiting : List (Reading.Waiting α))
    (hinner : ∀ operator ∈ inner, tier.rank ≤ operator.tier.rank)
    (hwaiting : Reading.LooserThan tier.rank waiting) :
    Reading.reduce tier last (inner ++ waiting) = (Reading.attach last inner, waiting) := by
  induction inner generalizing last with
  | nil =>
    cases waiting with
    | nil => rfl
    | cons operator waiting =>
      rw [Reading.looserThan_cons] at hwaiting
      simp only [List.nil_append, Reading.reduce, if_neg (Nat.not_le.mpr hwaiting)]
      rfl
  | cons operator inner ih =>
    simp only [List.cons_append, Reading.reduce, if_pos (hinner operator List.mem_cons_self)]
    exact ih _ fun other hother => hinner other (List.mem_cons_of_mem _ hother)

lemma Reading.complete_eq_attach (last : Tree α) (waiting : List (Reading.Waiting α)) :
    Reading.complete last waiting = Reading.attach last waiting := by
  have h := Reading.reduce_append Tier.lowest last waiting [] (fun _ _ => Nat.zero_le _)
    (Reading.looserThan_nil _)
  rw [List.append_nil] at h
  rw [Reading.complete, h]

end TableGrammar
