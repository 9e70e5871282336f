import TableGrammar.Expression.OfTokens
import TableGrammar.Proofs.Expression.Climbing

/-!
# Reading is a flat sweep

Whether an expression can be read, which fault is met and how many items are consumed does not
depend on the tiers of the operators. A sweep over the items with two modes and one counter, which
builds no tree and holds no stack, comes to the same verdict (`readExpression_eq_sweep`).

Every reading has a sweep as its shadow: the mode says what is due, and the counter is the number of
groups that are open.
-/

namespace TableGrammar

variable {α : Type} {roles : Roles α}

/-! ### Sweeps -/

/-- What a sweep expects next. -/
inductive Sweep.Mode where
  | operand
  | operator

/-- A sweep that is under way. The consumed items are held latest first. -/
structure Sweep (α : Type) where
  mode : Sweep.Mode := .operand
  depth : Nat := 0
  consumed : List α := []

/-- What a sweep does at an item: it goes on, or it ends with a verdict after so many items. -/
inductive Sweep.Step (α : Type) where
  | next (sweep : Sweep α)
  | done (verdict : Except Fault Unit) (count : Nat)

/-- The text of the item that was consumed last. -/
def Roles.lastText (roles : Roles α) (consumed : List α) : String :=
  (consumed.head?.map roles.text).getD endOfInput

/-- Does the item act as an operator of some tier? -/
def Roles.isActive (roles : Roles α) (item : α) : Bool :=
  !roles.isStop item && Tier.tightestFirst.any fun tier => roles.isOperator tier item

/-- Meets one item. -/
def Sweep.meet (roles : Roles α) (sweep : Sweep α) (item : α) : Sweep.Step α :=
  match sweep.mode with
  | .operand =>
    if roles.isStop item then
      .done (.error (.missingOperand (roles.lastText sweep.consumed))) sweep.consumed.length
    else if roles.isClose item then
      .done (.error .unopenedParenthesis) sweep.consumed.length
    else if roles.isOpen item then
      if sweep.depth = 128 then
        .done (.error .depthExceeded) (sweep.consumed.length + 1)
      else
        .next ⟨.operand, sweep.depth + 1, item :: sweep.consumed⟩
    else
      .next ⟨.operator, sweep.depth, item :: sweep.consumed⟩
  | .operator =>
    if roles.isActive item then
      .next ⟨.operand, sweep.depth, item :: sweep.consumed⟩
    else if sweep.depth = 0 then
      .done (.ok ()) sweep.consumed.length
    else if roles.isClose item then
      .next ⟨.operator, sweep.depth - 1, item :: sweep.consumed⟩
    else
      .done (.error (.unclosedParenthesis (roles.text item))) sweep.consumed.length

/-- The verdict when no item is left. -/
def Sweep.atEnd (roles : Roles α) (sweep : Sweep α) : Except Fault Unit :=
  match sweep.mode with
  | .operand => .error (.missingOperand (roles.lastText sweep.consumed))
  | .operator =>
    if sweep.depth = 0 then .ok () else .error (.unclosedParenthesis endOfInput)

/-- Sweeps over the items; the verdict comes with the number of items consumed. -/
def Sweep.run (roles : Roles α) (sweep : Sweep α) : List α → Except Fault Unit × Nat
  | [] => (sweep.atEnd roles, sweep.consumed.length)
  | item :: rest =>
    match sweep.meet roles item with
    | .next further => further.run roles rest
    | .done verdict count => (verdict, count)

/-! ### The shadow of a reading -/

/-- What is due, without the tree read last. -/
def Reading.Due.mode : Reading.Due α → Sweep.Mode
  | .operand _ => .operand
  | .operator _ => .operator

/-- What a sweep keeps of a reading that has consumed some items. -/
def Reading.sweep (reading : Reading α) (consumed : List α) : Sweep α :=
  ⟨reading.due.mode, reading.outer.length, consumed⟩

/-- An outcome without its tree. -/
def Reading.verdict (outcome : Except Fault (Tree α)) : Except Fault Unit :=
  outcome.map fun _ => ()

/-- What a sweep keeps of a step at an item. -/
def Reading.Step.sweep (consumed : List α) (item : α) : Reading.Step α → Sweep.Step α
  | .next further => .next (further.sweep (item :: consumed))
  | .before outcome => .done (Reading.verdict outcome) consumed.length
  | .after error => .done (.error error) (consumed.length + 1)

/-- The reading has opened no more groups than it may, and names the last consumed item where an
operand is due. -/
structure Reading.Recalls (roles : Roles α) (reading : Reading α) (consumed : List α) : Prop where
  depth : reading.outer.length ≤ Reading.maxDepth
  after : ∀ text, reading.due = .operand text → text = roles.lastText consumed

lemma Roles.isActive_eq_isSome (item : α) : roles.isActive item = (roles.tier? item).isSome := by
  unfold Roles.isActive Roles.tier?
  cases roles.isStop item with
  | true => rfl
  | false =>
    rw [if_neg Bool.false_ne_true, List.isSome_find?]
    rfl

lemma Reading.Recalls.meet_readOperand {reading : Reading α} {consumed : List α} {after : String}
    (h : reading.Recalls roles consumed) (hdue : reading.due = .operand after) (item : α) :
    (reading.sweep consumed).meet roles item =
      (reading.readOperand roles after item).sweep consumed item := by
  -- the groups that are open are within the bound, so the two tests of the bound come to the same
  have hdepth : reading.outer.length < Reading.maxDepth ↔ ¬ reading.outer.length = 128 :=
    Nat.lt_iff_le_and_ne.trans (and_iff_right h.depth)
  simp only [Sweep.meet, Reading.sweep, hdue, Reading.Due.mode, Reading.readOperand, hdepth]
  rw [h.after after hdue]
  split_ifs <;> rfl

lemma Reading.Recalls.meet_readOperator {reading : Reading α} {consumed : List α} {last : Tree α}
    (hdue : reading.due = .operator last) (item : α) :
    (reading.sweep consumed).meet roles item =
      (reading.readOperator roles last item).sweep consumed item := by
  simp only [Sweep.meet, Reading.sweep, hdue, Reading.Due.mode, Reading.readOperator,
    Roles.isActive_eq_isSome]
  cases roles.tier? item with
  | some tier => rfl
  | none =>
    cases houter : reading.outer with
    | nil => rfl
    | cons waiting outer =>
      rw [if_neg (by simp), if_neg (by simp)]
      simp only
      split_ifs <;> rfl

/-- The sweep does at an item what the reading does. -/
lemma Reading.Recalls.meet {reading : Reading α} {consumed : List α}
    (h : reading.Recalls roles consumed) (item : α) :
    (reading.sweep consumed).meet roles item = (reading.read roles item).sweep consumed item := by
  unfold Reading.read
  split
  case h_1 after hdue => exact h.meet_readOperand hdue item
  case h_2 last hdue => exact Reading.Recalls.meet_readOperator hdue item

/-- One more item leaves the reading within its bound, and where an operand is due after it, it is
the item that is named. -/
lemma Reading.Recalls.advance {reading further : Reading α} {consumed : List α} {item : α}
    (h : reading.Recalls roles consumed) (hadvances : reading.Advances roles item further) :
    further.Recalls roles (item :: consumed) := by
  cases hadvances with
  | opening hopens hdepth => exact ⟨hdepth, fun text htext => by cases htext; rfl⟩
  | operand hoperand => exact ⟨h.depth, fun text htext => by cases htext⟩
  | operator hacts hreduce => exact ⟨h.depth, fun text htext => by cases htext; rfl⟩
  | closing hcloses => exact ⟨Nat.le_of_succ_le h.depth, fun text htext => by cases htext⟩

lemma Reading.Recalls.atEnd {reading : Reading α} {consumed : List α}
    (h : reading.Recalls roles consumed) :
    (reading.sweep consumed).atEnd roles = Reading.verdict reading.atEnd := by
  unfold Reading.atEnd
  split
  case h_1 after hdue =>
    simp only [Sweep.atEnd, Reading.sweep, hdue, Reading.Due.mode]
    rw [← h.after after hdue]
    rfl
  case h_2 last hdue houter =>
    simp only [Sweep.atEnd, Reading.sweep, hdue, houter, Reading.Due.mode]
    rfl
  case h_3 last waiting outer hdue houter =>
    simp only [Sweep.atEnd, Reading.sweep, hdue, houter, Reading.Due.mode]
    rfl

/-- A whole sweep comes to the verdict of the reading and consumes the same items. -/
lemma Reading.Recalls.run {reading : Reading α} {consumed : List α}
    (h : reading.Recalls roles consumed) (items : List α) :
    (reading.sweep consumed).run roles items =
      (Reading.verdict (reading.readAll roles items).1,
        consumed.length + (items.length - (reading.readAll roles items).2.length)) := by
  induction items generalizing reading consumed with
  | nil =>
    rw [Sweep.run, h.atEnd]
    rfl
  | cons item items ih =>
    rw [Sweep.run, h.meet, Reading.readAll]
    cases hread : reading.read roles item with
    | next further =>
      -- no more items can be left than there were, so what has been consumed can be subtracted
      have hle := (Reading.readAll_suffix roles further items).length_le
      simp only [Reading.Step.sweep]
      rw [ih (h.advance (Reading.read_eq_next_iff.mp hread)), List.length_cons, List.length_cons]
      congr 1
      omega
    | before outcome => simp [Reading.Step.sweep]
    | after error =>
      simp only [Reading.Step.sweep, List.length_cons, Nat.add_sub_cancel_left]
      rfl

/-! ### Sweeping and reading agree -/

/-- An expression starts with these items: there is a first one, and it does not end it. -/
def Roles.Starts (roles : Roles α) (items : List α) : Prop :=
  ∃ first ∈ items.head?, roles.isStop first = false

/-- Reading an expression comes to the verdict of a sweep and leaves what the sweep leaves. -/
lemma Roles.Starts.readExpression {items : List α} (h : roles.Starts items) :
    (readExpression roles items).1.map (fun _ => ()) = (Sweep.run roles {} items).1 ∧
      (readExpression roles items).2 = items.drop (Sweep.run roles {} items).2 ∧
      (Sweep.run roles {} items).2 ≤ items.length := by
  obtain ⟨first, hfirst, hstop⟩ := h
  obtain ⟨tail, rfl⟩ := List.head?_eq_some_iff.mp hfirst
  have hrecalls : Reading.Recalls roles { due := .operand endOfInput } [] :=
    ⟨Nat.zero_le _, fun text htext => by cases htext; rfl⟩
  have hrun := hrecalls.run (first :: tail)
  have hsuffix := Reading.readAll_suffix roles { due := .operand endOfInput } (first :: tail)
  rw [List.length_nil, Nat.zero_add] at hrun
  rw [readExpression_cons roles tail hstop, show Sweep.run roles {} (first :: tail) = _ from hrun]
  refine ⟨?_, List.suffix_iff_eq_drop.mp hsuffix, Nat.sub_le _ _⟩
  simp only [Prod.map_fst]
  cases (Reading.readAll roles { due := .operand endOfInput } (first :: tail)).1 <;> rfl

lemma readExpression_of_not_starts {items : List α} (h : ¬ roles.Starts items) :
    readExpression roles items = (.ok none, items) := by
  cases items with
  | nil => rfl
  | cons first tail =>
    have hstop : roles.isStop first = true := by simpa [Roles.Starts] using h
    exact readExpression_cons_of_stop roles tail hstop

/-- Where an expression starts, reading it comes to the verdict of a flat sweep and consumes the
items that the sweep consumes. Reading off a cursor never changes its tokens and moves it over just
those items; where no expression starts, it leaves the cursor alone. -/
theorem readExpression_eq_sweep :
    (∀ (α : Type) (roles : Roles α) (items : List α), roles.Starts items →
      (readExpression roles items).1.map (fun _ => ()) = (Sweep.run roles {} items).1 ∧
      (readExpression roles items).2 = items.drop (Sweep.run roles {} items).2 ∧
      (Sweep.run roles {} items).2 ≤ items.length) ∧
    ∀ (operators : Operators String) (stops : List Matcher) (cursor : Cursor),
      (cursor.readExpression operators stops).2.tokens = cursor.tokens ∧
      ((Roles.ofTokens operators stops).Starts cursor.remaining →
        (cursor.readExpression operators stops).1.map (fun _ => ()) =
          (Sweep.run (Roles.ofTokens operators stops) {} cursor.remaining).1 ∧
        (cursor.readExpression operators stops).2.position = cursor.position +
          (Sweep.run (Roles.ofTokens operators stops) {} cursor.remaining).2) ∧
      (¬ (Roles.ofTokens operators stops).Starts cursor.remaining →
        cursor.readExpression operators stops = (.ok none, cursor)) := by
  refine ⟨fun α roles items h => h.readExpression, fun operators stops cursor => ⟨rfl, ?_, ?_⟩⟩
  · intro h
    obtain ⟨hverdict, hrest, hle⟩ := h.readExpression
    refine ⟨hverdict, ?_⟩
    simp only [Cursor.readExpression, Cursor.advance, hrest, List.length_drop]
    omega
  · intro h
    simp only [Cursor.readExpression, readExpression_of_not_starts h, Nat.sub_self]
    rfl

/-- Read from its second token on, `x ( a + b ;` opens a group that is not closed before the token
that ends the expression, and that token is named. -/
theorem readExpression_eq_sweep_unclosed :
    let cursor : Cursor :=
      { tokens := [⟨.identifier, "x"⟩, ⟨.character, "("⟩, ⟨.identifier, "a"⟩, ⟨.operator, "+"⟩,
          ⟨.identifier, "b"⟩, ⟨.character, ";"⟩]
        position := 1 }
    let stops : List Matcher := [.exact ⟨.character, ";"⟩]
    (Roles.ofTokens .standard stops).Starts cursor.remaining ∧
      (cursor.readExpression .standard stops).1.map (fun _ => ()) =
        .error (.unclosedParenthesis ";") ∧
      (cursor.readExpression .standard stops).2.position = 5 := by
  intro cursor stops
  have hstarts : (Roles.ofTokens .standard stops).Starts cursor.remaining := ⟨_, rfl, rfl⟩
  obtain ⟨hverdict, hposition⟩ := (readExpression_eq_sweep.2 .standard stops cursor).2.1 hstarts
  exact ⟨hstarts, hverdict, hposition⟩

end TableGrammar
