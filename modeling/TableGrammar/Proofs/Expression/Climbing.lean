import TableGrammar.Expression.OfTokens
import TableGrammar.Proofs.Expression.Advance

/-!
# Climbing is reading item by item

An expression is climbed by functions that call each other: a tier reads its operands at the next
tier, and a group starts again at the loosest one. Reading item by item goes over the same items
once, and has nothing but its stacks. The two agree (`readExpression_cons`): what a call returns to
is what waits on the stacks.

A reading gives operators their right operand as late as possible, when a looser operator or the end
of a group is met, and a climb returns from a tier as soon as no operator of the tier follows. That
it is the same comes from what follows then, which no tighter tier could go on with either
(`Climb.Leaves`).
-/

namespace TableGrammar

variable {α : Type} {roles : Roles α}

/-! ### What a climb leaves -/

/-- Whatever operator comes next binds looser than the rank. -/
def Roles.LooserNext (roles : Roles α) (rank : Nat) (items : List α) : Prop :=
  ∀ item ∈ items.head?, ∀ tier, roles.ActsAs tier item → tier.rank < rank

/-- If the climb succeeds, whatever operator comes next binds looser than the rank. -/
def Climb.Leaves {items : List α} (roles : Roles α) (rank : Nat) (climb : Climb items) : Prop :=
  ∀ tree, climb.outcome = .ok tree → roles.LooserNext rank climb.rest

lemma Roles.looserNext_zero_iff {items : List α} :
    roles.LooserNext 0 items ↔ roles.Halts items := by
  simp [Roles.LooserNext, Roles.Halts]

lemma Roles.looserNext_four (items : List α) : roles.LooserNext 4 items :=
  fun _ _ tier _ => tier.rank_lt_four

/-- An operator that does not end the expression acts as one, at its tightest tier. -/
lemma Roles.exists_actsAs {tier : Tier} {item : α} (hstop : roles.isStop item = false)
    (hoperator : roles.isOperator tier item = true) :
    ∃ tightest, tier.rank ≤ tightest.rank ∧ roles.ActsAs tightest item := by
  obtain ⟨tightest, hfound⟩ := Roles.exists_tier? hstop hoperator
  have hacts := Roles.tier?_eq_some_iff.mp hfound
  refine ⟨tightest, Nat.le_of_not_lt fun hlt => ?_, hacts⟩
  rw [hacts.tightest tier hlt] at hoperator
  exact Bool.false_ne_true hoperator

/-- Where nothing tighter comes next, an operator of the tier that is found acts as one. -/
lemma Roles.actsAs_of_operator? {tier : Tier} {operator : α} {items rest : List α}
    (hnext : roles.operator? tier items = some (operator, rest))
    (hlooser : roles.LooserNext (tier.rank + 1) items) : roles.ActsAs tier operator := by
  obtain rfl := Roles.eq_cons_of_operator? hnext
  simp only [Roles.operator?, Option.ite_none_right_eq_some, Bool.and_eq_true,
    Bool.not_eq_true'] at hnext
  obtain ⟨tightest, hle, hacts⟩ := Roles.exists_actsAs hnext.1.1 hnext.1.2
  have hlt : tightest.rank < tier.rank + 1 := hlooser operator rfl tightest hacts
  rwa [Tier.rank_injective (Nat.le_antisymm hle (Nat.le_of_lt_succ hlt))]

/-- Where nothing tighter comes next and no operator of the tier is found, none of the tier comes
next. -/
lemma Roles.LooserNext.of_operator? {tier : Tier} {items : List α}
    (h : roles.LooserNext (tier.rank + 1) items) (hnext : roles.operator? tier items = none) :
    roles.LooserNext tier.rank items := by
  intro item hitem other hacts
  refine Nat.lt_of_le_of_ne (Nat.le_of_lt_succ (h item hitem other hacts)) fun heq => ?_
  obtain ⟨rest, rfl⟩ := List.head?_eq_some_iff.mp hitem
  rw [Tier.rank_injective heq] at hacts
  simp [Roles.operator?, hacts.isStop, hacts.isOperator] at hnext

lemma Climb.Leaves.andThen {items : List α} {climb : Climb items}
    {next : Tree α → (rest : List α) → rest <:+ items → Climb rest} {looser tighter : Nat}
    (h : climb.Leaves roles tighter)
    (hnext : ∀ tree rest hrest, roles.LooserNext tighter rest →
      (next tree rest hrest).Leaves roles looser) :
    (climb.andThen next).Leaves roles looser := by
  obtain ⟨outcome, rest, hrest⟩ := climb
  cases outcome with
  | error fault => exact fun tree htree => nomatch htree
  | ok tree => exact hnext tree rest hrest (h tree rfl)

/-- A tier goes on until only looser operators than its own may come next. -/
lemma Roles.climb_leaves (roles : Roles α) :
    (∀ depth tier after items, (roles.climbTier depth tier after items).Leaves roles tier.rank) ∧
    (∀ depth tier left items, roles.LooserNext (tier.rank + 1) items →
      (roles.climbOperators depth tier left items).Leaves roles tier.rank) ∧
    (∀ depth tier after items,
      (roles.climbOperand depth tier after items).Leaves roles (tier.rank + 1)) ∧
    (∀ depth after items, (roles.climbFactor depth after items).Leaves roles 4) := by
  apply Roles.climbTier.mutual_induct roles
  -- a tier: its first operand, and what its operators join to it
  · intro depth tier after items ihoperand ihoperators
    rw [Roles.climbTier]
    exact ihoperand.andThen ihoperators
  -- no operator of the tier follows
  · intro depth tier left items hnext hlooser
    rw [Roles.climbOperators_of_none roles depth left hnext]
    exact fun _ _ => hlooser.of_operator? hnext
  -- an operator of the tier follows, and its right operand
  · intro depth tier left operator rest hnext ihoperand ihoperators _
    rw [Roles.climbOperators_cons roles depth left hnext]
    exact ihoperand.andThen fun right => ihoperators right
  -- an operand at the next tier
  · intro depth tier after items next hnext ih
    rw [Roles.climbOperand_of_next roles depth after items hnext, ← Tier.rank_of_next? hnext]
    exact ih
  -- a factor: no operator binds tighter
  · intro depth tier after items hnext ih
    rw [Roles.climbOperand_of_none roles depth after items hnext, Tier.rank_of_next?_eq_none hnext]
    exact ih
  all_goals
    intros
    exact fun _ _ => Roles.looserNext_four _

/-! ### Reading on from what was climbed -/

/-- Reads on from the tree of the climb, if there is one, among the operators and groups around
it. -/
def Climb.readOn {items : List α} (roles : Roles α) (waiting : List (Reading.Waiting α))
    (outer : List (List (Reading.Waiting α))) (climb : Climb items) :
    Except Fault (Tree α) × List α :=
  match climb.outcome with
  | .ok tree => Reading.readAll roles ⟨.operator tree, waiting, outer⟩ climb.rest
  | .error fault => (.error fault, climb.rest)

@[simp] lemma Climb.readOn_behind {items rest : List α} (waiting : List (Reading.Waiting α))
    (outer : List (List (Reading.Waiting α))) (climb : Climb rest) (suffix : rest <:+ items) :
    (climb.behind suffix).readOn roles waiting outer = climb.readOn roles waiting outer := rfl

/-- Reading on from a climb in two parts is reading on from the first, if that comes to the second
part, whatever waits around the first. -/
lemma Climb.readOn_andThen {items : List α} {climb : Climb items}
    {next : Tree α → (rest : List α) → rest <:+ items → Climb rest}
    {waiting inner : List (Reading.Waiting α)} {outer around : List (List (Reading.Waiting α))}
    (h : ∀ tree rest hrest, climb = .ok tree rest hrest →
      Reading.readAll roles ⟨.operator tree, inner, around⟩ rest =
        (next tree rest hrest).readOn roles waiting outer) :
    climb.readOn roles inner around = (climb.andThen next).readOn roles waiting outer := by
  obtain ⟨outcome, rest, hrest⟩ := climb
  cases outcome with
  | error fault => rfl
  | ok tree => exact h tree rest hrest rfl

/-- An operator that waits is given its right operand before any looser operator, and at the end of
its group. -/
lemma Reading.readAll_branch {tier : Tier} {operator : α} {left right : Tree α}
    {waiting : List (Reading.Waiting α)} {outer : List (List (Reading.Waiting α))} {items : List α}
    (h : roles.LooserNext (tier.rank + 1) items) :
    Reading.readAll roles ⟨.operator right, ⟨tier, operator, left⟩ :: waiting, outer⟩ items =
      Reading.readAll roles ⟨.operator (.branch operator left right), waiting, outer⟩ items := by
  have hcomplete : Reading.complete right (⟨tier, operator, left⟩ :: waiting) =
      Reading.complete (.branch operator left right) waiting := by
    rw [Reading.complete_eq_attach, Reading.complete_eq_attach]
    rfl
  cases items with
  | nil => cases outer <;> simp only [Reading.readAll, Reading.atEnd, hcomplete]
  | cons item rest =>
    suffices hread : Reading.read roles
        ⟨.operator right, ⟨tier, operator, left⟩ :: waiting, outer⟩ item =
        Reading.read roles ⟨.operator (.branch operator left right), waiting, outer⟩ item by
      rw [Reading.readAll, Reading.readAll, hread]
    simp only [Reading.read, Reading.readOperator, hcomplete]
    cases hfound : roles.tier? item with
    | none => rfl
    | some found =>
      have hle : found.rank ≤ tier.rank :=
        Nat.le_of_lt_succ (h item rfl found (Roles.tier?_eq_some_iff.mp hfound))
      simp only [Reading.reduce, if_pos hle]

/-- Where no operator comes next, a group is closed or a fault is met. -/
lemma Reading.readAll_closeGroup {inner : Tree α} {waiting : List (Reading.Waiting α)}
    {outer : List (List (Reading.Waiting α))} {items : List α} (h : roles.Halts items) :
    Reading.readAll roles ⟨.operator inner, [], waiting :: outer⟩ items =
      (roles.closeGroup inner items).readOn roles waiting outer := by
  cases items with
  | nil => rfl
  | cons item rest =>
    have htier : roles.tier? item = none := Roles.tier?_eq_none_iff.mpr (h item rfl)
    rw [Reading.readAll]
    simp only [Reading.read, Reading.readOperator, htier, Roles.closeGroup]
    split_ifs <;> rfl

/-! ### The calls and the stacks -/

/-- Reading the items where an operand is due comes to what reading on from the climb comes to, for
any operators that wait for the climb and bind looser than the rank, and any groups around it. -/
def Climb.IsReadBy {items : List α} (roles : Roles α) (depth rank : Nat) (due : Reading.Due α)
    (climb : Climb items) : Prop :=
  ∀ waiting outer, Reading.LooserThan rank waiting → outer.length = depth →
    Reading.readAll roles ⟨due, waiting, outer⟩ items = climb.readOn roles waiting outer

/-- Where an operator of the tier comes next, it waits while its right operand is read, and then the
two are joined. -/
lemma Climb.IsReadBy.operators {depth : Nat} {tier : Tier} {left : Tree α} {operator : α}
    {rest : List α}
    (hread : (roles.climbOperand depth tier (roles.text operator) rest).IsReadBy roles depth
      (tier.rank + 1) (.operand (roles.text operator)))
    (hnext : roles.operator? tier (operator :: rest) = some (operator, rest))
    (hlooser : roles.LooserNext (tier.rank + 1) (operator :: rest))
    (hleaves : (roles.climbOperand depth tier (roles.text operator) rest).Leaves roles
      (tier.rank + 1))
    (hlater : ∀ right rest', rest' <:+ rest → roles.LooserNext (tier.rank + 1) rest' →
      (roles.climbOperators depth tier (.branch operator left right) rest').IsReadBy roles depth
        tier.rank (.operator (.branch operator left right))) :
    (roles.climbOperators depth tier left (operator :: rest)).IsReadBy roles depth tier.rank
      (.operator left) := by
  intro waiting outer hwaiting houter
  have hreduce : Reading.reduce tier left waiting = (left, waiting) :=
    Reading.reduce_append tier left [] waiting (by simp) hwaiting
  have hadvances : Reading.Advances roles operator ⟨.operator left, waiting, outer⟩
      ⟨.operand (roles.text operator), ⟨tier, operator, left⟩ :: waiting, outer⟩ :=
    .operator (Roles.actsAs_of_operator? hnext hlooser) hreduce
  rw [hadvances.readAll_cons, hread _ outer (by simp) houter,
    Roles.climbOperators_cons roles depth left hnext, Climb.readOn_behind]
  refine Climb.readOn_andThen fun right rest' hrest hclimb => ?_
  rw [hclimb] at hleaves
  have hafter : roles.LooserNext (tier.rank + 1) rest' := hleaves right rfl
  rw [Reading.readAll_branch hafter]
  exact hlater right rest' hrest hafter waiting outer hwaiting houter

/-- A group is read with nothing waiting in it, and what waits around it is back behind its end. -/
lemma Climb.IsReadBy.group {depth : Nat} {item : α} {rest : List α}
    (hread : (roles.climbTier (depth + 1) .lowest (roles.text item) rest).IsReadBy roles
      (depth + 1) Tier.lowest.rank (.operand (roles.text item)))
    (hopens : roles.Opens item)
    (hleaves : (roles.climbTier (depth + 1) .lowest (roles.text item) rest).Leaves roles
      Tier.lowest.rank) (after : String) :
    (roles.climbFactor depth after (item :: rest)).IsReadBy roles depth 4 (.operand after) := by
  intro waiting outer _ houter
  obtain ⟨hstop, hopen, hclose⟩ := hopens
  simp only [Roles.climbFactor, hstop, hclose, hopen, Bool.false_eq_true, if_false, if_true,
    Climb.readOn_behind, Climb.deeper]
  by_cases hdepth : outer.length < Reading.maxDepth
  · have hadvances : Reading.Advances roles item ⟨.operand after, waiting, outer⟩
        ⟨.operand (roles.text item), [], waiting :: outer⟩ :=
      .opening ⟨hstop, hopen, hclose⟩ hdepth
    rw [if_neg (by omega), hadvances.readAll_cons,
      hread [] (waiting :: outer) (Reading.looserThan_nil _) (by simp [houter])]
    refine Climb.readOn_andThen fun inner rest' hrest hclimb => ?_
    rw [hclimb] at hleaves
    exact Reading.readAll_closeGroup (Roles.looserNext_zero_iff.mp (hleaves inner rfl))
  · rw [if_pos (by omega)]
    simp only [Reading.readAll, Reading.read, Reading.readOperand, hstop, hclose, hopen,
      if_neg hdepth, Bool.false_eq_true, if_false, if_true]
    rfl

/-- What a call climbs is what is read while what it returns to is on the stacks. -/
lemma Roles.climb_isReadBy (roles : Roles α) :
    (∀ depth tier after items,
      (roles.climbTier depth tier after items).IsReadBy roles depth tier.rank (.operand after)) ∧
    (∀ depth tier left items, roles.LooserNext (tier.rank + 1) items →
      (roles.climbOperators depth tier left items).IsReadBy roles depth tier.rank
        (.operator left)) ∧
    (∀ depth tier after items,
      (roles.climbOperand depth tier after items).IsReadBy roles depth (tier.rank + 1)
        (.operand after)) ∧
    (∀ depth after items,
      (roles.climbFactor depth after items).IsReadBy roles depth 4 (.operand after)) := by
  obtain ⟨hleavestier, -, hleavesoperand, -⟩ := roles.climb_leaves
  apply Roles.climbTier.mutual_induct roles
  -- a tier
  · intro depth tier after items ihoperand ihoperators waiting outer hwaiting houter
    have hlooser := hleavesoperand depth tier after items
    rw [ihoperand waiting outer (hwaiting.mono (Nat.le_succ _)) houter, Roles.climbTier]
    refine Climb.readOn_andThen fun left rest hrest hclimb => ?_
    rw [hclimb] at hlooser
    exact ihoperators left rest hrest (hlooser left rfl) waiting outer hwaiting houter
  -- no operator of the tier follows
  · intro depth tier left items hnext _ waiting outer _ _
    rw [Roles.climbOperators_of_none roles depth left hnext]
    rfl
  -- an operator of the tier
  · intro depth tier left operator rest hnext ihoperand ihoperators hlooser
    exact ihoperand.operators hnext hlooser (hleavesoperand depth tier (roles.text operator) rest)
      ihoperators
  -- an operand at the next tier
  · intro depth tier after items next hnext ih
    rw [Roles.climbOperand_of_next roles depth after items hnext, ← Tier.rank_of_next? hnext]
    exact ih
  -- an operand of the tightest tier
  · intro depth tier after items hnext ih
    rw [Roles.climbOperand_of_none roles depth after items hnext, Tier.rank_of_next?_eq_none hnext]
    exact ih
  -- a factor where no item is left
  · intro depth after waiting outer _ _
    rw [Roles.climbFactor]
    rfl
  -- an item that ends the expression
  · intro depth after item rest hstop waiting outer _ _
    simp only [Reading.readAll, Reading.read, Reading.readOperand, Roles.climbFactor, hstop,
      if_true]
    rfl
  -- an item that closes a group
  · intro depth after item rest hstop hclose waiting outer _ _
    simp only [Reading.readAll, Reading.read, Reading.readOperand, Roles.climbFactor, hstop,
      hclose, if_true]
    rfl
  -- a group
  · intro depth after item rest hstop hclose hopen ih
    rw [Bool.not_eq_true] at hstop hclose
    exact (ih (depth + 1)).group ⟨hstop, hopen, hclose⟩
      (hleavestier (depth + 1) .lowest (roles.text item) rest) after
  -- a single item
  · intro depth after item rest hstop hclose hopen waiting outer _ _
    simp only [Reading.readAll, Reading.read, Reading.readOperand, Roles.climbFactor, hstop,
      hclose, hopen]
    rfl

/-- Unless the first item ends the expression, reading it starts where an operand is due. -/
theorem readExpression_cons (roles : Roles α) {first : α} (tail : List α)
    (h : roles.isStop first = false) :
    readExpression roles (first :: tail) =
      Prod.map (Except.map some) id
        (Reading.readAll roles { due := .operand endOfInput } (first :: tail)) := by
  have hread := roles.climb_isReadBy.1 0 .lowest endOfInput (first :: tail) [] []
    (Reading.looserThan_nil _) rfl
  have hleaves := roles.climb_leaves.1 0 .lowest endOfInput (first :: tail)
  simp only [readExpression, h, Bool.false_eq_true, if_false, hread]
  generalize roles.climbTier 0 .lowest endOfInput (first :: tail) = climb at hleaves ⊢
  obtain ⟨outcome, rest, hrest⟩ := climb
  cases outcome with
  | error fault => rfl
  | ok tree =>
    have hcompletes : Reading.Completes ⟨.operator tree, [], []⟩ tree := ⟨tree, rfl, rfl, rfl⟩
    have hhalts : roles.Halts rest := Roles.looserNext_zero_iff.mp (hleaves tree rfl)
    simp only [Climb.readOn, hcompletes.readAll hhalts]
    rfl

/-- The same, off a cursor. -/
lemma Cursor.readExpression_cons {operators : Operators String} {stops : List Matcher}
    {cursor : Cursor} {first : Token} {tail : List Token}
    (hremaining : cursor.remaining = first :: tail)
    (h : (Roles.ofTokens operators stops).isStop first = false) :
    cursor.readExpression operators stops =
      let read := Reading.readAll (Roles.ofTokens operators stops) { due := .operand endOfInput }
        (first :: tail)
      (read.1.map some, cursor.advance ((first :: tail).length - read.2.length)) := by
  simp only [Cursor.readExpression, hremaining, TableGrammar.readExpression_cons _ tail h]
  rfl

end TableGrammar
