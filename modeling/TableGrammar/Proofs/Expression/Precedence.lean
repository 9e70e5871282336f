import TableGrammar.Proofs.Expression.Climbing
import TableGrammar.Proofs.Expression.Derivation

/-!
# Reading follows the grammar

An expression is read off the front of a list of items exactly when those items derive it and
nothing that follows could continue it (`readExpression_eq_ok_some_iff_derives`).

That what is read is derived rests on an invariant of every reading that is under way: each waiting
operator stands behind a chain of its own tier, and the tiers get tighter from the first waiting
operator to the latest. That what is derived is read is an induction on the derivation, for any
operators that wait outside it.
-/

namespace TableGrammar

variable {α : Type} {roles : Roles α}

/-! ### What is read is derived -/

lemma Reading.looserThan_factor (waiting : List (Reading.Waiting α)) :
    Reading.LooserThan Phrase.factor.rank waiting :=
  fun operator _ => operator.tier.rank_lt_four

lemma Reading.eq_nil_of_looserThan_lowest {waiting : List (Reading.Waiting α)}
    (h : Reading.LooserThan Tier.lowest.rank waiting) : waiting = [] := by
  cases waiting with
  | nil => rfl
  | cons operator waiting => exact absurd (Reading.looserThan_cons.mp h) (Nat.not_lt_zero _)

/-- The items that lie behind the waiting operators of one group, when groups inside it may be
nested `depth` deep: each operator is preceded by a chain of its tier, which is its left operand,
and binds tighter than the one that waits before it. -/
inductive Roles.Awaits (roles : Roles α) (depth : Nat) :
    List (Reading.Waiting α) → List α → Prop where
  | nil : Awaits roles depth [] []
  | cons {tier : Tier} {operator : α} {left : Tree α} {waiting : List (Reading.Waiting α)}
      {items operands : List α} (h : Awaits roles depth waiting items)
      (hleft : roles.Derives (.chain tier) depth operands left)
      (hoperator : roles.ActsAs tier operator) (hlooser : Reading.LooserThan tier.rank waiting) :
      Awaits roles depth (⟨tier, operator, left⟩ :: waiting) (items ++ operands ++ [operator])

/-- Reducing moves items from the waiting operators into a chain of the given tier. -/
lemma Roles.Awaits.reduce {depth : Nat} {waiting : List (Reading.Waiting α)} {items : List α}
    (h : roles.Awaits depth waiting items) {phrase : Phrase} {operand : List α} {right : Tree α}
    (hright : roles.Derives phrase depth operand right)
    (hlooser : Reading.LooserThan phrase.rank waiting) (tier : Tier)
    (htier : tier.rank ≤ phrase.rank) :
    ∃ items' operand', items ++ operand = items' ++ operand' ∧
      roles.Awaits depth (Reading.reduce tier right waiting).2 items' ∧
      roles.Derives (.chain tier) depth operand' (Reading.reduce tier right waiting).1 ∧
      Reading.LooserThan tier.rank (Reading.reduce tier right waiting).2 := by
  induction h generalizing phrase operand right with
  | nil => exact ⟨[], operand, rfl, .nil, hright.loosen htier, Reading.looserThan_nil _⟩
  | @cons latest operator left waiting items operands h hleft hoperator hlatest ih =>
    rw [Reading.looserThan_cons] at hlooser
    rw [Reading.reduce]
    split_ifs with hle
    · -- the latest operator and its two operands make up a longer chain of its tier
      have hoperand : roles.Derives latest.operands depth operand right :=
        hright.loosen (by rw [Phrase.rank_operands]; exact hlooser)
      obtain ⟨items', operand', heq, hrest⟩ := ih (.chain hleft hoperator hoperand) hlatest hle
      refine ⟨items', operand', ?_, hrest⟩
      rw [← heq]
      simp
    · exact ⟨_, operand, rfl, .cons h hleft hoperator hlatest, hright.loosen htier,
        Reading.looserThan_cons.mpr (Nat.lt_of_not_le hle)⟩

/-- The items of a whole group derive its tree. -/
lemma Roles.Awaits.complete {depth : Nat} {waiting : List (Reading.Waiting α)} {items : List α}
    (h : roles.Awaits depth waiting items) {operand : List α} {last : Tree α}
    (hlast : roles.Derives .factor depth operand last) :
    roles.Derives (.chain .lowest) depth (items ++ operand) (Reading.complete last waiting) := by
  obtain ⟨items', operand', heq, hawaits, hderives, hlooser⟩ :=
    h.reduce hlast (Reading.looserThan_factor waiting) .lowest (Nat.zero_le _)
  rw [Reading.eq_nil_of_looserThan_lowest hlooser] at hawaits
  cases hawaits with
  | nil =>
    rw [heq]
    exact hderives

/-- The items that lie behind the groups that are open: those of each group so far, and the item
that opened the next one. Inside the innermost group `depth` more may be opened. -/
inductive Roles.Encloses (roles : Roles α) :
    Nat → List (List (Reading.Waiting α)) → List α → Prop where
  | nil : Encloses roles Reading.maxDepth [] []
  | cons {depth : Nat} {opening : α} {waiting : List (Reading.Waiting α)}
      {outer : List (List (Reading.Waiting α))} {items inner : List α}
      (h : Encloses roles (depth + 1) outer items)
      (hwaiting : roles.Awaits (depth + 1) waiting inner)
      (hopening : roles.Opens opening) :
      Encloses roles depth (waiting :: outer) (items ++ inner ++ [opening])

/-- Every open group uses up one of the groups that may be nested. -/
lemma Roles.Encloses.depth_add_length {depth : Nat} {outer : List (List (Reading.Waiting α))}
    {items : List α} (h : roles.Encloses depth outer items) :
    depth + outer.length = Reading.maxDepth := by
  induction h with
  | nil => rfl
  | cons h hwaiting hopening ih =>
    rw [List.length_cons, ← ih]
    omega

/-- The items that make up what has been read last: none where an operand is due, and those of the
last operand where an operator is. -/
def Roles.Supplies (roles : Roles α) (depth : Nat) (items : List α) : Reading.Due α → Prop
  | .operand _ => items = []
  | .operator last => roles.Derives .factor depth items last

/-- A reading accounts for the items read so far: those around the innermost group, those behind its
waiting operators, and those of its last operand. -/
def Reading.Accounts (roles : Roles α) (reading : Reading α) (items : List α) : Prop :=
  ∃ depth before inner operand, items = before ++ inner ++ operand ∧
    roles.Encloses depth reading.outer before ∧ roles.Awaits depth reading.waiting inner ∧
    roles.Supplies depth operand reading.due

lemma Reading.accounts_nil (roles : Roles α) (after : String) :
    Reading.Accounts roles { due := .operand after } [] :=
  ⟨Reading.maxDepth, [], [], [], rfl, .nil, .nil, rfl⟩

/-- What a reading accounts for includes every further item it goes past. -/
lemma Reading.Accounts.advance {reading further : Reading α} {items : List α} {item : α}
    (h : reading.Accounts roles items) (hadvances : reading.Advances roles item further) :
    further.Accounts roles (items ++ [item]) := by
  obtain ⟨depth, before, inner, operand, rfl, houter, hwaiting, hoperand⟩ := h
  cases hadvances with
  | @opening after waiting outer hopens hdepth =>
    obtain rfl : operand = [] := hoperand
    -- the group leaves room for one less inside it
    have hlength : depth + outer.length = Reading.maxDepth := houter.depth_add_length
    obtain ⟨depth, rfl⟩ : ∃ less, depth = less + 1 := Nat.exists_eq_succ_of_ne_zero (by omega)
    exact ⟨depth, _, [], [], by simp, .cons houter hwaiting hopens, .nil, rfl⟩
  | operand hitem =>
    obtain rfl : operand = [] := hoperand
    exact ⟨depth, before, inner, [item], by simp, houter, hwaiting, .item hitem⟩
  | @operator tier last left waiting further outer hacts hreduce =>
    replace hoperand : roles.Derives .factor depth operand last := hoperand
    have htier : tier.rank ≤ Phrase.factor.rank := Nat.le_of_lt tier.rank_lt_four
    -- the operators that bind at least as tight are reduced, and the new one waits for its operand
    obtain ⟨items', operand', heq, hawaits, hderives, hlooser⟩ :=
      hwaiting.reduce hoperand (Reading.looserThan_factor _) tier htier
    rw [hreduce] at hawaits hderives hlooser
    refine ⟨depth, before, items' ++ operand' ++ [item], [], ?_, houter,
      .cons hawaits hderives hacts hlooser, rfl⟩
    rw [← heq]
    simp
  | @closing last inner' waiting outer hcloses =>
    replace hoperand : roles.Derives .factor depth operand last := hoperand
    -- the group becomes an operand of the group around it
    cases houter with
    | @cons _ opening _ _ around beside houter hbeside hopening =>
      exact ⟨depth + 1, around, beside, opening :: (inner ++ operand) ++ [item], by simp, houter,
        hbeside, .group hopening (hwaiting.complete hoperand) hcloses⟩

/-! ### Where reading succeeds -/

lemma Reading.Accounts.derives {reading : Reading α} {items : List α} {tree : Tree α}
    (h : reading.Accounts roles items) (hcompletes : reading.Completes tree) :
    roles.Derives (.chain .lowest) Reading.maxDepth items tree := by
  obtain ⟨depth, before, inner, operand, rfl, houter, hwaiting, hoperand⟩ := h
  obtain ⟨last, hdue, hnone, rfl⟩ := hcompletes
  rw [hdue] at hoperand
  rw [hnone] at houter
  cases houter with
  | nil => exact hwaiting.complete hoperand

/-- Whatever is read successfully is derived, and what follows it does not continue it. -/
lemma Reading.Accounts.readAll {reading : Reading α} {items consumed rest : List α} {tree : Tree α}
    (h : reading.Accounts roles consumed) (hread : reading.readAll roles items = (.ok tree, rest)) :
    ∃ front, items = front ++ rest ∧
      roles.Derives (.chain .lowest) Reading.maxDepth (consumed ++ front) tree ∧
      roles.Halts rest := by
  induction items generalizing reading consumed with
  | nil =>
    obtain ⟨hend, rfl⟩ := Prod.mk.inj hread
    refine ⟨[], rfl, ?_, by simp [Roles.Halts]⟩
    rw [List.append_nil]
    exact h.derives (Reading.atEnd_eq_ok_iff.mp hend)
  | cons item items ih =>
    rw [Reading.readAll] at hread
    split at hread
    case h_1 further hnext =>
      have hadvances := Reading.read_eq_next_iff.mp hnext
      obtain ⟨front, rfl, hderives, hhalts⟩ := ih (h.advance hadvances) hread
      refine ⟨item :: front, rfl, ?_, hhalts⟩
      rw [List.append_cons]
      exact hderives
    case h_2 outcome hbefore =>
      obtain ⟨rfl, rfl⟩ := Prod.mk.inj hread
      obtain ⟨hcompletes, hinactive⟩ := Reading.read_eq_before_ok_iff.mp hbefore
      refine ⟨[], rfl, ?_, by simpa [Roles.Halts] using hinactive⟩
      rw [List.append_nil]
      exact h.derives hcompletes
    case h_3 error hafter => cases hread

/-! ### What is derived is read -/

/-- Reading goes on, from one reading to another, over exactly these items. -/
def Reading.Passes (roles : Roles α) (reading : Reading α) (items : List α) (further : Reading α) :
    Prop :=
  ∀ rest, reading.readAll roles (items ++ rest) = further.readAll roles rest

lemma Reading.Passes.trans {reading middle further : Reading α} {front back : List α}
    (h : reading.Passes roles front middle) (h' : middle.Passes roles back further) :
    reading.Passes roles (front ++ back) further := by
  intro rest
  rw [List.append_assoc, h, h']

lemma Reading.Advances.passes {reading further : Reading α} {item : α}
    (h : reading.Advances roles item further) : reading.Passes roles [item] further := by
  exact h.readAll_cons

/-- Items that derive a tree are read past, whatever waits outside of them. The operators that then
wait on top are those of the phrase or tighter ones, and what they make of the last operand is the
tree. -/
lemma Roles.Derives.passes {phrase : Phrase} {depth : Nat} {items : List α} {tree : Tree α}
    (h : roles.Derives phrase depth items tree) (after : String)
    (waiting : List (Reading.Waiting α)) (outer : List (List (Reading.Waiting α)))
    (hwaiting : Reading.LooserThan phrase.rank waiting)
    (hdepth : depth + outer.length ≤ Reading.maxDepth) :
    ∃ last inner, Reading.attach last inner = tree ∧
      (∀ operator ∈ inner, phrase.rank ≤ operator.tier.rank) ∧
      Reading.Passes roles ⟨.operand after, waiting, outer⟩ items
        ⟨.operator last, inner ++ waiting, outer⟩ := by
  -- the waiting operators outside stay as they are, since they are looser than the phrase
  induction h generalizing after waiting outer with
  | @item depth item hitem =>
    exact ⟨.leaf item, [], rfl, by simp, (Reading.Advances.operand hitem).passes⟩
  | @group depth opening closing items tree hopening hinside hclosing ih =>
    obtain ⟨last, inner, hattach, -, hpasses⟩ := ih (roles.text opening) [] (waiting :: outer)
      (Reading.looserThan_nil _) (by rw [List.length_cons]; omega)
    rw [List.append_nil] at hpasses
    refine ⟨tree, [], rfl, by simp, ?_⟩
    have hopen : Reading.Passes roles ⟨.operand after, waiting, outer⟩ [opening] _ :=
      (Reading.Advances.opening hopening (by omega)).passes
    have hclose : Reading.Passes roles ⟨.operator last, inner, waiting :: outer⟩ [closing] _ :=
      (Reading.Advances.closing hclosing).passes
    rw [Reading.complete_eq_attach, hattach] at hclose
    exact (hopen.trans hpasses).trans hclose
  | @operand tier depth items tree h ih =>
    rw [Phrase.rank_operands] at ih
    obtain ⟨last, inner, hattach, hinner, hpasses⟩ := ih after waiting outer
      (hwaiting.mono (Nat.le_succ _)) hdepth
    exact ⟨last, inner, hattach, fun operator hmem => Nat.le_of_succ_le (hinner operator hmem),
      hpasses⟩
  | @chain tier depth operator items further left right hleft hoperator hright ihl ihr =>
    obtain ⟨last, inner, hattach, hinner, hpasses⟩ := ihl after waiting outer hwaiting hdepth
    -- the chain so far becomes the left operand of an operator that waits for the next operand
    have hreduce := Reading.reduce_append tier last inner waiting hinner hwaiting
    have hop : Reading.Passes roles ⟨.operator last, inner ++ waiting, outer⟩ [operator] _ :=
      (Reading.Advances.operator hoperator hreduce).passes
    rw [hattach] at hop
    rw [Phrase.rank_operands] at ihr
    obtain ⟨last', inner', hattach', hinner', hpasses'⟩ := ihr (roles.text operator)
      (⟨tier, operator, left⟩ :: waiting) outer
      (Reading.looserThan_cons.mpr (Nat.lt_succ_self _)) hdepth
    refine ⟨last', inner' ++ [⟨tier, operator, left⟩], ?_, ?_, ?_⟩
    · rw [← hattach']
      simp [Reading.attach]
    · intro other hmem
      rcases List.mem_append.mp hmem with hmem | hmem
      · exact Nat.le_of_succ_le (hinner' other hmem)
      · rw [List.mem_singleton.mp hmem]
        exact Nat.le_refl _
    · have hall := (hpasses.trans hop).trans hpasses'
      simpa using hall

lemma Roles.Derives.exists_cons {phrase : Phrase} {depth : Nat} {items : List α} {tree : Tree α}
    (h : roles.Derives phrase depth items tree) :
    ∃ first tail, items = first :: tail ∧ roles.isStop first = false := by
  induction h with
  | @item depth item hitem => exact ⟨item, [], rfl, hitem.isStop⟩
  | @group depth opening closing items tree hopening hinside hclosing ih =>
    exact ⟨opening, items ++ [closing], rfl, hopening.isStop⟩
  | operand h ih => exact ih
  | @chain tier depth operator items further left right hleft hoperator hright ihl ihr =>
    obtain ⟨first, tail, rfl, hfirst⟩ := ihl
    exact ⟨first, tail ++ operator :: further, rfl, hfirst⟩

/-- Derived items with nothing after them that continues them are read. -/
lemma Roles.Derives.readAll {items rest : List α} {tree : Tree α}
    (h : roles.Derives (.chain .lowest) Reading.maxDepth items tree) (hhalts : roles.Halts rest)
    (after : String) :
    Reading.readAll roles { due := .operand after } (items ++ rest) = (.ok tree, rest) := by
  obtain ⟨last, inner, hattach, -, hpasses⟩ := h.passes after [] []
    (Reading.looserThan_nil _) (Nat.le_refl _)
  rw [hpasses rest]
  refine Reading.Completes.readAll ⟨last, rfl, rfl, ?_⟩ hhalts
  rw [Reading.complete_eq_attach, List.append_nil, hattach]

/-- Derived items are read off as an expression. -/
lemma Roles.Derives.readExpression {items rest : List α} {tree : Tree α}
    (h : roles.Derives (.chain .lowest) Reading.maxDepth items tree) (hhalts : roles.Halts rest) :
    readExpression roles (items ++ rest) = (.ok (some tree), rest) := by
  have hread := h.readAll hhalts endOfInput
  obtain ⟨first, tail, rfl, hfirst⟩ := h.exists_cons
  rw [List.cons_append] at hread ⊢
  rw [readExpression_cons roles _ hfirst, hread]
  rfl

/-! ### Reading and deriving agree -/

/-- What is read without a fault, where the first item does not end the expression, is derived. -/
lemma Roles.exists_derives_of_readExpression {first : α} {tail rest : List α}
    {expression : Expression α} (hstop : roles.isStop first = false)
    (h : readExpression roles (first :: tail) = (.ok expression, rest)) :
    ∃ tree front, expression = some tree ∧ first :: tail = front ++ rest ∧
      roles.Derives (.chain .lowest) Reading.maxDepth front tree ∧ roles.Halts rest := by
  rw [readExpression_cons roles tail hstop] at h
  cases hread : Reading.readAll roles { due := .operand endOfInput } (first :: tail) with
  | mk outcome left =>
    rw [hread] at h
    obtain ⟨houtcome, rfl⟩ := Prod.mk.inj h
    cases outcome with
    | error fault => cases houtcome
    | ok tree =>
      cases houtcome
      obtain ⟨front, hsplit, hderives, hhalts⟩ :=
        (Reading.accounts_nil roles endOfInput).readAll hread
      exact ⟨tree, front, rfl, hsplit, hderives, hhalts⟩

/-- An expression is read off the front of the items exactly when what is in front of the rest
derives it, with groups nested at most 128 deep, and the rest does not continue it. -/
theorem readExpression_eq_ok_some_iff_derives (roles : Roles α) (items rest : List α)
    (tree : Tree α) :
    readExpression roles items = (.ok (some tree), rest) ↔
      ∃ front, items = front ++ rest ∧ roles.Derives (.chain .lowest) 128 front tree ∧
        roles.Halts rest := by
  constructor
  · intro h
    cases items with
    | nil => cases h
    | cons first tail =>
      cases hstop : roles.isStop first with
      | true =>
        rw [readExpression_cons_of_stop roles tail hstop] at h
        cases h
      | false =>
        obtain ⟨found, front, hsome, hfront⟩ := Roles.exists_derives_of_readExpression hstop h
        cases hsome
        exact ⟨front, hfront⟩
  · rintro ⟨front, rfl, hderives, hhalts⟩
    exact hderives.readExpression hhalts

end TableGrammar
