import Mathlib.Tactic.Common
import TableGrammar.Proofs.Expression.Reading

/-!
# How a reading goes on past an item

The roles of items overlap, so the part that an item plays depends on what is due where it is met.
`Reading.Advances` lists the four ways to go on past an item, each with the part the item plays in
it, and these are all there are (`Reading.read_eq_next_iff`).
-/

namespace TableGrammar

variable {α : Type} {roles : Roles α}

/-! ### The parts items play -/

/-- The item acts as an operator of the tier: it does not end the expression, and the tier is the
tightest one that holds it. -/
structure Roles.ActsAs (roles : Roles α) (tier : Tier) (item : α) : Prop where
  isStop : roles.isStop item = false
  isOperator : roles.isOperator tier item = true
  tightest : ∀ tighter : Tier, tier.rank < tighter.rank → roles.isOperator tighter item = false

/-- The item can stand as an operand. An operator can, too. -/
structure Roles.IsOperand (roles : Roles α) (item : α) : Prop where
  isStop : roles.isStop item = false
  isOpen : roles.isOpen item = false
  isClose : roles.isClose item = false

/-- The item can open a group. -/
structure Roles.Opens (roles : Roles α) (item : α) : Prop where
  isStop : roles.isStop item = false
  isOpen : roles.isOpen item = true
  isClose : roles.isClose item = false

/-- The item can close a group, whether it ends expressions or not. -/
structure Roles.Closes (roles : Roles α) (item : α) : Prop where
  isClose : roles.isClose item = true
  inactive : ∀ tier, ¬ roles.ActsAs tier item

/-- No expression goes on with these items: there are none, or the first is no operator there. -/
def Roles.Halts (roles : Roles α) (items : List α) : Prop :=
  ∀ item ∈ items.head?, ∀ tier, ¬ roles.ActsAs tier item

lemma Tier.rank_injective : Function.Injective Tier.rank := by
  intro a b h
  cases a <;> cases b <;> simp_all [Tier.rank]

lemma Roles.ActsAs.unique {item : α} {a b : Tier} (ha : roles.ActsAs a item)
    (hb : roles.ActsAs b item) : a = b := by
  rcases Nat.lt_trichotomy a.rank b.rank with hlt | heq | hlt
  · exact absurd hb.isOperator (by simp [ha.tightest b hlt])
  · exact Tier.rank_injective heq
  · exact absurd ha.isOperator (by simp [hb.tightest a hlt])

lemma Roles.actsAs_of_tier? {item : α} {tier : Tier} (h : roles.tier? item = some tier) :
    roles.ActsAs tier item := by
  unfold Roles.tier? at h
  split_ifs at h with hstop
  obtain ⟨hop, before, after, hsplit, hbefore⟩ := List.find?_eq_some_iff_append.mp h
  refine ⟨by simpa using hstop, hop, fun tighter hlt => ?_⟩
  -- the list of tiers is sorted, so a tighter tier can only stand before the one that was found
  have hsorted : Tier.tightestFirst.Pairwise fun a b => b.rank < a.rank := by decide
  have hall : tighter ∈ Tier.tightestFirst := by cases tighter <;> decide
  rw [hsplit] at hsorted hall
  have hmem : tighter ∈ before := by
    rcases List.mem_append.mp hall with hin | hin
    · exact hin
    · rcases List.mem_cons.mp hin with rfl | hin
      · exact absurd hlt (Nat.lt_irrefl _)
      · have := List.rel_of_pairwise_cons (List.pairwise_append.mp hsorted).2.1 hin
        omega
  simpa using hbefore tighter hmem

lemma Roles.exists_tier? {item : α} {tier : Tier} (hstop : roles.isStop item = false)
    (hoperator : roles.isOperator tier item = true) : ∃ found, roles.tier? item = some found := by
  refine Option.ne_none_iff_exists'.mp fun hnone => ?_
  simp only [Roles.tier?, hstop, Bool.false_eq_true, if_false] at hnone
  exact List.find?_eq_none.mp hnone tier (by cases tier <;> decide) hoperator

/-- Looking a tier up finds the one the item acts as. -/
lemma Roles.tier?_eq_some_iff {item : α} {tier : Tier} :
    roles.tier? item = some tier ↔ roles.ActsAs tier item := by
  constructor
  · exact Roles.actsAs_of_tier?
  · intro h
    obtain ⟨found, hfound⟩ := Roles.exists_tier? h.isStop h.isOperator
    rw [hfound, (Roles.actsAs_of_tier? hfound).unique h]

lemma Roles.tier?_eq_none_iff {item : α} :
    roles.tier? item = none ↔ ∀ tier, ¬ roles.ActsAs tier item := by
  rw [Option.eq_none_iff_forall_ne_some]
  exact forall_congr' fun tier => not_congr Roles.tier?_eq_some_iff

/-! ### Going on past an item -/

/-- The reading goes on past the item. The item opens a group, stands as an operand, joins two
operands, or closes a group. -/
inductive Reading.Advances (roles : Roles α) (item : α) : Reading α → Reading α → Prop where
  | opening {after : String} {waiting : List (Reading.Waiting α)}
      {outer : List (List (Reading.Waiting α))} (hopens : roles.Opens item)
      (hdepth : outer.length < Reading.maxDepth) :
      Advances roles item ⟨.operand after, waiting, outer⟩
        ⟨.operand (roles.text item), [], waiting :: outer⟩
  | operand {after : String} {waiting : List (Reading.Waiting α)}
      {outer : List (List (Reading.Waiting α))} (hoperand : roles.IsOperand item) :
      Advances roles item ⟨.operand after, waiting, outer⟩
        ⟨.operator (.leaf item), waiting, outer⟩
  | operator {tier : Tier} {last left : Tree α} {waiting further : List (Reading.Waiting α)}
      {outer : List (List (Reading.Waiting α))} (hacts : roles.ActsAs tier item)
      (hreduce : Reading.reduce tier last waiting = (left, further)) :
      Advances roles item ⟨.operator last, waiting, outer⟩
        ⟨.operand (roles.text item), ⟨tier, item, left⟩ :: further, outer⟩
  | closing {last : Tree α} {inner waiting : List (Reading.Waiting α)}
      {outer : List (List (Reading.Waiting α))} (hcloses : roles.Closes item) :
      Advances roles item ⟨.operator last, inner, waiting :: outer⟩
        ⟨.operator (Reading.complete last inner), waiting, outer⟩

lemma Reading.Advances.read_eq {reading further : Reading α} {item : α}
    (h : reading.Advances roles item further) : reading.read roles item = .next further := by
  cases h with
  | opening hopens hdepth =>
    simp [Reading.read, Reading.readOperand, hopens.isStop, hopens.isOpen, hopens.isClose, hdepth]
  | operand hoperand =>
    simp [Reading.read, Reading.readOperand, hoperand.isStop, hoperand.isOpen, hoperand.isClose]
  | operator hacts hreduce =>
    simp [Reading.read, Reading.readOperator, Roles.tier?_eq_some_iff.mpr hacts, hreduce]
  | closing hcloses =>
    simp [Reading.read, Reading.readOperator, Roles.tier?_eq_none_iff.mpr hcloses.inactive,
      hcloses.isClose]

lemma Reading.Advances.readAll_cons {reading further : Reading α} {item : α}
    (h : reading.Advances roles item further) (rest : List α) :
    reading.readAll roles (item :: rest) = further.readAll roles rest := by
  rw [Reading.readAll, h.read_eq]

/-- A reading goes on past an item in one of the four ways, and in no other. -/
lemma Reading.read_eq_next_iff {reading further : Reading α} {item : α} :
    reading.read roles item = .next further ↔ reading.Advances roles item further := by
  refine ⟨fun h => ?_, Reading.Advances.read_eq⟩
  obtain ⟨due, waiting, outer⟩ := reading
  cases due with
  | operand after =>
    simp only [Reading.read, Reading.readOperand] at h
    split_ifs at h with hstop hclose hopen hdepth
    · cases h
      exact .opening ⟨by simpa using hstop, hopen, by simpa using hclose⟩ hdepth
    · cases h
      exact .operand ⟨by simpa using hstop, by simpa using hopen, by simpa using hclose⟩
  | operator last =>
    simp only [Reading.read, Reading.readOperator] at h
    cases htier : roles.tier? item with
    | some tier =>
      rw [htier] at h
      cases h
      exact .operator (Roles.tier?_eq_some_iff.mp htier) rfl
    | none =>
      rw [htier] at h
      cases outer with
      | nil => cases h
      | cons around outer =>
        simp only at h
        split_ifs at h with hclose
        cases h
        exact .closing ⟨hclose, Roles.tier?_eq_none_iff.mp htier⟩

/-! ### Succeeding -/

/-- The reading can end here with the tree: an operator is due and no group is open. -/
def Reading.Completes (reading : Reading α) (tree : Tree α) : Prop :=
  ∃ last, reading.due = .operator last ∧ reading.outer = [] ∧
    Reading.complete last reading.waiting = tree

lemma Reading.atEnd_eq_ok_iff {reading : Reading α} {tree : Tree α} :
    reading.atEnd = .ok tree ↔ reading.Completes tree := by
  obtain ⟨due, waiting, outer⟩ := reading
  cases due with
  | operand after => simp [Reading.atEnd, Reading.Completes]
  | operator last => cases outer <;> simp [Reading.atEnd, Reading.Completes]

/-- Before an item reading succeeds with the tree it can end with, unless the item acts as an
operator. -/
lemma Reading.read_eq_before_ok_iff {reading : Reading α} {item : α} {tree : Tree α} :
    reading.read roles item = .before (.ok tree) ↔
      reading.Completes tree ∧ ∀ tier, ¬ roles.ActsAs tier item := by
  rw [← Roles.tier?_eq_none_iff]
  obtain ⟨due, waiting, outer⟩ := reading
  cases due with
  | operand after =>
    simp only [Reading.read, Reading.readOperand, Reading.Completes]
    split_ifs <;> simp
  | operator last =>
    simp only [Reading.read, Reading.readOperator, Reading.Completes]
    cases roles.tier? item with
    | some tier => simp
    | none =>
      cases outer with
      | nil => simp
      | cons waiting outer =>
        simp only
        split_ifs <;> simp

lemma Reading.Completes.readAll {reading : Reading α} {rest : List α} {tree : Tree α}
    (h : reading.Completes tree) (hhalts : roles.Halts rest) :
    reading.readAll roles rest = (.ok tree, rest) := by
  cases rest with
  | nil => rw [Reading.readAll, Reading.atEnd_eq_ok_iff.mpr h]
  | cons item rest =>
    have hinactive : ∀ tier, ¬ roles.ActsAs tier item := by simpa [Roles.Halts] using hhalts
    rw [Reading.readAll, Reading.read_eq_before_ok_iff.mpr ⟨h, hinactive⟩]

end TableGrammar
