import TableGrammar.Proofs.Expression.Advance

/-!
# The grammar of expressions

An expression is a chain of operands joined by operators of the loosest tier; each operand is a
chain of the next tighter tier, and the operands of the tightest chain are single items and groups:

    expression := logical (operator logical)*
    logical    := relation (operator relation)*
    relation   := term (operator term)*
    term       := factor (operator factor)*
    factor     := item | opening expression closing

`Roles.Derives` says which items derive which tree. It does not mention how items are read: a chain
is folded to the left, and an item counts as an operator of the tightest tier that holds it.
-/

namespace TableGrammar

variable {α : Type} {roles : Roles α}

/-! ### Phrases -/

/-- The phrases of the grammar: the chains of each tier, and the factors, which bind tightest. -/
inductive Phrase where
  | chain (tier : Tier)
  | factor

/-- The place of a phrase, counted from the loosest. -/
def Phrase.rank : Phrase → Nat
  | .chain tier => tier.rank
  | .factor => 4

/-- The operands of a chain. -/
def Tier.operands (tier : Tier) : Phrase :=
  match tier.next? with
  | some next => .chain next
  | none => .factor

@[simp] lemma Phrase.rank_operands (tier : Tier) : tier.operands.rank = tier.rank + 1 := by
  cases tier <;> rfl

@[simp] lemma Phrase.rank_chain (tier : Tier) : (Phrase.chain tier).rank = tier.rank := rfl

lemma Phrase.rank_injective : Function.Injective Phrase.rank := by
  intro a b h
  cases a with
  | chain a =>
    cases b with
    | chain b => exact congrArg Phrase.chain (Tier.rank_injective h)
    | factor => exact absurd h (Nat.ne_of_lt a.rank_lt_four)
  | factor =>
    cases b with
    | chain b => exact absurd h (Nat.ne_of_gt b.rank_lt_four)
    | factor => rfl

lemma Phrase.exists_chain_of_rank_lt {a b : Phrase} (h : a.rank < b.rank) :
    ∃ tier, a = .chain tier := by
  cases a with
  | chain tier => exact ⟨tier, rfl⟩
  | factor =>
    cases b with
    | chain tier => exact absurd h (Nat.not_lt_of_lt tier.rank_lt_four)
    | factor => exact absurd h (Nat.lt_irrefl _)

/-! ### Derivations -/

/-- The items derive the tree as a phrase of the grammar, with groups nested no more than `depth`
deep. -/
inductive Roles.Derives (roles : Roles α) : Phrase → Nat → List α → Tree α → Prop where
  | item {depth : Nat} {item : α} (hitem : roles.IsOperand item) :
      Derives roles .factor depth [item] (.leaf item)
  | group {depth : Nat} {opening closing : α} {items : List α} {tree : Tree α}
      (hopening : roles.Opens opening) (hinside : Derives roles (.chain .lowest) depth items tree)
      (hclosing : roles.Closes closing) :
      Derives roles .factor (depth + 1) (opening :: items ++ [closing]) tree
  | operand {tier : Tier} {depth : Nat} {items : List α} {tree : Tree α}
      (h : Derives roles tier.operands depth items tree) :
      Derives roles (.chain tier) depth items tree
  | chain {tier : Tier} {depth : Nat} {operator : α} {items further : List α}
      {left right : Tree α} (hleft : Derives roles (.chain tier) depth items left)
      (hoperator : roles.ActsAs tier operator)
      (hright : Derives roles tier.operands depth further right) :
      Derives roles (.chain tier) depth (items ++ operator :: further) (.branch operator left right)

/-- What derives a tree as a phrase derives it as every looser one. -/
lemma Roles.Derives.loosen {phrase looser : Phrase} {depth : Nat} {items : List α} {tree : Tree α}
    (h : roles.Derives phrase depth items tree) (hle : looser.rank ≤ phrase.rank) :
    roles.Derives looser depth items tree := by
  obtain ⟨steps, hsteps⟩ := Nat.exists_eq_add_of_le hle
  induction steps generalizing looser with
  | zero =>
    obtain rfl : phrase = looser := Phrase.rank_injective hsteps
    exact h
  | succ steps ih =>
    obtain ⟨tier, rfl⟩ := Phrase.exists_chain_of_rank_lt (a := looser) (b := phrase) (by omega)
    rw [Phrase.rank_chain] at hsteps
    refine .operand (ih ?_ ?_)
    · rw [Phrase.rank_operands]; omega
    · rw [Phrase.rank_operands]; omega

/-- What is derived with groups nested so deep is derived where they may be nested deeper. -/
lemma Roles.Derives.deepen {phrase : Phrase} {depth deeper : Nat} {items : List α} {tree : Tree α}
    (h : roles.Derives phrase depth items tree) (hle : depth ≤ deeper) :
    roles.Derives phrase deeper items tree := by
  induction h generalizing deeper with
  | item hitem => exact .item hitem
  | @group depth opening closing items tree hopening hinside hclosing ih =>
    obtain ⟨deeper, rfl⟩ : ∃ less, deeper = less + 1 := Nat.exists_eq_succ_of_ne_zero (by omega)
    exact .group hopening (ih (Nat.le_of_succ_le_succ hle)) hclosing
  | operand h ih => exact .operand (ih hle)
  | chain hleft hoperator hright ihl ihr => exact .chain (ihl hle) hoperator (ihr hle)

end TableGrammar
