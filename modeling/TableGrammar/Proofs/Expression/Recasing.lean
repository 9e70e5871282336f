import TableGrammar.Proofs.Expression.Correspondence
import TableGrammar.Proofs.Matcher.Caseless

/-!
# Expressions in another case

Tokens whose values are alike play the same parts in an expression, whatever their kinds, as long as
the matchers that end it ignore case. So reading tokens, and reading tokens that are like them, lead
to expressions of one shape with tokens that are alike, or to faults of one kind with texts that are
alike, and the cursors come to the same place (`Cursor.readExpression_alike`).
-/

namespace TableGrammar

/-- The values of the tokens are alike; the kinds do not matter. -/
def Token.Alike (a b : Token) : Prop :=
  Text.alike a.value b.value = true

variable (operators : Operators String) {stops : List Matcher}

/-- Texts that are alike are operators of the same tiers. -/
lemma Operators.containsText_alike {a b : String} (h : Text.alike a b = true) (tier : Tier) :
    operators.containsText tier a = operators.containsText tier b := by
  have hoperator : ∀ operator, Text.alike operator a = Text.alike operator b := by
    intro operator
    rw [← Text.alike_upper, Text.alike_iff_upper_eq.mp h, Text.alike_upper]
  simp only [Operators.containsText, hoperator]

/-- A parenthesis has no case. -/
lemma Token.Alike.beq_eq {a b : Token} (h : a.Alike b) {symbol : String}
    (hsymbol : symbol.toList.any Char.isAlpha = false) :
    (a.value == symbol) = (b.value == symbol) := by
  rw [Bool.eq_iff_iff, beq_iff_eq, beq_iff_eq, ← Text.upper_eq_iff hsymbol,
    Text.alike_iff_upper_eq.mp h, Text.upper_eq_iff hsymbol]

/-- Tokens that are alike play the same parts. -/
lemma Roles.correspond_alike (hstops : ∀ stop ∈ stops, stop.Caseless) :
    (Roles.ofTokens operators stops).Correspond Token.Alike (fun a b => Text.alike a b = true)
      (Roles.ofTokens operators stops) where
  isStop := by
    intro a b h
    -- together the stops are a union, which ignores case as they do
    have hverdict := (Matcher.Caseless.anyOf hstops).acceptsValue_eq h
    rwa [Matcher.acceptsValue_anyOf, Matcher.acceptsValue_anyOf] at hverdict
  isOpen h := h.beq_eq (by decide)
  isClose h := h.beq_eq (by decide)
  isOperator h tier := operators.containsText_alike h tier
  text h := h
  endOfInput := Text.alike_refl endOfInput

/-- Reading an expression does not look at the kinds of tokens, nor at the case of letters if what
ends the expression does not. From tokens that are alike, cursors at the same place come to the same
place, with expressions of one shape and tokens that are alike, or with faults of one kind and texts
that are alike. -/
theorem Cursor.readExpression_alike (hstops : ∀ stop ∈ stops, stop.Caseless)
    {tokens tokens' : List Token} (htokens : List.Forall₂ Token.Alike tokens tokens')
    (position : Nat) :
    let read := Cursor.readExpression operators stops ⟨tokens, position⟩
    let read' := Cursor.readExpression operators stops ⟨tokens', position⟩
    OutcomeRelated (fun a b => Text.alike a b = true) (Option.Rel (Tree.Related Token.Alike))
        read.1 read'.1 ∧
      read.2.position = read'.2.position := by
  intro read read'
  have hremaining : List.Forall₂ Token.Alike (Cursor.remaining ⟨tokens, position⟩)
      (Cursor.remaining ⟨tokens', position⟩) := List.forall₂_drop position htokens
  obtain ⟨houtcome, hrest⟩ := (Roles.correspond_alike operators hstops).readExpression hremaining
  refine ⟨houtcome, ?_⟩
  simp only [read, read', Cursor.readExpression, Cursor.advance]
  rw [hremaining.length_eq, hrest.length_eq]

/-- In `x AND ( y END` a group is not closed before `END`. So it is not closed before the `end` of
`X and ( Y end`, either, where all tokens are of other kinds. -/
theorem Cursor.readExpression_alike_unclosed :
    let stop : Matcher := .exact ⟨.keyword, "End"⟩
    let tokens : List Token :=
      [⟨.identifier, "x"⟩, ⟨.identifier, "AND"⟩, ⟨.character, "("⟩, ⟨.identifier, "y"⟩,
        ⟨.keyword, "END"⟩]
    let tokens' : List Token :=
      [⟨.keyword, "X"⟩, ⟨.operator, "and"⟩, ⟨.operator, "("⟩, ⟨.string, "Y"⟩,
        ⟨.identifier, "end"⟩]
    let read := Cursor.readExpression .standard [stop] { tokens }
    let read' := Cursor.readExpression .standard [stop] { tokens := tokens' }
    (∀ matcher ∈ [stop], matcher.Caseless) ∧ List.Forall₂ Token.Alike tokens tokens' ∧
      read.1 = .error (.unclosedParenthesis "END") ∧
      (∃ found, read'.1 = .error (.unclosedParenthesis found) ∧
        Text.alike "END" found = true) ∧
      read'.2.position = 4 := by
  intro stop tokens tokens' read read'
  have hstops : ∀ matcher ∈ [stop], matcher.Caseless := by
    simpa using Matcher.Caseless.exact ⟨.keyword, "End"⟩
  have htokens : List.Forall₂ Token.Alike tokens tokens' := by
    simp only [tokens, tokens', List.forall₂_cons, List.forall₂_nil_left_iff, Token.Alike]
    decide
  have hread : read = (.error (.unclosedParenthesis "END"), { tokens, position := 4 }) :=
    (Cursor.readExpression_cons rfl rfl).trans rfl
  obtain ⟨houtcome, hposition⟩ := Cursor.readExpression_alike .standard hstops htokens 0
  change OutcomeRelated _ _ read.1 read'.1 at houtcome
  change read.2.position = read'.2.position at hposition
  rw [hread] at houtcome hposition
  refine ⟨hstops, htokens, congrArg Prod.fst hread, ?_, hposition.symm⟩
  generalize read'.1 = outcome at houtcome
  cases houtcome with
  | error hfault =>
    cases hfault with
    | unclosedParenthesis hfound => exact ⟨_, rfl, hfound⟩

end TableGrammar
