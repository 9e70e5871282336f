import TableGrammar.Proofs.Text.Case
import TableGrammar.Token

/-!
# Equal tokens

Tokens are equal exactly if their keys are (`Token.beq_iff_key_eq`). So equality of tokens is an
equivalence relation, equal tokens have one hash, and a set of tokens holds a token exactly if one
that is equal to it has been inserted: a token is new to the set of those before it just when none
of them is equal to it (`Token.equality_fits_hashing`).
-/

namespace TableGrammar

/-- The rule of a kind compares values as the key holds them. -/
lemma Token.valueEq_iff (token : Token) (text : String) :
    token.valueEq text = true ↔ token.key = Token.key ⟨token.kind, text⟩ := by
  simp only [Token.valueEq, Token.key, Prod.mk.injEq, true_and]
  cases token.kind.isExact with
  | true => simp [Text.alike_iff_upper_eq]
  | false => simp

lemma Token.beq_iff_key_eq (a b : Token) : (a == b) = true ↔ a.key = b.key := by
  have hbeq : (a == b) = (a.kind == b.kind && a.valueEq b.value) := rfl
  rw [hbeq, Bool.and_eq_true, beq_iff_eq, Token.valueEq_iff]
  constructor
  · rintro ⟨hkind, hkey⟩
    rw [hkey, hkind]
  · intro hkey
    have hkind : a.kind = b.kind := congrArg Prod.fst hkey
    exact ⟨hkind, by rw [hkey, hkind]⟩

lemma Token.beq_equivalence : Equivalence fun a b : Token => (a == b) = true := by
  simp only [Token.beq_iff_key_eq]
  exact ⟨fun a => rfl, Eq.symm, Eq.trans⟩

instance : EquivBEq Token where
  rfl := Token.beq_equivalence.refl _
  symm := Token.beq_equivalence.symm
  trans := Token.beq_equivalence.trans

instance : LawfulHashable Token where
  hash_eq a b h := by
    have hhash (token : Token) : hash token = hash token.key := rfl
    rw [hhash, hhash, (Token.beq_iff_key_eq a b).mp h]

/-- The token by which a token is known: without case, if its kind ignores case. -/
def Token.folded (token : Token) : Token :=
  ⟨token.key.1, token.key.2⟩

lemma Token.beq_iff_folded_eq (a b : Token) : (a == b) = true ↔ a.folded = b.folded := by
  rw [Token.beq_iff_key_eq, Token.folded, Token.folded, Token.mk.injEq, Prod.ext_iff]

/-- The set holds what was in it and what has been inserted since, up to equality of tokens. -/
lemma Token.getElem?_novelties_go (seen : Std.HashSet Token) (tokens : List Token) (i : Nat) :
    (Token.novelties.go seen tokens)[i]? =
      tokens[i]?.map fun token =>
        !(seen.contains token || (tokens.take i).any fun earlier => earlier == token) := by
  induction tokens generalizing seen i with
  | nil => simp [Token.novelties.go]
  | cons first rest ih =>
    cases i with
    | zero => simp [Token.novelties.go]
    | succ i =>
      rw [Token.novelties.go, List.getElem?_cons_succ, List.getElem?_cons_succ, ih]
      congr 1
      funext token
      rw [Std.HashSet.contains_insert, List.take_succ_cons, List.any_cons]
      simp only [Bool.or_left_comm, Bool.or_assoc]

/-- Equality of tokens is an equivalence relation, and tokens are equal just when they are hashed by
the same key. In a row of tokens each is new to the set of those before it exactly if it is equal to
none of them. -/
theorem Token.equality_fits_hashing :
    (Equivalence fun a b : Token => (a == b) = true) ∧
      (∀ a b : Token, (a == b) = true ↔ a.key = b.key) ∧
      ∀ (tokens : List Token) (i : Nat),
        (Token.novelties tokens)[i]? =
          tokens[i]?.map fun token => !(tokens.take i).any fun earlier => earlier == token := by
  refine ⟨Token.beq_equivalence, Token.beq_iff_key_eq, ?_⟩
  intro tokens i
  rw [Token.novelties, Token.getElem?_novelties_go]
  simp

/-- Keywords ignore case, but only that of ASCII letters, and an identifier is no keyword. -/
example :
    Token.novelties
      [⟨.keyword, "ſé"⟩, ⟨.keyword, "SÉ"⟩, ⟨.keyword, "Sé"⟩, ⟨.keyword, "sé"⟩, ⟨.identifier, "sé"⟩,
        ⟨.identifier, "Sé"⟩, ⟨.keyword, "ſé"⟩] =
      [true, true, true, false, true, true, false] := by
  cbv

end TableGrammar
