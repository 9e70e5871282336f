import Mathlib
import TableGrammar.Grammar.Selection
import TableGrammar.Proofs.Grammar.Endings
import TableGrammar.Proofs.Machine.Composition
import TableGrammar.Proofs.Scan.Retokenizing

/-!
# The queries that are accepted

A query is meant to be `SELECT`, a star or columns with commas between them, `FROM` and a table. The
table of transitions accepts more: between two commas there may be three words in a row, the last of
them perhaps a star, or four, and a star may follow the last comma. Of four words in a row the last
is lost. `Selection.parse_eq_ok_iff` says which texts give a query with a table, and which query,
and that the words of such a text are as meant exactly if no two of them stand next to each other
and a star stands alone.
-/

namespace TableGrammar

/-! ### Lists of columns -/

/-- A word that is taken for a column where `FROM` would end the list. -/
def Selection.isColumn (word : String) : Bool :=
  Text.isIdentifier word && word != "FROM"

/-- Three words that can stand in a row. -/
def Selection.isTriple (a b c : String) : Bool :=
  Text.isIdentifier a && Selection.isColumn b && (Text.isIdentifier c || c == "*")

/-- The words that can stand between two commas. -/
def Selection.fitsBeforeComma : List String → Bool
  | [a] => Text.isIdentifier a
  | [a, b, c] => Selection.isTriple a b c
  | [a, b, c, d] => Selection.isTriple a b c && Selection.isColumn d
  | _ => false

/-- The words that can stand between the last comma and `FROM`. -/
def Selection.fitsBeforeFrom : List String → Bool
  | [a] => Text.isIdentifier a || a == "*"
  | [a, b, c] => Selection.isTriple a b c
  | _ => false

/-- The pieces of a list of columns: commas can stand between them, and `FROM` behind the last. -/
def Selection.Fits (inner : List (List String)) (last : List String) : Prop :=
  (∀ piece ∈ inner, Selection.fitsBeforeComma piece = true) ∧
    Selection.fitsBeforeFrom last = true

/-- The columns that are noted for the words between two commas. A fourth word is lost. -/
def Selection.columnsOf (words : List String) : List String :=
  (words.take 3).filter (· != "*")

/-- What is noted for a list of columns, of which the pieces between commas are given. -/
def Selection.ofPieces (pieces : List (List String)) : Selection :=
  { all := pieces.any (·.contains "*"), columns := pieces.flatMap Selection.columnsOf }

section

variable {inner : List (List String)} {words : List String} {word : String}

lemma Selection.ne_star (h : Text.isIdentifier word = true) : word ≠ "*" := by
  rintro rfl
  cases h

lemma Selection.ne_comma (h : Text.isIdentifier word = true) : word ≠ "," := by
  rintro rfl
  cases h

lemma Selection.isColumn_iff :
    Selection.isColumn word = true ↔ Text.isIdentifier word = true ∧ word ≠ "FROM" := by
  simp [Selection.isColumn]

lemma Selection.ofPieces_column (hlength : words.length < 3) (hword : word ≠ "*") :
    Selection.ofPieces (inner ++ [words ++ [word]]) =
      { Selection.ofPieces (inner ++ [words]) with
        columns := (Selection.ofPieces (inner ++ [words])).columns ++ [word] } := by
  have htake : (words ++ [word]).take 3 = words.take 3 ++ [word] := by
    rw [List.take_of_length_le (by simp; omega), List.take_of_length_le (by omega)]
  simp [Selection.ofPieces, Selection.columnsOf, htake, hword, Ne.symm hword]

lemma Selection.ofPieces_star (hlength : words.length < 3) :
    Selection.ofPieces (inner ++ [words ++ ["*"]]) =
      { Selection.ofPieces (inner ++ [words]) with all := true } := by
  have htake : (words ++ ["*"]).take 3 = words.take 3 ++ ["*"] := by
    rw [List.take_of_length_le (by simp; omega), List.take_of_length_le (by omega)]
  simp [Selection.ofPieces, Selection.columnsOf, htake]

lemma Selection.ofPieces_lost (hlength : words.length = 3) (hword : word ≠ "*") :
    Selection.ofPieces (inner ++ [words ++ [word]]) = Selection.ofPieces (inner ++ [words]) := by
  have htake : (words ++ [word]).take 3 = words.take 3 := by
    rw [List.take_append_of_le_length (by omega)]
  simp [Selection.ofPieces, Selection.columnsOf, htake, Ne.symm hword]

lemma Selection.ofPieces_nil : Selection.ofPieces (inner ++ [[]]) = Selection.ofPieces inner := by
  simp [Selection.ofPieces, Selection.columnsOf]

end

/-! ### What one word does -/

/-- What a word does in a state: where it leads, and what is noted. -/
inductive Selection.Step (word : String) : Nat → Selection → Nat → Selection → Prop where
  | select {selection : Selection} (h : word = "SELECT") : Step word 0 selection 1 {}
  | star {selection : Selection} (h : word = "*") :
      Step word 1 selection 2 { selection with all := true }
  | first {selection : Selection} (h : Text.isIdentifier word = true) :
      Step word 1 selection 3 { selection with columns := selection.columns ++ [word] }
  | second {selection : Selection} (h : Selection.isColumn word = true) :
      Step word 3 selection 4 { selection with columns := selection.columns ++ [word] }
  | third {selection : Selection} (h : Text.isIdentifier word = true) :
      Step word 4 selection 6 { selection with columns := selection.columns ++ [word] }
  | thirdStar {selection : Selection} (h : word = "*") :
      Step word 4 selection 6 { selection with all := true }
  | fourth {selection : Selection} (h : Selection.isColumn word = true) :
      Step word 6 selection 5 selection
  | comma {selection : Selection} {state : Nat} (hstate : state ∈ [3, 5, 6]) (h : word = ",") :
      Step word state selection 1 selection
  | listEnd {selection : Selection} {state : Nat} (hstate : state ∈ [2, 3, 6])
      (h : word = "FROM") : Step word state selection 7 selection
  | table {selection : Selection} (h : Text.isIdentifier word = true) :
      Step word 7 selection 8 { selection with table := some word }

/-- A token that is like a keyword is the keyword. -/
def Selection.Spelled (token : Token) : Prop :=
  ∀ keyword ∈ Selection.vocabulary.keywords,
    Text.alike keyword token.value = true → token.value = keyword

section

variable {token : Token}

lemma Selection.Spelled.accepts_keyword (h : Selection.Spelled token) {word keyword : String}
    (hword : Text.upper word = keyword) (hkeyword : keyword ∈ Selection.vocabulary.keywords) :
    (Entry.keyword word).matcher.accepts token = (token.value == keyword) := by
  rw [Entry.matcher, Entry.token, Matcher.accepts, Matcher.acceptsValue, hword, Bool.eq_iff_iff,
    beq_iff_eq]
  constructor
  · intro halike
    exact h keyword hkeyword halike
  · intro hvalue
    rw [hvalue]
    exact Text.alike_refl keyword

lemma Selection.Spelled.accepts_select (h : Selection.Spelled token) :
    (Entry.keyword "select").matcher.accepts token = (token.value == "SELECT") :=
  h.accepts_keyword rfl (by decide)

lemma Selection.Spelled.accepts_from (h : Selection.Spelled token) :
    (Entry.keyword "from").matcher.accepts token = (token.value == "FROM") :=
  h.accepts_keyword rfl (by decide)

/-- Every move of the machine for queries is a step. -/
lemma Selection.step_of_moveOn (h : Selection.Spelled token) {state next : Nat}
    {selection further : Selection}
    (hmove : (Selection.machine.moveOn state selection token).outcome = .ok (next, further)) :
    Selection.Step token.value state selection next further := by
  obtain ⟨transition, htransition, hnext, hreply⟩ := Machine.moveOn_eq_ok_iff.mp hmove
  have haccepts := Table.accepts_of_transition? htransition
  have hmem : (state, transition) ∈ Selection.entries :=
    Table.mem_transitions_ofList (Table.mem_of_transition? htransition)
  have hfrom : (Entry.keyword "from").matcher.accepts token = true → token.value = "FROM" := by
    rw [h.accepts_from, beq_iff_eq]
    exact id
  -- where a name is accepted in a state that `FROM` can leave, it is not `FROM`
  have hcolumn : Text.isIdentifier token.value = true → state = 3 ∨ state = 6 →
      transition.next ≠ 7 → Selection.isColumn token.value = true := by
    intro hidentifier hstate hseven
    refine Selection.isColumn_iff.mpr ⟨hidentifier, ?_⟩
    intro hvalue
    have hfrom : (Entry.keyword "from").matcher.accepts token = true := by
      rw [h.accepts_from, hvalue]
      rfl
    have hfound : Selection.machine.table.transition? state token =
        some { matcher := (Entry.keyword "from").matcher, next := 7 } := by
      rw [Table.transition?, Selection.machine, Table.transitions_ofList]
      rcases hstate with rfl | rfl <;> exact List.find?_cons_of_pos hfrom
    rw [hfound] at htransition
    cases htransition
    exact hseven rfl
  -- one step for each of the fourteen transitions, in the order of the table
  simp only [Selection.entries, List.mem_cons, List.not_mem_nil, or_false, Prod.mk.injEq] at hmem
  rcases hmem with ⟨rfl, rfl⟩ | ⟨rfl, rfl⟩ | ⟨rfl, rfl⟩ | ⟨rfl, rfl⟩ | ⟨rfl, rfl⟩ | ⟨rfl, rfl⟩ |
    ⟨rfl, rfl⟩ | ⟨rfl, rfl⟩ | ⟨rfl, rfl⟩ | ⟨rfl, rfl⟩ | ⟨rfl, rfl⟩ | ⟨rfl, rfl⟩ | ⟨rfl, rfl⟩ |
    ⟨rfl, rfl⟩ <;> cases hnext <;> cases hreply
  · exact .select (beq_iff_eq.mp (h.accepts_select.symm.trans haccepts))
  · exact .star ((Matcher.accepts_exact_iff rfl).mp haccepts)
  · exact .first haccepts
  · exact .listEnd (by decide) (hfrom haccepts)
  · exact .listEnd (by decide) (hfrom haccepts)
  · exact .second (hcolumn haccepts (Or.inl rfl) (by decide))
  · exact .comma (by decide) ((Matcher.accepts_exact_iff rfl).mp haccepts)
  · exact .third haccepts
  · exact .thirdStar ((Matcher.accepts_exact_iff rfl).mp haccepts)
  · exact .comma (by decide) ((Matcher.accepts_exact_iff rfl).mp haccepts)
  · exact .listEnd (by decide) (hfrom haccepts)
  · exact .fourth (hcolumn haccepts (Or.inr rfl) (by decide))
  · exact .comma (by decide) ((Matcher.accepts_exact_iff rfl).mp haccepts)
  · exact .table haccepts

lemma Selection.accepts_star (token : Token) :
    (Entry.character '*').matcher.accepts token = (token.value == "*") := by
  rw [Bool.eq_iff_iff, beq_iff_eq]
  exact Matcher.accepts_exact_iff rfl

lemma Selection.accepts_comma (token : Token) :
    (Entry.character ',').matcher.accepts token = (token.value == ",") := by
  rw [Bool.eq_iff_iff, beq_iff_eq]
  exact Matcher.accepts_exact_iff rfl

/-- Every step is a move of the machine for queries. -/
lemma Selection.Step.moveOn (h : Selection.Spelled token) {state next : Nat}
    {selection further : Selection}
    (hstep : Selection.Step token.value state selection next further) :
    (Selection.machine.moveOn state selection token).outcome = .ok (next, further) := by
  have hname : (Matcher.shape .identifier).accepts token = Text.isIdentifier token.value := rfl
  have hcomma : Text.isIdentifier "," = false := rfl
  have hstar : Text.isIdentifier "*" = false := rfl
  rw [Machine.moveOn_eq_ok_iff]
  simp only [Table.transition?, Selection.machine, Table.transitions_ofList]
  -- the first transition of the state that accepts the word has to be the one of the step, so for
  -- each one it is shown that those before it reject the word
  cases hstep with
  | select hword =>
    refine ⟨{ matcher := (Entry.keyword "select").matcher, next := 1,
              action := some Selection.begin }, ?_, rfl, rfl⟩
    simp [Selection.entries, h.accepts_select, hword]
  | star hword =>
    refine ⟨{ matcher := (Entry.character '*').matcher, next := 2,
              action := some Selection.takeAll }, ?_, rfl, rfl⟩
    simp [Selection.entries, Selection.accepts_star, hword]
  | first hword =>
    refine ⟨{ matcher := .shape .identifier, next := 3, action := some Selection.takeColumn },
      ?_, rfl, rfl⟩
    simp [Selection.entries, Selection.accepts_star, hname, hword, Selection.ne_star hword]
  | second hword =>
    obtain ⟨hidentifier, hfrom⟩ := Selection.isColumn_iff.mp hword
    refine ⟨{ matcher := .shape .identifier, next := 4, action := some Selection.takeColumn },
      ?_, rfl, rfl⟩
    simp [Selection.entries, h.accepts_from, hname, hidentifier, hfrom]
  | third hword =>
    refine ⟨{ matcher := .shape .identifier, next := 6, action := some Selection.takeColumn },
      ?_, rfl, rfl⟩
    simp [Selection.entries, hname, hword]
  | thirdStar hword =>
    refine ⟨{ matcher := (Entry.character '*').matcher, next := 6,
              action := some Selection.takeAll }, ?_, rfl, rfl⟩
    simp [Selection.entries, Selection.accepts_star, hname, hstar, hword]
  | fourth hword =>
    obtain ⟨hidentifier, hfrom⟩ := Selection.isColumn_iff.mp hword
    refine ⟨{ matcher := .shape .identifier, next := 5 }, ?_, rfl, rfl⟩
    simp [Selection.entries, h.accepts_from, hname, hidentifier, hfrom]
  | comma hstate hword =>
    refine ⟨{ matcher := (Entry.character ',').matcher, next := 1 }, ?_, rfl, rfl⟩
    simp only [List.mem_cons, List.not_mem_nil, or_false] at hstate
    rcases hstate with rfl | rfl | rfl
    all_goals
      simp [Selection.entries, h.accepts_from, Selection.accepts_comma, hname, hcomma, hword]
  | listEnd hstate hword =>
    refine ⟨{ matcher := (Entry.keyword "from").matcher, next := 7 }, ?_, rfl, rfl⟩
    simp only [List.mem_cons, List.not_mem_nil, or_false] at hstate
    rcases hstate with rfl | rfl | rfl
    all_goals simp [Selection.entries, h.accepts_from, hword]
  | table hword =>
    refine ⟨{ matcher := .shape .identifier, next := 8, action := some Selection.takeTable },
      ?_, rfl, rfl⟩
    simp [Selection.entries, hname, hword]

end

/-! ### What the words so far have led to -/

/-- A list of columns up to and with a piece that may be unfinished, behind `SELECT`. -/
def Selection.listed (inner : List (List String)) (words : List String) : List String :=
  "SELECT" :: [","].intercalate (inner ++ [words])

/-- The words since the last comma, and the state they have led to. -/
inductive Selection.Piece : List String → Nat → Prop where
  | nil : Piece [] 1
  | star : Piece ["*"] 2
  | one {a : String} (h : Text.isIdentifier a = true) : Piece [a] 3
  | two {a b : String} (ha : Text.isIdentifier a = true) (hb : Selection.isColumn b = true) :
      Piece [a, b] 4
  | three {a b c : String} (h : Selection.isTriple a b c = true) : Piece [a, b, c] 6
  | four {a b c d : String} (h : Selection.isTriple a b c = true)
      (hd : Selection.isColumn d = true) : Piece [a, b, c, d] 5

/-- The words that lead from the start to a state, and what has been noted there. -/
inductive Selection.Progress : List String → Nat → Selection → Prop where
  | start : Progress [] 0 {}
  | column {inner : List (List String)} {words : List String} {state : Nat}
      (hinner : ∀ piece ∈ inner, Selection.fitsBeforeComma piece = true)
      (hpiece : Selection.Piece words state) :
      Progress (Selection.listed inner words) state (Selection.ofPieces (inner ++ [words]))
  | listEnd {inner : List (List String)} {last : List String} (h : Selection.Fits inner last) :
      Progress (Selection.listed inner last ++ ["FROM"]) 7 (Selection.ofPieces (inner ++ [last]))
  | table {inner : List (List String)} {last : List String} {table : String}
      (h : Selection.Fits inner last) (htable : Text.isIdentifier table = true) :
      Progress (Selection.listed inner last ++ ["FROM"] ++ [table]) 8
        { Selection.ofPieces (inner ++ [last]) with table := some table }

section

variable {inner : List (List String)} {words values : List String} {word : String}
  {state next : Nat} {selection further : Selection}

lemma intercalate_append_singleton {α : Type} (separator : α) (front : List (List α))
    (last : List α) :
    [separator].intercalate (front ++ [last]) = front.flatMap (· ++ [separator]) ++ last := by
  induction front with
  | nil => simp [List.intercalate]
  | cons first front ih =>
    rw [List.cons_append, List.intercalate_cons_of_ne_nil (by simp), ih]
    simp

lemma Selection.listed_word :
    Selection.listed inner (words ++ [word]) = Selection.listed inner words ++ [word] := by
  simp [Selection.listed, intercalate_append_singleton]

lemma Selection.listed_comma :
    Selection.listed (inner ++ [words]) [] = Selection.listed inner words ++ [","] := by
  simp only [Selection.listed, intercalate_append_singleton]
  simp

lemma Selection.isTriple_iff {a b c : String} :
    Selection.isTriple a b c = true ↔
      Text.isIdentifier a = true ∧ Selection.isColumn b = true ∧
        (Text.isIdentifier c = true ∨ c = "*") := by
  simp [Selection.isTriple, and_assoc]

/-- A comma can stand where the words since the last one are complete. -/
lemma Selection.fitsBeforeComma_iff :
    Selection.fitsBeforeComma words = true ↔
      ∃ state ∈ [3, 5, 6], Selection.Piece words state := by
  constructor
  · intro h
    unfold Selection.fitsBeforeComma at h
    split at h
    · exact ⟨3, by decide, .one h⟩
    · exact ⟨6, by decide, .three h⟩
    · rw [Bool.and_eq_true] at h
      exact ⟨5, by decide, .four h.1 h.2⟩
    · cases h
  · rintro ⟨state, hstate, hpiece⟩
    cases hpiece with
    | nil => simp at hstate
    | star => simp at hstate
    | one h => exact h
    | two ha hb => simp at hstate
    | three h => exact h
    | four h hd => simp [Selection.fitsBeforeComma, h, hd]

/-- `FROM` can stand where the words since the last comma are complete. -/
lemma Selection.fitsBeforeFrom_iff :
    Selection.fitsBeforeFrom words = true ↔
      ∃ state ∈ [2, 3, 6], Selection.Piece words state := by
  constructor
  · intro h
    unfold Selection.fitsBeforeFrom at h
    split at h
    · rw [Bool.or_eq_true, beq_iff_eq] at h
      rcases h with h | rfl
      · exact ⟨3, by decide, .one h⟩
      · exact ⟨2, by decide, .star⟩
    · exact ⟨6, by decide, .three h⟩
    · cases h
  · rintro ⟨state, hstate, hpiece⟩
    cases hpiece with
    | nil => simp at hstate
    | star => rfl
    | one h => simp [Selection.fitsBeforeFrom, h]
    | two ha hb => simp at hstate
    | three h => exact h
    | four h hd => simp at hstate

/-- A step leads from what has been reached to what its word adds. -/
lemma Selection.Progress.step (h : Selection.Progress values state selection)
    (hstep : Selection.Step word state selection next further) :
    Selection.Progress (values ++ [word]) next further := by
  cases h with
  -- outside of the list of columns no more than one word can follow
  | start =>
    cases hstep with
    | select hword =>
      subst hword
      exact @Selection.Progress.column [] [] 1 (by simp) .nil
    | comma hstate => simp at hstate
    | listEnd hstate => simp at hstate
  | listEnd hfits =>
    cases hstep with
    | comma hstate => simp at hstate
    | listEnd hstate => simp at hstate
    | table hword => exact .table hfits hword
  | table hfits htable =>
    cases hstep with
    | comma hstate => simp at hstate
    | listEnd hstate => simp at hstate
  | @column inner words _ hinner hpiece =>
    -- a step within the list adds its word to the last piece, or a comma starts a new one
    cases hstep with
    | select => cases hpiece
    | star hword =>
      cases hpiece
      subst hword
      rw [← Selection.listed_word, ← Selection.ofPieces_star (by decide)]
      exact .column hinner .star
    | first hword =>
      cases hpiece
      rw [← Selection.listed_word, ← Selection.ofPieces_column (by decide) (ne_star hword)]
      exact .column hinner (.one hword)
    | second hword =>
      obtain ⟨hidentifier, -⟩ := Selection.isColumn_iff.mp hword
      cases hpiece with
      | one ha =>
        rw [← Selection.listed_word, ← Selection.ofPieces_column (by simp) (ne_star hidentifier)]
        exact .column hinner (.two ha hword)
    | third hword =>
      cases hpiece with
      | two ha hb =>
        rw [← Selection.listed_word, ← Selection.ofPieces_column (by simp) (ne_star hword)]
        exact .column hinner (.three (Selection.isTriple_iff.mpr ⟨ha, hb, Or.inl hword⟩))
    | thirdStar hword =>
      subst hword
      cases hpiece with
      | two ha hb =>
        rw [← Selection.listed_word, ← Selection.ofPieces_star (by simp)]
        exact .column hinner (.three (Selection.isTriple_iff.mpr ⟨ha, hb, Or.inr rfl⟩))
    -- this step has no action, so the word is not noted
    | fourth hword =>
      obtain ⟨hidentifier, -⟩ := Selection.isColumn_iff.mp hword
      cases hpiece with
      | three ha =>
        rw [← Selection.listed_word, ← Selection.ofPieces_lost (by simp) (ne_star hidentifier)]
        exact .column hinner (.four ha hword)
    | comma hstate hword =>
      subst hword
      -- a comma can leave exactly the states of the pieces that fit before it
      have hwords := Selection.fitsBeforeComma_iff.mpr ⟨state, hstate, hpiece⟩
      rw [← Selection.listed_comma, ← Selection.ofPieces_nil]
      refine .column ?_ .nil
      simpa [or_imp, forall_and] using ⟨hinner, hwords⟩
    | listEnd hstate hword =>
      subst hword
      exact .listEnd ⟨hinner, Selection.fitsBeforeFrom_iff.mpr ⟨state, hstate, hpiece⟩⟩
    | table => cases hpiece

/-- What words lead to, the last of them leads to from what the others lead to. -/
lemma Selection.Progress.last_step (h : Selection.Progress values next further) :
    values = [] ∨
      ∃ earlier word state selection, values = earlier ++ [word] ∧
        Selection.Progress earlier state selection ∧
        Selection.Step word state selection next further := by
  cases h with
  | start => exact Or.inl rfl
  | listEnd hfits =>
    obtain ⟨state, hstate, hpiece⟩ := Selection.fitsBeforeFrom_iff.mp hfits.2
    exact Or.inr ⟨_, _, _, _, rfl, .column hfits.1 hpiece, .listEnd hstate rfl⟩
  | table hfits htable =>
    exact Or.inr ⟨_, _, _, _, rfl, .listEnd hfits, .table htable⟩
  | @column inner words _ hinner hpiece =>
    refine Or.inr ?_
    cases hpiece with
    | nil =>
      rcases List.eq_nil_or_concat inner with rfl | ⟨front, piece, rfl⟩
      · exact ⟨[], "SELECT", _, _, rfl, .start, .select rfl⟩
      · rw [List.concat_eq_append] at hinner ⊢
        have hfront : ∀ piece ∈ front, Selection.fitsBeforeComma piece = true :=
          fun other hother => hinner other (List.mem_append_left _ hother)
        obtain ⟨state, hstate, hpiece⟩ :=
          Selection.fitsBeforeComma_iff.mp (hinner piece (by simp))
        rw [Selection.ofPieces_nil]
        exact ⟨_, _, _, _, Selection.listed_comma, .column hfront hpiece, .comma hstate rfl⟩
    | star =>
      rw [show ["*"] = [] ++ ["*"] from rfl, Selection.ofPieces_star (by decide)]
      exact ⟨_, _, _, _, Selection.listed_word, .column hinner .nil, .star rfl⟩
    | @one a ha =>
      rw [show [a] = [] ++ [a] from rfl, Selection.ofPieces_column (by decide) (ne_star ha)]
      exact ⟨_, _, _, _, Selection.listed_word, .column hinner .nil, .first ha⟩
    | @two a b ha hb =>
      have hstar := ne_star (Selection.isColumn_iff.mp hb).1
      rw [show [a, b] = [a] ++ [b] from rfl, Selection.ofPieces_column (by simp) hstar]
      exact ⟨_, _, _, _, Selection.listed_word, .column hinner (.one ha), .second hb⟩
    | @three a b c h =>
      obtain ⟨ha, hb, hc | rfl⟩ := Selection.isTriple_iff.mp h
      · rw [show [a, b, c] = [a, b] ++ [c] from rfl,
          Selection.ofPieces_column (by simp) (ne_star hc)]
        exact ⟨_, _, _, _, Selection.listed_word, .column hinner (.two ha hb), .third hc⟩
      · rw [show [a, b, "*"] = [a, b] ++ ["*"] from rfl, Selection.ofPieces_star (by simp)]
        exact ⟨_, _, _, _, Selection.listed_word, .column hinner (.two ha hb), .thirdStar rfl⟩
    | @four a b c d h hd =>
      have hstar := ne_star (Selection.isColumn_iff.mp hd).1
      rw [show [a, b, c, d] = [a, b, c] ++ [d] from rfl, Selection.ofPieces_lost (by simp) hstar]
      exact ⟨_, _, _, _, Selection.listed_word, .column hinner (.three h), .fourth hd⟩

lemma Selection.progress_append_singleton_iff :
    Selection.Progress (values ++ [word]) next further ↔
      ∃ state selection, Selection.Progress values state selection ∧
        Selection.Step word state selection next further := by
  constructor
  · intro h
    rcases h.last_step with hnil | ⟨earlier, other, state, selection, heq, hprogress, hstep⟩
    · simp at hnil
    · obtain ⟨rfl, hword⟩ := List.append_inj' heq rfl
      cases hword
      exact ⟨state, selection, hprogress, hstep⟩
  · rintro ⟨state, selection, hprogress, hstep⟩
    exact hprogress.step hstep

/-- The machine for queries is where the words so far lead to. -/
lemma Selection.reaches_iff_progress {tokens : List Token}
    (h : ∀ token ∈ tokens, Selection.Spelled token) :
    Selection.machine.Reaches 0 {} tokens next further ↔
      Selection.Progress (tokens.map Token.value) next further := by
  -- from the end of the tokens, since the last token makes the last step
  induction tokens using List.reverseRecOn generalizing next further with
  | nil =>
    constructor
    · intro hreaches
      cases hreaches
      exact .start
    · intro hprogress
      rw [List.map_nil] at hprogress
      cases hprogress
      rfl
  | append_singleton tokens token ih =>
    have htokens : ∀ other ∈ tokens, Selection.Spelled other :=
      fun other hother => h other (List.mem_append_left _ hother)
    have htoken : Selection.Spelled token := h token (by simp)
    have hterminal : Selection.machine.isTerminal next = false := rfl
    rw [List.map_append, List.map_singleton, Selection.progress_append_singleton_iff,
      Machine.reaches_append_iff]
    simp only [ih htokens, Machine.reaches_singleton_iff, hterminal, and_true]
    constructor
    · rintro ⟨state, selection, hprogress, hmove⟩
      exact ⟨state, selection, hprogress, Selection.step_of_moveOn htoken hmove⟩
    · rintro ⟨state, selection, hprogress, hstep⟩
      exact ⟨state, selection, hprogress, hstep.moveOn htoken⟩

end

/-! ### Queries as texts -/

/-- A token of a text is spelled as the keyword that it is like. -/
lemma Selection.spelled_of_mem_tokens {text : String} {token : Token}
    (h : token ∈ (Selection.machine.lexer.tokenize text).tokens) : Selection.Spelled token := by
  obtain ⟨lexeme, -, rfl⟩ := List.mem_map.mp h
  intro keyword hkeyword halike
  have hupper : ∀ keyword ∈ Selection.vocabulary.keywords, Text.upper keyword = keyword := by
    decide
  have hlexeme : Text.upper lexeme = keyword := by
    rw [← hupper keyword hkeyword, Text.alike_iff_upper_eq.mp halike]
    rcases Selection.vocabulary.value_classify_or lexeme with hvalue | hvalue
    · exact congrArg Text.upper hvalue.symm
    · exact (Text.upper_upper lexeme).symm.trans (congrArg Text.upper hvalue.symm)
  have hcontains : Selection.vocabulary.keywords.contains (Text.upper lexeme) = true := by
    rw [hlexeme]
    exact List.contains_iff_mem.mpr hkeyword
  have hclassify := Selection.vocabulary.classify_of_keyword hcontains
  rw [hlexeme] at hclassify
  exact congrArg Token.value hclassify

lemma Selection.machine_blind : Selection.machine.Blind := by
  refine Machine.blind_ofList rfl ?_
  simp [Selection.entries, Action.Blind, Selection.begin, Selection.takeAll, Selection.takeColumn,
    Selection.takeTable]

/-- The result for a text is what its words lead to. -/
lemma Selection.parse_eq_ok_iff_progress {text : String} {selection : Selection} :
    Selection.grammar.parse text = .ok selection ↔
      ∃ final, Selection.Progress
        ((Selection.machine.lexer.tokenize text).tokens.map Token.value) final selection := by
  have hspelled : ∀ token ∈ (Selection.machine.lexer.tokenize text).tokens,
      Selection.Spelled token := fun token htoken => Selection.spelled_of_mem_tokens htoken
  have hrun := Selection.machine_blind.run_eq (Selection.machine.lexer.tokenize text)
  have houtcome : Selection.grammar.parse text = (Selection.machine.trail 0 {}
      (Selection.machine.lexer.tokenize text).tokens).ending.outcome :=
    congrArg (fun run => run.ending.outcome) hrun
  rw [houtcome, Machine.outcome_eq_ok_iff_reaches rfl]
  simp only [Selection.reaches_iff_progress hspelled]

/-- A query as it is meant: a star, or one or more columns with commas between them, and noted is
which of the two, and every column. -/
def Selection.Intended (values : List String) (selection : Selection) (table : String) : Prop :=
  (values = ["SELECT", "*", "FROM", table] ∧ selection.all = true ∧ selection.columns = []) ∨
    ∃ columns, columns ≠ [] ∧ (∀ column ∈ columns, Text.isIdentifier column = true) ∧
      values = "SELECT" :: [","].intercalate (columns.map fun column => [column]) ++
        ["FROM", table] ∧
      selection.all = false ∧ selection.columns = columns

section

variable {inner : List (List String)} {last words : List String} {table : String} {state : Nat}
  {selection : Selection}

lemma Selection.Piece.comma_notMem (h : Selection.Piece words state) : "," ∉ words := by
  intro hmem
  have hcolumn : ∀ {word}, Selection.isColumn word = true → word ≠ "," :=
    fun hword => ne_comma (Selection.isColumn_iff.mp hword).1
  have htriple : ∀ {a b c}, Selection.isTriple a b c = true → "," ∉ [a, b, c] := by
    intro a b c habc
    obtain ⟨ha, hb, hc | rfl⟩ := Selection.isTriple_iff.mp habc
    · simp [(ne_comma ha).symm, (hcolumn hb).symm, (ne_comma hc).symm]
    · simp [(ne_comma ha).symm, (hcolumn hb).symm]
  cases h with
  | nil => simp at hmem
  | star => simp at hmem
  | one h => simp [(ne_comma h).symm] at hmem
  | two ha hb => simp [(ne_comma ha).symm, (hcolumn hb).symm] at hmem
  | three h => exact htriple h hmem
  | @four a b c d h hd =>
    rcases List.mem_append.mp (show "," ∈ [a, b, c] ++ [d] from hmem) with habc | hlast
    · exact htriple h habc
    · exact hcolumn hd (List.mem_singleton.mp hlast).symm

lemma Selection.Fits.comma_notMem (h : Selection.Fits inner last) :
    ∀ piece ∈ inner ++ [last], "," ∉ piece := by
  intro piece hpiece
  rcases List.mem_append.mp hpiece with hinner | hlast
  · obtain ⟨state, -, hpiece⟩ := Selection.fitsBeforeComma_iff.mp (h.1 piece hinner)
    exact hpiece.comma_notMem
  · rw [List.mem_singleton.mp hlast]
    obtain ⟨state, -, hpiece⟩ := Selection.fitsBeforeFrom_iff.mp h.2
    exact hpiece.comma_notMem

/-- Lists of pieces without commas that are written alike are the same. -/
lemma intercalate_comma_inj {pieces others : List (List String)} (hpieces : pieces ≠ [])
    (hothers : others ≠ []) (hfirst : ∀ piece ∈ pieces, "," ∉ piece)
    (hsecond : ∀ piece ∈ others, "," ∉ piece)
    (h : [","].intercalate pieces = [","].intercalate others) : pieces = others := by
  rw [← List.splitOn_intercalate "," hfirst hpieces, h,
    List.splitOn_intercalate "," hsecond hothers]

/-- What is noted for single columns is these columns. -/
lemma Selection.ofPieces_singletons {columns : List String}
    (h : ∀ column ∈ columns, Text.isIdentifier column = true) :
    Selection.ofPieces (columns.map fun column => [column]) = { columns } := by
  induction columns using List.reverseRecOn with
  | nil => rfl
  | append_singleton columns column ih =>
    have hcolumn := ne_star (h column (by simp))
    have hrest := ih fun other hother => h other (List.mem_append_left _ hother)
    rw [List.map_append, List.map_singleton, show [column] = [] ++ [column] from rfl,
      Selection.ofPieces_column (by decide) hcolumn, Selection.ofPieces_nil, hrest]
    rfl

/-- A list of columns that is written like single columns has these columns for its pieces. -/
lemma Selection.Fits.pieces_eq (h : Selection.Fits inner last) {columns : List String}
    (hne : columns ≠ []) (hcomma : "," ∉ columns)
    (hvalues : Selection.listed inner last ++ ["FROM", table] =
      "SELECT" :: [","].intercalate (columns.map fun column => [column]) ++ ["FROM", table]) :
    inner ++ [last] = columns.map fun column => [column] := by
  have hlist := List.cons.inj (List.append_cancel_right hvalues)
  refine intercalate_comma_inj (by simp) (by simpa using hne) h.comma_notMem ?_ hlist.2
  intro piece hpiece hmem
  obtain ⟨column, hcolumn, rfl⟩ := List.mem_map.mp hpiece
  rw [← List.mem_singleton.mp hmem] at hcolumn
  exact hcomma hcolumn

/-- Pieces of one word each are columns, unless the last of them is a star. -/
lemma Selection.Fits.exists_columns (h : Selection.Fits inner last)
    (hsingle : ∀ piece ∈ inner ++ [last], piece.length = 1) (hstar : last ≠ ["*"]) :
    ∃ columns : List String, (∀ column ∈ columns, Text.isIdentifier column = true) ∧
      inner ++ [last] = columns.map fun column => [column] := by
  obtain ⟨columns, hcolumns⟩ : inner ++ [last] ∈ Set.range (List.map fun word => [word]) := by
    rw [Set.range_list_map]
    intro piece hpiece
    obtain ⟨word, rfl⟩ := List.length_eq_one_iff.mp (hsingle piece hpiece)
    exact ⟨word, rfl⟩
  refine ⟨columns, ?_, hcolumns.symm⟩
  intro column hcolumn
  have hmem : [column] ∈ inner ++ [last] := by
    rw [← hcolumns]
    exact List.mem_map_of_mem hcolumn
  rcases List.mem_append.mp hmem with hinner | hlast
  · exact h.1 [column] hinner
  · obtain rfl := List.mem_singleton.mp hlast
    have hword : column ≠ "*" := by simpa using hstar
    simpa [Selection.fitsBeforeFrom, hword] using h.2

/-- The words of a query and what is noted for it are as meant exactly if no two words of the list
of columns stand next to each other, and a star stands alone. -/
lemma Selection.Fits.intended_iff (h : Selection.Fits inner last) :
    Selection.Intended (Selection.listed inner last ++ ["FROM", table])
        { Selection.ofPieces (inner ++ [last]) with table := some table } table ↔
      (∀ piece ∈ inner ++ [last], piece.length = 1) ∧ (last = ["*"] → inner = []) := by
  constructor
  · -- the commas show where the pieces are, so the words can be cut in one way only
    rintro (⟨hvalues, -, -⟩ | ⟨columns, hne, hcolumns, hvalues, -, -⟩)
    · have hpieces : inner ++ [last] = [] ++ [["*"]] :=
        h.pieces_eq (List.cons_ne_nil "*" []) (by decide) hvalues
      obtain ⟨rfl, -⟩ := List.append_inj' hpieces rfl
      rw [hpieces]
      exact ⟨by decide, fun _ => rfl⟩
    · have hcomma : "," ∉ columns := fun hmem => ne_comma (hcolumns "," hmem) rfl
      have hpieces := h.pieces_eq hne hcomma hvalues
      refine ⟨by simp [hpieces], ?_⟩
      rintro rfl
      have hmem : ["*"] ∈ columns.map fun column => [column] := by
        rw [← hpieces]
        exact List.mem_append_right inner List.mem_cons_self
      have hstar : "*" ∈ columns := by simpa using hmem
      exact absurd rfl (ne_star (hcolumns "*" hstar))
  · rintro ⟨hsingle, halone⟩
    by_cases hstar : last = ["*"]
    · obtain rfl := halone hstar
      subst hstar
      exact Or.inl ⟨rfl, rfl, rfl⟩
    · obtain ⟨columns, hcolumns, hpieces⟩ := h.exists_columns hsingle hstar
      have hne : columns ≠ [] := by
        rintro rfl
        simp at hpieces
      rw [hpieces, Selection.ofPieces_singletons hcolumns, Selection.listed, hpieces]
      exact Or.inr ⟨columns, hne, hcolumns, rfl, rfl, rfl⟩

end

/-- Which texts are queries with a table, and what is noted for them; and of these, which are as
meant. -/
theorem Selection.parse_eq_ok_iff (text : String) {selection : Selection} {table : String}
    (htable : selection.table = some table) :
    let values := (Selection.machine.lexer.tokenize text).tokens.map Token.value
    (Selection.grammar.parse text = .ok selection ↔
      ∃ inner last, Selection.Fits inner last ∧ Text.isIdentifier table = true ∧
        values = Selection.listed inner last ++ ["FROM", table] ∧
        selection = { Selection.ofPieces (inner ++ [last]) with table := some table }) ∧
    ∀ inner last, Selection.Fits inner last →
      values = Selection.listed inner last ++ ["FROM", table] →
      selection = { Selection.ofPieces (inner ++ [last]) with table := some table } →
      (Selection.Intended values selection table ↔
        (∀ piece ∈ inner ++ [last], piece.length = 1) ∧ (last = ["*"] → inner = [])) := by
  intro values
  constructor
  · have hparse : Selection.grammar.parse text = .ok selection ↔
        ∃ final, Selection.Progress values final selection := Selection.parse_eq_ok_iff_progress
    rw [hparse]
    constructor
    · rintro ⟨final, hprogress⟩
      -- only a query that is complete has noted a table
      generalize values = found at hprogress ⊢
      cases hprogress with
      | start => cases htable
      | column => cases htable
      | listEnd => cases htable
      | @table inner last found hfits hidentifier =>
        cases htable
        exact ⟨inner, last, hfits, hidentifier, by simp, rfl⟩
    · rintro ⟨inner, last, hfits, hidentifier, hvalues, rfl⟩
      refine ⟨8, ?_⟩
      rw [hvalues]
      simpa using Selection.Progress.table hfits hidentifier
  · rintro inner last hfits hvalues rfl
    rw [hvalues]
    exact hfits.intended_iff

/-- Two columns with a comma between them are a query as meant. -/
theorem Selection.parse_eq_ok_iff_columns :
    let selection : Selection := { columns := ["a", "b"], table := some "t" }
    selection.table = some "t" ∧ Selection.grammar.parse "Select a, b from t" = .ok selection ∧
      Selection.Intended ["SELECT", "a", ",", "b", "FROM", "t"] selection "t" := by
  intro selection
  have htable : selection.table = some "t" := rfl
  have hvalues : (Selection.machine.lexer.tokenize "Select a, b from t").tokens.map Token.value =
      ["SELECT", "a", ",", "b", "FROM", "t"] := by decide +kernel
  have hfits : Selection.Fits [["a"]] ["b"] := by
    simp only [Selection.Fits]
    decide
  obtain ⟨hparse, hintended⟩ := Selection.parse_eq_ok_iff "Select a, b from t" htable
  rw [hvalues] at hparse hintended
  refine ⟨htable, hparse.mpr ⟨[["a"]], ["b"], hfits, rfl, rfl, rfl⟩, ?_⟩
  exact (hintended [["a"]] ["b"] hfits rfl rfl).mpr (by decide)

/-- Four words in a row before a comma are accepted, and the last of them is not noted. -/
theorem Selection.parse_lost_column :
    let selection : Selection := { columns := ["a", "b", "c", "e"], table := some "t" }
    Selection.grammar.parse "select a b c d , e from t" = .ok selection ∧
      ¬ Selection.Intended
        ((Selection.machine.lexer.tokenize "select a b c d , e from t").tokens.map Token.value)
        selection "t" := by
  intro selection
  have hvalues :
      (Selection.machine.lexer.tokenize "select a b c d , e from t").tokens.map Token.value =
        ["SELECT", "a", "b", "c", "d", ",", "e", "FROM", "t"] := by decide +kernel
  have hfits : Selection.Fits [["a", "b", "c", "d"]] ["e"] := by
    simp only [Selection.Fits]
    decide
  refine ⟨by decide +kernel, ?_⟩
  rw [hvalues]
  exact hfits.intended_iff.not.mpr (by decide)

end TableGrammar
