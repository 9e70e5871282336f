import Mathlib
import TableGrammar.Proofs.Grammar.GatheredWriting
import TableGrammar.Proofs.Scan.Concatenation

/-!
# Streams of assignments

A run that has ended in a terminal state has not looked at what follows, and leaves the cursor right
behind the tokens it needed. So runs one after another over a cursor pass over one complete piece
after another (`Grammar.getElem?_runs`). A complete assignment ends with a semicolon, and therefore
texts of complete assignments can be written without anything between them: runs over the tokens of
the whole text give their results in order (`Gathering.runs_join`).
-/

namespace TableGrammar

variable {ρ : Type}

/-! ### Runs one after another -/

/-- Runs over a cursor, each from where the one before has left it. -/
def Grammar.runs (grammar : Grammar ρ) : Nat → Cursor → List (Run ρ)
  | 0, _ => []
  | count + 1, cursor =>
    let run := grammar.run cursor
    run :: grammar.runs count run.cursor

/-- The tokens lead the machine from its start to a terminal state, and all of them are needed. -/
structure Machine.Completes (machine : Machine ρ) (tokens : List Token) (state : Nat)
    (result : ρ) : Prop where
  ending : (machine.trail 0 machine.start tokens).ending = .terminal state result
  consumed : (machine.trail 0 machine.start tokens).consumed = tokens.length

section

variable {grammar : Grammar ρ} {tokens rest : List Token} {state : Nat}
  {result : ρ}

lemma Cursor.remaining_advance (cursor : Cursor) (count : Nat) :
    (cursor.advance count).remaining = cursor.remaining.drop count := by
  simp [Cursor.remaining, Cursor.advance, List.drop_drop]

lemma Cursor.advance_advance (cursor : Cursor) (m n : Nat) :
    (cursor.advance m).advance n = cursor.advance (m + n) := by
  simp [Cursor.advance, Nat.add_assoc]

/-- A run over what remains of a cursor stops behind the tokens that complete it. -/
lemma Machine.Completes.run (h : grammar.machine.Completes tokens state result)
    (blind : grammar.machine.Blind) {cursor : Cursor}
    (hremaining : cursor.remaining = tokens ++ rest) :
    (grammar.run cursor).ending = .terminal state result ∧
      (grammar.run cursor).cursor = cursor.advance tokens.length := by
  have hrun : grammar.run cursor =
      ((grammar.machine.trail 0 grammar.machine.start tokens).andThen fun next result =>
        grammar.machine.trail next result rest).run cursor := by
    rw [← Machine.trail_append, ← hremaining]
    exact blind.run_eq cursor
  rw [hrun, Trail.andThen, h.ending]
  exact ⟨h.ending, congrArg cursor.advance h.consumed⟩

/-- A run over a text that ends in a terminal state, and leaves no token, needed all of them. The
last one led to that state. -/
lemma Grammar.completes_of_runText (grammar : Grammar ρ) (blind : grammar.machine.Blind)
    {text : String}
    (hending : (grammar.runText text).ending = .terminal state result)
    (hremaining : (grammar.runText text).cursor.remaining = []) :
    grammar.machine.Completes (grammar.machine.lexer.tokenize text).tokens state result ∧
      ∃ front token next middle,
        (grammar.machine.lexer.tokenize text).tokens = front ++ [token] ∧
        (grammar.machine.moveOn next middle token).outcome = .ok (state, result) := by
  have hrun : grammar.runText text =
      (grammar.machine.trail 0 grammar.machine.start
        (grammar.machine.lexer.tokenize text).tokens).run (grammar.machine.lexer.tokenize text) :=
    blind.run_eq (grammar.machine.lexer.tokenize text)
  rw [hrun] at hending hremaining
  obtain ⟨-, front, token, later, next, middle, htokens, hconsumed, -, hmove⟩ :=
    Machine.exists_of_terminal hending
  -- no token is left, so none follows the one that led to the terminal state
  have hlater : later = [] := by
    rw [Trail.run, Cursor.remaining_advance, hconsumed] at hremaining
    have hdrop : (front ++ token :: later).drop (front.length + 1) = [] := by
      rw [← htokens]
      exact hremaining
    simpa [List.drop_append] using hdrop
  rw [hlater] at htokens
  refine ⟨⟨hending, ?_⟩, front, token, next, middle, htokens, hmove⟩
  rw [hconsumed, htokens, List.length_append, List.length_singleton]

/-- Runs one after another over pieces that each complete a run. -/
lemma Grammar.getElem?_runs (grammar : Grammar ρ) (blind : grammar.machine.Blind)
    {pieces : List (List Token × ρ)}
    (h : ∀ piece ∈ pieces, grammar.machine.Completes piece.1 state piece.2) {cursor : Cursor}
    (hremaining : cursor.remaining = pieces.flatMap Prod.fst) {i : Nat} {piece : List Token × ρ}
    (hi : pieces[i]? = some piece) :
    ∃ run, (grammar.runs pieces.length cursor)[i]? = some run ∧
      run.ending = .terminal state piece.2 ∧
      run.cursor =
        cursor.advance ((pieces.take (i + 1)).map fun piece => piece.1.length).sum := by
  induction pieces generalizing cursor i with
  | nil => simp at hi
  | cons first pieces ih =>
    rw [List.forall_mem_cons] at h
    rw [List.flatMap_cons] at hremaining
    obtain ⟨hending, hcursor⟩ := h.1.run blind hremaining
    -- the first run ends behind the tokens of its piece, where the others start
    cases i with
    | zero =>
      cases hi
      refine ⟨grammar.run cursor, rfl, hending, ?_⟩
      simpa using hcursor
    | succ i =>
      have hrest : (grammar.run cursor).cursor.remaining = pieces.flatMap Prod.fst := by
        rw [hcursor, Cursor.remaining_advance, hremaining, List.drop_left]
      obtain ⟨run, hrun, hterminal, hafter⟩ := ih h.2 hrest hi
      refine ⟨run, hrun, hterminal, ?_⟩
      rw [hafter, hcursor, Cursor.advance_advance]
      simp

end

/-- The tokens of texts in a row that all end with a symbol are those of one after another. -/
lemma Lexer.tokens_join {lexer : Lexer} {texts : List String}
    (h : ∀ text ∈ texts, Text.EndsWithSymbol lexer.special text) :
    (lexer.tokenize (String.join texts)).tokens =
      texts.flatMap fun text => (lexer.tokenize text).tokens := by
  rw [Lexer.tokenize, lexemes_join h, Lexer.classifyAll, List.map_flatMap]
  rfl

/-! ### Assignments -/

/-- The text of a complete assignment ends with a symbol. -/
lemma Gathering.endsWithSymbol {text : String} {front : List Token} {token : Token}
    (htokens : (Gathering.machine.lexer.tokenize text).tokens = front ++ [token])
    (hvalue : token.value = ";") :
    Text.EndsWithSymbol Gathering.machine.lexer.special text := by
  have hlast : (Gathering.machine.lexer.tokenize text).tokens.getLast? = some token := by
    rw [htokens, List.getLast?_append, List.getLast?_singleton, Option.some_or]
  rw [Lexer.tokenize, Lexer.classifyAll, List.getLast?_map, Option.map_eq_some_iff] at hlast
  obtain ⟨lexeme, hlexeme, rfl⟩ := hlast
  have hsemicolon : lexeme = ";" := (Assignment.value_classify lexeme).symm.trans hvalue
  exact ⟨';', rfl, by rw [hlexeme, hsemicolon]; rfl⟩

/-- Texts of complete assignments can be written in a row. The runs over the tokens of the whole
text, one after another, give what each text gives alone, and each run leaves the cursor behind the
tokens of its text. -/
theorem Gathering.runs_join (statements : List (String × Gathering))
    (h : ∀ statement ∈ statements,
      (Gathering.grammar.runText statement.1).ending = .terminal Gathering.done statement.2 ∧
        (Gathering.grammar.runText statement.1).cursor.remaining = []) :
    let cursor := Gathering.machine.lexer.tokenize (String.join (statements.map Prod.fst))
    ∀ (i : Nat) (statement : String × Gathering), statements[i]? = some statement →
      ∃ run : Run Gathering, (Gathering.grammar.runs statements.length cursor)[i]? = some run ∧
        run.ending = .terminal Gathering.done statement.2 ∧
        run.cursor = { cursor with
          position := ((statements.take (i + 1)).map fun statement =>
            (Gathering.machine.lexer.tokenize statement.1).length).sum } := by
  intro cursor i statement hi
  -- each text needs all of its tokens and ends with a semicolon, so texts in a row are lexed apart
  have hcompletes : ∀ statement ∈ statements,
      Gathering.machine.Completes (Gathering.machine.lexer.tokenize statement.1).tokens
          Gathering.done statement.2 ∧
        Text.EndsWithSymbol Gathering.machine.lexer.special statement.1 := by
    intro statement hstatement
    obtain ⟨hending, hremaining⟩ := h statement hstatement
    obtain ⟨hcompletes, front, token, state, gathering, htokens, hmove⟩ :=
      Gathering.grammar.completes_of_runText Gathering.machine_blind hending hremaining
    rcases Gathering.moveOn_cases hmove with ⟨-, hdone⟩ | ⟨-, hvalue, -⟩
    · exact absurd rfl hdone
    · exact ⟨hcompletes, Gathering.endsWithSymbol htokens hvalue⟩
  let pieces := statements.map fun statement =>
    ((Gathering.machine.lexer.tokenize statement.1).tokens, statement.2)
  have hpieces : ∀ piece ∈ pieces, Gathering.machine.Completes piece.1 Gathering.done piece.2 :=
    List.forall_mem_map.mpr fun statement hstatement => (hcompletes statement hstatement).1
  have hremaining : cursor.remaining = pieces.flatMap Prod.fst := by
    have htokens := @Lexer.tokens_join Gathering.machine.lexer (statements.map Prod.fst)
      (List.forall_mem_map.mpr fun statement hstatement => (hcompletes statement hstatement).2)
    rw [List.flatMap_map] at htokens
    rw [List.flatMap_map]
    exact htokens
  have hpiece : pieces[i]? =
      some ((Gathering.machine.lexer.tokenize statement.1).tokens, statement.2) := by
    rw [List.getElem?_map, hi, Option.map_some]
  obtain ⟨run, hrun, hending, hcursor⟩ :=
    Gathering.grammar.getElem?_runs Gathering.machine_blind hpieces hremaining hpiece
  rw [List.length_map] at hrun
  refine ⟨run, hrun, hending, ?_⟩
  have hposition : cursor.position = 0 := rfl
  rw [hcursor, Cursor.advance, hposition, Nat.zero_add, ← List.map_take, List.map_map]
  rfl

/-- Two texts in a row, the first of which ends with a number, a semicolon and a blank. -/
theorem Gathering.runs_join_two :
    let first : Gathering :=
      { target := "x"
        formula := { Formula.standard with values := #["a", "+", "1.5"] }
        tree := some (.branch "+" (.leaf "a") (.leaf "1.5")) }
    let second : Gathering :=
      { target := "y"
        formula := { Formula.standard with values := #["b"] }
        tree := some (.leaf "b") }
    let cursor := Gathering.machine.lexer.tokenize "x=a + 1.5; y=b;"
    ∃ run further : Run Gathering,
      (Gathering.grammar.runs 2 cursor)[0]? = some run ∧
      run.ending = .terminal Gathering.done first ∧ run.cursor.position = 6 ∧
      (Gathering.grammar.runs 2 cursor)[1]? = some further ∧
      further.ending = .terminal Gathering.done second ∧ further.cursor.position = 10 := by
  intro first second cursor
  have hstatements : ∀ statement ∈ [("x=a + 1.5; ", first), ("y=b;", second)],
      (Gathering.grammar.runText statement.1).ending = .terminal Gathering.done statement.2 ∧
        (Gathering.grammar.runText statement.1).cursor.remaining = [] := by
    simp only [List.forall_mem_cons]
    exact ⟨⟨by cbv, by cbv⟩, ⟨by cbv, by cbv⟩, by simp⟩
  have hfirst : (Gathering.machine.lexer.tokenize "x=a + 1.5; ").length = 6 := by decide
  have hsecond : (Gathering.machine.lexer.tokenize "y=b;").length = 4 := by decide
  have hruns := Gathering.runs_join _ hstatements
  obtain ⟨run, hrun, hending, hcursor⟩ := hruns 0 _ rfl
  obtain ⟨further, hfurther, hterminal, hafter⟩ := hruns 1 _ rfl
  refine ⟨run, further, hrun, hending, ?_, hfurther, hterminal, ?_⟩
  · simp [hcursor, hfirst]
  · simp [hafter, hfirst, hsecond]

end TableGrammar
