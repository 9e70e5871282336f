import TableGrammar.Proofs.Grammar.Queries
import TableGrammar.Proofs.Grammar.Writing

/-!
# Queries written as text

A query that asks for everything, or for at least one column, is written as `SELECT`, a star or the
columns with commas between them, and `FROM` with the table if there is one. Parsing the text gives
the query back (`Selection.parse_text`), as long as no name holds a digit or is a keyword in some
case.

The words of the query are the lexemes of the text (`Selection.WellFormed.lexemes_text`), although
no space stands in front of a comma, and classifying them changes none
(`Selection.WellFormed.values_text`). So the words fit into the table of transitions with every
column alone between two commas.
-/

namespace TableGrammar

/-- A name that is no keyword of queries, in any case. -/
def Selection.isFreeName (name : String) : Bool :=
  Text.isName name && Text.upper name != "SELECT" && Text.upper name != "FROM"

/-- A query for everything or for at least one column, of which all names are free. -/
structure Selection.WellFormed (selection : Selection) : Prop where
  star_or_columns : selection.all = true ∧ selection.columns = [] ∨
    selection.all = false ∧ selection.columns ≠ []
  columns : ∀ column ∈ selection.columns, Selection.isFreeName column = true
  table : ∀ table ∈ selection.table, Selection.isFreeName table = true

/-- What is written between `SELECT` and `FROM`, with commas. -/
def Selection.items (selection : Selection) : List String :=
  if selection.all then "*" :: selection.columns else selection.columns

/-- What is written behind the items. -/
def Selection.ending (selection : Selection) : List String :=
  selection.table.elim [] fun table => ["FROM", table]

/-- All words of a query that is written as text. -/
def Selection.words (selection : Selection) : List String :=
  "SELECT" :: [","].intercalate (selection.items.map fun item => [item]) ++ selection.ending

lemma Selection.isFreeName_iff {name : String} :
    Selection.isFreeName name = true ↔
      Text.isName name = true ∧ Text.upper name ≠ "SELECT" ∧ Text.upper name ≠ "FROM" := by
  simp [Selection.isFreeName, and_assoc]

variable {selection : Selection}

lemma Selection.WellFormed.items_ne_nil (h : selection.WellFormed) : selection.items ≠ [] := by
  rcases h.star_or_columns with ⟨hall, -⟩ | ⟨hall, hne⟩
  · simp [Selection.items, hall]
  · simpa [Selection.items, hall] using hne

lemma Selection.WellFormed.star_or_free (h : selection.WellFormed) :
    ∀ item ∈ selection.items, item = "*" ∨ Selection.isFreeName item = true := by
  intro item hitem
  rw [Selection.items] at hitem
  split at hitem
  case isTrue => exact (List.mem_cons.mp hitem).imp_right (h.columns item)
  case isFalse => exact Or.inr (h.columns item hitem)

/-! ### The words of a query are its lexemes -/

/-- A star and a name are lexemes in front of a space, a comma and the end. -/
lemma Selection.lexemes_item {item rest : String} (hitem : item = "*" ∨ Text.isName item = true)
    (hrest : ∀ c ∈ rest.toList.head?, c = ' ' ∨ c = ',') :
    lexemes Selection.machine.lexer.special (item ++ rest) =
      item :: lexemes Selection.machine.lexer.special rest := by
  apply lexemes_append_of_cuts
  rcases hitem with rfl | hname
  · exact Scan.cuts_special rfl rfl rfl rfl rest.toList
  · refine Scan.cuts_run (Text.ne_nil_of_isName hname) (Text.isPlain_of_isName hname rfl) ?_
    intro c hc
    rcases hrest c hc with rfl | rfl
    · exact ⟨rfl, rfl⟩
    · exact ⟨rfl, rfl⟩

lemma Selection.lexemes_comma (rest : String) :
    lexemes Selection.machine.lexer.special (", " ++ rest) =
      "," :: lexemes Selection.machine.lexer.special rest := by
  have hcuts : Scan.Cuts Selection.machine.lexer.special (",".toList ++ (" " ++ rest).toList)
      ",".toList := Scan.cuts_special rfl rfl rfl rfl _
  rw [show ", " = "," ++ " " from rfl, String.append_assoc, lexemes_append_of_cuts hcuts,
    lexemes_space]

/-- The lexemes of items with commas between them are the items and the commas. -/
lemma Selection.lexemes_items {items : List String} {rest : String} (hne : items ≠ [])
    (hitems : ∀ item ∈ items, item = "*" ∨ Text.isName item = true)
    (hrest : ∀ c ∈ rest.toList.head?, c = ' ') :
    lexemes Selection.machine.lexer.special (", ".intercalate items ++ rest) =
      [","].intercalate (items.map fun item => [item]) ++
        lexemes Selection.machine.lexer.special rest := by
  induction items with
  | nil => exact absurd rfl hne
  | cons item items ih =>
    rw [List.forall_mem_cons] at hitems
    cases items with
    | nil =>
      rw [String.intercalate_singleton,
        Selection.lexemes_item hitems.1 fun c hc => Or.inl (hrest c hc)]
      simp
    | cons next items =>
      have hlater := ih (List.cons_ne_nil next items) hitems.2
      rw [String.intercalate_cons_cons, String.append_assoc, String.append_assoc,
        Selection.lexemes_item hitems.1 (by simp), Selection.lexemes_comma, hlater]
      simp [List.intercalate_cons_cons]

/-- A word with a space behind it is a lexeme, whatever follows. -/
lemma Selection.lexemes_word {word : String} (hword : Text.isName word = true) (rest : String) :
    lexemes Selection.machine.lexer.special (word ++ " " ++ rest) =
      word :: lexemes Selection.machine.lexer.special rest := by
  rw [String.append_assoc, Selection.lexemes_item (Or.inr hword) (by simp), lexemes_space]

/-- The words of a query that is written as text are the lexemes of the text. -/
lemma Selection.WellFormed.lexemes_text (h : selection.WellFormed) :
    lexemes Selection.machine.lexer.special selection.text = selection.words := by
  have hitems : ∀ item ∈ selection.items, item = "*" ∨ Text.isName item = true := by
    intro item hitem
    rcases h.star_or_free item hitem with hstar | hfree
    · exact Or.inl hstar
    · exact Or.inr (Selection.isFreeName_iff.mp hfree).1
  have hlist {rest : String} (hrest : ∀ c ∈ rest.toList.head?, c = ' ') :
      lexemes Selection.machine.lexer.special
          ("SELECT" ++ " " ++ (", ".intercalate selection.items ++ rest)) =
        "SELECT" :: [","].intercalate (selection.items.map fun item => [item]) ++
          lexemes Selection.machine.lexer.special rest := by
    rw [Selection.lexemes_word rfl, Selection.lexemes_items h.items_ne_nil hitems hrest,
      List.cons_append]
  -- with a table, its name is the last word of the text; without one, the list of columns is
  cases htable : selection.table with
  | none =>
    have htext : selection.text = "SELECT" ++ " " ++ (", ".intercalate selection.items ++ "") := by
      simp [Selection.text, Selection.items, htable]
    have hempty : lexemes Selection.machine.lexer.special "" = [] := rfl
    rw [htext, hlist (by simp), hempty]
    simp [Selection.words, Selection.ending, htable]
  | some table =>
    have hname := (Selection.isFreeName_iff.mp (h.table table htable)).1
    have htext : selection.text = "SELECT" ++ " " ++
        (", ".intercalate selection.items ++ (" " ++ ("FROM" ++ " " ++ table))) := by
      simp only [Selection.text, Selection.items, htable, String.append_assoc]
      rfl
    have hlast : lexemes Selection.machine.lexer.special (table ++ "") = [table] :=
      Selection.lexemes_item (Or.inr hname) (by simp)
    rw [String.append_empty] at hlast
    rw [htext, hlist (by simp), lexemes_space, Selection.lexemes_word rfl, hlast]
    simp [Selection.words, Selection.ending, htable]

/-! ### Classifying the words changes none -/

/-- A word that is classified as it is: a free name, a keyword in upper case or a symbol. -/
def Selection.isSettled (word : String) : Bool :=
  Selection.isFreeName word || ["SELECT", "FROM", "*", ","].contains word

lemma Selection.value_classify {word : String} (h : Selection.isSettled word = true) :
    (Selection.vocabulary.classify word).value = word := by
  rw [Selection.isSettled, Bool.or_eq_true, List.contains_iff_mem] at h
  rcases h with hfree | hlisted
  · obtain ⟨-, hselect, hfrom⟩ := Selection.isFreeName_iff.mp hfree
    apply Selection.vocabulary.value_classify
    have hkeywords : Selection.vocabulary.keywords = ["FROM", "SELECT"] := rfl
    simp [hkeywords, hselect, hfrom]
  · revert word
    decide

lemma mem_of_mem_intercalate {word separator : String} {items : List String}
    (h : word ∈ [separator].intercalate (items.map fun item => [item])) :
    word = separator ∨ word ∈ items := by
  rcases List.eq_nil_or_concat items with rfl | ⟨front, last, rfl⟩
  · simp [List.intercalate] at h
  · rw [List.concat_eq_append] at h ⊢
    rw [List.map_append, List.map_singleton, intercalate_append_singleton, List.flatMap_map] at h
    simp only [List.mem_append, List.mem_flatMap, List.mem_singleton] at h ⊢
    rcases h with ⟨item, hitem, rfl | hword⟩ | hword
    · exact Or.inr (Or.inl hitem)
    · exact Or.inl hword
    · exact Or.inr (Or.inr hword)

lemma Selection.WellFormed.isSettled_of_mem (h : selection.WellFormed) {word : String}
    (hword : word ∈ selection.words) : Selection.isSettled word = true := by
  have hfree {name : String} (hname : Selection.isFreeName name = true) :
      Selection.isSettled name = true := by
    simp [Selection.isSettled, hname]
  rw [Selection.words, List.mem_append, List.mem_cons] at hword
  rcases hword with (rfl | hlist) | hending
  · rfl
  · rcases mem_of_mem_intercalate hlist with rfl | hitem
    · rfl
    · rcases h.star_or_free word hitem with rfl | hname
      · rfl
      · exact hfree hname
  · cases htable : selection.table with
    | none => simp [Selection.ending, htable] at hending
    | some table =>
      have hwords : word = "FROM" ∨ word = table := by
        simpa [Selection.ending, htable] using hending
      rcases hwords with rfl | rfl
      · rfl
      · exact hfree (h.table word htable)

/-- The values of the tokens of a query that is written as text are the words of the query. -/
lemma Selection.WellFormed.values_text (h : selection.WellFormed) :
    (Selection.machine.lexer.tokenize selection.text).tokens.map Token.value =
      selection.words := by
  rw [Lexer.tokenize, Lexer.classifyAll, List.map_map, h.lexemes_text]
  conv_rhs => rw [← List.map_id selection.words]
  apply List.map_congr_left
  intro word hword
  exact Selection.value_classify (h.isSettled_of_mem hword)

/-! ### Reading a query back -/

/-- The items of a query fit into a list of columns, for which the query is noted. -/
lemma Selection.WellFormed.exists_fits (h : selection.WellFormed) :
    ∃ inner last, Selection.Fits inner last ∧
      inner ++ [last] = selection.items.map (fun item => [item]) ∧
      Selection.ofPieces (inner ++ [last]) = { selection with table := none } := by
  rcases h.star_or_columns with ⟨hall, hcolumns⟩ | ⟨hall, hne⟩
  · refine ⟨[], ["*"], ⟨by simp, rfl⟩, ?_, ?_⟩
    · simp [Selection.items, hall, hcolumns]
    · rw [hall, hcolumns]
      rfl
  · have hidentifier : ∀ column ∈ selection.columns, Text.isIdentifier column = true := by
      intro column hcolumn
      exact Text.isIdentifier_of_isName (Selection.isFreeName_iff.mp (h.columns column hcolumn)).1
    obtain ⟨front, last, hsplit⟩ := (List.eq_nil_or_concat selection.columns).resolve_left hne
    have hpieces : front.map (fun column => [column]) ++ [[last]] =
        selection.columns.map fun column => [column] := by
      simp [hsplit]
    refine ⟨front.map fun column => [column], [last], ⟨?_, ?_⟩, ?_, ?_⟩
    · intro piece hpiece
      obtain ⟨column, hcolumn, rfl⟩ := List.mem_map.mp hpiece
      exact hidentifier column (by simp [hsplit, hcolumn])
    · have hlast := hidentifier last (by simp [hsplit])
      simp [Selection.fitsBeforeFrom, hlast]
    · simp [hpieces, Selection.items, hall]
    · rw [hpieces, Selection.ofPieces_singletons hidentifier, hall]

/-- A query that is written as text is read back. -/
theorem Selection.parse_text (selection : Selection) (h : selection.WellFormed) :
    Selection.grammar.parse selection.text = .ok selection := by
  obtain ⟨inner, last, hfits, hpieces, hnoted⟩ := h.exists_fits
  rw [Selection.parse_eq_ok_iff_progress, h.values_text, Selection.words, ← hpieces]
  cases htable : selection.table with
  | none =>
    obtain ⟨state, -, hpiece⟩ := Selection.fitsBeforeFrom_iff.mp hfits.2
    have hprogress := Selection.Progress.column hfits.1 hpiece
    rw [hnoted, ← htable] at hprogress
    refine ⟨state, ?_⟩
    rw [Selection.ending, htable, Option.elim_none, List.append_nil]
    exact hprogress
  | some table =>
    have hname := (Selection.isFreeName_iff.mp (h.table table htable)).1
    have hprogress := Selection.Progress.table hfits (Text.isIdentifier_of_isName hname)
    rw [hnoted, ← htable, List.append_assoc] at hprogress
    refine ⟨8, ?_⟩
    rw [Selection.ending, htable, Option.elim_some]
    exact hprogress

/-- Names that start like keywords are free. -/
theorem Selection.parse_text_columns :
    let selection : Selection := { columns := ["select_", "b"], table := some "fromage" }
    selection.WellFormed ∧ selection.text = "SELECT select_, b FROM fromage" ∧
      Selection.grammar.parse "SELECT select_, b FROM fromage" = .ok selection := by
  intro selection
  have hwell : selection.WellFormed := ⟨Or.inr ⟨rfl, by decide⟩, by decide, by decide⟩
  have htext : selection.text = "SELECT select_, b FROM fromage" := by decide
  have hparse := Selection.parse_text selection hwell
  rw [htext] at hparse
  exact ⟨hwell, htext, hparse⟩

end TableGrammar
