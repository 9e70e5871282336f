import TableGrammar.Proofs.Scan.Strings

/-!
# Texts in a row

A scan that has just come to a symbol is between lexemes, whatever text came before it. So where a
text ends with a symbol, a further text can be written right behind it, and the lexemes of both in a
row are those of the first and those of the second (`lexemes_append`, and `lexemes_join` for any
number of texts).

A blank does the same behind any text that does not end inside a string. Inside a string the blank
and what follows belong to it, up to the quote that closes it (`lexemes_append_blank`).
-/

namespace TableGrammar

variable {special : List Char}

/-- Behind a text that leaves the scan between lexemes, a further text has the lexemes that it has
alone. -/
lemma lexemes_append_of_between {front : String} {words : List (List Char)}
    (h : Scan.readAll special {} front.toList = ⟨.normal, [], words⟩) (back : String) :
    lexemes special (front ++ back) = lexemes special front ++ lexemes special back := by
  have hback : Scan.wordsOver special {} back.toList = munch special back.toList :=
    Scan.wordsOver_eq_munch [] back.toList
  have hwhole : Scan.wordsOver special {} (front.toList ++ back.toList) =
      Scan.wordsOver special {} front.toList ++ Scan.wordsOver special {} back.toList := by
    rw [Scan.wordsOver_append, h, Scan.wordsOver_eq_munch, hback, Scan.wordsOver, h]
    rfl
  have hmap := congrArg (List.map String.ofList) hwhole
  rw [← String.toList_append, List.map_append] at hmap
  exact hmap

/-! ### Behind symbols -/

/-- The characters that are lexemes of their own. -/
def Text.isSymbol (special : List Char) (c : Char) : Bool :=
  special.contains c && !Text.isBlank c && !Text.isQuote c && !c.isDigit

/-- A scan that is between lexemes, or that is in a lexeme which is no symbol. -/
def Scan.Steady (special : List Char) (scan : Scan) : Prop :=
  scan.mode = .normal ∧ scan.pending = [] ∨ ∃ c ∈ scan.pending, Text.isSymbol special c = false

section

variable {scan : Scan} {c : Char}

/-- What is pending holds a word character, a quote or a digit. -/
lemma Scan.Coherent.steady (h : scan.Coherent special) : scan.Steady special := by
  obtain ⟨mode, pending, lexemes⟩ := scan
  obtain ⟨-, hbegun⟩ := h
  simp only at hbegun
  generalize hlexeme : pending.reverse = lexeme at hbegun
  have hholds : ∀ c ∈ lexeme, Text.isSymbol special c = false →
      Scan.Steady special ⟨mode, pending, lexemes⟩ := by
    intro c hc hsymbol
    refine Or.inr ⟨c, ?_, hsymbol⟩
    rwa [← List.mem_reverse, hlexeme]
  cases hbegun with
  | word hrun =>
    cases lexeme with
    | nil => exact Or.inl ⟨rfl, List.reverse_eq_nil_iff.mp hlexeme⟩
    | cons c rest =>
      have hplain := hrun c List.mem_cons_self
      refine hholds c List.mem_cons_self ?_
      cases hspecial : special.contains c with
      | false => simp only [Text.isSymbol, hspecial, Bool.false_and]
      | true => simp only [Text.isPlain, hspecial, Bool.not_true, Bool.and_false,
          Bool.false_eq_true] at hplain
  | @string run body quote escaped hrun hquote hbody =>
    exact hholds quote (by simp) (by simp [Text.isSymbol, hquote])
  | whole hne hwhole =>
    obtain ⟨c, hc⟩ := List.exists_mem_of_ne_nil lexeme hne
    exact hholds c hc (by simp [Text.isSymbol, hwhole c hc])
  | @fraction whole fraction hne hwhole hfraction =>
    obtain ⟨c, hc⟩ := List.exists_mem_of_ne_nil whole hne
    exact hholds c (List.mem_append_left _ hc) (by simp [Text.isSymbol, hwhole c hc])

/-- A scan whose last lexeme is a symbol is between lexemes. -/
lemma Scan.Steady.eq_of_symbol (h : scan.Steady special) (hc : Text.isSymbol special c = true)
    (hlast : scan.words.getLast? = some [c]) : scan = ⟨.normal, [], scan.words.reverse⟩ := by
  obtain ⟨mode, pending, lexemes⟩ := scan
  rcases h with ⟨hmode, hpending⟩ | ⟨d, hmem, hd⟩
  · dsimp only at hmode hpending
    subst hmode hpending
    simp [Scan.words, Scan.flush]
  · -- the lexeme that is being read would be the symbol
    have hpending : pending ≠ [] := List.ne_nil_of_mem hmem
    rw [Scan.words_of_ne_nil hpending] at hlast
    have hsymbol : pending = [c] := by simpa [List.reverse_eq_iff] using hlast
    dsimp only at hmem
    rw [hsymbol, List.mem_singleton] at hmem
    rw [hmem, hc] at hd
    cases hd

end

/-- The last lexeme of a text is a symbol. -/
def Text.EndsWithSymbol (special : List Char) (text : String) : Prop :=
  ∃ c, Text.isSymbol special c = true ∧
    (lexemes special text).getLast? = some (String.singleton c)

/-- Behind a text that ends with a symbol, a further text has the lexemes that it has alone. -/
lemma lexemes_append {front : String} (h : Text.EndsWithSymbol special front) (back : String) :
    lexemes special (front ++ back) = lexemes special front ++ lexemes special back := by
  obtain ⟨c, hc, hlast⟩ := h
  have hword : (Scan.readAll special {} front.toList).words.getLast? = some [c] := by
    rw [lexemes, List.getLast?_map, Option.map_eq_some_iff] at hlast
    obtain ⟨word, hword, hsingleton⟩ := hlast
    have hc : word = [c] := by simpa using congrArg String.toList hsingleton
    rwa [hc] at hword
  have hsteady : (Scan.readAll special {} front.toList).Steady special :=
    (Scan.coherent_readAll special front.toList).steady
  exact lexemes_append_of_between (hsteady.eq_of_symbol hc hword) back

/-- The lexemes of texts in a row that all end with a symbol are those of one after another. -/
lemma lexemes_join {texts : List String} (h : ∀ text ∈ texts, Text.EndsWithSymbol special text) :
    lexemes special (String.join texts) = texts.flatMap (lexemes special) := by
  induction texts with
  | nil => rfl
  | cons text texts ih =>
    rw [List.forall_mem_cons] at h
    rw [String.join_cons, lexemes_append h.1, ih h.2, List.flatMap_cons]

/-! ### Behind blanks -/

section

variable {scan : Scan} {blank : Char}

/-- Outside strings a blank completes what is pending. -/
lemma Scan.read_blank_outside (hmode : scan.mode.isQuoted = false)
    (hblank : Text.isBlank blank = true) : scan.read special blank = scan.settle := by
  obtain ⟨mode, pending, lexemes⟩ := scan
  have hsettles : Scan.Settles special ⟨mode, pending, lexemes⟩ [blank] := by
    cases mode with
    | normal =>
      apply Scan.settles_normal
      simpa using ⟨Text.isPlain_of_isBlank hblank, Text.isQuote_of_isBlank hblank⟩
    | number point =>
      apply Scan.settles_number
      have hpoint : blank ≠ '.' := by
        rintro rfl
        exact absurd hblank (by decide)
      simpa [hpoint] using Text.isDigit_of_isBlank hblank
    | quoted quote escaped => cases hmode
  rw [hsettles blank rfl, Scan.settle_eq, Scan.read_blank _ _ hblank]
  rfl

/-- Inside a string a blank belongs to it, and keeps nothing that follows. -/
lemma Scan.read_blank_inside {quote : Char} (hquote : Text.isQuote quote = true)
    (hblank : Text.isBlank blank = true) (escaped : Bool) (pending : List Char)
    (lexemes : List (List Char)) :
    Scan.read special ⟨.quoted quote escaped, pending, lexemes⟩ blank =
      ⟨.quoted quote false, blank :: pending, lexemes⟩ := by
  cases escaped with
  | true => exact Scan.read_kept pending lexemes quote blank
  | false =>
    apply Scan.read_inside
    · rintro rfl
      exact absurd hblank (by decide)
    · rintro rfl
      rw [Text.isBlank_of_isQuote hquote] at hblank
      cases hblank

/-- Inside a string, a blank and what follows go on with the last lexeme up to the end of the
string, and behind that end the lexemes are those of the rest. -/
lemma Scan.Coherent.wordsOver_blank (h : scan.Coherent special)
    (hmode : scan.mode.isQuoted = true) (hblank : Text.isBlank blank = true) (back : List Char) :
    ∃ more rest, back = more ++ rest ∧
      scan.words = scan.lexemes.reverse ++ [scan.pending.reverse] ∧
      scan.wordsOver special (blank :: back) = scan.lexemes.reverse ++
        (scan.pending.reverse ++ [blank] ++ more) :: munch special rest := by
  obtain ⟨quote, escaped, run, body, hquoted, hpending, hwords, -, hquote, -⟩ :=
    h.words_quoted hmode
  obtain ⟨mode, pending, lexemes⟩ := scan
  simp only at hquoted hpending hwords ⊢
  subst hquoted
  refine ⟨Text.stringRest quote back, back.drop (Text.stringRest quote back).length,
    List.prefix_append_drop (Text.stringRest_prefix quote back), by rw [hpending, hwords], ?_⟩
  rw [Scan.wordsOver_cons, Scan.read_blank_inside hquote hblank,
    Scan.wordsOver_quoted _ hquote (List.cons_ne_nil _ _), Scan.wordsOver_eq_munch]
  simp

end

/-- Behind a text that does not end inside a string, a blank separates: the lexemes are those of the
text and those of what follows the blank. If the text ends inside a string, only its last lexeme
becomes another one: it goes on with the blank and with what belongs to the string of what follows,
and then come the lexemes of the rest. -/
theorem lexemes_append_blank (special : List Char) (front back : String) {blank : Char}
    (hblank : Text.isBlank blank = true) :
    let mode := (Scan.readAll special {} front.toList).mode
    let whole := lexemes special (front ++ String.singleton blank ++ back)
    (mode.isQuoted = false → whole = lexemes special front ++ lexemes special back) ∧
      (mode.isQuoted = true → ∃ begun last more rest, back = more ++ rest ∧
        lexemes special front = begun ++ [last] ∧
        whole = begun ++ (last ++ String.singleton blank ++ more) :: lexemes special rest) := by
  intro mode whole
  constructor
  · intro hmode
    -- the blank completes what is pending, so a scan is between lexemes behind it
    have hread : Scan.readAll special {} (front ++ String.singleton blank).toList =
        (Scan.readAll special {} front.toList).settle := by
      rw [String.toList_append, String.toList_singleton, Scan.readAll, List.foldl_append]
      exact Scan.read_blank_outside hmode hblank
    have hfront : lexemes special (front ++ String.singleton blank) = lexemes special front := by
      rw [lexemes, hread, Scan.words_settle, lexemes]
    rw [Scan.settle_eq] at hread
    rw [← hfront]
    exact lexemes_append_of_between hread back
  · intro hmode
    have hcoherent := Scan.coherent_readAll special front.toList
    obtain ⟨more, rest, hback, hwords, hover⟩ := hcoherent.wordsOver_blank hmode hblank back.toList
    refine ⟨_, _, String.ofList more, String.ofList rest, ?_,
      by rw [lexemes, hwords, List.map_append, List.map_singleton], ?_⟩
    · rw [← String.ofList_append, ← hback, String.ofList_toList]
    · have htext : (front ++ String.singleton blank ++ back).toList =
          front.toList ++ blank :: back.toList := by
        simp
      rw [← Scan.wordsOver_append, ← htext] at hover
      have hmap := congrArg (List.map String.ofList) hover
      rw [List.map_append, List.map_cons, ← lexemes_ofList, String.ofList_append,
        String.ofList_append, ← String.singleton_eq_ofList] at hmap
      exact hmap

/-- The first text ends behind a number that still has its point, the second one inside a string and
right behind a backslash. -/
theorem lexemes_append_blank_escape :
    Text.isBlank '\t' = true ∧
      (Scan.readAll ['.'] {} "a 1.".toList).mode = .number true ∧
      lexemes ['.'] ("a 1." ++ "\t" ++ ".5") = ["a", "1.", ".", "5"] ∧
      (Scan.readAll ['.'] {} "a 'b\\".toList).mode = .quoted '\'' true ∧
      ∃ begun last more rest, "c' d" = more ++ rest ∧
        lexemes ['.'] "a 'b\\" = begun ++ [last] ∧
        lexemes ['.'] ("a 'b\\" ++ "\t" ++ "c' d") =
          begun ++ (last ++ "\t" ++ more) :: lexemes ['.'] rest := by
  have hblank : Text.isBlank '\t' = true := by decide
  have hnumber : (Scan.readAll ['.'] {} "a 1.".toList).mode = .number true := by decide
  have hescape : (Scan.readAll ['.'] {} "a 'b\\".toList).mode = .quoted '\'' true := by decide
  obtain ⟨houtside, -⟩ := lexemes_append_blank ['.'] "a 1." ".5" hblank
  obtain ⟨-, hinside⟩ := lexemes_append_blank ['.'] "a 'b\\" "c' d" hblank
  exact ⟨hblank, hnumber, houtside (by rw [hnumber]; rfl), hescape,
    hinside (by rw [hescape]; rfl)⟩

end TableGrammar
