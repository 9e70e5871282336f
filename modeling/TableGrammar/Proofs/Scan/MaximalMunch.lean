import Mathlib.Data.List.Infix
import Mathlib.Data.List.MinMax
import Mathlib.Data.List.TakeWhile
import TableGrammar.Proofs.Scan.Segments

/-!
# Lexemes are cut off as long as possible

`munch` cuts a text into lexemes without a state: it skips blanks, cuts the longest lexeme off the
front, and starts again. A scan, which sees one character at a time, comes to the same lexemes, and
nothing but blanks is lost between them (`lexemes_eq_munch`).
-/

namespace TableGrammar

variable {special : List Char}

/-! ### The longest lexeme -/

/-- The longest of the prefixes of a text that have a form; nothing if none has it. -/
def Text.longest (form : List Char → Bool) (text : List Char) : List Char :=
  ((text.inits.filter form).argmax List.length).getD []

/-- Digits, or digits followed by a point and any number of further digits. -/
def Text.isNumeral (text : List Char) : Bool :=
  !(text.takeWhile Char.isDigit).isEmpty &&
    match text.dropWhile Char.isDigit with
    | [] => true
    | '.' :: fraction => fraction.all Char.isDigit
    | _ => false

/-- The string at the front of a text; nothing if it does not start with a quote. -/
def Text.leadingString : List Char → List Char
  | [] => []
  | quote :: rest => if Text.isQuote quote then quote :: Text.stringRest quote rest else []

/-- The lexeme at the front of a text that does not start with a blank: a number, a special
character, or a run of word characters together with the string that stops it. -/
def firstLexeme (special : List Char) : List Char → List Char
  | [] => []
  | c :: rest =>
    if c.isDigit then
      Text.longest Text.isNumeral (c :: rest)
    else if special.contains c && !Text.isQuote c then
      [c]
    else
      let run := Text.longest (fun word => word.all (Text.isPlain special)) (c :: rest)
      run ++ Text.leadingString ((c :: rest).drop run.length)

/-! ### Longest prefixes -/

/-- A prefix with the form is the longest one if no prefix with the form is longer. -/
lemma Text.longest_eq {form : List Char → Bool} {text found : List Char} (hfound : found <+: text)
    (hform : form found = true)
    (hlongest : ∀ other, other <+: text → form other = true → other.length ≤ found.length) :
    Text.longest form text = found := by
  have hmem : found ∈ text.inits.filter form :=
    List.mem_filter.mpr ⟨(List.mem_inits found text).mpr hfound, hform⟩
  cases hargmax : (text.inits.filter form).argmax List.length with
  | none => rw [List.argmax_eq_none.mp hargmax] at hmem; cases hmem
  | some best =>
    obtain ⟨hbest, hbestForm⟩ := List.mem_filter.mp (List.argmax_mem hargmax)
    have hprefix : best <+: text := (List.mem_inits best text).mp hbest
    have hle : found.length ≤ best.length := List.le_of_mem_argmax hmem hargmax
    have hge : best.length ≤ found.length := hlongest best hprefix hbestForm
    rw [Text.longest, hargmax, Option.getD_some]
    have hback := List.prefix_of_prefix_length_le hprefix hfound hge
    exact hback.eq_of_length (Nat.le_antisymm hge hle)

/-- The longest prefix that holds only characters of one kind is the run of them in front. -/
lemma Text.longest_all (p : Char → Bool) (text : List Char) :
    Text.longest (fun word => word.all p) text = text.takeWhile p := by
  refine Text.longest_eq (List.takeWhile_prefix p) List.all_takeWhile fun other hprefix hall => ?_
  obtain ⟨rest, rfl⟩ := hprefix
  rw [List.takeWhile_append_of_pos (List.all_eq_true.mp hall)]
  simp

lemma Text.takeWhile_run {p : Char → Bool} {run rest : List Char} (hrun : ∀ c ∈ run, p c = true)
    (hrest : ∀ c ∈ rest.head?, p c = false) : (run ++ rest).takeWhile p = run := by
  rw [List.takeWhile_append_of_pos hrun]
  cases rest with
  | nil => simp
  | cons c rest => simp [hrest c rfl]

lemma Text.head_dropWhile {p : Char → Bool} {text rest : List Char} {c : Char}
    (h : text.dropWhile p = c :: rest) : p c = false := by
  have hhead := List.head?_dropWhile_not p text
  rw [h] at hhead
  simpa using hhead

/-- Every text is a run of characters of one kind and a rest that does not start with one. -/
lemma Text.exists_run (p : Char → Bool) (text : List Char) :
    ∃ run rest, text = run ++ rest ∧ (∀ c ∈ run, p c = true) ∧ ∀ c ∈ rest.head?, p c = false := by
  refine ⟨text.takeWhile p, text.dropWhile p, List.takeWhile_append_dropWhile.symm,
    fun c hc => List.mem_takeWhile_imp hc, fun c hc => ?_⟩
  obtain ⟨rest, hrest⟩ := List.head?_eq_some_iff.mp hc
  exact Text.head_dropWhile hrest

/-! ### Numbers -/

lemma Text.isNumeral_iff {text : List Char} :
    Text.isNumeral text = true ↔ ∃ whole, whole ≠ [] ∧ (∀ c ∈ whole, c.isDigit = true) ∧
      (text = whole ∨
        ∃ fraction, (∀ c ∈ fraction, c.isDigit = true) ∧ text = whole ++ '.' :: fraction) := by
  constructor
  · intro h
    simp only [Text.isNumeral, Bool.and_eq_true, Bool.not_eq_true', List.isEmpty_eq_false_iff] at h
    obtain ⟨hwhole, hfraction⟩ := h
    refine ⟨text.takeWhile Char.isDigit, hwhole, fun c => List.mem_takeWhile_imp, ?_⟩
    have hsplit := List.takeWhile_append_dropWhile (p := Char.isDigit) (l := text)
    split at hfraction
    case h_1 hdrop =>
      rw [hdrop, List.append_nil] at hsplit
      exact Or.inl hsplit.symm
    case h_2 fraction hdrop =>
      rw [hdrop] at hsplit
      exact Or.inr ⟨fraction, List.all_eq_true.mp hfraction, hsplit.symm⟩
    case h_3 => cases hfraction
  · rintro ⟨whole, hne, hwhole, rfl | ⟨fraction, hfraction, rfl⟩⟩
    · have htake := List.takeWhile_eq_self_iff.mpr hwhole
      have hdrop := List.dropWhile_eq_nil_iff.mpr hwhole
      simp [Text.isNumeral, htake, hdrop, hne]
    · rw [Text.isNumeral, List.takeWhile_append_of_pos hwhole, List.dropWhile_append_of_pos hwhole]
      simpa [hne] using hfraction

/-- The longest number is the digits in front, if no point follows them. -/
lemma Text.longest_isNumeral_whole {whole rest : List Char} (hne : whole ≠ [])
    (hwhole : ∀ c ∈ whole, c.isDigit = true)
    (hrest : ∀ c ∈ rest.head?, c.isDigit = false ∧ c ≠ '.') :
    Text.longest Text.isNumeral (whole ++ rest) = whole := by
  have htake := Text.takeWhile_run hwhole fun c hc => (hrest c hc).1
  refine Text.longest_eq (List.prefix_append whole rest)
    (Text.isNumeral_iff.mpr ⟨whole, hne, hwhole, Or.inl rfl⟩) ?_
  rintro other ⟨tail, htail⟩ hother
  obtain ⟨digits, -, hdigits, rfl | ⟨fraction, -, rfl⟩⟩ := Text.isNumeral_iff.mp hother
  · rw [← htake, ← htail, List.takeWhile_append_of_pos hdigits, List.length_append]
    exact Nat.le_add_right _ _
  · -- a point behind the digits would have to be the first character of the rest
    rw [List.append_assoc, List.cons_append] at htail
    have hsame : digits = whole := by
      rw [← htake, ← htail, Text.takeWhile_run hdigits (by simp)]
    rw [hsame] at htail
    have hpoint := List.append_cancel_left htail
    exact absurd rfl (hrest '.' (by rw [← hpoint]; rfl)).2

/-- The longest number is the digits in front, the point that follows them and the digits behind. -/
lemma Text.longest_isNumeral_fraction {whole fraction rest : List Char} (hne : whole ≠ [])
    (hwhole : ∀ c ∈ whole, c.isDigit = true) (hfraction : ∀ c ∈ fraction, c.isDigit = true)
    (hrest : ∀ c ∈ rest.head?, c.isDigit = false) :
    Text.longest Text.isNumeral (whole ++ '.' :: fraction ++ rest) = whole ++ '.' :: fraction := by
  have htake : (whole ++ '.' :: (fraction ++ rest)).takeWhile Char.isDigit = whole :=
    Text.takeWhile_run hwhole (by simp)
  refine Text.longest_eq (List.prefix_append _ rest)
    (Text.isNumeral_iff.mpr ⟨whole, hne, hwhole, Or.inr ⟨fraction, hfraction, rfl⟩⟩) ?_
  rintro other ⟨tail, htail⟩ hother
  rw [List.append_assoc, List.cons_append] at htail
  obtain ⟨digits, -, hdigits, rfl | ⟨further, hfurther, rfl⟩⟩ := Text.isNumeral_iff.mp hother
  · have hle : other.length ≤ whole.length := by
      rw [← htake, ← htail, List.takeWhile_append_of_pos hdigits, List.length_append]
      exact Nat.le_add_right _ _
    rw [List.length_append]
    exact Nat.le_add_right_of_le hle
  · rw [List.append_assoc, List.cons_append] at htail
    -- both numbers have all the digits in front, so the longer one has more of them behind the
    -- point
    have hsame : digits = whole := by
      rw [← htake, ← htail, Text.takeWhile_run hdigits (by simp)]
    rw [hsame] at htail ⊢
    have htail' := (List.cons.inj (List.append_cancel_left htail)).2
    have hle : further.length ≤ fraction.length := by
      rw [← Text.takeWhile_run hfraction hrest, ← htail', List.takeWhile_append_of_pos hfurther,
        List.length_append]
      exact Nat.le_add_right _ _
    rw [List.length_append, List.length_append, List.length_cons, List.length_cons]
    omega

/-! ### The scan cuts off the first lexeme -/

/-- From between lexemes, a scan over the text completes the lexeme and goes on behind it. -/
structure Scan.Cuts (special text lexeme : List Char) : Prop where
  ne_nil : lexeme ≠ []
  isPrefix : lexeme <+: text
  wordsOver : ∀ lexemes, Scan.wordsOver special ⟨.normal, [], lexemes⟩ text =
    Scan.wordsOver special ⟨.normal, [], lexeme :: lexemes⟩ (text.drop lexeme.length)

lemma Scan.Cuts.of_append {lexeme rest : List Char} (hne : lexeme ≠ [])
    (h : ∀ lexemes, Scan.wordsOver special ⟨.normal, [], lexemes⟩ (lexeme ++ rest) =
      Scan.wordsOver special ⟨.normal, [], lexeme :: lexemes⟩ rest) :
    Scan.Cuts special (lexeme ++ rest) lexeme := by
  refine ⟨hne, List.prefix_append lexeme rest, fun lexemes => ?_⟩
  rw [h, List.drop_left]

lemma Scan.cuts_whole {whole rest : List Char} (hne : whole ≠ [])
    (hwhole : ∀ c ∈ whole, c.isDigit = true)
    (hrest : ∀ c ∈ rest.head?, c.isDigit = false ∧ c ≠ '.') :
    Scan.Cuts special (whole ++ rest) (Text.longest Text.isNumeral (whole ++ rest)) := by
  rw [Text.longest_isNumeral_whole hne hwhole hrest]
  refine .of_append hne fun lexemes => ?_
  have hend : ∀ c ∈ rest.head?, c.isDigit = false ∧ (c = '.' → false = true) :=
    fun c hc => ⟨(hrest c hc).1, fun h => absurd h (hrest c hc).2⟩
  rw [Scan.wordsOver_number_start lexemes hne hwhole,
    Scan.wordsOver_number_end lexemes (List.reverse_ne_nil_iff.mpr hne) hend, List.reverse_reverse]

lemma Scan.cuts_fraction {whole fraction rest : List Char} (hne : whole ≠ [])
    (hwhole : ∀ c ∈ whole, c.isDigit = true) (hfraction : ∀ c ∈ fraction, c.isDigit = true)
    (hrest : ∀ c ∈ rest.head?, c.isDigit = false) :
    Scan.Cuts special (whole ++ '.' :: fraction ++ rest)
      (Text.longest Text.isNumeral (whole ++ '.' :: fraction ++ rest)) := by
  rw [Text.longest_isNumeral_fraction hne hwhole hfraction hrest]
  refine .of_append (by simp) fun lexemes => ?_
  have hend : ∀ c ∈ rest.head?, c.isDigit = false ∧ (c = '.' → true = true) :=
    fun c hc => ⟨hrest c hc, fun _ => rfl⟩
  rw [List.append_assoc, Scan.wordsOver_number_start lexemes hne hwhole, List.cons_append,
    Scan.wordsOver_point, Scan.wordsOver_digits _ _ hfraction,
    Scan.wordsOver_number_end lexemes (by simp) hend]
  simp

lemma Scan.cuts_number {c : Char} (hc : c.isDigit = true) (rest : List Char) :
    Scan.Cuts special (c :: rest) (Text.longest Text.isNumeral (c :: rest)) := by
  obtain ⟨whole, tail, hsplit, hwhole, htail⟩ := Text.exists_run Char.isDigit (c :: rest)
  have hne : whole ≠ [] := by
    rintro rfl
    have hfalse := htail c (by rw [← List.nil_append tail, ← hsplit]; rfl)
    rw [hc] at hfalse
    cases hfalse
  rw [hsplit]
  by_cases hpoint : tail.head? = some '.'
  · -- the number goes on with the digits behind its point
    obtain ⟨after, rfl⟩ := List.head?_eq_some_iff.mp hpoint
    obtain ⟨fraction, rest', rfl, hfraction, hrest'⟩ := Text.exists_run Char.isDigit after
    rw [← List.cons_append, ← List.append_assoc]
    exact Scan.cuts_fraction hne hwhole hfraction hrest'
  · refine Scan.cuts_whole hne hwhole fun d hd => ⟨htail d hd, ?_⟩
    rintro rfl
    exact hpoint hd

lemma Scan.cuts_special {c : Char} (hblank : Text.isBlank c = false)
    (hquote : Text.isQuote c = false) (hdigit : c.isDigit = false)
    (hspecial : special.contains c = true) (rest : List Char) :
    Scan.Cuts special (c :: rest) [c] := by
  show Scan.Cuts special ([c] ++ rest) [c]
  refine .of_append (List.cons_ne_nil c []) fun lexemes => ?_
  rw [List.singleton_append, Scan.wordsOver_cons,
    Scan.read_special lexemes hblank hquote hdigit hspecial]

lemma Text.leadingString_eq_nil {text : List Char}
    (h : ∀ c ∈ text.head?, Text.isQuote c = false) : Text.leadingString text = [] := by
  cases text with
  | nil => rfl
  | cons c rest => simp [Text.leadingString, h c rfl]

lemma Scan.cuts_word {run tail : List Char} (hne : run ++ Text.leadingString tail ≠ [])
    (hrun : ∀ c ∈ run, Text.isPlain special c = true)
    (htail : ∀ c ∈ tail.head?, Text.isPlain special c = false) :
    Scan.Cuts special (run ++ tail) (run ++ Text.leadingString tail) := by
  by_cases hquote : ∃ quote ∈ tail.head?, Text.isQuote quote = true
  · obtain ⟨quote, hmem, hquote⟩ := hquote
    obtain ⟨after, rfl⟩ := List.head?_eq_some_iff.mp hmem
    have hstring : Text.leadingString (quote :: after) = quote :: Text.stringRest quote after := by
      simp [Text.leadingString, hquote]
    have hafter := List.prefix_append_drop (Text.stringRest_prefix quote after)
    rw [hstring] at hne ⊢
    have hsplit : run ++ quote :: after = run ++ quote :: Text.stringRest quote after ++
        after.drop (Text.stringRest quote after).length := by
      rw [List.append_assoc, List.cons_append, ← hafter]
    rw [hsplit]
    refine .of_append hne fun lexemes => ?_
    rw [← hsplit, Scan.wordsOver_plain _ _ hrun, Scan.wordsOver_cons, Scan.read_quote _ _ hquote,
      Scan.wordsOver_quoted lexemes hquote (List.cons_ne_nil _ _)]
    simp
  · have hend : ∀ c ∈ tail.head?, Text.isQuote c = false := by simpa using hquote
    rw [Text.leadingString_eq_nil hend, List.append_nil] at hne ⊢
    refine .of_append hne fun lexemes => ?_
    rw [Scan.wordsOver_plain _ _ hrun, List.append_nil,
      Scan.wordsOver_normal_end lexemes (List.reverse_ne_nil_iff.mpr hne)
        fun c hc => ⟨htail c hc, hend c hc⟩, List.reverse_reverse]

/-- The first lexeme is cut off. -/
lemma Scan.cuts_firstLexeme (special : List Char) {c : Char} (hblank : Text.isBlank c = false)
    (rest : List Char) :
    Scan.Cuts special (c :: rest) (firstLexeme special (c :: rest)) := by
  rw [firstLexeme]
  split_ifs with hdigit hspecial
  · exact Scan.cuts_number hdigit rest
  · rw [Bool.and_eq_true, Bool.not_eq_true'] at hspecial
    exact Scan.cuts_special hblank hspecial.2 (by simpa using hdigit) hspecial.1 rest
  · obtain ⟨run, tail, hsplit, hrun, htail⟩ := Text.exists_run (Text.isPlain special) (c :: rest)
    simp only [Text.longest_all]
    rw [hsplit, Text.takeWhile_run hrun htail, List.drop_left]
    refine Scan.cuts_word (fun hnil => ?_) hrun htail
    -- the first character is a word character or a quote
    obtain ⟨rfl, hstring⟩ := List.append_eq_nil_iff.mp hnil
    rw [List.nil_append] at hsplit
    subst hsplit
    have hplain := htail c rfl
    have hquote : Text.isQuote c = false := by simpa [Text.leadingString] using hstring
    have hcontains : special.contains c = true := by
      simpa [Text.isPlain, hblank, hquote, hdigit] using hplain
    exact hspecial (by rw [hcontains, hquote]; rfl)

/-! ### Cutting a whole text -/

/-- Cuts a text into lexemes: skips the blanks in front, cuts off the first lexeme, and starts again
behind it. -/
def munch (special text : List Char) : List (List Char) :=
  match _ : text.dropWhile Text.isBlank with
  | [] => []
  | c :: rest =>
    firstLexeme special (c :: rest) ::
      munch special ((c :: rest).drop (firstLexeme special (c :: rest)).length)
termination_by text.length
decreasing_by
  have hdrop : text.dropWhile Text.isBlank = c :: rest := ‹_›
  have hle := (List.dropWhile_suffix (l := text) Text.isBlank).length_le
  have hcuts := Scan.cuts_firstLexeme special (Text.head_dropWhile hdrop) rest
  have hpos := List.length_pos_of_ne_nil hcuts.ne_nil
  rw [hdrop, List.length_cons] at hle
  rw [List.length_drop, List.length_cons]
  omega

/-- The text is the lexemes in order, none of them empty, with nothing but blanks before, between
and after them. -/
inductive Text.Interleaves : List Char → List (List Char) → Prop where
  | blanks {blanks : List Char} (h : ∀ c ∈ blanks, Text.isBlank c = true) : Interleaves blanks []
  | lexeme {blanks lexeme rest : List Char} {lexemes : List (List Char)}
      (hblanks : ∀ c ∈ blanks, Text.isBlank c = true) (hlexeme : lexeme ≠ [])
      (h : Interleaves rest lexemes) : Interleaves (blanks ++ lexeme ++ rest) (lexeme :: lexemes)

/-- A scan comes to the lexemes that are cut off, behind those it has come to before. -/
lemma Scan.wordsOver_eq_munch (lexemes : List (List Char)) (text : List Char) :
    Scan.wordsOver special ⟨.normal, [], lexemes⟩ text = lexemes.reverse ++ munch special text := by
  fun_induction munch special text generalizing lexemes with
  | case1 text h =>
    rw [← Scan.wordsOver_dropWhile_isBlank, h, List.append_nil]
    rfl
  | case2 text c rest h ih =>
    have hcuts := Scan.cuts_firstLexeme special (Text.head_dropWhile h) rest
    rw [← Scan.wordsOver_dropWhile_isBlank, h, hcuts.wordsOver, ih]
    simp

/-- Nothing but blanks is lost between the lexemes that are cut off. -/
lemma interleaves_munch (special text : List Char) :
    Text.Interleaves text (munch special text) := by
  fun_induction munch special text with
  | case1 text h => exact .blanks (List.dropWhile_eq_nil_iff.mp h)
  | case2 text c rest h ih =>
    have hcuts := Scan.cuts_firstLexeme special (Text.head_dropWhile h) rest
    have htext : text = text.takeWhile Text.isBlank ++ firstLexeme special (c :: rest) ++
        (c :: rest).drop (firstLexeme special (c :: rest)).length := by
      rw [List.append_assoc, ← List.prefix_append_drop hcuts.isPrefix, ← h,
        List.takeWhile_append_dropWhile]
    generalize munch special _ = lexemes at ih ⊢
    rw [htext]
    exact .lexeme (fun d hd => List.mem_takeWhile_imp hd) hcuts.ne_nil ih

/-- Scanning a text gives the lexemes that are cut off one after another, and nothing but blanks is
lost between them. -/
theorem lexemes_eq_munch (special : List Char) (text : String) :
    lexemes special text = (munch special text.toList).map String.ofList ∧
      Text.Interleaves text.toList ((lexemes special text).map String.toList) := by
  have hlexemes : lexemes special text = (munch special text.toList).map String.ofList := by
    rw [← List.nil_append (munch special text.toList), ← List.reverse_nil,
      ← Scan.wordsOver_eq_munch]
    rfl
  refine ⟨hlexemes, ?_⟩
  rw [hlexemes, List.map_map]
  simpa using interleaves_munch special text.toList

end TableGrammar
