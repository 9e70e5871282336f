import TableGrammar.Matcher
import TableGrammar.Proofs.Scan.Respacing

/-!
# Strings and the scan

Whatever a scan has read, the lexemes that it has finished are complete, and what is pending is the
beginning of a lexeme of the kind that the mode stands for (`Scan.coherent_readAll`). In particular,
what is pending inside a string has not closed it (`Text.OpenString`).

So the lexemes of a text can be written with single spaces between them (`separable_munch`). A
closed string is just what a scan takes for one lexeme from a quote on, without being inside a
string in the end, and all lexemes that start with a quote are closed strings, except the last one
of a text that ends inside a string (`Text.isClosedString_iff_lexemes`).
-/

namespace TableGrammar

variable {special : List Char}

/-! ### Open strings -/

/-- What has been read of a string since its opening quote, and has not closed it. The flag says
whether the next character is kept by a backslash. -/
inductive Text.OpenString (quote : Char) : Bool → List Char → Prop where
  | opened : OpenString quote false []
  | backslash {body : List Char} (h : OpenString quote false body) :
      OpenString quote true (body ++ ['\\'])
  | kept {body : List Char} (h : OpenString quote true body) (c : Char) :
      OpenString quote false (body ++ [c])
  | plain {body : List Char} (h : OpenString quote false body) {c : Char} (hslash : c ≠ '\\')
      (hquote : c ≠ quote) : OpenString quote false (body ++ [c])

/-- Whether an open string gets closed is up to what follows, and to a backslash before that. -/
lemma Text.OpenString.closes_append {quote : Char} {escaped : Bool} {body : List Char}
    (h : Text.OpenString quote escaped body) (rest : List Char) :
    Text.closes quote (body ++ rest) =
      Text.closes quote (if escaped then '\\' :: rest else rest) := by
  induction h generalizing rest with
  | opened => rfl
  | backslash h ih =>
    rw [List.append_assoc, ih]
    rfl
  | kept h c ih =>
    rw [List.append_assoc, ih]
    exact Text.closes_kept quote c rest
  | @plain body h c hslash hquote ih =>
    rw [List.append_assoc, ih, if_neg (by simp), if_neg (by simp), List.singleton_append,
      Text.closes_cons hslash, if_neg hquote]

lemma Text.OpenString.closes_eq_false {quote : Char} {escaped : Bool} {body : List Char}
    (h : Text.OpenString quote escaped body) : Text.closes quote body = false := by
  have hcloses := h.closes_append []
  rw [List.append_nil] at hcloses
  cases escaped <;> exact hcloses

lemma Text.OpenString.closes_quote {quote : Char} {body : List Char}
    (h : Text.OpenString quote false body) (hquote : Text.isQuote quote = true) :
    Text.closes quote (body ++ [quote]) = true := by
  have hslash : quote ≠ '\\' := by simpa using Text.ne_backslash_of_isQuote hquote
  rw [h.closes_append, if_neg (by simp), Text.closes_cons hslash, if_pos rfl]
  rfl

/-- An open string belongs to the string as a whole, and what follows belongs to it as it would
behind the opening quote, or behind a backslash. -/
lemma Text.OpenString.stringRest_append {quote : Char} {escaped : Bool} {body : List Char}
    (h : Text.OpenString quote escaped body) (rest : List Char) :
    Text.stringRest quote (body ++ rest) = body ++
      if escaped then (Text.stringRest quote ('\\' :: rest)).tail
      else Text.stringRest quote rest := by
  induction h generalizing rest with
  | opened => rfl
  | backslash h ih =>
    rw [List.append_assoc, ih]
    cases rest with
    | nil => simp [Text.stringRest_lone]
    | cons c rest => simp [Text.stringRest_kept]
  | kept h c ih =>
    rw [List.append_assoc, ih]
    simp [Text.stringRest_kept]
  | plain h hslash hquote ih =>
    rw [List.append_assoc, ih]
    simp [Text.stringRest_cons hslash, hquote]

lemma Text.OpenString.stringRest_eq {quote : Char} {escaped : Bool} {body : List Char}
    (h : Text.OpenString quote escaped body) : Text.stringRest quote body = body := by
  have hrest := h.stringRest_append []
  cases escaped with
  | true => simpa [Text.stringRest_lone] using hrest
  | false => simpa [Text.stringRest] using hrest

/-! ### What a scan keeps -/

/-- The scan is inside a string. -/
def Scan.Mode.isQuoted : Scan.Mode → Bool
  | .quoted .. => true
  | .normal | .number _ => false

/-- The text may be pending in the mode. -/
inductive Text.Begun (special : List Char) : Scan.Mode → List Char → Prop where
  | word {run : List Char} (hrun : ∀ c ∈ run, Text.isPlain special c = true) :
      Begun special .normal run
  | string {run body : List Char} {quote : Char} {escaped : Bool}
      (hrun : ∀ c ∈ run, Text.isPlain special c = true) (hquote : Text.isQuote quote = true)
      (hbody : Text.OpenString quote escaped body) :
      Begun special (.quoted quote escaped) (run ++ quote :: body)
  | whole {whole : List Char} (hne : whole ≠ []) (hwhole : ∀ c ∈ whole, c.isDigit = true) :
      Begun special (.number false) whole
  | fraction {whole fraction : List Char} (hne : whole ≠ [])
      (hwhole : ∀ c ∈ whole, c.isDigit = true) (hfraction : ∀ c ∈ fraction, c.isDigit = true) :
      Begun special (.number true) (whole ++ '.' :: fraction)

/-- Outside strings, what is pending may end at any moment. -/
lemma Text.Begun.complete {mode : Scan.Mode} {text : List Char} (h : Text.Begun special mode text)
    (hmode : mode.isQuoted = false) (hne : text ≠ []) : Text.Complete special text := by
  cases h with
  | word hrun => exact .word hne hrun
  | string => cases hmode
  | whole hwhole hdigits =>
    exact .number (Text.isNumeral_iff.mpr ⟨text, hwhole, hdigits, Or.inl rfl⟩)
  | @fraction whole fraction hwhole hdigits hfraction =>
    exact .number (Text.isNumeral_iff.mpr
      ⟨whole, hwhole, hdigits, Or.inr ⟨fraction, hfraction, rfl⟩⟩)

lemma Text.Begun.exists_open {quote : Char} {escaped : Bool} {text : List Char}
    (h : Text.Begun special (.quoted quote escaped) text) :
    ∃ run body, text = run ++ quote :: body ∧ (∀ c ∈ run, Text.isPlain special c = true) ∧
      Text.isQuote quote = true ∧ Text.OpenString quote escaped body := by
  cases h with
  | string hrun hquote hbody => exact ⟨_, _, rfl, hrun, hquote, hbody⟩

lemma Text.Begun.digit {point : Bool} {text : List Char}
    (h : Text.Begun special (.number point) text) {c : Char} (hc : c.isDigit = true) :
    Text.Begun special (.number point) (text ++ [c]) := by
  have hlast : ∀ d ∈ [c], d.isDigit = true := by simpa using hc
  cases h with
  | whole hne hwhole => exact .whole (by simp) (List.forall_mem_append.mpr ⟨hwhole, hlast⟩)
  | fraction hne hwhole hfraction =>
    rw [List.append_assoc, List.cons_append]
    exact .fraction hne hwhole (List.forall_mem_append.mpr ⟨hfraction, hlast⟩)

/-- The finished lexemes are complete, and what is pending fits the mode. -/
structure Scan.Coherent (special : List Char) (scan : Scan) : Prop where
  complete : ∀ lexeme ∈ scan.lexemes, Text.Complete special lexeme
  begun : Text.Begun special scan.mode scan.pending.reverse

lemma Scan.settle_eq (scan : Scan) : scan.settle = ⟨.normal, [], scan.words.reverse⟩ := by
  obtain ⟨mode, pending, lexemes⟩ := scan
  cases pending <;> simp [Scan.settle, Scan.words, Scan.flush]

variable {scan : Scan}

lemma Scan.words_of_ne_nil {mode : Scan.Mode} {pending : List Char} (h : pending ≠ [])
    (lexemes : List (List Char)) :
    Scan.words ⟨mode, pending, lexemes⟩ = lexemes.reverse ++ [pending.reverse] := by
  rw [← Scan.words_settle, Scan.settle_of_ne_nil lexemes h]
  simp [Scan.words, Scan.flush]

lemma Scan.Coherent.settle (h : scan.Coherent special) (hmode : scan.mode.isQuoted = false) :
    scan.settle.Coherent special := by
  obtain ⟨mode, pending, lexemes⟩ := scan
  by_cases hpending : pending = []
  · subst hpending
    exact ⟨h.complete, .word (by simp [Scan.settle, Scan.flush])⟩
  · rw [Scan.settle_of_ne_nil lexemes hpending]
    have hlexeme := h.begun.complete hmode (by simpa using hpending)
    exact ⟨List.forall_mem_cons.mpr ⟨hlexeme, h.complete⟩, .word (by simp)⟩

section

variable {pending : List Char} {lexemes : List (List Char)}

lemma Scan.Coherent.read_normal (h : Scan.Coherent special ⟨.normal, pending, lexemes⟩) (c : Char) :
    (Scan.read special ⟨.normal, pending, lexemes⟩ c).Coherent special := by
  have hrun : ∀ d ∈ pending.reverse, Text.isPlain special d = true := by
    cases h.begun with
    | word hrun => exact hrun
  by_cases hplain : Text.isPlain special c = true
  · rw [Scan.read_plain _ _ hplain]
    refine ⟨h.complete, .word ?_⟩
    rw [List.reverse_cons, List.forall_mem_append]
    exact ⟨hrun, by simpa using hplain⟩
  by_cases hquote : Text.isQuote c = true
  · rw [Scan.read_quote _ _ hquote]
    refine ⟨h.complete, ?_⟩
    rw [List.reverse_cons]
    exact .string hrun hquote .opened
  -- any other character ends the word before it is looked at
  simp only [Bool.not_eq_true] at hplain hquote
  have hsettled := h.settle rfl
  have hsettles : Scan.Settles special ⟨.normal, pending, lexemes⟩ [c] := by
    apply Scan.settles_normal
    simpa using ⟨hplain, hquote⟩
  rw [hsettles c rfl]
  rw [Scan.settle_eq] at hsettled ⊢
  by_cases hblank : Text.isBlank c = true
  · rw [Scan.read_blank _ _ hblank]
    exact hsettled
  by_cases hdigit : c.isDigit = true
  · rw [Scan.read_digit _ hdigit]
    exact ⟨hsettled.complete, .whole (by simp) (by simpa using hdigit)⟩
  simp only [Bool.not_eq_true] at hblank hdigit
  have hspecial : special.contains c = true := by
    simpa [Text.isPlain, hquote, hblank, hdigit] using hplain
  rw [Scan.read_special _ hblank hquote hdigit hspecial]
  refine ⟨List.forall_mem_cons.mpr ⟨?_, hsettled.complete⟩, .word (by simp)⟩
  exact .symbol hblank hquote hdigit hspecial

lemma Scan.Coherent.read_quoted {quote : Char} {escaped : Bool}
    (h : Scan.Coherent special ⟨.quoted quote escaped, pending, lexemes⟩) (c : Char) :
    (Scan.read special ⟨.quoted quote escaped, pending, lexemes⟩ c).Coherent special := by
  obtain ⟨run, body, hlexeme, hrun, hquote, hbody⟩ := h.begun.exists_open
  have htake : (c :: pending).reverse = run ++ quote :: (body ++ [c]) := by
    rw [List.reverse_cons, hlexeme, List.append_assoc, List.cons_append]
  have hinside : ∀ {escaped : Bool}, Text.OpenString quote escaped (body ++ [c]) →
      Scan.Coherent special ⟨.quoted quote escaped, c :: pending, lexemes⟩ := by
    intro escaped hopen
    exact ⟨h.complete, htake ▸ .string hrun hquote hopen⟩
  cases escaped with
  | true =>
    rw [Scan.read_kept]
    exact hinside (hbody.kept c)
  | false =>
    by_cases hslash : c = '\\'
    · subst hslash
      rw [Scan.read_backslash]
      exact hinside hbody.backslash
    by_cases hclose : c = quote
    · subst hclose
      rw [Scan.read_close _ _ hquote, htake]
      refine ⟨List.forall_mem_cons.mpr ⟨?_, h.complete⟩, .word (by simp)⟩
      exact .string hrun hquote (hbody.closes_quote hquote)
    · rw [Scan.read_inside _ _ hslash hclose]
      exact hinside (hbody.plain hslash hclose)

lemma Scan.Coherent.read_number {point : Bool}
    (h : Scan.Coherent special ⟨.number point, pending, lexemes⟩) (c : Char) :
    (Scan.read special ⟨.number point, pending, lexemes⟩ c).Coherent special := by
  by_cases hdigit : c.isDigit = true
  · have hread : Scan.read special ⟨.number point, pending, lexemes⟩ c =
        ⟨.number point, c :: pending, lexemes⟩ := by
      simp [Scan.read, Scan.readNumber, hdigit, Scan.take]
    rw [hread]
    refine ⟨h.complete, ?_⟩
    rw [List.reverse_cons]
    exact h.begun.digit hdigit
  by_cases hpoint : c = '.' ∧ point = false
  · obtain ⟨rfl, rfl⟩ := hpoint
    refine ⟨h.complete, ?_⟩
    cases h.begun with
    | whole hne hwhole =>
      have hfraction : Text.Begun special (.number true) (pending.reverse ++ ['.']) :=
        .fraction hne hwhole (by simp)
      simpa [Scan.read, Scan.readNumber, Scan.take] using hfraction
  · -- the number ends, and the character is read as if nothing were pending
    have hsettles : Scan.Settles special ⟨.number point, pending, lexemes⟩ [c] := by
      apply Scan.settles_number
      simpa [hdigit] using hpoint
    have hsettled := h.settle rfl
    rw [hsettles c rfl]
    rw [Scan.settle_eq] at hsettled ⊢
    exact hsettled.read_normal c

end

/-- Reading a character keeps a scan coherent. -/
lemma Scan.Coherent.read (h : scan.Coherent special) (c : Char) :
    (scan.read special c).Coherent special := by
  obtain ⟨mode, pending, lexemes⟩ := scan
  cases mode with
  | normal => exact h.read_normal c
  | quoted quote escaped => exact h.read_quoted c
  | number point => exact h.read_number c

lemma Scan.Coherent.readAll (h : scan.Coherent special) (text : List Char) :
    (scan.readAll special text).Coherent special := by
  induction text generalizing scan with
  | nil => exact h
  | cons c text ih => exact ih (h.read c)

/-- A scan is coherent, whatever it has read. -/
lemma Scan.coherent_readAll (special text : List Char) :
    (Scan.readAll special {} text).Coherent special :=
  Scan.Coherent.readAll ⟨by simp, .word (by simp)⟩ text

/-! ### The lexemes of a text -/

/-- Outside strings all lexemes are complete. -/
lemma Scan.Coherent.complete_words (h : scan.Coherent special)
    (hmode : scan.mode.isQuoted = false) : ∀ lexeme ∈ scan.words, Text.Complete special lexeme := by
  have hsettled := (h.settle hmode).complete
  rw [Scan.settle_eq] at hsettled
  simpa using hsettled

/-- Inside a string the last lexeme is one that is not closed. -/
lemma Scan.Coherent.words_quoted (h : scan.Coherent special) (hmode : scan.mode.isQuoted = true) :
    ∃ quote escaped run body,
      scan.mode = .quoted quote escaped ∧ scan.pending.reverse = run ++ quote :: body ∧
      scan.words = scan.lexemes.reverse ++ [run ++ quote :: body] ∧
      (∀ c ∈ run, Text.isPlain special c = true) ∧ Text.isQuote quote = true ∧
      Text.OpenString quote escaped body := by
  obtain ⟨mode, pending, lexemes⟩ := scan
  cases mode with
  | normal => cases hmode
  | number point => cases hmode
  | quoted quote escaped =>
    obtain ⟨run, body, hlexeme, hrun, hquote, hbody⟩ := h.begun.exists_open
    have hpending : pending ≠ [] := by
      rintro rfl
      simp at hlexeme
    refine ⟨quote, escaped, run, body, rfl, hlexeme, ?_, hrun, hquote, hbody⟩
    rw [Scan.words_of_ne_nil hpending, hlexeme]

/-- Only the last lexeme can be a string that is not closed. -/
lemma Scan.Coherent.separable (h : scan.Coherent special) :
    Text.Separable special scan.words := by
  by_cases hmode : scan.mode.isQuoted = true
  · obtain ⟨quote, escaped, run, body, -, -, hwords, hrun, hquote, hbody⟩ := h.words_quoted hmode
    rw [hwords]
    apply Text.Separable.append
    · simpa using h.complete
    · exact .last (.intro hrun hquote hbody.stringRest_eq)
  · exact .of_complete (h.complete_words (by simpa using hmode))

/-- Only the last lexeme of a text can be a string that is not closed. -/
lemma separable_munch (special text : List Char) :
    Text.Separable special (munch special text) := by
  have hwords : Scan.wordsOver special {} text = munch special text :=
    Scan.wordsOver_eq_munch [] text
  rw [← hwords]
  exact (Scan.coherent_readAll special text).separable

/-! ### Closed strings -/

/-- The text starts with a quote of either kind. -/
def Text.startsWithQuote (text : String) : Bool :=
  text.toList.head?.any Text.isQuote

lemma Text.isQuote_of_isPlain {c : Char} (h : Text.isPlain special c = true) :
    Text.isQuote c = false := by
  by_contra hquote
  rw [Text.isPlain_of_isQuote (by simpa using hquote)] at h
  cases h

/-- A complete lexeme that starts with a quote is a closed string. -/
lemma Text.Complete.isClosedString {lexeme : List Char} (h : Text.Complete special lexeme)
    (hstart : Text.startsWithQuote (String.ofList lexeme) = true) :
    Text.isClosedString (String.ofList lexeme) = true := by
  rw [Text.startsWithQuote, String.toList_ofList] at hstart
  rw [Text.isClosedString, String.toList_ofList]
  cases h with
  | number h =>
    exfalso
    cases lexeme with
    | nil => cases hstart
    | cons c rest => simp [Text.isNumeral, Text.isDigit_of_isQuote hstart] at h
  | symbol hblank hquote hdigit hspecial =>
    exfalso
    simp [hquote] at hstart
  | word hne hrun =>
    exfalso
    cases lexeme with
    | nil => cases hstart
    | cons c rest =>
      have hquote := Text.isQuote_of_isPlain (hrun c List.mem_cons_self)
      simp [hquote] at hstart
  | @string run body quote hrun hquote hbody =>
    cases run with
    | nil => simp [hquote, hbody]
    | cons c rest =>
      have hquote := Text.isQuote_of_isPlain (hrun c List.mem_cons_self)
      simp [hquote] at hstart

/-- What is pending inside a string is no closed string, with or without a word before it. -/
lemma Text.OpenString.isClosedString_eq_false {run body : List Char} {quote : Char}
    {escaped : Bool} (h : Text.OpenString quote escaped body)
    (hrun : ∀ c ∈ run, Text.isPlain special c = true) :
    Text.isClosedString (String.ofList (run ++ quote :: body)) = false := by
  rw [Text.isClosedString, String.toList_ofList]
  cases run with
  | nil => simp [h.closes_eq_false]
  | cons c rest => simp [Text.isQuote_of_isPlain (hrun c List.mem_cons_self)]

/-- A scan inside a string that reads what closes it comes to its end and is outside again. -/
lemma Scan.readAll_closes {quote : Char} (hquote : Text.isQuote quote = true) {body : List Char}
    (h : Text.closes quote body = true) (pending : List Char) (lexemes : List (List Char)) :
    Scan.readAll special ⟨.quoted quote false, pending, lexemes⟩ body =
      ⟨.normal, [], (pending.reverse ++ body) :: lexemes⟩ := by
  -- a backslash and the character it keeps are read in one step, so neither can close the string
  induction body using Text.escape_induction generalizing pending with
  | nil => cases h
  | lone => cases h
  | kept c body ih =>
    rw [Text.closes_kept] at h
    have hread := ih h (c :: '\\' :: pending)
    simpa [Scan.readAll, Scan.read_backslash, Scan.read_kept] using hread
  | plain c body hslash ih =>
    rw [Text.closes_cons hslash] at h
    by_cases hclose : c = quote
    · subst hclose
      rw [if_pos rfl, List.isEmpty_iff] at h
      subst h
      simp [Scan.readAll, Scan.read_close _ _ hquote]
    · rw [if_neg hclose] at h
      have hread := ih h (c :: pending)
      simpa [Scan.readAll, Scan.read_inside _ _ hslash hclose] using hread

/-- A closed string is read as one lexeme. -/
lemma Scan.readAll_of_isClosedString {text : String} (h : Text.isClosedString text = true) :
    Scan.readAll special {} text.toList = ⟨.normal, [], [text.toList]⟩ := by
  rw [Text.isClosedString] at h
  cases htext : text.toList with
  | nil => simp [htext] at h
  | cons quote body =>
    rw [htext] at h
    simp only [Bool.and_eq_true] at h
    have hread : Scan.readAll special ⟨.quoted quote false, [quote], []⟩ body = _ :=
      Scan.readAll_closes h.1 h.2 [quote] []
    rw [← Scan.read_quote [] [] h.1] at hread
    exact hread

lemma Text.startsWithQuote_of_isClosedString {text : String}
    (h : Text.isClosedString text = true) : Text.startsWithQuote text = true := by
  rw [Text.isClosedString] at h
  rw [Text.startsWithQuote]
  cases htext : text.toList with
  | nil => simp [htext] at h
  | cons quote body =>
    rw [htext] at h
    exact (Bool.and_eq_true_iff.mp h).1

/-- A text is a closed string if it starts with a quote, is a single lexeme, and a scan is outside
strings behind it. Of the lexemes of any text, those that start with a quote are accepted as closed
strings, except the last one if the text ends inside a string. That one is rejected, with a word
before its quote or without, and also if it ends with a quote or with a backslash. -/
theorem Text.isClosedString_iff_lexemes (special : List Char) (text : String) :
    let mode := (Scan.readAll special {} text.toList).mode
    (Text.isClosedString text = true ↔
        Text.startsWithQuote text = true ∧ lexemes special text = [text] ∧ mode = .normal) ∧
      (mode.isQuoted = false → ∀ lexeme ∈ lexemes special text,
        Text.startsWithQuote lexeme = true →
          (Matcher.shape .string).acceptsValue lexeme = true) ∧
      (mode.isQuoted = true → ∃ front last, lexemes special text = front ++ [last] ∧
        (∀ lexeme ∈ front, Text.startsWithQuote lexeme = true →
          (Matcher.shape .string).acceptsValue lexeme = true) ∧
        (Matcher.shape .string).acceptsValue last = false) := by
  intro mode
  have hcoherent := Scan.coherent_readAll special text.toList
  have houtside : mode.isQuoted = false → ∀ lexeme ∈ lexemes special text,
      Text.startsWithQuote lexeme = true →
        (Matcher.shape .string).acceptsValue lexeme = true := by
    intro hmode lexeme hmem
    obtain ⟨word, hword, rfl⟩ := List.mem_map.mp hmem
    exact (hcoherent.complete_words hmode word hword).isClosedString
  -- a lexeme that starts with a quote is closed if it is complete, and only the last one may not be
  refine ⟨⟨?_, ?_⟩, houtside, ?_⟩
  · intro h
    have hread : Scan.readAll special {} text.toList = _ := Scan.readAll_of_isClosedString h
    refine ⟨Text.startsWithQuote_of_isClosedString h, ?_, ?_⟩
    · rw [lexemes, hread]
      simp [Scan.words, Scan.flush]
    · exact congrArg Scan.mode hread
  · rintro ⟨hstart, hsingle, hmode⟩
    refine houtside ?_ text ?_ hstart
    · rw [hmode]
      rfl
    · rw [hsingle]
      exact List.mem_singleton_self text
  · intro hmode
    obtain ⟨quote, escaped, run, body, -, -, hwords, hrun, -, hbody⟩ :=
      hcoherent.words_quoted hmode
    refine ⟨_, _, by rw [lexemes, hwords, List.map_append, List.map_singleton], ?_, ?_⟩
    · intro lexeme hmem
      obtain ⟨word, hword, rfl⟩ := List.mem_map.mp hmem
      exact (hcoherent.complete word (List.mem_reverse.mp hword)).isClosedString
    · exact hbody.isClosedString_eq_false hrun

/-- In `x 'a\'b' 'c\'` the second lexeme is closed, and the third one, which ends with a quote, is
not; neither is the one in `"\`, which ends with a backslash. -/
theorem Text.isClosedString_iff_lexemes_escaped :
    let text := "x 'a\\'b' 'c\\'"
    (Scan.readAll ['x'] {} text.toList).mode = .quoted '\'' false ∧
      lexemes ['x'] text = ["x", "'a\\'b'", "'c\\'"] ∧
      (Matcher.shape .string).acceptsValue "'a\\'b'" = true ∧
      (Matcher.shape .string).acceptsValue "'c\\'" = false ∧
      (Scan.readAll [] {} "\"\\".toList).mode = .quoted '"' true ∧
      Text.isClosedString "\"\\" = false := by
  intro text
  have hmode : (Scan.readAll ['x'] {} text.toList).mode = .quoted '\'' false := by decide
  have hlexemes : lexemes ['x'] text = ["x", "'a\\'b'"] ++ ["'c\\'"] := by decide
  have hbackslash : (Scan.readAll [] {} "\"\\".toList).mode = .quoted '"' true := by decide
  obtain ⟨-, -, hinside⟩ := Text.isClosedString_iff_lexemes ['x'] text
  obtain ⟨front, last, hsplit, hfront, hlast⟩ := hinside (by rw [hmode]; rfl)
  obtain ⟨rfl, hsame⟩ := List.append_inj' (hlexemes.symm.trans hsplit) rfl
  rw [← List.singleton_inj.mp hsame] at hlast
  obtain ⟨hclosed, -, -⟩ := Text.isClosedString_iff_lexemes [] "\"\\"
  refine ⟨hmode, hlexemes, hfront _ (by simp) (by decide), hlast, hbackslash, ?_⟩
  rw [Bool.eq_false_iff, Ne, hclosed, hbackslash]
  simp

end TableGrammar
