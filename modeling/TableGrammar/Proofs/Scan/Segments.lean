import Mathlib.Tactic.Common
import TableGrammar.Scan

/-!
# How a scan passes over pieces of text

A scan is followed over a run of blanks, a run of word characters, a run of digits and the rest of a
string, from any state in which it can meet them. A lexeme that is being read is only known to be
complete once the next character is seen; `Scan.settle` is the scan in which it has been completed.
-/

namespace TableGrammar

variable {special : List Char}

/-! ### Kinds of characters -/

/-- The characters that words are made of, outside strings. -/
def Text.isPlain (special : List Char) (c : Char) : Bool :=
  !Text.isBlank c && !Text.isQuote c && !c.isDigit && !special.contains c

lemma Text.isQuote_iff {c : Char} : Text.isQuote c = true ↔ c = '\'' ∨ c = '"' := by
  simp [Text.isQuote]

lemma Text.isBlank_of_isQuote {c : Char} (h : Text.isQuote c = true) : Text.isBlank c = false := by
  rcases Text.isQuote_iff.mp h with rfl | rfl <;> decide

lemma Text.isDigit_of_isQuote {c : Char} (h : Text.isQuote c = true) : c.isDigit = false := by
  rcases Text.isQuote_iff.mp h with rfl | rfl <;> decide

lemma Text.ne_backslash_of_isQuote {c : Char} (h : Text.isQuote c = true) :
    (c == '\\') = false := by
  rcases Text.isQuote_iff.mp h with rfl | rfl <;> decide

lemma Text.isBlank_of_isDigit {c : Char} (h : c.isDigit = true) : Text.isBlank c = false := by
  simp only [Char.isDigit, Bool.and_eq_true, decide_eq_true_eq] at h
  have hlo : 48 ≤ c.toNat := h.1
  have hhi : c.toNat ≤ 57 := h.2
  simp [Text.isBlank, Text.blankRanges]
  omega

lemma Text.isQuote_of_isDigit {c : Char} (h : c.isDigit = true) : Text.isQuote c = false := by
  cases hquote : Text.isQuote c with
  | false => rfl
  | true => exact absurd h (by simp [Text.isDigit_of_isQuote hquote])

/-! ### One character outside strings and numbers -/

variable (pending : List Char) (lexemes : List (List Char))

lemma Scan.read_blank {c : Char} (h : Text.isBlank c = true) :
    Scan.read special ⟨.normal, pending, lexemes⟩ c = Scan.flush ⟨.normal, pending, lexemes⟩ := by
  simp [Scan.read, Scan.readNormal, h]

lemma Scan.read_quote {c : Char} (h : Text.isQuote c = true) :
    Scan.read special ⟨.normal, pending, lexemes⟩ c =
      ⟨.quoted c false, c :: pending, lexemes⟩ := by
  simp [Scan.read, Scan.readNormal, h, Text.isBlank_of_isQuote h, Scan.take]

lemma Scan.read_digit {c : Char} (h : c.isDigit = true) :
    Scan.read special ⟨.normal, [], lexemes⟩ c = ⟨.number false, [c], lexemes⟩ := by
  simp [Scan.read, Scan.readNormal, h, Text.isBlank_of_isDigit h, Text.isQuote_of_isDigit h,
    Scan.take, Scan.flush]

lemma Scan.read_special {c : Char} (hblank : Text.isBlank c = false)
    (hquote : Text.isQuote c = false) (hdigit : c.isDigit = false)
    (hspecial : special.contains c = true) :
    Scan.read special ⟨.normal, [], lexemes⟩ c = ⟨.normal, [], [c] :: lexemes⟩ := by
  simp only [Scan.read, Scan.readNormal, hblank, hquote, hdigit, hspecial, Bool.false_eq_true,
    if_false, if_true]
  rfl

lemma Scan.read_plain {c : Char} (h : Text.isPlain special c = true) :
    Scan.read special ⟨.normal, pending, lexemes⟩ c = ⟨.normal, c :: pending, lexemes⟩ := by
  simp only [Text.isPlain, Bool.and_eq_true, Bool.not_eq_true'] at h
  obtain ⟨⟨⟨hblank, hquote⟩, hdigit⟩, hspecial⟩ := h
  simp only [Scan.read, Scan.readNormal, hblank, hquote, hdigit, hspecial, Bool.false_eq_true,
    if_false]
  rfl

/-! ### Completing a lexeme -/

/-- The lexemes when a scan goes on over a text and ends with it. -/
def Scan.wordsOver (special : List Char) (scan : Scan) (text : List Char) : List (List Char) :=
  (scan.readAll special text).words

@[simp] lemma Scan.wordsOver_nil (scan : Scan) : scan.wordsOver special [] = scan.words := rfl

@[simp] lemma Scan.wordsOver_cons (scan : Scan) (c : Char) (text : List Char) :
    scan.wordsOver special (c :: text) = (scan.read special c).wordsOver special text := rfl

lemma Scan.wordsOver_append (scan : Scan) (front back : List Char) :
    scan.wordsOver special (front ++ back) =
      (scan.readAll special front).wordsOver special back := by
  simp only [Scan.wordsOver, Scan.readAll, List.foldl_append]

/-- The scan with the lexeme being read completed. -/
def Scan.settle (scan : Scan) : Scan :=
  { scan.flush with mode := .normal }

lemma Scan.settle_of_ne_nil {mode : Scan.Mode} {pending : List Char} (h : pending ≠ []) :
    Scan.settle ⟨mode, pending, lexemes⟩ = ⟨.normal, [], pending.reverse :: lexemes⟩ := by
  cases pending with
  | nil => exact absurd rfl h
  | cons c pending => rfl

lemma Scan.flush_flush (scan : Scan) : scan.flush.flush = scan.flush := by
  obtain ⟨mode, pending, lexemes⟩ := scan
  cases pending <;> rfl

lemma Scan.settle_normal :
    Scan.settle ⟨.normal, pending, lexemes⟩ = Scan.flush ⟨.normal, pending, lexemes⟩ := by
  cases pending <;> rfl

/-- A scan that ends comes to the same lexemes whether the last one is completed before or not. -/
lemma Scan.words_settle (scan : Scan) : scan.settle.words = scan.words := by
  obtain ⟨mode, pending, lexemes⟩ := scan
  cases pending <;> rfl

/-- The scan does with the next character what it would do if the lexeme had been completed. -/
def Scan.Settles (special : List Char) (scan : Scan) (text : List Char) : Prop :=
  ∀ c ∈ text.head?, scan.read special c = scan.settle.read special c

/-- A scan that would complete its lexeme at the next character may do so before it. -/
lemma Scan.Settles.wordsOver {scan : Scan} {text : List Char} (h : scan.Settles special text) :
    scan.wordsOver special text = scan.settle.wordsOver special text := by
  cases text with
  | nil => exact scan.words_settle.symm
  | cons c text => rw [Scan.wordsOver_cons, Scan.wordsOver_cons, h c rfl]

/-- A word ends before every character that is neither a word character nor a quote. -/
lemma Scan.settles_normal {text : List Char}
    (h : ∀ c ∈ text.head?, Text.isPlain special c = false ∧ Text.isQuote c = false) :
    Scan.Settles special ⟨.normal, pending, lexemes⟩ text := by
  intro c hc
  obtain ⟨hplain, hquote⟩ := h c hc
  have hmode : (Scan.flush ⟨.normal, pending, lexemes⟩).mode = .normal := by cases pending <;> rfl
  rw [Scan.settle_normal]
  simp only [Scan.read, hmode, Scan.readNormal, hquote, Scan.flush_flush]
  cases hblank : Text.isBlank c with
  | true => rfl
  | false =>
    cases hdigit : c.isDigit with
    | true => rfl
    | false =>
      have hspecial : special.contains c = true := by
        simpa [Text.isPlain, hblank, hquote, hdigit] using hplain
      simp only [hspecial]
      rfl

/-- A number ends before every character that is no digit, unless it is its first point. -/
lemma Scan.settles_number {point : Bool} {text : List Char}
    (h : ∀ c ∈ text.head?, c.isDigit = false ∧ (c = '.' → point = true)) :
    Scan.Settles special ⟨.number point, pending, lexemes⟩ text := by
  intro c hc
  obtain ⟨hdigit, hpoint⟩ := h c hc
  have hcontinues : (c == '.' && !point) = false := by
    cases point <;> simp_all
  simp only [Scan.read, Scan.readNumber, hdigit, hcontinues, Bool.false_eq_true, if_false]
  rfl

lemma Scan.wordsOver_normal_end {pending : List Char} (hpending : pending ≠ []) {text : List Char}
    (h : ∀ c ∈ text.head?, Text.isPlain special c = false ∧ Text.isQuote c = false) :
    Scan.wordsOver special ⟨.normal, pending, lexemes⟩ text =
      Scan.wordsOver special ⟨.normal, [], pending.reverse :: lexemes⟩ text := by
  rw [(Scan.settles_normal pending lexemes h).wordsOver, Scan.settle_of_ne_nil lexemes hpending]

lemma Scan.wordsOver_number_end {pending : List Char} (hpending : pending ≠ []) {point : Bool}
    {text : List Char} (h : ∀ c ∈ text.head?, c.isDigit = false ∧ (c = '.' → point = true)) :
    Scan.wordsOver special ⟨.number point, pending, lexemes⟩ text =
      Scan.wordsOver special ⟨.normal, [], pending.reverse :: lexemes⟩ text := by
  rw [(Scan.settles_number pending lexemes h).wordsOver, Scan.settle_of_ne_nil lexemes hpending]

/-! ### Runs of characters -/

/-- Characters that are taken one by one are all pending in the end. -/
lemma Scan.readAll_of_take {mode : Scan.Mode} (run : List Char)
    (h : ∀ c ∈ run, ∀ pending,
      Scan.read special ⟨mode, pending, lexemes⟩ c = ⟨mode, c :: pending, lexemes⟩) :
    Scan.readAll special ⟨mode, pending, lexemes⟩ run =
      ⟨mode, run.reverse ++ pending, lexemes⟩ := by
  induction run generalizing pending with
  | nil => rfl
  | cons c run ih =>
    have hrun := ih (c :: pending) fun d hd => h d (List.mem_cons_of_mem _ hd)
    rw [List.reverse_cons, List.append_assoc, List.singleton_append, ← hrun,
      ← h c List.mem_cons_self]
    rfl

lemma Scan.wordsOver_dropWhile_isBlank (text : List Char) :
    Scan.wordsOver special ⟨.normal, [], lexemes⟩ (text.dropWhile Text.isBlank) =
      Scan.wordsOver special ⟨.normal, [], lexemes⟩ text := by
  induction text with
  | nil => rfl
  | cons c text ih =>
    cases hblank : Text.isBlank c with
    | false => rw [List.dropWhile_cons_of_neg (by simp [hblank])]
    | true =>
      rw [List.dropWhile_cons_of_pos hblank, ih, Scan.wordsOver_cons, Scan.read_blank _ _ hblank]
      rfl

lemma Scan.wordsOver_plain {run : List Char} (h : ∀ c ∈ run, Text.isPlain special c = true)
    (rest : List Char) :
    Scan.wordsOver special ⟨.normal, pending, lexemes⟩ (run ++ rest) =
      Scan.wordsOver special ⟨.normal, run.reverse ++ pending, lexemes⟩ rest := by
  rw [Scan.wordsOver_append,
    Scan.readAll_of_take _ _ _ fun c hc pending => Scan.read_plain pending lexemes (h c hc)]

lemma Scan.wordsOver_digits {run : List Char} (h : ∀ c ∈ run, c.isDigit = true) (point : Bool)
    (rest : List Char) :
    Scan.wordsOver special ⟨.number point, pending, lexemes⟩ (run ++ rest) =
      Scan.wordsOver special ⟨.number point, run.reverse ++ pending, lexemes⟩ rest := by
  rw [Scan.wordsOver_append, Scan.readAll_of_take]
  intro c hc pending
  simp only [Scan.read, Scan.readNumber, h c hc, if_true]
  rfl

lemma Scan.wordsOver_number_start {digits : List Char} (hne : digits ≠ [])
    (h : ∀ c ∈ digits, c.isDigit = true) (rest : List Char) :
    Scan.wordsOver special ⟨.normal, [], lexemes⟩ (digits ++ rest) =
      Scan.wordsOver special ⟨.number false, digits.reverse, lexemes⟩ rest := by
  obtain ⟨c, further, rfl⟩ := List.exists_cons_of_ne_nil hne
  rw [List.cons_append, Scan.wordsOver_cons, Scan.read_digit lexemes (h c List.mem_cons_self),
    Scan.wordsOver_digits _ _ fun d hd => h d (List.mem_cons_of_mem _ hd), List.reverse_cons]

lemma Scan.wordsOver_point (rest : List Char) :
    Scan.wordsOver special ⟨.number false, pending, lexemes⟩ ('.' :: rest) =
      Scan.wordsOver special ⟨.number true, '.' :: pending, lexemes⟩ rest := rfl

/-! ### Strings -/

/-- What belongs to a string, of the text after its opening quote: all up to and including the first
quote of that kind that no backslash keeps, or all of it if there is none. -/
def Text.stringRest (quote : Char) : List Char → List Char
  | [] => []
  | '\\' :: c :: rest => '\\' :: c :: Text.stringRest quote rest
  | c :: rest => if c == quote then [c] else c :: Text.stringRest quote rest

lemma Text.stringRest_prefix (quote : Char) (text : List Char) :
    Text.stringRest quote text <+: text := by
  fun_induction Text.stringRest quote text with
  | case1 => exact List.prefix_refl []
  | case2 c rest ih => exact List.prefix_cons_inj _ |>.mpr (List.prefix_cons_inj _ |>.mpr ih)
  | case3 c rest => exact List.prefix_append [c] rest
  | case4 c rest hkeeps hclose ih => exact List.prefix_cons_inj _ |>.mpr ih

lemma Scan.read_kept (quote c : Char) :
    Scan.read special ⟨.quoted quote true, pending, lexemes⟩ c =
      ⟨.quoted quote false, c :: pending, lexemes⟩ := rfl

lemma Scan.read_backslash (quote : Char) :
    Scan.read special ⟨.quoted quote false, pending, lexemes⟩ '\\' =
      ⟨.quoted quote true, '\\' :: pending, lexemes⟩ := rfl

lemma Scan.read_close {quote : Char} (hquote : Text.isQuote quote = true) :
    Scan.read special ⟨.quoted quote false, pending, lexemes⟩ quote =
      ⟨.normal, [], (quote :: pending).reverse :: lexemes⟩ := by
  simp [Scan.read, Scan.readQuoted, Text.ne_backslash_of_isQuote hquote, Scan.take, Scan.flush]

lemma Scan.read_inside {quote c : Char} (hslash : c ≠ '\\') (hclose : c ≠ quote) :
    Scan.read special ⟨.quoted quote false, pending, lexemes⟩ c =
      ⟨.quoted quote false, c :: pending, lexemes⟩ := by
  simp [Scan.read, Scan.readQuoted, hslash, hclose, Scan.take]

/-- A string is completed where it is closed, or at the end of the text. -/
lemma Scan.wordsOver_quoted {quote : Char} (hquote : Text.isQuote quote = true)
    {pending : List Char} (hpending : pending ≠ []) (text : List Char) :
    Scan.wordsOver special ⟨.quoted quote false, pending, lexemes⟩ text =
      Scan.wordsOver special
        ⟨.normal, [], (pending.reverse ++ Text.stringRest quote text) :: lexemes⟩
        (text.drop (Text.stringRest quote text).length) := by
  fun_induction Text.stringRest quote text generalizing pending with
  | case1 =>
    rw [List.append_nil, List.drop_nil, ← Scan.settle_of_ne_nil lexemes hpending]
    exact (Scan.words_settle _).symm
  | case2 c rest ih =>
    -- the backslash and the character it keeps are taken together
    rw [Scan.wordsOver_cons, Scan.read_backslash, Scan.wordsOver_cons, Scan.read_kept,
      ih (List.cons_ne_nil _ _)]
    simp
  | case3 c rest hkeeps hclose =>
    rw [beq_iff_eq.mp hclose, Scan.wordsOver_cons, Scan.read_close pending lexemes hquote,
      List.reverse_cons]
    rfl
  | case4 c rest hkeeps hclose ih =>
    by_cases hslash : c = '\\'
    · -- a backslash at the very end keeps nothing
      cases rest with
      | cons d rest => exact absurd rfl (hkeeps d rest hslash)
      | nil =>
        rw [hslash, Scan.wordsOver_cons, Scan.read_backslash, Scan.wordsOver_nil,
          ← Scan.words_settle, Scan.settle_of_ne_nil lexemes (List.cons_ne_nil _ _),
          List.reverse_cons]
        rfl
    · rw [Scan.wordsOver_cons, Scan.read_inside pending lexemes hslash (by simpa using hclose),
        ih (List.cons_ne_nil _ _)]
      simp

end TableGrammar
