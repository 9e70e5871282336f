import Mathlib
import TableGrammar.Regex.Parser

/-!
# Reading a source between anchors

Behind a source that stands between anchors come a parenthesis and a dollar sign. What is read there
before that parenthesis is read from the source by itself in the same way: what follows makes no
difference to a reader that stops before it (`Local`). This is so for everything that is read from a
pattern, although most readers look at the character behind what they read.
-/

namespace TableGrammar.Regex

variable {α β : Type}

/-- What stands behind a source between anchors. -/
def closing : List Char := [')', '$']

/-- What is read stands in front of what is left, and what is read before the closing parenthesis is
read without it in the same way. -/
structure Local (read : List Char → Option (α × List Char)) : Prop where
  suffix : ∀ {text rest : List Char} {x : α}, read text = some (x, rest) → rest <:+ text
  alone : ∀ {text rest : List Char} {x : α},
    read (text ++ closing) = some (x, rest ++ closing) → read text = some (x, rest)

/-! ### Putting readers together -/

lemma exists_of_suffix {rest text : List Char} (h : rest ++ closing <:+ text) :
    ∃ front, text = front ++ closing := by
  obtain ⟨read, rfl⟩ := h
  exact ⟨read ++ rest, by simp⟩

/-- Behind the closing parenthesis no closing parenthesis is left. -/
lemma not_suffix_dollar {rest : List Char} : ¬ rest ++ closing <:+ ['$'] := by
  intro h
  have hlength := h.length_le
  simp [closing] at hlength

lemma Local.pure (x : α) : Local fun text => some (x, text) where
  suffix h := by
    cases h
    exact List.suffix_refl _
  alone h := by
    rw [Option.some.injEq, Prod.mk.injEq, List.append_cancel_right_eq] at h
    rw [h.1, h.2]

lemma Local.none : Local fun _ => (none : Option (α × List Char)) where
  suffix h := by cases h
  alone h := by cases h

lemma Local.congr {read read' : List Char → Option (α × List Char)} (hread : Local read)
    (h : ∀ text, read' text = read text) : Local read' := by
  rwa [funext h]

/-- Reading one thing and then another. -/
lemma Local.bind {read : List Char → Option (α × List Char)}
    {next : α → List Char → Option (β × List Char)} (hread : Local read)
    (hnext : ∀ x, Local (next x)) : Local fun text => (read text).bind fun p => next p.1 p.2 where
  suffix h := by
    obtain ⟨⟨x, middle⟩, hfirst, hsecond⟩ := Option.bind_eq_some_iff.mp h
    exact ((hnext x).suffix hsecond).trans (hread.suffix hfirst)
  alone h := by
    -- what the second reader leaves ends with the closing, so what the first one leaves does, too
    obtain ⟨⟨x, middle⟩, hfirst, hsecond⟩ := Option.bind_eq_some_iff.mp h
    obtain ⟨front, rfl⟩ := exists_of_suffix ((hnext x).suffix hsecond)
    exact Option.bind_eq_some_iff.mpr ⟨(x, front), hread.alone hfirst, (hnext x).alone hsecond⟩

/-- Reading on with something that does not depend on the text, if there is any. -/
lemma Local.ofOption (found : Option β) {next : β → List Char → Option (α × List Char)}
    (hnext : ∀ x, Local (next x)) : Local fun text => found.bind fun x => next x text := by
  cases found with
  | none => exact Local.none
  | some x => exact hnext x

lemma Local.map {read : List Char → Option (α × List Char)} (hread : Local read) (f : α → β) :
    Local fun text => (read text).map fun p => (f p.1, p.2) := by
  simpa [Option.map_eq_bind, Function.comp_def] using hread.bind fun x => Local.pure (f x)

/-- A reader that takes nothing. -/
lemma Local.value (found : Option α) : Local fun text => found.map fun x => (x, text) := by
  cases found with
  | none => exact Local.none
  | some x => exact Local.pure x

/-- A reader that always takes the first character. -/
lemma Local.cons {read : List Char → Option (α × List Char)} (hnil : read [] = Option.none)
    (hcons : ∀ c, Local fun text => read (c :: text)) : Local read where
  suffix {text rest x} h := by
    cases text with
    | nil =>
      rw [hnil] at h
      cases h
    | cons c text => exact ((hcons c).suffix h).trans (List.suffix_cons c text)
  alone {text rest x} h := by
    cases text with
    | nil => exact absurd ((hcons ')').suffix h) not_suffix_dollar
    | cons c text => exact (hcons c).alone h

/-- A reader that gives the same whether or not something stands behind the text. -/
lemma Local.of_append {read : List Char → Option (α × List Char)}
    (hsuffix : ∀ {text rest x}, read text = some (x, rest) → rest <:+ text)
    (happend : ∀ text, read (text ++ closing) = (read text).map fun p => (p.1, p.2 ++ closing)) :
    Local read where
  suffix := hsuffix
  alone {text rest x} h := by
    rw [happend] at h
    obtain ⟨p, hread, heq⟩ := Option.map_eq_some_iff.mp h
    obtain ⟨hx, hrest⟩ := Prod.mk.inj heq
    rw [hread, ← hx, ← List.append_cancel_right hrest]

/-! ### What verbose mode skips -/

lemma skipComments_suffix (inside : Bool) (text : List Char) :
    skipComments inside text <:+ text := by
  induction text generalizing inside with
  | nil => exact List.suffix_refl _
  | cons c text ih =>
    cases inside with
    | true => exact (ih _).trans (List.suffix_cons c text)
    | false =>
      rw [skipComments]
      split
      · exact (ih _).trans (List.suffix_cons c text)
      · split
        · exact (ih _).trans (List.suffix_cons c text)
        · exact List.suffix_refl _

/-- Unless a comment goes on to the end, what is skipped does not depend on what follows. -/
lemma skipComments_append (inside : Bool) (text : List Char) :
    skipComments inside (text ++ closing) = skipComments inside text ++ closing ∨
      skipComments inside (text ++ closing) = [] ∧ skipComments inside text = [] := by
  induction text generalizing inside with
  -- a comment that is still open takes the closing with it
  | nil =>
    cases inside with
    | true => exact .inr ⟨rfl, rfl⟩
    | false => exact .inl rfl
  | cons c text ih =>
    cases inside with
    | true => exact ih _
    | false =>
      rw [List.cons_append, skipComments, skipComments]
      split
      · exact ih _
      · split
        · exact ih _
        · exact .inl rfl

lemma skip_append (verbose : Bool) (text : List Char) :
    skip verbose (text ++ closing) = skip verbose text ++ closing ∨
      skip verbose (text ++ closing) = [] ∧ skip verbose text = [] := by
  cases verbose with
  | false => exact .inl rfl
  | true => exact skipComments_append false text

lemma skip_suffix (verbose : Bool) (text : List Char) : skip verbose text <:+ text := by
  cases verbose with
  | false => exact List.suffix_refl _
  | true => exact skipComments_suffix false text

lemma skip_alone {verbose : Bool} {text rest : List Char}
    (h : skip verbose (text ++ closing) = rest ++ closing) : skip verbose text = rest := by
  rcases skip_append verbose text with hskip | ⟨hskip, -⟩
  · rw [hskip] at h
    exact List.append_cancel_right h
  · rw [hskip] at h
    simp [closing] at h

lemma local_skip (verbose : Bool) : Local fun text => some ((), skip verbose text) where
  suffix {text rest x} h := by
    cases h
    exact skip_suffix verbose text
  alone h := by
    rw [Option.some.injEq, Prod.mk.injEq] at h
    rw [skip_alone h.2]

lemma length_skip_le (verbose : Bool) (text : List Char) :
    (skip verbose text).length ≤ text.length :=
  (skip_suffix verbose text).length_le

lemma Local.afterSkip {read : List Char → Option (α × List Char)} (hread : Local read)
    (verbose : Bool) : Local fun text => read (skip verbose text) :=
  (local_skip verbose).bind fun _ => hread

/-- A reader that skips, and then goes another way behind a certain character. -/
lemma Local.peek {read yes no : List Char → Option (α × List Char)} (verbose : Bool) (c : Char)
    (hyes : Local yes) (hno : Local no)
    (hread_yes : ∀ text rest, skip verbose text = c :: rest → read text = yes rest)
    (hread_no : ∀ text, (skip verbose text).head? ≠ some c → read text = no (skip verbose text)) :
    Local read where
  suffix {text rest x} h := by
    refine List.IsSuffix.trans ?_ (skip_suffix verbose text)
    by_cases hhead : (skip verbose text).head? = some c
    · obtain ⟨left, hskip⟩ := List.head?_eq_some_iff.mp hhead
      rw [hread_yes text left hskip] at h
      rw [hskip]
      exact (hyes.suffix h).trans (List.suffix_cons c left)
    · rw [hread_no text hhead] at h
      exact hno.suffix h
  alone {text rest x} h := by
    by_cases hhead : (skip verbose (text ++ closing)).head? = some c
    · obtain ⟨left, hskip⟩ := List.head?_eq_some_iff.mp hhead
      rw [hread_yes _ left hskip] at h
      obtain ⟨front, rfl⟩ := exists_of_suffix (hyes.suffix h)
      have hskip' : skip verbose text = c :: front := skip_alone hskip
      rw [hread_yes text front hskip']
      exact hyes.alone h
    · rw [hread_no _ hhead] at h
      obtain ⟨front, hskip⟩ := exists_of_suffix (hno.suffix h)
      rw [hskip] at h hhead
      obtain rfl := skip_alone hskip
      rw [hread_no text ?_]
      · exact hno.alone h
      · intro hsome
        obtain ⟨left, hleft⟩ := List.head?_eq_some_iff.mp hsome
        exact hhead (by rw [hleft, List.cons_append, List.head?_cons])

/-! ### Numbers and names -/

lemma local_takeDigits (verbose : Bool) (count : Nat) : Local (takeDigits verbose count) := by
  induction count with
  | zero => exact Local.pure []
  | succ count ih =>
    refine Local.cons rfl fun c => ?_
    exact (ih.afterSkip verbose).map fun digits => c :: digits

lemma takeBraced_suffix {verbose : Bool} {fuel : Nat} {text body rest : List Char}
    (h : takeBraced verbose fuel text = some (body, rest)) : rest <:+ text := by
  induction fuel generalizing text body with
  | zero => cases h
  | succ fuel ih =>
    cases text with
    | nil => cases h
    | cons c text =>
      rw [takeBraced] at h
      split at h
      · cases h
        exact List.suffix_cons c _
      · obtain ⟨⟨taken, left⟩, htaken, heq⟩ := Option.map_eq_some_iff.mp h
        cases heq
        exact ((ih htaken).trans (skip_suffix verbose text)).trans (List.suffix_cons c text)

lemma takeBraced_alone {verbose : Bool} {fuel fuel' : Nat} {text body rest : List Char}
    (h : takeBraced verbose fuel (text ++ closing) = some (body, rest ++ closing))
    (hfuel : text.length ≤ fuel') : takeBraced verbose fuel' text = some (body, rest) := by
  induction fuel generalizing fuel' text body with
  | zero => cases h
  | succ fuel ih =>
    cases text with
    | nil =>
      obtain ⟨⟨taken, left⟩, htaken, heq⟩ := Option.map_eq_some_iff.mp h
      cases heq
      exact absurd ((takeBraced_suffix htaken).trans (skip_suffix verbose _)) not_suffix_dollar
    | cons c text =>
      obtain ⟨fuel', rfl⟩ := Nat.exists_eq_add_one_of_ne_zero (Nat.ne_zero_of_lt hfuel)
      rw [List.cons_append, takeBraced] at h
      rw [takeBraced]
      split at h
      · rw [Option.some.injEq, Prod.mk.injEq, List.append_cancel_right_eq] at h
        rw [if_pos ‹_›, h.1, h.2]
      · obtain ⟨⟨taken, left⟩, htaken, heq⟩ := Option.map_eq_some_iff.mp h
        cases heq
        obtain ⟨front, hskip⟩ := exists_of_suffix (takeBraced_suffix htaken)
        rw [hskip] at htaken
        obtain rfl := skip_alone hskip
        have hle : (skip verbose text).length ≤ fuel' :=
          Nat.le_trans (length_skip_le verbose text) (Nat.le_of_succ_le_succ hfuel)
        rw [if_neg ‹_›, ih htaken hle]
        rfl

lemma local_readBraced (verbose : Bool) : Local (readBraced verbose) where
  suffix {text rest x} h := (takeBraced_suffix h).trans (skip_suffix verbose text)
  alone {text rest x} h := by
    obtain ⟨front, hskip⟩ := exists_of_suffix (takeBraced_suffix h)
    rw [readBraced, hskip] at h
    obtain rfl := skip_alone hskip
    exact takeBraced_alone h (Nat.le_succ_of_le (length_skip_le verbose text))

lemma local_readHex (verbose : Bool) (width : Nat) : Local (readHex verbose width) := by
  have hskip (c : Literal) : Local fun text => some (c, skip verbose text) :=
    (local_skip verbose).map fun _ => c
  have hbraced : Local fun text => (readBraced verbose text).bind fun p =>
      (guard (!p.1.isEmpty) : Option Unit).bind fun _ => (hexNumber? p.1).bind fun number =>
        (charOfPoint? number).bind fun c => some (({ char := c } : Literal), skip verbose p.2) :=
    (local_readBraced verbose).bind fun digits =>
      .ofOption (guard (!digits.isEmpty)) fun _ => .ofOption (hexNumber? digits) fun number =>
        .ofOption (charOfPoint? number) fun c => hskip { char := c }
  have hplain : Local fun text => (takeDigits verbose width text).bind fun p =>
      (hexNumber? p.1).bind fun number => (charOfPoint? number).bind fun c =>
        some (({ char := c, byte := width == 2 } : Literal), p.2) :=
    (local_takeDigits verbose width).bind fun digits =>
      .ofOption (hexNumber? digits) fun number =>
        .ofOption (charOfPoint? number) fun c => .pure (⟨c, width == 2⟩ : Literal)
  refine Local.peek verbose '\x7b' hbraced hplain ?_ ?_
  · intro text rest hskip
    rw [readHex, hskip]
    rfl
  · intro text hhead
    rw [readHex]
    split
    case h_1 rest hskip => simp [hskip] at hhead
    case h_2 => rfl

lemma local_readProperty (verbose negated : Bool) : Local (readProperty verbose negated) := by
  have hbraced : Local fun text => (readBraced verbose text).map fun p =>
      (ClassName.property (propertyQuery p.1).1 (negated != (propertyQuery p.1).2), p.2) :=
    (local_readBraced verbose).map fun body =>
      ClassName.property (propertyQuery body).1 (negated != (propertyQuery body).2)
  have hletter : Local fun text => text.head?.bind fun c =>
      if c = '\\' then Option.none
      else some (ClassName.property (.named [c]) negated, skip verbose text.tail) := by
    refine Local.cons rfl fun c => ?_
    by_cases hc : c = '\\'
    · simpa [hc] using Local.none
    · simpa [hc] using (local_skip verbose).map fun _ => ClassName.property (.named [c]) negated
  refine Local.peek verbose '\x7b' hbraced hletter ?_ ?_
  · intro text rest hskip
    rw [readProperty, hskip]
    simp only [Option.map_eq_bind]
    rfl
  · intro text hhead
    rw [readProperty]
    split
    case h_1 hskip => simp [hskip]
    case h_2 rest hskip => simp [hskip] at hhead
    case h_3 hskip => simp [hskip]
    case h_4 c rest hbrace hbackslash hskip =>
      have hc : c ≠ '\\' := hbackslash
      simp [hskip, hc]

/-- Takes the characters of a kind that stand first, skipping after each of them. The number bounds
how many are taken. -/
def takeSkipping (accepts : Char → Bool) (verbose : Bool) :
    Nat → List Char → List Char × List Char
  | fuel + 1, c :: rest =>
    if accepts c then
      let (taken, left) := takeSkipping accepts verbose fuel (skip verbose rest)
      (c :: taken, left)
    else
      ([], c :: rest)
  | _, text => ([], text)

section

variable {accepts : Char → Bool} {verbose : Bool}

lemma takeSkipping_nil (fuel : Nat) : takeSkipping accepts verbose fuel [] = ([], []) := by
  cases fuel <;> rfl

lemma takeSkipping_closing (hclosing : accepts ')' = false) (fuel : Nat) :
    takeSkipping accepts verbose fuel closing = ([], closing) := by
  cases fuel with
  | zero => rfl
  | succ fuel => simp [closing, takeSkipping, hclosing]

lemma takeSkipping_suffix (fuel : Nat) (text : List Char) :
    (takeSkipping accepts verbose fuel text).2 <:+ text := by
  fun_induction takeSkipping accepts verbose fuel text with
  | case1 fuel c rest hc taken left heq ih =>
    rw [heq] at ih
    exact (ih.trans (skip_suffix verbose rest)).trans (List.suffix_cons c rest)
  | case2 | case3 => exact List.suffix_refl _

/-- What is taken does not depend on what follows the closing parenthesis. -/
lemma takeSkipping_alone (hclosing : accepts ')' = false) {fuel fuel' : Nat}
    {text taken rest : List Char}
    (h : takeSkipping accepts verbose fuel (text ++ closing) = (taken, rest ++ closing))
    (hfuel : text.length ≤ fuel) (hfuel' : text.length ≤ fuel') :
    takeSkipping accepts verbose fuel' text = (taken, rest) := by
  induction fuel generalizing fuel' text taken with
  | zero =>
    obtain rfl := List.eq_nil_of_length_eq_zero (Nat.le_zero.mp hfuel)
    obtain ⟨rfl, hrest⟩ := Prod.mk.inj h
    obtain rfl := List.append_cancel_right hrest
    exact takeSkipping_nil fuel'
  | succ fuel ih =>
    cases text with
    | nil =>
      rw [List.nil_append, takeSkipping_closing hclosing] at h
      obtain ⟨rfl, hrest⟩ := Prod.mk.inj h
      obtain rfl : [] = rest := List.append_cancel_right hrest
      exact takeSkipping_nil fuel'
    | cons c text =>
      obtain ⟨fuel', rfl⟩ := Nat.exists_eq_add_one_of_ne_zero (Nat.ne_zero_of_lt hfuel')
      rw [List.cons_append, takeSkipping] at h
      rw [takeSkipping]
      split at h
      -- the rest ends with the closing, so skipping has stopped before it
      case isTrue hc =>
        have hsuffix := @takeSkipping_suffix accepts verbose fuel (skip verbose (text ++ closing))
        generalize htaken :
          takeSkipping accepts verbose fuel (skip verbose (text ++ closing)) = more at h hsuffix
        obtain ⟨further, left⟩ := more
        obtain ⟨rfl, rfl⟩ := Prod.mk.inj h
        obtain ⟨front, hskip⟩ := exists_of_suffix hsuffix
        rw [hskip] at htaken
        obtain rfl := skip_alone hskip
        have hle := length_skip_le verbose text
        rw [if_pos hc, ih htaken (Nat.le_trans hle (Nat.le_of_succ_le_succ hfuel))
          (Nat.le_trans hle (Nat.le_of_succ_le_succ hfuel'))]
      case isFalse hc =>
        rw [← List.cons_append] at h
        obtain ⟨rfl, hrest⟩ := Prod.mk.inj h
        obtain rfl := List.append_cancel_right hrest
        rw [if_neg hc]

/-- Taking nothing leaves the text as it is. -/
lemma takeSkipping_eq_of_nil {fuel : Nat} {text rest : List Char}
    (h : takeSkipping accepts verbose fuel text = ([], rest)) : rest = text := by
  fun_cases takeSkipping accepts verbose fuel text with
  | case1 fuel c text hc taken left heq =>
    rw [takeSkipping, if_pos hc, heq] at h
    cases h
  | case2 fuel c text hc =>
    rw [takeSkipping, if_neg hc] at h
    cases h
    rfl
  | case3 fuel text hcons =>
    rw [takeSkipping] at h
    · cases h
      rfl
    · exact hcons

/-- Taking from where a text is after some preparation. -/
lemma local_takeSkipping (hclosing : accepts ')' = false) {start : List Char → List Char}
    (hstart : Local fun text => some ((), start text)) :
    Local fun text => some (takeSkipping accepts verbose text.length (start text)) where
  suffix {text rest taken} h := by
    have hsuffix := @takeSkipping_suffix accepts verbose text.length (start text)
    rw [Option.some.inj h] at hsuffix
    exact hsuffix.trans (hstart.suffix rfl)
  alone {text rest taken} h := by
    have htaken := Option.some.inj h
    have hsuffix := @takeSkipping_suffix accepts verbose (text ++ closing).length
      (start (text ++ closing))
    rw [htaken] at hsuffix
    obtain ⟨front, hfront⟩ := exists_of_suffix hsuffix
    have hstart' := hstart.alone (x := ()) (congrArg (fun left => some ((), left)) hfront)
    have hlength : front.length ≤ text.length := (hstart.suffix hstart').length_le
    rw [hfront] at htaken
    have hle : text.length ≤ (text ++ closing).length := by simp
    have hfront' : start text = front := by simpa using hstart'
    rw [hfront', takeSkipping_alone hclosing htaken (Nat.le_trans hlength hle) hlength]

end

lemma takeName_eq (verbose : Bool) (fuel : Nat) (text : List Char) :
    takeName verbose fuel text =
      takeSkipping (fun c => c.isAlpha || c == '-') verbose fuel text := by
  fun_induction takeName verbose fuel text <;> simp_all [takeSkipping]

lemma takeDecimal_eq (verbose : Bool) (fuel : Nat) (text : List Char) :
    takeDecimal verbose fuel text = takeSkipping Char.isDigit verbose fuel text := by
  fun_induction takeDecimal verbose fuel text <;> simp_all [takeSkipping]

lemma takeHyphens_eq (verbose : Bool) (fuel : Nat) (items : List ClassSet) (text : List Char) :
    takeHyphens verbose fuel items text =
      let taken := takeSkipping (· == '-') verbose fuel text
      (List.replicate taken.1.length (.literal { char := '-' }) ++ items, taken.2) := by
  fun_induction takeHyphens verbose fuel items text with
  | case1 fuel items rest ih => simp_all [takeSkipping, List.replicate_succ']
  | case2 fuel items text hne =>
    cases text <;> cases fuel <;> simp_all [takeSkipping]

lemma local_takeName (verbose : Bool) :
    Local fun text => some (takeName verbose text.length (skip verbose text)) := by
  simp only [takeName_eq]
  exact local_takeSkipping (by decide) (local_skip verbose)

/-- Where no name follows, none does without what stands behind either. -/
lemma takeName_eq_nil {verbose : Bool} {text rest : List Char}
    (h : takeName verbose (text ++ closing).length (skip verbose (text ++ closing)) = ([], rest)) :
    takeName verbose text.length (skip verbose text) = ([], skip verbose text) := by
  rcases skip_append verbose text with hskip | ⟨-, hskip⟩
  · have hrest : rest = skip verbose text ++ closing := by
      rw [← hskip]
      rw [takeName_eq] at h
      exact takeSkipping_eq_of_nil h
    rw [hrest] at h
    exact Option.some.inj ((local_takeName verbose).alone (congrArg some h))
  · rw [hskip, takeName_eq, takeSkipping_nil]

lemma readWordBoundary_of_ne (verbose : Bool) {text : List Char} (h : text.head? ≠ some '\x7b') :
    readWordBoundary verbose text = some (.wordBoundary, text) := by
  unfold readWordBoundary
  split
  case h_1 => simp at h
  case h_2 => rfl

lemma local_readWordBoundary (verbose : Bool) : Local (readWordBoundary verbose) where
  suffix {text rest kind} h := by
    unfold readWordBoundary at h
    split at h
    case h_1 after =>
      split at h
      case h_1 =>
        cases h
        exact List.suffix_refl _
      case h_2 name left _ hname =>
        obtain ⟨kind, -, heq⟩ := Option.map_eq_some_iff.mp h
        cases heq
        have hleft := (local_takeName verbose).suffix (congrArg some hname)
        exact ((List.suffix_cons _ _).trans hleft).trans (List.suffix_cons _ _)
      case h_3 => cases h
    case h_2 =>
      cases h
      exact List.suffix_refl _
  alone {text rest kind} h := by
    by_cases hhead : (text ++ closing).head? = some '\x7b'
    · cases text with
      | nil => simp [closing] at hhead
      | cons c text =>
        obtain rfl : c = '\x7b' := by simpa using hhead
        rw [List.cons_append, readWordBoundary] at h
        rw [readWordBoundary]
        split at h
        case h_1 left hname =>
          rw [Option.some.injEq, Prod.mk.injEq, ← List.cons_append] at h
          rw [takeName_eq_nil hname, ← h.1, List.append_cancel_right h.2]
        case h_2 name left hne hname =>
          obtain ⟨kind, hkind, heq⟩ := Option.map_eq_some_iff.mp h
          cases heq
          have hname' : some (takeName verbose text.length (skip verbose text)) =
              some (name, '\x7d' :: rest) := (local_takeName verbose).alone (congrArg some hname)
          rw [Option.some.inj hname']
          simp [hkind]
        case h_3 => cases h
    · rw [readWordBoundary_of_ne verbose hhead] at h
      rw [Option.some.injEq, Prod.mk.injEq] at h
      obtain rfl := List.append_cancel_right h.2
      rw [readWordBoundary_of_ne verbose, h.1]
      intro hsome
      obtain ⟨left, rfl⟩ := List.head?_eq_some_iff.mp hsome
      exact hhead rfl

/-! ### Atoms -/

lemma local_readEscape (verbose : Bool) : Local (readEscape verbose) := by
  refine Local.cons rfl fun c => ?_
  by_cases hx : c = 'x'
  · subst hx
    exact (local_readHex verbose 2).map Atom.literal
  by_cases hu : c = 'u'
  · subst hu
    exact (local_readHex verbose 4).map Atom.literal
  by_cases hU : c = 'U'
  · subst hU
    exact (local_readHex verbose 8).map Atom.literal
  by_cases hp : c = 'p'
  · subst hp
    exact (local_readProperty verbose false).map Atom.named
  by_cases hP : c = 'P'
  · subst hP
    exact (local_readProperty verbose true).map Atom.named
  by_cases hb : c = 'b'
  · subst hb
    exact (local_readWordBoundary verbose).map Atom.assertion
  by_cases hescapable : isEscapable c = true
  · simpa [readEscape, hx, hu, hU, hp, hP, hb, hescapable] using
      Local.pure (Atom.literal { char := c })
  · simpa [readEscape, hx, hu, hU, hp, hP, hb, hescapable] using
      Local.value ((shorthand? c).map Atom.named
        <|> (controlChar? c).map (fun control => Atom.literal { char := control })
        <|> (assertionOf? c).map Atom.assertion)

lemma local_readAtom_cons (verbose : Bool) (c : Char) :
    Local fun text => readAtom verbose (c :: text) := by
  by_cases hbackslash : c = '\\'
  · subst hbackslash
    exact local_readEscape verbose
  by_cases hdot : c = '.'
  · subst hdot
    exact Local.pure Atom.dot
  by_cases hstart : c = '^'
  · subst hstart
    exact Local.pure (Atom.assertion .lineStart)
  by_cases hend : c = '$'
  · subst hend
    exact Local.pure (Atom.assertion .lineEnd)
  · simpa [readAtom, hbackslash, hdot, hstart, hend] using
      Local.pure (Atom.literal { char := c })

end TableGrammar.Regex
