import TableGrammar.Proofs.Regex.Locality

/-!
# Reading classes between anchors

A class in brackets is read step by step, and each step (`stepClass`) is a reader that does not
depend on what follows behind the closing parenthesis. So reading a class is one too
(`local_readClass`).
-/

namespace TableGrammar.Regex

lemma head?_append_closing (text : List Char) {c : Char} (hc : c ≠ ')') :
    (text ++ closing).head? = some c ↔ text.head? = some c := by
  cases text <;> simp [closing, hc.symm]

/-! ### Named classes of ASCII characters -/

lemma takeWhile_append_of_dropWhile {p : Char → Bool} {text rest : List Char} {c : Char}
    (h : text.dropWhile p = c :: rest) (more : List Char) :
    (text ++ more).takeWhile p = text.takeWhile p := by
  induction text with
  | nil => simp at h
  | cons d text ih =>
    by_cases hd : p d = true
    · simp only [List.dropWhile_cons, hd, if_true] at h
      simp [hd, ih h]
    · simp [hd]

/-- A named class of ASCII characters, after the sign that asks for its opposite. -/
def asciiClassBody? (negated : Bool) (text : List Char) : Option (ClassSet × List Char) :=
  match text.dropWhile (· != ':') with
  | ':' :: ']' :: rest =>
    (asciiClassNamed? (text.takeWhile (· != ':'))).map fun kind => (.ascii kind negated, rest)
  | _ => none

lemma asciiClassBody?_append (negated : Bool) (text : List Char) :
    asciiClassBody? negated (text ++ closing) =
      (asciiClassBody? negated text).map fun p => (p.1, p.2 ++ closing) := by
  unfold asciiClassBody?
  rw [List.dropWhile_append]
  cases hdrop : text.dropWhile (· != ':') with
  | nil => rfl
  | cons c left =>
    rw [takeWhile_append_of_dropWhile hdrop]
    simp only [List.isEmpty_cons, Bool.false_eq_true, if_false, List.cons_append]
    cases left with
    | nil => by_cases hc : c = ':' <;> simp [closing]
    | cons d left => split <;> split <;> simp_all [Option.map_map, Function.comp_def]

lemma readAsciiClass?_of_ne {text : List Char} (h : text.head? ≠ some '^') :
    readAsciiClass? text = asciiClassBody? false text := by
  unfold readAsciiClass?
  split
  case _ negated left heq =>
    split at heq
    · simp at h
    · cases heq
      rfl

/-- Whether a named class of ASCII characters stands somewhere does not depend on what follows. -/
lemma readAsciiClass?_append (text : List Char) :
    readAsciiClass? (text ++ closing) =
      (readAsciiClass? text).map fun p => (p.1, p.2 ++ closing) := by
  by_cases hhead : text.head? = some '^'
  · obtain ⟨rest, rfl⟩ := List.head?_eq_some_iff.mp hhead
    exact asciiClassBody?_append true rest
  · have hne := mt (head?_append_closing text (by decide)).mp hhead
    rw [readAsciiClass?_of_ne hhead, readAsciiClass?_of_ne hne, asciiClassBody?_append]

lemma asciiClassBody?_suffix {negated : Bool} {text rest : List Char} {item : ClassSet}
    (h : asciiClassBody? negated text = some (item, rest)) : rest <:+ text := by
  unfold asciiClassBody? at h
  split at h
  case h_1 left hdrop =>
    obtain ⟨kind, -, heq⟩ := Option.map_eq_some_iff.mp h
    cases heq
    have hsuffix := List.dropWhile_suffix (l := text) (· != ':')
    rw [hdrop] at hsuffix
    exact ((List.suffix_cons _ _).trans (List.suffix_cons _ _)).trans hsuffix
  case h_2 => cases h

lemma readAsciiClass?_suffix {text rest : List Char} {item : ClassSet}
    (h : readAsciiClass? text = some (item, rest)) : rest <:+ text := by
  by_cases hhead : text.head? = some '^'
  · obtain ⟨left, rfl⟩ := List.head?_eq_some_iff.mp hhead
    have hbody : asciiClassBody? true left = some (item, rest) := h
    exact (asciiClassBody?_suffix hbody).trans (List.suffix_cons _ _)
  · rw [readAsciiClass?_of_ne hhead] at h
    exact asciiClassBody?_suffix h

/-! ### The start of a class -/

lemma local_takeHyphens (verbose : Bool) :
    Local fun text => some (takeHyphens verbose text.length [] text) := by
  have htaken : Local fun text => some (takeSkipping (· == '-') verbose text.length text) :=
    local_takeSkipping rfl (Local.pure ())
  simpa [takeHyphens_eq] using htaken.map fun taken =>
    List.replicate taken.length (ClassSet.literal { char := '-' })

/-- The start of a class after the sign that negates it: the hyphens or the closing bracket that
stand first. -/
def firstItems (verbose negated : Bool) (text : List Char) : Bool × List ClassSet × List Char :=
  match takeHyphens verbose text.length [] text with
  | ([], ']' :: rest) => (negated, [.literal { char := ']' }], skip verbose rest)
  | (items, rest) => (negated, items, rest)

lemma local_firstItems (verbose negated : Bool) : Local fun text =>
    let start := firstItems verbose negated text
    some ((start.1, start.2.1), start.2.2) := by
  have hbracket (items : List ClassSet) : Local fun text =>
      if items.isEmpty ∧ text.head? = some ']' then
        some ((negated, [ClassSet.literal { char := ']' }]), skip verbose text.tail)
      else some ((negated, items), text) := by
    cases items with
    | nil =>
      refine Local.peek false ']' ((local_skip verbose).map fun _ =>
        (negated, [ClassSet.literal { char := ']' }])) (Local.pure (negated, [])) ?_ ?_
      · intro text rest (hskip : text = ']' :: rest)
        simp [hskip]
      · intro text (hhead : text.head? ≠ some ']')
        simp [hhead, skip]
    | cons item items => simpa using Local.pure (negated, item :: items)
  refine ((local_takeHyphens verbose).bind hbracket).congr fun text => ?_
  unfold firstItems
  rw [Option.bind_some]
  split
  case h_1 rest htaken => simp [htaken]
  case h_2 items rest hbracket htaken =>
    rw [htaken, if_neg]
    rintro ⟨hitems, hhead⟩
    obtain ⟨left, hleft⟩ := List.head?_eq_some_iff.mp hhead
    exact hbracket left (List.isEmpty_iff.mp hitems) hleft

lemma local_readBracketStart (verbose : Bool) : Local fun text =>
    let start := readBracketStart verbose text
    some ((start.1, start.2.1), start.2.2) := by
  refine Local.peek verbose '^' ((local_firstItems verbose true).afterSkip verbose)
    (local_firstItems verbose false) ?_ ?_
  · intro text rest hskip
    rw [readBracketStart, hskip]
    rfl
  · intro text hhead
    have hread : readBracketStart verbose text = firstItems verbose false (skip verbose text) := by
      unfold readBracketStart firstItems
      split
      case _ negated left heq =>
        split at heq
        case h_1 hskip => simp [hskip] at hhead
        case h_2 =>
          cases heq
          rfl
    rw [hread]

/-! ### Items -/

/-- Behind blanks stands what stands behind them in the text alone. -/
lemma dropBlanks_append (text : List Char) :
    (text ++ closing).dropWhile Text.isBlank = text.dropWhile Text.isBlank ++ closing := by
  rw [List.dropWhile_append]
  split
  case isTrue hempty =>
    rw [List.isEmpty_iff.mp hempty]
    rfl
  case isFalse => rfl

lemma peekPast_of_ne {text : List Char} (h : (text.dropWhile Text.isBlank).head? ≠ some '#') :
    peekPast true text = (text.dropWhile Text.isBlank).head? := by
  unfold peekPast
  rw [if_pos rfl]
  split
  case h_1 hdrop => simp [hdrop] at h
  case h_2 => rfl

lemma peekPast_append (verbose : Bool) (text : List Char) {c : Char} (hc : c ≠ ')') :
    peekPast verbose (text ++ closing) = some c ↔ peekPast verbose text = some c := by
  cases verbose with
  | false => exact head?_append_closing text hc
  | true =>
    by_cases hhead : (text.dropWhile Text.isBlank).head? = some '#'
    · obtain ⟨left, hleft⟩ := List.head?_eq_some_iff.mp hhead
      simp only [peekPast, if_true, dropBlanks_append, hleft, List.cons_append]
      exact head?_append_closing _ hc
    · have hne := mt (head?_append_closing _ (by decide)).mp hhead
      rw [← dropBlanks_append] at hne
      rw [peekPast_of_ne hhead, peekPast_of_ne hne, dropBlanks_append]
      exact head?_append_closing _ hc

lemma local_readSetAtom_cons (verbose : Bool) (c : Char) :
    Local fun text => readSetAtom verbose (c :: text) := by
  by_cases hbackslash : c = '\\'
  · subst hbackslash
    exact local_readEscape verbose
  · simpa [readSetAtom, hbackslash] using Local.pure (Atom.literal { char := c })

lemma local_readSetAtom (verbose : Bool) : Local (readSetAtom verbose) :=
  Local.cons rfl (local_readSetAtom_cons verbose)

/-- An item of a class after its first character. -/
def endItem (verbose : Bool) (first : Atom) (text : List Char) :
    Option (ClassSet × List Char) :=
  match text with
  | '-' :: after =>
    if peekPast verbose after = some ']' ∨ peekPast verbose after = some '-' then
      first.classSet?.map fun item => (item, text)
    else
      (readSetAtom verbose (skip verbose after)).bind fun p =>
        first.literal?.bind fun low => p.1.literal?.bind fun high =>
          (guard (low.char ≤ high.char) : Option Unit).bind fun _ => some (.range low high, p.2)
  | text => first.classSet?.map fun item => (item, text)

lemma endItem_of_ne (verbose : Bool) (first : Atom) {text : List Char}
    (h : text.head? ≠ some '-') :
    endItem verbose first text = first.classSet?.map fun item => (item, text) := by
  unfold endItem
  split
  case h_1 => simp at h
  case h_2 => rfl

lemma local_endItem (verbose : Bool) (first : Atom) : Local (endItem verbose first) := by
  have hitem : Local fun text => first.classSet?.map fun item => (item, text) :=
    .value first.classSet?
  have hrange : Local fun text => (readSetAtom verbose (skip verbose text)).bind fun p =>
      first.literal?.bind fun low => p.1.literal?.bind fun high =>
        (guard (low.char ≤ high.char) : Option Unit).bind fun _ =>
          some (ClassSet.range low high, p.2) :=
    ((local_readSetAtom verbose).afterSkip verbose).bind fun second =>
      .ofOption first.literal? fun low => .ofOption second.literal? fun high =>
        .ofOption (guard (low.char ≤ high.char)) fun _ => .pure (ClassSet.range low high)
  constructor
  · intro text rest item h
    unfold endItem at h
    split at h
    case h_1 after =>
      split at h
      · exact hitem.suffix h
      · exact (hrange.suffix h).trans (List.suffix_cons _ _)
    case h_2 => exact hitem.suffix h
  · intro text rest item h
    -- the closing starts with a parenthesis, so it is never taken for a hyphen, or for the
    -- character behind one
    by_cases hhead : text.head? = some '-'
    · obtain ⟨after, rfl⟩ := List.head?_eq_some_iff.mp hhead
      simp only [endItem, List.cons_append, peekPast_append verbose after (c := ']') (by decide),
        peekPast_append verbose after (c := '-') (by decide)] at h
      rw [endItem]
      split at h
      case isTrue hpeek =>
        rw [if_pos hpeek]
        exact hitem.alone h
      case isFalse hpeek =>
        rw [if_neg hpeek]
        exact hrange.alone h
    · rw [endItem_of_ne verbose first (mt (head?_append_closing text (by decide)).mp hhead)] at h
      rw [endItem_of_ne verbose first hhead]
      exact hitem.alone h

lemma readSetItem_eq (verbose : Bool) (text : List Char) :
    readSetItem verbose text = (readSetAtom verbose text).bind fun p =>
      endItem verbose p.1 (skip verbose p.2) := by
  unfold readSetItem endItem
  refine congrArg _ (funext fun p => ?_)
  dsimp only
  split
  case h_1 after hskip =>
    rw [hskip]
    by_cases hpeek : peekPast verbose after = some ']' ∨ peekPast verbose after = some '-'
    · simp [hpeek, Option.map_eq_bind]
    · simp [hpeek]
  case h_2 left hne => simp [Option.map_eq_bind]

lemma local_readSetItem_cons (verbose : Bool) (c : Char) :
    Local fun text => readSetItem verbose (c :: text) := by
  have hitem := (local_readSetAtom_cons verbose c).bind fun first =>
    (local_endItem verbose first).afterSkip verbose
  exact hitem.congr fun text => readSetItem_eq verbose (c :: text)

/-! ### Steps -/

/-- A class after a step of reading it: it is closed, or it is still open with what stands around it
and the items so far. -/
inductive ClassStep where
  | closed (negated : Bool) (body : ClassSet)
  | opened (frames : List Frame) (items : List ClassSet)

/-- The operator that a doubled character stands for. -/
def operator? (c : Char) : Option SetOperation :=
  match c with
  | '&' => some .intersection
  | '-' => some .difference
  | '~' => some .symmetricDifference
  | _ => none

lemma operator?_cases {c : Char} {kind : SetOperation} (h : operator? c = some kind) :
    c = '&' ∨ c = '-' ∨ c = '~' := by
  unfold operator? at h
  split at h <;> simp_all

section

variable (verbose : Bool) (frames : List Frame) (items : List ClassSet)

/-- Closes the innermost bracket. -/
def closeBracket? : Option ClassStep :=
  let (body, frames) := Frame.reduce (ClassSet.join items) frames
  match frames with
  | [.bracket negated _] => some (.closed negated body)
  | .bracket negated around :: frames => some (.opened frames (.bracketed negated body :: around))
  | _ => none

/-- Lets an operator wait for its right side. -/
def operate (kind : SetOperation) : ClassStep :=
  let (left, frames) := Frame.reduce (ClassSet.join items) frames
  .opened (.operation kind left :: frames) []

/-- Reads an item and puts it to those so far. -/
def stepItem (text : List Char) : Option (ClassStep × List Char) :=
  (readSetItem verbose text).map fun p => (.opened frames (p.1 :: items), p.2)

/-- A step that is not about a bracket: a doubled character can be an operator. -/
def stepPlain (c : Char) (rest : List Char) : Option (ClassStep × List Char) :=
  match operator? c with
  | some kind =>
    if rest.head? = some c then some (operate frames items kind, rest.tail)
    else stepItem verbose frames items (c :: rest)
  | none => stepItem verbose frames items (c :: rest)

/-- A named class of ASCII characters after an opening bracket, if one stands there. -/
def namedClass? (text : List Char) : Option (ClassSet × List Char) :=
  match text with
  | ':' :: name => readAsciiClass? name
  | _ => none

/-- One step of reading a class: what its next character leads to. -/
def stepClass (text : List Char) : Option (ClassStep × List Char) :=
  match text with
  | [] => none
  | '[' :: rest =>
    match namedClass? rest with
    | some (item, left) => some (.opened frames (item :: items), left)
    | none =>
      let start := readBracketStart verbose rest
      some (.opened (.bracket start.1 items :: frames) start.2.1, start.2.2)
  | ']' :: rest => (closeBracket? frames items).map fun step => (step, rest)
  | c :: rest => stepPlain verbose frames items c rest

lemma stepPlain_of_ne {c : Char} {rest : List Char}
    (h : ∀ kind, operator? c = some kind → rest.head? ≠ some c) :
    stepPlain verbose frames items c rest = stepItem verbose frames items (c :: rest) := by
  unfold stepPlain
  split
  case h_1 kind hkind => rw [if_neg (h kind hkind)]
  case h_2 => rfl

lemma readClassFrom_succ (fuel : Nat) (text : List Char) :
    readClassFrom verbose (fuel + 1) frames items text =
      (stepClass verbose frames items (skip verbose text)).bind fun p =>
        match p.1 with
        | .closed negated body => some (.bracketed negated body, p.2)
        | .opened frames items => readClassFrom verbose fuel frames items p.2 := by
  rw [readClassFrom]
  generalize skip verbose text = left
  split
  case h_1 => rfl
  case h_2 rest =>
    change (match namedClass? rest with | some (item, left) => _ | none => _) = _
    rw [stepClass]
    cases namedClass? rest <;> rfl
  case h_3 rest =>
    simp only [stepClass, closeBracket?]
    generalize Frame.reduce (ClassSet.join items) frames = reduced
    split <;> simp_all
  case h_4 | h_5 | h_6 => rfl
  case h_7 hnil hopen hclose hand hminus htilde =>
    cases left with
    | nil => exact absurd rfl hnil
    | cons c rest =>
      have hstep : stepClass verbose frames items (c :: rest) =
          stepPlain verbose frames items c rest := by
        unfold stepClass
        split <;> simp_all
      have hne (kind : SetOperation) (hkind : operator? c = some kind) : rest.head? ≠ some c := by
        intro hhead
        obtain ⟨rest, rfl⟩ := List.head?_eq_some_iff.mp hhead
        rcases operator?_cases hkind with rfl | rfl | rfl
        · exact hand rest rfl
        · exact hminus rest rfl
        · exact htilde rest rfl
      rw [hstep, stepPlain_of_ne verbose frames items hne, stepItem]
      cases readSetItem verbose (c :: rest) <;> rfl

lemma namedClass?_append (text : List Char) :
    namedClass? (text ++ closing) = (namedClass? text).map fun p => (p.1, p.2 ++ closing) := by
  cases text with
  | nil => rfl
  | cons c text =>
    by_cases hc : c = ':'
    · subst hc
      exact readAsciiClass?_append text
    · simp [namedClass?, hc]

lemma namedClass?_suffix {text rest : List Char} {item : ClassSet}
    (h : namedClass? text = some (item, rest)) : rest <:+ text := by
  unfold namedClass? at h
  split at h
  · exact (readAsciiClass?_suffix h).trans (List.suffix_cons _ _)
  · cases h

lemma local_stepClass_open : Local fun text => stepClass verbose frames items ('[' :: text) := by
  have hnested : Local fun text =>
      let start := readBracketStart verbose text
      some (ClassStep.opened (.bracket start.1 items :: frames) start.2.1, start.2.2) :=
    (local_readBracketStart verbose).map fun start =>
      ClassStep.opened (.bracket start.1 items :: frames) start.2
  constructor
  · intro text rest step h
    rw [stepClass] at h
    split at h
    case h_1 item left hnamed =>
      cases h
      exact namedClass?_suffix hnamed
    case h_2 => exact hnested.suffix h
  · intro text rest step h
    rw [stepClass, namedClass?_append] at h
    rw [stepClass]
    cases hnamed : namedClass? text with
    | none =>
      rw [hnamed] at h
      exact hnested.alone h
    | some p =>
      rw [hnamed, Option.map_some, Option.some.injEq, Prod.mk.injEq] at h
      rw [← h.1, ← List.append_cancel_right h.2]

lemma local_stepPlain (c : Char) : Local (stepPlain verbose frames items c) := by
  have hitem : Local fun text => stepItem verbose frames items (c :: text) :=
    (local_readSetItem_cons verbose c).map fun item => ClassStep.opened frames (item :: items)
  cases hkind : operator? c with
  | none =>
    refine hitem.congr fun text => stepPlain_of_ne verbose frames items ?_
    simp [hkind]
  | some kind =>
    refine Local.peek false c (Local.pure (operate frames items kind)) hitem ?_ ?_
    · intro text rest (htext : text = c :: rest)
      simp [stepPlain, hkind, htext]
    · intro text hhead
      exact stepPlain_of_ne verbose frames items fun _ _ => hhead

lemma local_stepClass_cons (c : Char) :
    Local fun text => stepClass verbose frames items (c :: text) := by
  by_cases hopen : c = '['
  · subst hopen
    exact local_stepClass_open verbose frames items
  by_cases hclose : c = ']'
  · subst hclose
    exact .value (closeBracket? frames items)
  · refine (local_stepPlain verbose frames items c).congr fun text => ?_
    unfold stepClass
    split <;> simp_all

lemma local_stepClass : Local (stepClass verbose frames items) :=
  Local.cons rfl (local_stepClass_cons verbose frames items)

end

/-- Each step takes a character at least. -/
lemma length_lt_of_stepClass {verbose : Bool} {frames : List Frame} {items : List ClassSet}
    {text rest : List Char} {step : ClassStep}
    (h : stepClass verbose frames items text = some (step, rest)) : rest.length < text.length := by
  cases text with
  | nil => cases h
  | cons c text =>
    exact Nat.lt_succ_of_le ((local_stepClass_cons verbose frames items c).suffix h).length_le

section

variable {verbose : Bool} {frames : List Frame} {items : List ClassSet}

lemma readClassFrom_suffix {fuel : Nat} {text rest : List Char} {pattern : Pattern}
    (h : readClassFrom verbose fuel frames items text = some (pattern, rest)) : rest <:+ text := by
  induction fuel generalizing frames items text with
  | zero => cases h
  | succ fuel ih =>
    rw [readClassFrom_succ] at h
    obtain ⟨⟨step, left⟩, hstep, hlater⟩ := Option.bind_eq_some_iff.mp h
    have hleft := ((local_stepClass verbose frames items).suffix hstep).trans
      (skip_suffix verbose text)
    cases step with
    | closed negated body =>
      cases hlater
      exact hleft
    | opened frames items => exact (ih hlater).trans hleft

lemma readClassFrom_alone {fuel fuel' : Nat} {text rest : List Char} {pattern : Pattern}
    (h : readClassFrom verbose fuel frames items (text ++ closing) =
      some (pattern, rest ++ closing))
    (hfuel : text.length < fuel') :
    readClassFrom verbose fuel' frames items text = some (pattern, rest) := by
  induction fuel generalizing fuel' frames items text with
  | zero => cases h
  | succ fuel ih =>
    obtain ⟨fuel', rfl⟩ := Nat.exists_eq_add_one_of_ne_zero (Nat.ne_zero_of_lt hfuel)
    rw [readClassFrom_succ] at h ⊢
    obtain ⟨⟨step, left⟩, hstep, hlater⟩ := Option.bind_eq_some_iff.mp h
    have hlocal := (local_stepClass verbose frames items).afterSkip verbose
    -- every step takes a character of the source, so its length bounds the steps that are needed
    have halone (front : List Char) (hleft : left = front ++ closing) :
        stepClass verbose frames items (skip verbose text) = some (step, front) ∧
          front.length < fuel' := by
      rw [hleft] at hstep
      have halone := hlocal.alone hstep
      have hlt := Nat.lt_of_lt_of_le (length_lt_of_stepClass halone) (length_skip_le verbose text)
      exact ⟨halone, by omega⟩
    cases step with
    | closed negated body =>
      cases hlater
      rw [(halone rest rfl).1]
      rfl
    | opened frames items =>
      obtain ⟨front, rfl⟩ := exists_of_suffix (readClassFrom_suffix hlater)
      obtain ⟨hstep', hlt⟩ := halone front rfl
      rw [hstep']
      exact ih hlater hlt

end

lemma local_readClass (verbose : Bool) : Local (readClass verbose) where
  suffix {text rest pattern} h :=
    (readClassFrom_suffix h).trans ((local_readBracketStart verbose).suffix rfl)
  alone {text rest pattern} h := by
    rw [readClass] at h
    generalize hstart : readBracketStart verbose (text ++ closing) = start at h
    obtain ⟨negated, items, left⟩ := start
    obtain ⟨front, rfl⟩ := exists_of_suffix (readClassFrom_suffix h)
    let regroup (start : Bool × List ClassSet × List Char) := some ((start.1, start.2.1), start.2.2)
    have halone := (local_readBracketStart verbose).alone (congrArg regroup hstart)
    have hstart' : readBracketStart verbose text = (negated, items, front) := by
      simp only [Option.some.injEq, Prod.mk.injEq] at halone
      exact Prod.ext halone.1.1 (Prod.ext halone.1.2 halone.2)
    have hlength : front.length ≤ text.length :=
      ((local_readBracketStart verbose).suffix halone).length_le
    rw [readClass, hstart']
    exact readClassFrom_alone h (Nat.lt_succ_of_le hlength)

end TableGrammar.Regex
