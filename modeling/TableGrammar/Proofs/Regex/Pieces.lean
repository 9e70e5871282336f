import TableGrammar.Proofs.Regex.Brackets

/-!
# The pieces of a pattern

Reading a pattern goes from piece to piece: a character or class, the start or the end of a group, a
bar, a repetition. Reading a piece (`readPiece`) depends on the text only, and what a piece does to
what has been read so far (`Parsing.add?`) does not depend on the text. So a pattern is read in
steps (`Parsing.readAll_succ`), each of which takes a piece and puts it to the others.
-/

namespace TableGrammar.Regex

/-! ### Flags and names -/

/-- Flags with the sign behind them, and whether it is a closing parenthesis. -/
def readFlagsEnd (off dangling : Bool) (change : FlagChange) (text : List Char) :
    Option ((FlagChange × Bool) × List Char) :=
  (readFlags off dangling change text).bind fun p =>
    match p.2 with
    | [] => none
    | c :: rest => some ((p.1, c == ')'), rest)

/-- What a character among flags does: it ends them, or others may follow. -/
def flagStep (off dangling : Bool) (change : FlagChange) (c : Char) :
    Option ((FlagChange × Bool) ⊕ (Bool × Bool × FlagChange)) :=
  if c == ':' || c == ')' then
    if dangling then none else some (.inl (change.reverse, c == ')'))
  else if c == '-' then
    if off then none else some (.inr (true, true, change))
  else
    (flag? c).bind fun flag =>
      if (FlagChange.state? change flag).isSome then none
      else some (.inr (off, false, (flag, !off) :: change))

section

variable {off dangling : Bool} {change : FlagChange} {text rest : List Char}
  {flags : FlagChange × Bool}

lemma readFlagsEnd_cons (c : Char) : readFlagsEnd off dangling change (c :: text) =
    (flagStep off dangling change c).bind fun
      | .inl flags => some (flags, text)
      | .inr (off, dangling, change) => readFlagsEnd off dangling change text := by
  rw [readFlagsEnd, readFlags, flagStep]
  split
  case isTrue => split <;> rfl
  case isFalse =>
    split
    case isTrue => split <;> rfl
    case isFalse =>
      cases flag? c with
      | none => rfl
      | some flag =>
        dsimp only [Option.bind_some]
        split <;> rfl

lemma readFlagsEnd_suffix (h : readFlagsEnd off dangling change text = some (flags, rest)) :
    rest <:+ text.tail := by
  induction text generalizing off dangling change with
  | nil => cases h
  | cons c text ih =>
    rw [readFlagsEnd_cons] at h
    obtain ⟨step, -, hlater⟩ := Option.bind_eq_some_iff.mp h
    rcases step with flags | ⟨off, dangling, change⟩
    · cases hlater
      exact List.suffix_refl _
    · exact (ih hlater).trans (List.tail_suffix text)

lemma readFlagsEnd_alone
    (h : readFlagsEnd off dangling change (text ++ closing) = some (flags, rest ++ closing)) :
    readFlagsEnd off dangling change text = some (flags, rest) := by
  induction text generalizing off dangling change with
  | nil => exact absurd (readFlagsEnd_suffix h) not_suffix_dollar
  | cons c text ih =>
    rw [List.cons_append, readFlagsEnd_cons] at h
    obtain ⟨step, hstep, hlater⟩ := Option.bind_eq_some_iff.mp h
    rw [readFlagsEnd_cons, hstep, Option.bind_some]
    rcases step with flags | ⟨off, dangling, change⟩
    · exact (Local.pure flags).alone hlater
    · exact ih hlater

end

lemma local_readFlagsEnd_cons (off dangling : Bool) (change : FlagChange) (c : Char) :
    Local fun text => readFlagsEnd off dangling change (c :: text) where
  suffix h := readFlagsEnd_suffix h
  alone {text _ _} h := @readFlagsEnd_alone _ _ _ (c :: text) _ _ h

lemma readName_suffix {text rest name : List Char} (h : readName text = some (name, rest)) :
    rest <:+ text := by
  have hsuffix := List.dropWhile_suffix (l := text) (· != '>')
  simp only [readName] at h
  split at h
  case h_1 first others c left hname hdrop =>
    split at h
    · cases h
      rw [hdrop] at hsuffix
      exact (List.suffix_cons c _).trans hsuffix
    · cases h
  case h_2 => cases h

lemma readName_append (text : List Char) :
    readName (text ++ closing) = (readName text).map fun p => (p.1, p.2 ++ closing) := by
  simp only [readName]
  rw [List.dropWhile_append]
  cases hdrop : text.dropWhile (· != '>') with
  | nil => simp [closing]
  | cons c left =>
    rw [takeWhile_append_of_dropWhile hdrop]
    cases text.takeWhile (· != '>') with
    | nil => rfl
    | cons first others =>
      simp only [List.isEmpty_cons, Bool.false_eq_true, if_false, List.cons_append]
      split <;> rfl

lemma local_readName : Local readName :=
  Local.of_append readName_suffix readName_append

/-! ### Counts -/

lemma local_dropBlanks : Local fun text => some ((), text.dropWhile Text.isBlank) := by
  refine Local.of_append ?_ ?_
  · intro text rest x h
    cases h
    exact List.dropWhile_suffix _
  · intro text
    rw [dropBlanks_append]
    rfl

lemma dropLazy_append (text : List Char) :
    dropLazy (text ++ closing) = dropLazy text ++ closing := by
  cases text with
  | nil => rfl
  | cons c text => by_cases hc : c = '?' <;> simp [dropLazy, hc]

lemma local_dropLazy : Local fun text => some ((), dropLazy text) := by
  refine Local.of_append ?_ ?_
  · intro text rest x h
    cases h
    unfold dropLazy
    split
    · exact List.suffix_cons _ _
    · exact List.suffix_refl _
  · intro text
    rw [dropLazy_append]
    rfl

lemma local_readCount (verbose : Bool) : Local fun text => some (readCount verbose text) := by
  have hdigits : Local fun text => some (takeDecimal verbose text.length text) := by
    simp only [takeDecimal_eq]
    exact local_takeSkipping rfl (Local.pure ())
  have hcount := local_dropBlanks.bind fun _ => hdigits.bind fun digits =>
    local_dropBlanks.bind fun _ => (local_skip verbose).map fun _ => decimalNumber? digits
  exact hcount

/-- The end of a repetition with a greatest count. -/
def endMost (least : Nat) (most : Option Nat) (text : List Char) :
    Option ((Nat × Option Nat) × List Char) :=
  match most, text with
  | some most, '\x7d' :: rest =>
    (guard (least ≤ most) : Option Unit).bind fun _ => some ((least, some most), rest)
  | _, _ => none

/-- The end of a repetition after the comma. -/
def endLeast (verbose : Bool) (least : Nat) (text : List Char) :
    Option ((Nat × Option Nat) × List Char) :=
  match skip verbose text with
  | '\x7d' :: rest => some ((least, none), rest)
  | rest =>
    let most := readCount verbose rest
    endMost least most.1 most.2

/-- The end of a repetition after its first count. -/
def endCounts (verbose : Bool) (count : Option Nat) (text : List Char) :
    Option ((Nat × Option Nat) × List Char) :=
  match text with
  | ',' :: rest => count.bind fun least => endLeast verbose least rest
  | '\x7d' :: rest => count.bind fun count => some ((count, some count), rest)
  | _ => none

lemma local_endMost (least : Nat) (most : Option Nat) : Local (endMost least most) := by
  cases most with
  | none => exact Local.none
  | some most =>
    refine Local.cons rfl fun c => ?_
    by_cases hc : c = '\x7d'
    · subst hc
      exact .ofOption (guard (least ≤ most)) fun _ => .pure (least, some most)
    · simpa [endMost, hc] using Local.none

lemma endLeast_of_ne {verbose : Bool} {text : List Char} (least : Nat)
    (h : (skip verbose text).head? ≠ some '\x7d') :
    endLeast verbose least text =
      let most := readCount verbose (skip verbose text)
      endMost least most.1 most.2 := by
  unfold endLeast
  split
  case h_1 hskip => simp [hskip] at h
  case h_2 => rfl

lemma local_endLeast (verbose : Bool) (least : Nat) : Local (endLeast verbose least) := by
  refine Local.peek verbose '\x7d' (Local.pure (least, none))
    ((local_readCount verbose).bind (local_endMost least)) ?_ ?_
  · intro text rest hskip
    simp only [endLeast, hskip]
  · intro text hhead
    exact endLeast_of_ne least hhead

lemma local_endCounts (verbose : Bool) (count : Option Nat) : Local (endCounts verbose count) := by
  refine Local.cons rfl fun c => ?_
  by_cases hcomma : c = ','
  · subst hcomma
    exact .ofOption count (local_endLeast verbose)
  by_cases hbrace : c = '\x7d'
  · subst hbrace
    exact .ofOption count fun count => .pure (count, some count)
  · simpa [endCounts, hcomma, hbrace] using Local.none

lemma readCounts_eq (verbose : Bool) (text : List Char) :
    readCounts verbose text =
      let first := readCount verbose (skip verbose text)
      endCounts verbose first.1 first.2 := by
  rw [readCounts]
  generalize readCount verbose (skip verbose text) = first
  obtain ⟨count, rest⟩ := first
  dsimp only
  split
  case h_1 least after heq =>
    cases heq
    refine congrArg _ (funext fun least => ?_)
    split
    case h_1 hskip => simp only [endLeast, hskip, Option.pure_def]
    case h_2 hbrace =>
      have hhead : (skip verbose after).head? ≠ some '\x7d' := by
        intro hhead
        obtain ⟨rest, hskip⟩ := List.head?_eq_some_iff.mp hhead
        exact hbrace rest hskip
      rw [endLeast_of_ne least hhead]
      generalize readCount verbose (skip verbose after) = most
      obtain ⟨most, rest⟩ := most
      unfold endMost
      dsimp only
      split
      case h_1 heq =>
        cases heq
        rfl
      case h_2 => cases most <;> split <;> simp_all
  case h_2 count after hne heq =>
    cases heq
    rfl
  case h_3 hcomma hbrace =>
    unfold endCounts
    cases count <;> split <;> simp_all

lemma local_readCounts (verbose : Bool) : Local (readCounts verbose) :=
  (((local_readCount verbose).bind (local_endCounts verbose)).afterSkip verbose).congr
    (readCounts_eq verbose)

/-! ### Pieces -/

/-- What is read from a pattern in one step. -/
inductive Piece where
  /-- A character, a place or a class. -/
  | item (pattern : Pattern)
  /-- Sets flags for what follows. -/
  | flags (change : FlagChange)
  /-- The start of a group. -/
  | opening (kind : GroupKind)
  /-- The start of a group with a name. -/
  | named (name : List Char)
  /-- The end of a group. -/
  | ending
  /-- The bar between two branches. -/
  | bar
  /-- The repetition of what stands before. -/
  | again (least : Nat) (most : Option Nat)

/-- Puts a piece to what has been read. -/
def Parsing.add? (parsing : Parsing) : Piece → Option Parsing
  | .item pattern => some (parsing.push pattern)
  | .flags change =>
    let verbose := (FlagChange.state? change .verbose).getD parsing.verbose
    some ({ parsing with verbose }.push (.flags change))
  | .opening kind => some (parsing.openGroup kind)
  | .named name =>
    if parsing.names.contains name then none
    else some ({ parsing with names := name :: parsing.names }.openGroup .capture)
  | .ending => parsing.closeGroup?
  | .bar => some parsing.branch
  | .again least most => parsing.repeatLatest? least most

/-- What flags are: the start of a group, or a change for what follows if a parenthesis closes
them. -/
def flagsPiece? (change : FlagChange) (closes : Bool) : Option Piece :=
  if closes then
    if change.isEmpty then none else some (.flags change)
  else
    some (.opening (.flags change))

/-- Reads the start of a group with flags, or flags that are set for what follows. -/
def readFlagsPiece (text : List Char) : Option (Piece × List Char) :=
  (readFlagsEnd false false [] text).bind fun p =>
    (flagsPiece? p.1.1 p.1.2).map fun piece => (piece, p.2)

/-- Reads the start of a group with a name. -/
def readNamedPiece (text : List Char) : Option (Piece × List Char) :=
  (readName text).map fun p => (.named p.1, p.2)

/-- Reads the start of a group after an angle bracket. -/
def readAnglePiece (text : List Char) : Option (Piece × List Char) :=
  match text with
  | '=' :: _ | '!' :: _ => none
  | rest => readNamedPiece rest

/-- Reads the start of a group after a question mark. -/
def readSpecialPiece (text : List Char) : Option (Piece × List Char) :=
  match text with
  | '=' :: _ | '!' :: _ => none
  | '<' :: rest => readAnglePiece rest
  | 'P' :: '<' :: rest => readNamedPiece rest
  | rest => readFlagsPiece rest

/-- Reads the start of a group, after its parenthesis. -/
def readGroupPiece (text : List Char) : Option (Piece × List Char) :=
  match text with
  | '?' :: rest => readSpecialPiece rest
  | rest => some (.opening .capture, rest)

/-- Reads a piece. -/
def readPiece (verbose : Bool) (text : List Char) : Option (Piece × List Char) :=
  match text with
  | [] => none
  | '(' :: rest => readGroupPiece (skip verbose rest)
  | ')' :: rest => some (.ending, rest)
  | '|' :: rest => some (.bar, rest)
  | '[' :: rest => (readClass verbose rest).map fun p => (.item p.1, p.2)
  | '?' :: rest => some (.again 0 (some 1), dropLazy rest)
  | '*' :: rest => some (.again 0 none, dropLazy rest)
  | '+' :: rest => some (.again 1 none, dropLazy rest)
  | '\x7b' :: rest =>
    (readCounts verbose rest).map fun p => (.again p.1.1 p.1.2, dropLazy (skip verbose p.2))
  | text => (readAtom verbose text).map fun p => (.item p.1.pattern, p.2)

/-- A character without a meaning of its own, or with one for a single place, is an atom. -/
lemma readPiece_atom (verbose : Bool) {c : Char} (text : List Char) (hopen : c ≠ '(')
    (hclose : c ≠ ')') (hbar : c ≠ '|') (hbracket : c ≠ '[') (hmaybe : c ≠ '?') (hstar : c ≠ '*')
    (hplus : c ≠ '+') (hbrace : c ≠ '\x7b') :
    readPiece verbose (c :: text) =
      (readAtom verbose (c :: text)).map fun p => (.item p.1.pattern, p.2) := by
  simp [readPiece, hopen, hclose, hbar, hbracket, hmaybe, hstar, hplus, hbrace]

/-! ### Steps -/

section

variable (parsing : Parsing)

lemma Parsing.openFlags_eq (text : List Char) :
    parsing.openFlags text = (readFlagsPiece text).bind fun p =>
      (parsing.add? p.1).map fun parsing => (parsing, p.2) := by
  unfold Parsing.openFlags readFlagsPiece readFlagsEnd
  cases readFlags false false [] text with
  | none => rfl
  | some p =>
    obtain ⟨change, rest⟩ := p
    cases rest with
    | nil => rfl
    | cons c rest =>
      by_cases hc : c = ')'
      · subst hc
        cases change <;> rfl
      · simp [hc, flagsPiece?, Parsing.add?]

lemma Parsing.openNamed_eq (text : List Char) :
    parsing.openNamed text = (readNamedPiece text).bind fun p =>
      (parsing.add? p.1).map fun parsing => (parsing, p.2) := by
  unfold readNamedPiece Parsing.openNamed
  rw [Option.bind_map]
  refine congrArg _ (funext fun p => ?_)
  simp only [Function.comp_apply, Parsing.add?]
  cases parsing.names.contains p.1 <;> rfl

lemma Parsing.readGroupStart_eq (text : List Char) :
    parsing.readGroupStart text = (readGroupPiece (skip parsing.verbose text)).bind fun p =>
      (parsing.add? p.1).map fun parsing => (parsing, p.2) := by
  unfold Parsing.readGroupStart
  generalize skip parsing.verbose text = left
  split
  case h_1 | h_2 | h_3 | h_4 => rfl
  case h_5 rest => exact Parsing.openNamed_eq parsing rest
  case h_6 rest _ _ =>
    rw [Parsing.openNamed_eq, readGroupPiece, readSpecialPiece, readAnglePiece] <;> assumption
  case h_7 rest _ _ _ _ _ _ =>
    rw [Parsing.openFlags_eq, readGroupPiece, readSpecialPiece] <;> assumption
  case h_8 hquestion =>
    unfold readGroupPiece
    split
    case h_1 => exact absurd rfl (hquestion _)
    case h_2 => rfl

/-- A pattern is read piece by piece. -/
lemma Parsing.readAll_succ (fuel : Nat) (text : List Char) :
    Parsing.readAll (fuel + 1) parsing text =
      match skip parsing.verbose text with
      | [] => if parsing.groups.isEmpty then some parsing.body else none
      | text => (readPiece parsing.verbose text).bind fun p =>
          (parsing.add? p.1).bind fun parsing => Parsing.readAll fuel parsing p.2 := by
  rw [Parsing.readAll]
  generalize skip parsing.verbose text = left
  split
  case h_1 | h_3 | h_4 | h_6 | h_7 | h_8 => rfl
  case h_2 rest =>
    rw [Parsing.readGroupStart_eq, Option.bind_assoc]
    simp only [readPiece, Option.bind_map, Function.comp_def]
  case h_5 rest | h_9 rest =>
    simp [readPiece, Option.bind_map, Parsing.add?]
  case h_10 hnil hopen hclose hbar hbracket hmaybe hstar hplus hbrace =>
    cases left with
    | nil => exact absurd rfl hnil
    | cons c left =>
      have hne {d : Char} (h : ∀ rest, c :: left = d :: rest → False) : c ≠ d := by
        rintro rfl
        exact h left rfl
      have hpiece := readPiece_atom parsing.verbose left (hne hopen) (hne hclose) (hne hbar)
        (hne hbracket) (hne hmaybe) (hne hstar) (hne hplus) (hne hbrace)
      simp [hpiece, Option.bind_map, Parsing.add?]

variable {parsing} {fuel : Nat} {text rest : List Char}

lemma Parsing.readAll_of_piece {piece : Piece}
    (h : readPiece parsing.verbose (skip parsing.verbose text) = some (piece, rest)) :
    parsing.readAll (fuel + 1) text =
      (parsing.add? piece).bind fun parsing => parsing.readAll fuel rest := by
  rw [Parsing.readAll_succ]
  split
  case h_1 hskip =>
    rw [hskip] at h
    cases h
  case h_2 => rw [h, Option.bind_some]

/-- Reading is at the end, or it takes a piece and goes on. -/
lemma Parsing.readAll_cases {pattern : Pattern} (h : parsing.readAll fuel text = some pattern) :
    skip parsing.verbose text = [] ∧ parsing.groups = [] ∧ pattern = parsing.body ∨
      ∃ fuel' piece rest next, fuel = fuel' + 1 ∧
        readPiece parsing.verbose (skip parsing.verbose text) = some (piece, rest) ∧
        parsing.add? piece = some next ∧ next.readAll fuel' rest = some pattern := by
  cases fuel with
  | zero => cases h
  | succ fuel =>
    rw [Parsing.readAll_succ] at h
    split at h
    case h_1 hskip =>
      split at h
      case isTrue hgroups =>
        cases h
        exact .inl ⟨hskip, List.isEmpty_iff.mp hgroups, rfl⟩
      case isFalse => cases h
    case h_2 =>
      obtain ⟨⟨piece, rest⟩, hpiece, h⟩ := Option.bind_eq_some_iff.mp h
      obtain ⟨next, hadd, hlater⟩ := Option.bind_eq_some_iff.mp h
      exact .inr ⟨fuel, piece, rest, next, rfl, hpiece, hadd, hlater⟩

end

/-! ### Reading pieces between anchors -/

lemma local_readFlagsPiece_cons (c : Char) : Local fun text => readFlagsPiece (c :: text) := by
  have hpiece := (local_readFlagsEnd_cons false false [] c).bind fun flags =>
    Local.value (flagsPiece? flags.1 flags.2)
  exact hpiece

lemma local_readNamedPiece : Local readNamedPiece :=
  local_readName.map Piece.named

lemma local_readAnglePiece : Local readAnglePiece := by
  refine Local.of_append ?_ ?_
  · intro text rest piece h
    unfold readAnglePiece at h
    split at h
    · cases h
    · cases h
    · exact local_readNamedPiece.suffix h
  · intro text
    cases text with
    | nil => rfl
    | cons c text =>
      by_cases hequal : c = '='
      · subst hequal
        rfl
      by_cases hbang : c = '!'
      · subst hbang
        rfl
      have hnamed (text : List Char) : readAnglePiece (c :: text) = readNamedPiece (c :: text) := by
        unfold readAnglePiece
        split <;> simp_all
      rw [List.cons_append, hnamed, hnamed, readNamedPiece, ← List.cons_append, readName_append]
      simp [readNamedPiece, Option.map_map, Function.comp_def]

lemma local_readSpecialPiece : Local readSpecialPiece := by
  refine Local.cons rfl fun c => ?_
  by_cases hequal : c = '='
  · subst hequal
    exact Local.none
  by_cases hbang : c = '!'
  · subst hbang
    exact Local.none
  by_cases hangle : c = '<'
  · subst hangle
    exact local_readAnglePiece
  by_cases hp : c = 'P'
  · subst hp
    refine Local.peek false '<' local_readNamedPiece Local.none ?_ ?_
    · intro text rest (htext : text = '<' :: rest)
      rw [htext, readSpecialPiece]
    · intro text (hhead : text.head? ≠ some '<')
      -- a letter that is no flag, so only a named group can follow
      have hflags : readFlagsPiece ('P' :: text) = none := by
        rw [readFlagsPiece, readFlagsEnd_cons]
        rfl
      unfold readSpecialPiece
      split <;> simp_all
  · refine (local_readFlagsPiece_cons c).congr fun text => ?_
    unfold readSpecialPiece
    split <;> simp_all

lemma local_readGroupPiece : Local readGroupPiece := by
  refine Local.peek false '?' local_readSpecialPiece (Local.pure (Piece.opening .capture)) ?_ ?_
  · intro text rest (htext : text = '?' :: rest)
    rw [htext, readGroupPiece]
  · intro text (hhead : text.head? ≠ some '?')
    unfold readGroupPiece
    split
    case h_1 => simp at hhead
    case h_2 => rfl

lemma local_again (least : Nat) (most : Option Nat) :
    Local fun text => some (Piece.again least most, dropLazy text) :=
  local_dropLazy.map fun _ => Piece.again least most

lemma local_readPiece_cons (verbose : Bool) (c : Char) :
    Local fun text => readPiece verbose (c :: text) := by
  by_cases hopen : c = '('
  · subst hopen
    exact local_readGroupPiece.afterSkip verbose
  by_cases hclose : c = ')'
  · subst hclose
    exact Local.pure Piece.ending
  by_cases hbar : c = '|'
  · subst hbar
    exact Local.pure Piece.bar
  by_cases hbracket : c = '['
  · subst hbracket
    exact (local_readClass verbose).map Piece.item
  by_cases hmaybe : c = '?'
  · subst hmaybe
    exact local_again 0 (some 1)
  by_cases hstar : c = '*'
  · subst hstar
    exact local_again 0 none
  by_cases hplus : c = '+'
  · subst hplus
    exact local_again 1 none
  by_cases hbrace : c = '\x7b'
  · subst hbrace
    have hcounts := (local_readCounts verbose).bind fun counts =>
      (local_again counts.1 counts.2).afterSkip verbose
    simpa [readPiece, Option.map_eq_bind, Function.comp_def] using hcounts
  · exact ((local_readAtom_cons verbose c).map fun atom => Piece.item atom.pattern).congr
      fun text =>
        readPiece_atom verbose text hopen hclose hbar hbracket hmaybe hstar hplus hbrace

lemma local_readPiece (verbose : Bool) : Local (readPiece verbose) :=
  Local.cons rfl (local_readPiece_cons verbose)

end TableGrammar.Regex
