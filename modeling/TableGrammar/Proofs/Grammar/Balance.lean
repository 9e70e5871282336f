import TableGrammar.Proofs.Grammar.GatheredWriting

/-!
# Gathered assignments and their parentheses

The table for gathered assignments sees to it that operands and operators alternate, but it does not
count parentheses. So when the formula is evaluated at the semicolon, parentheses are all that can
be wrong with it: evaluation succeeds if they are balanced and nested no more than 128 deep, and
otherwise fails with what is first found wrong from left to right
(`Gathering.outcome_iff_balanced`). No operand can be missing, and nothing but a closing parenthesis
can be left over.

The invariant of the proof is `Reading.Tallies`: the groups that a reading has open are as many as
the values read so far have opened and not closed.
-/

namespace TableGrammar

/-! ### Balance -/

/-- No initial piece of the values closes more groups than it has opened, or leaves more than 128 of
them open. -/
def Parentheses.Sound (values : List String) : Prop :=
  ∀ front, front <+: values →
    front.count ")" ≤ front.count "(" ∧ front.count "(" ≤ front.count ")" + 128

/-- Besides, every group is closed at the end. -/
structure Parentheses.Balanced (values : List String) : Prop where
  sound : Parentheses.Sound values
  closed : values.count "(" = values.count ")"

/-- What is first found wrong with the parentheses, from left to right. -/
inductive Parentheses.Violates (values : List String) : Fault → Prop where
  | unopened {front rest : List String} (hsplit : values = front ++ ")" :: rest)
      (hfront : Parentheses.Sound front) (hdepth : front.count "(" = front.count ")") :
      Violates values .unopenedParenthesis
  | tooDeep {front rest : List String} (hsplit : values = front ++ "(" :: rest)
      (hfront : Parentheses.Sound front) (hdepth : front.count "(" = front.count ")" + 128) :
      Violates values .depthExceeded
  | unclosed (hsound : Parentheses.Sound values) (hopen : values.count ")" < values.count "(") :
      Violates values (.unclosedParenthesis endOfInput)

section

variable {front rest values : List String} {value : String} {fault other : Fault}

lemma Parentheses.sound_nil : Parentheses.Sound [] := by
  intro front hfront
  simp [List.prefix_nil.mp hfront]

lemma Parentheses.Sound.mono (h : Parentheses.Sound values) (hfront : front <+: values) :
    Parentheses.Sound front :=
  fun inner hinner => h inner (hinner.trans hfront)

lemma Parentheses.sound_append_singleton (h : Parentheses.Sound front)
    (hclosed : (front ++ [value]).count ")" ≤ (front ++ [value]).count "(")
    (hopen : (front ++ [value]).count "(" ≤ (front ++ [value]).count ")" + 128) :
    Parentheses.Sound (front ++ [value]) := by
  intro inner hinner
  rcases List.prefix_concat_iff.mp hinner with rfl | hinner
  · exact ⟨hclosed, hopen⟩
  · exact h inner hinner

/-- The parenthesis that is one too many ends what is sound. -/
lemma Parentheses.Violates.cases_unsound (h : Parentheses.Violates values fault) :
    (∃ front value rest, values = front ++ value :: rest ∧ Parentheses.Sound front ∧
        ¬ Parentheses.Sound (front ++ [value]) ∧
        fault = if value = ")" then .unopenedParenthesis else .depthExceeded) ∨
      Parentheses.Sound values ∧ values.count ")" < values.count "(" ∧
        fault = .unclosedParenthesis endOfInput := by
  cases h with
  | @unopened front rest hsplit hfront hdepth =>
    refine Or.inl ⟨front, ")", rest, hsplit, hfront, ?_, rfl⟩
    intro hsound
    have hle := (hsound _ (List.prefix_refl _)).1
    simp [List.count_append, hdepth] at hle
  | @tooDeep front rest hsplit hfront hdepth =>
    refine Or.inl ⟨front, "(", rest, hsplit, hfront, ?_, rfl⟩
    intro hsound
    have hle := (hsound _ (List.prefix_refl _)).2
    simp [List.count_append, hdepth] at hle
  | unclosed hsound hopen => exact Or.inr ⟨hsound, hopen, rfl⟩

lemma Parentheses.prefix_of_not_sound {sound : List String} (hsound : Parentheses.Sound sound)
    (hinitial : sound <+: front ++ value :: rest) (h : ¬ Parentheses.Sound (front ++ [value])) :
    sound <+: front := by
  have hbroken : front ++ [value] <+: front ++ value :: rest := by simp
  rcases List.prefix_or_prefix_of_prefix hinitial hbroken with hle | hle
  · rcases List.prefix_concat_iff.mp hle with rfl | hle
    · exact absurd hsound h
    · exact hle
  · exact absurd (hsound.mono hle) h

lemma Parentheses.Violates.not_balanced (h : Parentheses.Violates values fault) :
    ¬ Parentheses.Balanced values := by
  rintro ⟨hsound, hclosed⟩
  rcases h.cases_unsound with ⟨front, value, rest, rfl, -, hunsound, -⟩ | ⟨-, hopen, -⟩
  · exact hunsound (hsound.mono (by simp))
  · omega

/-- Only one thing is found wrong first. -/
lemma Parentheses.Violates.unique (h : Parentheses.Violates values fault)
    (hother : Parentheses.Violates values other) : fault = other := by
  rcases h.cases_unsound with ⟨front, value, rest, rfl, hfront, hunsound, rfl⟩ | ⟨hsound, -, rfl⟩
  · rcases hother.cases_unsound with ⟨before, found, behind, hsplit, hbefore, hbroken, rfl⟩ |
      ⟨hsound, -, -⟩
    · have hle : before <+: front :=
        Parentheses.prefix_of_not_sound hbefore (hsplit.symm ▸ List.prefix_append _ _) hunsound
      have hge : front <+: before :=
        Parentheses.prefix_of_not_sound hfront (hsplit ▸ List.prefix_append _ _) hbroken
      obtain rfl : front = before := hge.eq_of_length (Nat.le_antisymm hge.length_le hle.length_le)
      obtain rfl : value = found := (List.cons.inj (List.append_cancel_left hsplit)).1
      rfl
    · exact absurd (hsound.mono (by simp)) hunsound
  · rcases hother.cases_unsound with ⟨before, found, behind, rfl, -, hbroken, -⟩ | ⟨-, -, rfl⟩
    · exact absurd (hsound.mono (by simp)) hbroken
    · rfl

end

/-! ### Reading what the table accepts -/

/-- The groups that a reading has open are those that the values before it leave open. -/
structure Reading.Tallies (reading : Reading Token) (front : List String) : Prop where
  sound : Parentheses.Sound front
  depth : front.count "(" = front.count ")" + reading.outer.length

lemma Gathering.isOpen_iff {token : Token} :
    Gathering.roles.isOpen token = true ↔ token.value = "(" :=
  beq_iff_eq

lemma Gathering.isClose_iff {token : Token} :
    Gathering.roles.isClose token = true ↔ token.value = ")" :=
  beq_iff_eq

lemma Gathering.value_ne_of_actsAs {token : Token} {tier : Tier}
    (h : Gathering.roles.ActsAs tier token) : token.value ≠ "(" ∧ token.value ≠ ")" := by
  have hoperator : Operators.standard.contains tier token.value = true := h.isOperator
  constructor
  · intro hvalue
    rw [hvalue] at hoperator
    cases tier <;> cases hoperator
  · intro hvalue
    rw [hvalue] at hoperator
    cases tier <;> cases hoperator

lemma Reading.Tallies.other {reading further : Reading Token} {front : List String}
    {value : String} (h : reading.Tallies front) (hopen : value ≠ "(") (hclose : value ≠ ")")
    (houter : further.outer.length = reading.outer.length) :
    further.Tallies (front ++ [value]) := by
  have hbounds := h.sound front (List.prefix_refl front)
  have hcount : ∀ parenthesis, value ≠ parenthesis →
      (front ++ [value]).count parenthesis = front.count parenthesis := by
    intro parenthesis hne
    simp [List.count_append, hne]
  refine ⟨Parentheses.sound_append_singleton h.sound ?_ ?_, ?_⟩
  · rw [hcount _ hopen, hcount _ hclose]
    exact hbounds.1
  · rw [hcount _ hopen, hcount _ hclose]
    exact hbounds.2
  · rw [hcount _ hopen, hcount _ hclose, houter]
    exact h.depth

/-- One more item keeps the tally. -/
lemma Reading.Tallies.advance {reading further : Reading Token} {front : List String}
    {token : Token} (h : reading.Tallies front)
    (hadvances : reading.Advances Gathering.roles token further) :
    further.Tallies (front ++ [token.value]) := by
  have hdepth := h.depth
  cases hadvances with
  | @opening after waiting outer hopens hroom =>
    rw [Gathering.isOpen_iff.mp hopens.isOpen]
    have hopened : (front ++ ["("]).count "(" = front.count "(" + 1 := by simp
    have hclosed : (front ++ ["("]).count ")" = front.count ")" := by simp
    simp only [Reading.maxDepth] at hroom hdepth
    refine ⟨Parentheses.sound_append_singleton h.sound ?_ ?_, ?_⟩
    · omega
    · omega
    · rw [hopened, hclosed, hdepth, List.length_cons, Nat.add_assoc]
  | operand hoperand =>
    exact h.other (beq_eq_false_iff_ne.mp hoperand.isOpen)
      (beq_eq_false_iff_ne.mp hoperand.isClose) rfl
  | operator hacts hreduce =>
    obtain ⟨hopen, hclose⟩ := Gathering.value_ne_of_actsAs hacts
    exact h.other hopen hclose rfl
  -- a group is open, so more parentheses have been opened than closed
  | @closing last inner waiting outer hcloses =>
    have hbounds := h.sound front (List.prefix_refl front)
    rw [Gathering.isClose_iff.mp hcloses.isClose]
    have hopened : (front ++ [")"]).count "(" = front.count "(" := by simp
    have hclosed : (front ++ [")"]).count ")" = front.count ")" + 1 := by simp
    simp only [List.length_cons] at hdepth
    refine ⟨Parentheses.sound_append_singleton h.sound ?_ ?_, ?_⟩
    · omega
    · omega
    · rw [hopened, hclosed, hdepth]
      exact Nat.add_right_comm _ _ 1

lemma Gathering.isOperand_of_ne {token : Token} (hopen : token.value ≠ "(")
    (hclose : token.value ≠ ")") : Gathering.roles.IsOperand token :=
  ⟨rfl, beq_eq_false_iff_ne.mpr hopen, beq_eq_false_iff_ne.mpr hclose⟩

lemma Gathering.exists_actsAs {token : Token} (h : token.value ∈ ["+", "-", "*", "/", "%"]) :
    ∃ tier, Gathering.roles.ActsAs tier token := by
  have htier : ∀ value ∈ ["+", "-", "*", "/", "%"],
      ((Formula.standard.roles id).tier? value).isSome = true := by decide
  obtain ⟨tier, hfound⟩ := Option.isSome_iff_exists.mp (htier token.value h)
  exact ⟨tier, Roles.tier?_eq_some_iff.mp hfound⟩

/-- A closing parenthesis is no operator. -/
lemma Gathering.closes_of_value {token : Token} (h : token.value = ")") :
    Gathering.roles.Closes token :=
  ⟨Gathering.isClose_iff.mpr h, fun _ hacts => (Gathering.value_ne_of_actsAs hacts).2 h⟩

/-- A reading goes on past every part of a right hand side but a parenthesis that closes a group
which is not open, or opens one too many. -/
lemma Gathering.Part.read_cases {token : Token} {mode next : Sweep.Mode}
    (h : Gathering.Part token mode next) {reading : Reading Token}
    (hmode : reading.due.mode = mode) :
    (∃ further, reading.read Gathering.roles token = .next further) ∨
      (∃ tree, reading.read Gathering.roles token = .before (.ok tree) ∧ token.value = ")" ∧
        reading.outer = []) ∨
      reading.read Gathering.roles token = .after .depthExceeded ∧ token.value = "(" ∧
        Reading.maxDepth ≤ reading.outer.length := by
  obtain ⟨due, waiting, outer⟩ := reading
  subst hmode
  -- where an operand is due only an opening parenthesis can fail, where an operator is due only a
  -- closing one
  cases due with
  | operand after =>
    cases h with
    | identifier h | number h =>
      have hopen : token.value ≠ "(" := by
        intro hvalue
        rw [hvalue] at h
        exact absurd h (by decide)
      have hclose : token.value ≠ ")" := by
        intro hvalue
        rw [hvalue] at h
        exact absurd h (by decide)
      exact Or.inl ⟨_, (Reading.Advances.operand (Gathering.isOperand_of_ne hopen hclose)).read_eq⟩
    | opening h =>
      have hclose : Gathering.roles.isClose token = false := by
        rw [← Bool.not_eq_true, Gathering.isClose_iff, h]
        decide
      have hopens : Gathering.roles.Opens token := ⟨rfl, Gathering.isOpen_iff.mpr h, hclose⟩
      by_cases hdepth : outer.length < Reading.maxDepth
      · exact Or.inl ⟨_, (Reading.Advances.opening hopens hdepth).read_eq⟩
      · refine Or.inr (Or.inr ⟨?_, h, Nat.le_of_not_lt hdepth⟩)
        simp [Reading.read, Reading.readOperand, hopens.isStop, hopens.isOpen, hclose, hdepth]
  | operator last =>
    cases h with
    | operator h =>
      obtain ⟨tier, hacts⟩ := Gathering.exists_actsAs h
      exact Or.inl ⟨_, (Reading.Advances.operator hacts rfl).read_eq⟩
    | closing h =>
      have hcloses := Gathering.closes_of_value h
      cases outer with
      | nil =>
        refine Or.inr (Or.inl ⟨Reading.complete last waiting, ?_, h, rfl⟩)
        simp [Reading.read, Reading.readOperator, Roles.tier?_eq_none_iff.mpr hcloses.inactive]
      | cons around outer => exact Or.inl ⟨_, (Reading.Advances.closing hcloses).read_eq⟩

/-- What is left of a reading, and what is wrong with the parentheses of the values as a whole. -/
inductive Gathering.Verdict (values : List String) :
    Except Fault (Tree Token) × List Token → Prop where
  | balanced {tree : Tree Token} (h : Parentheses.Balanced values) : Verdict values (.ok tree, [])
  | fault {fault : Fault} {rest : List Token} (h : Parentheses.Violates values fault) :
      Verdict values (.error fault, rest)
  | leftOver {tree : Tree Token} {token : Token} {rest : List Token} (hvalue : token.value = ")")
      (h : Parentheses.Violates values .unopenedParenthesis) :
      Verdict values (.ok tree, token :: rest)

/-- Over what the table accepts, a reading is stopped by the parentheses or by nothing. -/
lemma Gathering.Follows.verdict {mode : Sweep.Mode} {items : List Token}
    (h : Gathering.Follows mode items) {reading : Reading Token} {front : List String}
    (hmode : reading.due.mode = mode) (htallies : reading.Tallies front) :
    Gathering.Verdict (front ++ items.map Token.value)
      (reading.readAll Gathering.roles items) := by
  induction h generalizing reading front with
  -- the tally says how many groups are open: none at the end means that all is balanced
  | nil =>
    obtain ⟨due, waiting, outer⟩ := reading
    have hdepth := htallies.depth
    rw [List.map_nil, List.append_nil]
    cases due with
    | operand after => cases hmode
    | operator last =>
      cases outer with
      | nil => exact .balanced ⟨htallies.sound, hdepth⟩
      | cons around outer =>
        refine .fault (.unclosed htallies.sound ?_)
        simp only [List.length_cons] at hdepth
        omega
  | @cons mode next token tokens hpart h ih =>
    have hbounds := htallies.sound front (List.prefix_refl front)
    have hdepth := htallies.depth
    rw [List.map_cons, Reading.readAll]
    rcases hpart.read_cases hmode with ⟨further, hread⟩ | ⟨tree, hread, hvalue, houter⟩ |
      ⟨hread, hvalue, hfull⟩
    · have hadvances := Reading.read_eq_next_iff.mp hread
      have hlater := ih (hpart.mode_of_advances hmode hadvances) (htallies.advance hadvances)
      rw [List.append_assoc] at hlater
      rw [hread]
      exact hlater
    · rw [hread, hvalue]
      rw [houter] at hdepth
      exact .leftOver hvalue (.unopened rfl htallies.sound hdepth)
    · rw [hread, hvalue]
      simp only [Reading.maxDepth] at hfull
      exact .fault (.tooDeep rfl htallies.sound (by omega))

/-- Evaluating what the table accepts succeeds if the parentheses are balanced, and fails with what
is wrong with them otherwise. -/
lemma Gathering.Follows.evaluate_cases {items : List Token} (h : Gathering.Follows .operand items) :
    (Parentheses.Balanced (items.map Token.value) ∧ ∃ tree, Formula.evaluate
        ((items.map Token.value).foldl Formula.add Formula.standard) id = .ok tree) ∨
      ∃ fault, Parentheses.Violates (items.map Token.value) fault ∧ Formula.evaluate
        ((items.map Token.value).foldl Formula.add Formula.standard) id = .error fault := by
  have htallies : Reading.Tallies { due := .operand endOfInput } [] :=
    ⟨Parentheses.sound_nil, rfl⟩
  have hverdict := h.verdict rfl htallies
  rw [List.nil_append] at hverdict
  rw [Gathering.evaluate_values]
  cases h with
  | @cons _ next token tokens hpart h =>
    rw [readExpression_cons Gathering.roles tokens rfl]
    generalize Reading.readAll Gathering.roles { due := .operand endOfInput } (token :: tokens) =
      read at hverdict ⊢
    cases hverdict with
    | balanced hbalanced => exact Or.inl ⟨hbalanced, _, rfl⟩
    | fault hviolates => exact Or.inr ⟨_, hviolates, rfl⟩
    | leftOver hvalue hviolates =>
      refine Or.inr ⟨_, hviolates, ?_⟩
      simp [Except.map, hvalue]

/-! ### Runs -/

/-- The run over an assignment that the table accepts up to its semicolon is decided by the
parentheses. -/
lemma Gathering.outcome_of_walk? {cursor : Cursor}
    (h : Gathering.machine.table.walk? 0 cursor.remaining = some Gathering.done) :
    ∃ target equals items semicolon,
      cursor.remaining = target :: equals :: (items ++ [semicolon]) ∧
      ((Parentheses.Balanced (items.map Token.value) ∧
          ∃ gathering, (Gathering.grammar.run cursor).ending.outcome = .ok gathering) ∨
        ∃ fault, Parentheses.Violates (items.map Token.value) fault ∧
          (Gathering.grammar.run cursor).ending.outcome = .error (.expression fault)) := by
  obtain ⟨target, equals, items, semicolon, hremaining, -, -, -, hfollows, hends⟩ :=
    Gathering.ends_of_walk?_zero h
  refine ⟨target, equals, items, semicolon, hremaining, ?_⟩
  -- the ending is that of the semicolon, whose verdict is that on the parentheses
  have hending : (Gathering.grammar.run cursor).ending = _ := Grammar.ending_run hends
  rw [hending, Gathering.ending]
  rcases hfollows.evaluate_cases with ⟨hbalanced, tree, htree⟩ | ⟨fault, hviolates, hfault⟩
  · rw [htree]
    exact Or.inl ⟨hbalanced, _, rfl⟩
  · rw [hfault]
    exact Or.inr ⟨fault, hviolates, rfl⟩

lemma Ending.eq_failed_of_outcome {ρ : Type} {ending : Ending ρ} {failure : Failure}
    (h : ending.outcome = .error failure) : ending = .failed failure := by
  cases ending with
  | terminal state result => cases h
  | exhausted state result => cases h
  | failed found =>
    cases h
    rfl

/-- The one action that finds a fault is that of the semicolon. -/
lemma Gathering.walk?_of_fault {state : Nat} {gathering : Gathering} {token : Token} {fault : Fault}
    (h : (Gathering.machine.moveOn state gathering token).outcome = .error (.expression fault)) :
    Gathering.machine.table.walk? state [token] = some Gathering.done := by
  rw [Machine.moveOn] at h
  rcases Gathering.machine.move_cases state gathering token { tokens := [] } with
    ⟨-, hmove⟩ | ⟨transition, index, hselect, ⟨-, hmove⟩ | ⟨next, hnext, hmove⟩⟩
  · rw [hmove] at h
    cases h
  · rw [hmove] at h
    cases h
  · rw [hmove] at h
    have hmem : (state, transition) ∈ Gathering.entries :=
      Table.mem_transitions_ofList (Table.mem_of_select? _ hselect)
    simp only [Gathering.entries, List.mem_cons, List.not_mem_nil, or_false,
      Prod.mk.injEq] at hmem
    rcases hmem with ⟨-, rfl⟩ | ⟨-, rfl⟩ | ⟨-, rfl⟩ | ⟨-, rfl⟩ | ⟨-, rfl⟩ | ⟨-, rfl⟩ | ⟨-, rfl⟩ |
      ⟨-, rfl⟩
    case inr.inr.inr.inr.inr.inr.inr =>
      simp only [Table.walk?, hselect]
      rfl
    all_goals cases h

lemma Gathering.exists_walk?_of_fault {cursor : Cursor} {fault : Fault}
    (h : (Gathering.grammar.run cursor).ending.outcome = .error (.expression fault)) :
    ∃ tokens, Gathering.machine.table.walk? 0 tokens = some Gathering.done ∧
      (Gathering.grammar.run { tokens }).ending.outcome = .error (.expression fault) := by
  have hrun : ∀ cursor, (Gathering.grammar.run cursor).ending =
      (Gathering.machine.trail 0 Gathering.machine.start cursor.remaining).ending :=
    fun cursor => congrArg Run.ending (Gathering.machine_blind.run_eq cursor)
  rw [hrun] at h
  obtain ⟨front, token, rest, state, gathering, -, hreaches, hmove⟩ :=
    Machine.exists_of_failed (Ending.eq_failed_of_outcome h)
  -- the tokens up to the one that the run fails at are accepted by the table, and the run over them
  -- fails in the same way
  refine ⟨front ++ [token], ?_, ?_⟩
  · rw [hreaches.walk?_append]
    exact Gathering.walk?_of_fault hmove
  · have hremaining : Cursor.remaining { tokens := front ++ [token] } = front ++ [token] := rfl
    rw [Machine.Reaches] at hreaches
    rw [hrun, hremaining, Machine.trail_append, Trail.andThen, hreaches]
    simp only [Machine.trail_of_error hmove]
    rfl

/-- On every input, a fault is one of parentheses. -/
lemma Gathering.exists_violates_of_fault {cursor : Cursor} {fault : Fault}
    (h : (Gathering.grammar.run cursor).ending.outcome = .error (.expression fault)) :
    ∃ values, Parentheses.Violates values fault := by
  obtain ⟨tokens, hwalk, houtcome⟩ := Gathering.exists_walk?_of_fault h
  obtain ⟨-, -, items, -, -, hcases⟩ := @Gathering.outcome_of_walk? { tokens } hwalk
  rcases hcases with ⟨-, gathering, hok⟩ | ⟨found, hviolates, herror⟩
  · rw [houtcome] at hok
    cases hok
  · rw [houtcome] at herror
    cases herror
    exact ⟨_, hviolates⟩

/-- An assignment that the table accepts up to its semicolon has a result exactly when its
parentheses are balanced and not nested too deeply; otherwise it fails with what is first found
wrong with them. On no input is an operand missing, or anything left over behind an expression. -/
theorem Gathering.outcome_iff_balanced :
    (∀ (cursor : Cursor) (target equals semicolon : Token) (items : List Token),
      cursor.remaining = target :: equals :: (items ++ [semicolon]) →
      Gathering.machine.table.walk? 0 cursor.remaining = some Gathering.done →
      ((∃ gathering, (Gathering.grammar.run cursor).ending.outcome = .ok gathering) ↔
        Parentheses.Balanced (items.map Token.value)) ∧
      ∀ failure, (Gathering.grammar.run cursor).ending.outcome = .error failure ↔
        ∃ fault, failure = .expression fault ∧
          Parentheses.Violates (items.map Token.value) fault) ∧
    ∀ (cursor : Cursor) (text : String),
      (Gathering.grammar.run cursor).ending.outcome ≠
        .error (.expression (.missingOperand text)) ∧
      (Gathering.grammar.run cursor).ending.outcome ≠
        .error (.expression (.trailingInput text)) := by
  constructor
  · intro cursor target equals semicolon items hremaining hwalk
    obtain ⟨target', equals', items', semicolon', hremaining', hcases⟩ :=
      Gathering.outcome_of_walk? hwalk
    obtain rfl : items = items' := by
      rw [hremaining] at hremaining'
      simp only [List.cons.injEq] at hremaining'
      exact (List.append_inj' hremaining'.2.2 rfl).1
    rcases hcases with ⟨hbalanced, gathering, houtcome⟩ | ⟨fault, hviolates, houtcome⟩
    · rw [houtcome]
      refine ⟨⟨fun _ => hbalanced, fun _ => ⟨gathering, rfl⟩⟩, fun failure => ?_⟩
      constructor
      · intro hfailure
        cases hfailure
      · rintro ⟨fault, -, hviolates⟩
        exact absurd hbalanced hviolates.not_balanced
    · rw [houtcome]
      refine ⟨⟨?_, fun hbalanced => absurd hbalanced hviolates.not_balanced⟩, fun failure => ?_⟩
      · rintro ⟨gathering, hgathering⟩
        cases hgathering
      · constructor
        · intro hfailure
          cases hfailure
          exact ⟨fault, rfl, hviolates⟩
        · rintro ⟨other, rfl, hother⟩
          rw [hviolates.unique hother]
  · intro cursor text
    constructor
    · intro h
      obtain ⟨values, hviolates⟩ := Gathering.exists_violates_of_fault h
      cases hviolates
    · intro h
      obtain ⟨values, hviolates⟩ := Gathering.exists_violates_of_fault h
      cases hviolates

/-- In `x = a ) + ( b ;` as many groups are opened as closed, but the first one is closed before any
is open. -/
theorem Gathering.outcome_iff_balanced_unopened :
    let cursor : Cursor :=
      { tokens := [⟨.identifier, "x"⟩, ⟨.character, "="⟩, ⟨.identifier, "a"⟩, ⟨.character, ")"⟩,
          ⟨.operator, "+"⟩, ⟨.character, "("⟩, ⟨.identifier, "b"⟩, ⟨.character, ";"⟩] }
    Gathering.machine.table.walk? 0 cursor.remaining = some Gathering.done ∧
      ¬ Parentheses.Balanced ["a", ")", "+", "(", "b"] ∧
      (Gathering.grammar.run cursor).ending.outcome =
        .error (.expression .unopenedParenthesis) := by
  intro cursor
  have hwalk : Gathering.machine.table.walk? 0 cursor.remaining = some Gathering.done := by
    decide
  obtain ⟨-, hfailure⟩ := Gathering.outcome_iff_balanced.1 cursor ⟨.identifier, "x"⟩
    ⟨.character, "="⟩ ⟨.character, ";"⟩
    [⟨.identifier, "a"⟩, ⟨.character, ")"⟩, ⟨.operator, "+"⟩, ⟨.character, "("⟩,
      ⟨.identifier, "b"⟩] rfl hwalk
  have hfront : Parentheses.Sound ["a"] :=
    @Parentheses.sound_append_singleton [] "a" Parentheses.sound_nil (by decide) (by decide)
  have hviolates : Parentheses.Violates ["a", ")", "+", "(", "b"] .unopenedParenthesis :=
    @Parentheses.Violates.unopened _ ["a"] ["+", "(", "b"] rfl hfront rfl
  exact ⟨hwalk, hviolates.not_balanced, (hfailure _).mpr ⟨_, rfl, hviolates⟩⟩

end TableGrammar
