import TableGrammar.Proofs.Expression.Climbing
import TableGrammar.Proofs.Machine.Runs
import TableGrammar.Proofs.Token.Equality
import TableGrammar.Regex.Compile

/-!
# Equal matchers

Matchers are equal exactly if they become the same when the case is removed from their exact tokens
and their regular expressions are compiled once more (`Matcher.beq_iff_folded_eq`). What they accept
does not change by that, as long as a library compiles one source to one thing, so equal matchers
accept the same tokens.

A run asks the matchers of a table for nothing but their verdicts. So it makes no difference to a
run if matchers are exchanged for equal ones, except for the labels of the transitions that it
takes, and none to an expression that is read (`Matcher.equality_is_interchangeability`).
-/

namespace TableGrammar

/-- An exact matcher ignores case whatever the kind of its token. -/
lemma Token.alike_value_folded (token : Token) (value : String) :
    Text.alike token.folded.value value = Text.alike token.value value := by
  simp only [Token.folded, Token.key]
  split
  · rw [Text.alike_comm, Text.alike_upper, Text.alike_comm]
  · rfl

section

variable [Regex.Engine]

/-! ### Equality of matchers -/

/-- The expression as the library compiles its source; one that it refuses accepts nothing. -/
def Regex.recompiled (regex : Regex) : Regex where
  source := regex.source
  accepts text := (Regex.compile? regex.source).any fun compiled => compiled.accepts text

mutual

/-- The matcher with the case removed from all exact tokens in it that ignore case, and with its
regular expressions compiled once more. -/
def Matcher.folded : Matcher → Matcher
  | .any => .any
  | .exact token => .exact token.folded
  | .shape kind => .shape kind
  | .regex expression => .regex expression.recompiled
  | .anyOf members => .anyOf (Matcher.foldedAll members)
  | .not inner => .not inner.folded

/-- All of the matchers, likewise. -/
def Matcher.foldedAll : List Matcher → List Matcher
  | [] => []
  | matcher :: others => matcher.folded :: Matcher.foldedAll others

end

lemma Regex.source_eq_iff_recompiled_eq {a b : Regex} :
    a.source = b.source ↔ a.recompiled = b.recompiled := by
  constructor
  · intro h
    rw [Regex.recompiled, Regex.recompiled, h]
  · intro h
    have hsource : a.recompiled.source = b.recompiled.source := congrArg Regex.source h
    exact hsource

mutual

lemma Matcher.same_iff_folded_eq (a b : Matcher) : a.same b = true ↔ a.folded = b.folded := by
  match a with
  | .any => cases b <;> simp [Matcher.same, Matcher.folded]
  | .exact token => cases b <;> simp [Matcher.same, Matcher.folded, Token.beq_iff_folded_eq]
  | .shape kind => cases b <;> simp [Matcher.same, Matcher.folded]
  | .regex expression =>
    cases b <;> simp [Matcher.same, Matcher.folded, Regex.source_eq_iff_recompiled_eq]
  | .anyOf members =>
    cases b with
    | anyOf others => simp [Matcher.same, Matcher.folded, Matcher.sameAll_iff_foldedAll_eq members]
    | _ => simp [Matcher.same, Matcher.folded]
  | .not inner =>
    cases b with
    | not other => simp [Matcher.same, Matcher.folded, Matcher.same_iff_folded_eq inner]
    | _ => simp [Matcher.same, Matcher.folded]

lemma Matcher.sameAll_iff_foldedAll_eq (as bs : List Matcher) :
    Matcher.sameAll as bs = true ↔ Matcher.foldedAll as = Matcher.foldedAll bs := by
  match as with
  | [] => cases bs <;> simp [Matcher.sameAll, Matcher.foldedAll]
  | a :: as =>
    cases bs with
    | nil => simp [Matcher.sameAll, Matcher.foldedAll]
    | cons b bs =>
      simp [Matcher.sameAll, Matcher.foldedAll, Matcher.same_iff_folded_eq a,
        Matcher.sameAll_iff_foldedAll_eq as]

end

lemma Matcher.beq_iff_folded_eq (a b : Matcher) : (a == b) = true ↔ a.folded = b.folded :=
  Matcher.same_iff_folded_eq a b

lemma Matcher.beq_equivalence : Equivalence fun a b : Matcher => (a == b) = true := by
  simp only [Matcher.beq_iff_folded_eq]
  exact ⟨fun a => rfl, Eq.symm, Eq.trans⟩

lemma Matcher.foldedAll_eq_map (matchers : List Matcher) :
    Matcher.foldedAll matchers = matchers.map Matcher.folded := by
  induction matchers with
  | nil => rfl
  | cons matcher others ih => rw [Matcher.foldedAll, ih, List.map_cons]

/-! ### Verdicts -/

/-- All regular expressions in the matcher are what the library compiles from their sources. -/
inductive Matcher.Compiled : Matcher → Prop where
  | any : Compiled .any
  | exact (token : Token) : Compiled (.exact token)
  | shape (kind : Shape) : Compiled (.shape kind)
  | regex {expression : Regex} (h : Regex.compile? expression.source = some expression) :
      Compiled (.regex expression)
  | anyOf {members : List Matcher} (h : ∀ member ∈ members, Compiled member) :
      Compiled (.anyOf members)
  | not {inner : Matcher} (h : Compiled inner) : Compiled (.not inner)

/-- A matcher that is made from a source is compiled. -/
lemma Matcher.compiled_ofRegex? {source : String} {matcher : Matcher}
    (h : Matcher.ofRegex? source = some matcher) : matcher.Compiled := by
  obtain ⟨regex, hregex, rfl⟩ := Option.map_eq_some_iff.mp h
  refine .regex ?_
  rw [Regex.source_of_compile? hregex, hregex]

lemma Matcher.Compiled.acceptsValue_folded {matcher : Matcher} (h : matcher.Compiled)
    (value : String) : matcher.folded.acceptsValue value = matcher.acceptsValue value := by
  induction h with
  | any => rfl
  | exact token => exact token.alike_value_folded value
  | shape kind => rfl
  | @regex expression h =>
    simp [Matcher.folded, Matcher.acceptsValue, Regex.recompiled, h]
  | @anyOf members h ih =>
    rw [Matcher.folded, Matcher.foldedAll_eq_map, Matcher.acceptsValue_anyOf,
      Matcher.acceptsValue_anyOf, List.any_map, Bool.eq_iff_iff, List.any_eq_true,
      List.any_eq_true]
    apply exists_congr
    intro member
    exact and_congr_right fun hmember => by rw [Function.comp_apply, ih member hmember]
  | not h ih => rw [Matcher.folded, Matcher.acceptsValue, Matcher.acceptsValue, ih]

lemma Matcher.Compiled.accepts_eq_of_beq {a b : Matcher} (ha : a.Compiled) (hb : b.Compiled)
    (h : (a == b) = true) (token : Token) : a.accepts token = b.accepts token := by
  rw [Matcher.accepts, ← ha.acceptsValue_folded, (Matcher.beq_iff_folded_eq a b).mp h,
    hb.acceptsValue_folded, Matcher.accepts]

/-- The matchers of two lists, all of them compiled, that are equal one by one, come to the same
verdicts. -/
lemma Matcher.forall₂_accepts_eq {as bs : List Matcher} (has : ∀ a ∈ as, a.Compiled)
    (hbs : ∀ b ∈ bs, b.Compiled) (h : List.Forall₂ (fun a b => (a == b) = true) as bs) :
    List.Forall₂ (fun a b => ∀ token, a.accepts token = b.accepts token) as bs := by
  induction h with
  | nil => exact .nil
  | cons hab h ih =>
    rw [List.forall_mem_cons] at has hbs
    exact .cons (has.1.accepts_eq_of_beq hbs.1 hab) (ih has.2 hbs.2)

end

/-- Matchers with the same verdicts, one by one, end the same expressions. -/
lemma Roles.ofTokens_eq_of_accepts_eq (operators : Operators String) {stops stops' : List Matcher}
    (h : List.Forall₂ (fun a b : Matcher => ∀ token, a.accepts token = b.accepts token)
      stops stops') :
    Roles.ofTokens operators stops = Roles.ofTokens operators stops' := by
  have hstop (token : Token) :
      (stops.any fun stop => stop.accepts token) = stops'.any fun stop => stop.accepts token := by
    induction h with
    | nil => rfl
    | cons hstop h ih => rw [List.any_cons, List.any_cons, hstop, ih]
  simp only [Roles.ofTokens, hstop]

/-! ### Tables with equal matchers -/

variable {ρ : Type}

/-- The transitions differ in their matchers at most, and these are equal. -/
def Transition.Interchangeable (a b : Transition ρ) : Prop :=
  (a.matcher == b.matcher) = true ∧ a.next = b.next ∧ a.action = b.action

/-- State by state, the transitions of the tables are interchangeable one by one. -/
def Table.Interchangeable (a b : Table ρ) : Prop :=
  ∀ state, List.Forall₂ Transition.Interchangeable (a.transitions state) (b.transitions state)

/-- All regular expressions in the table are what the library compiles from their sources. -/
def Table.Compiled [Regex.Engine] (table : Table ρ) : Prop :=
  ∀ state, ∀ transition ∈ table.transitions state, transition.matcher.Compiled

/-- The transitions differ in their matchers at most, and these come to the same verdicts. -/
structure Transition.Agrees (a b : Transition ρ) : Prop where
  accepts : ∀ token, a.matcher.accepts token = b.matcher.accepts token
  next : a.next = b.next
  action : a.action = b.action

/-- State by state, the transitions of the tables agree one by one. -/
def Table.Agrees (a b : Table ρ) : Prop :=
  ∀ state, List.Forall₂ Transition.Agrees (a.transitions state) (b.transitions state)

lemma Transition.forall₂_agrees [Regex.Engine] {as bs : List (Transition ρ)}
    (has : ∀ a ∈ as, a.matcher.Compiled) (hbs : ∀ b ∈ bs, b.matcher.Compiled)
    (h : List.Forall₂ Transition.Interchangeable as bs) :
    List.Forall₂ Transition.Agrees as bs := by
  induction h with
  | nil => exact .nil
  | cons hab h ih =>
    rw [List.forall_mem_cons] at has hbs
    obtain ⟨hequal, hnext, haction⟩ := hab
    exact .cons ⟨has.1.accepts_eq_of_beq hbs.1 hequal, hnext, haction⟩ (ih has.2 hbs.2)

lemma Table.Interchangeable.agrees [Regex.Engine] {a b : Table ρ} (h : a.Interchangeable b)
    (ha : a.Compiled) (hb : b.Compiled) : a.Agrees b :=
  fun state => Transition.forall₂_agrees (ha state) (hb state) (h state)

lemma Transition.Agrees.perform_eq {a b : Transition ρ} (h : a.Agrees b)
    (value : String) (result : ρ) (cursor : Cursor) :
    a.perform value result cursor = b.perform value result cursor := by
  simp only [Transition.perform, h.action]

lemma Transition.Agrees.nextState?_eq {a b : Transition ρ} (h : a.Agrees b) :
    a.nextState? = b.nextState? := by
  simp only [Transition.nextState?, h.next]

/-- Of lists with transitions that agree, the first ones to accept a token stand at the same
place. -/
lemma Transition.Agrees.find? {as bs : List (Transition ρ)}
    (h : List.Forall₂ Transition.Agrees as bs) (token : Token) (start : Nat) :
    Option.Rel (fun a b => a.1.Agrees b.1 ∧ a.2 = b.2)
      ((as.zipIdx start).find? fun (transition, _) => transition.matcher.accepts token)
      ((bs.zipIdx start).find? fun (transition, _) => transition.matcher.accepts token) := by
  induction h generalizing start with
  | nil => exact .none
  | @cons a b as bs hab h ih =>
    simp only [List.zipIdx_cons, List.find?_cons, hab.accepts]
    cases b.matcher.accepts token with
    | true => exact .some ⟨hab, rfl⟩
    | false => exact ih (start + 1)

lemma Table.Agrees.select? {a b : Table ρ} (h : a.Agrees b) (state : Nat) (token : Token) :
    Option.Rel (fun a b => a.1.Agrees b.1 ∧ a.2 = b.2) (a.select? state token)
      (b.select? state token) :=
  Transition.Agrees.find? (h state) token 0

/-! ### Runs of such tables -/

/-- A transition that was taken, without the label of its matcher. -/
def Step.unlabelled (step : Step) : Step :=
  { step with label := "" }

/-- A run, without the labels of the matchers. -/
def Run.unlabelled (run : Run ρ) : Run ρ :=
  { run with steps := run.steps.map Step.unlabelled }

lemma Run.map_unlabelled_prepend (run? : Option (Run ρ)) (steps : List Step) :
    (run?.map fun run => { run with steps := steps ++ run.steps }).map Run.unlabelled =
      (run?.map Run.unlabelled).map fun run =>
        { run with steps := steps.map Step.unlabelled ++ run.steps } := by
  cases run? with
  | none => rfl
  | some run => simp [Run.unlabelled]

lemma Machine.move_agrees (machine : Machine ρ) {table : Table ρ}
    (h : machine.table.Agrees table) (state : Nat) (result : ρ) (token : Token)
    (cursor : Cursor) :
    let move := machine.move state result token cursor
    let move' := { machine with table }.move state result token cursor
    move.outcome = move'.outcome ∧ move.cursor = move'.cursor ∧
      move.step?.map Step.unlabelled = move'.step?.map Step.unlabelled := by
  have hselect := h.select? state token
  simp only [Machine.move]
  generalize machine.table.select? state token = selected, table.select? state token = selected'
    at hselect
  cases hselect with
  | none => simp
  | @some selected selected' hsome =>
    obtain ⟨transition, index⟩ := selected
    obtain ⟨transition', index'⟩ := selected'
    obtain ⟨hsame, rfl⟩ := hsome
    simp only [hsame.nextState?_eq, hsame.perform_eq]
    cases transition'.nextState? with
    | none => simp
    | some next => simp [Step.unlabelled]

lemma Machine.runFrom_agrees (machine : Machine ρ) {table : Table ρ}
    (h : machine.table.Agrees table) (budget state : Nat) (result : ρ)
    (cursor : Cursor) :
    (machine.runFrom budget state result cursor).map Run.unlabelled =
      ({ machine with table }.runFrom budget state result cursor).map Run.unlabelled := by
  induction budget generalizing state result cursor with
  | zero =>
    rw [Machine.runFrom, Machine.runFrom]
  | succ budget ih =>
    rw [Machine.runFrom, Machine.runFrom]
    cases cursor.next? with
    | none => rfl
    | some taken =>
      obtain ⟨token, after⟩ := taken
      -- the moves differ in the label of their step at most
      obtain ⟨houtcome, hcursor, hstep⟩ := machine.move_agrees h state result token after
      have hsteps := congrArg Option.toList hstep
      simp only [Option.toList_map] at hsteps
      simp only [houtcome, hcursor]
      cases (Machine.move { machine with table } state result token after).outcome with
      | error failure => simp [Run.unlabelled, hsteps]
      | ok reached =>
        obtain ⟨next, further⟩ := reached
        have hterminal :
            Machine.isTerminal { machine with table } next = machine.isTerminal next := rfl
        simp only [hterminal]
        split
        · simp [Run.unlabelled, hsteps]
        · rw [Run.map_unlabelled_prepend, Run.map_unlabelled_prepend, hsteps, ih]

/-- Lists that declare interchangeable transitions make interchangeable tables. -/
lemma Table.Interchangeable.ofList {entries entries' : List (Nat × Transition ρ)}
    (h : List.Forall₂ (fun a b => a.1 = b.1 ∧ a.2.Interchangeable b.2) entries entries') :
    (Table.ofList entries).Interchangeable (Table.ofList entries') := by
  intro state
  rw [Table.transitions_ofList, Table.transitions_ofList]
  induction h with
  | nil => exact .nil
  | cons hentry h ih =>
    obtain ⟨hstate, htransition⟩ := hentry
    rw [List.filter_cons, List.filter_cons, hstate]
    split
    · exact .cons htransition ih
    · exact ih

lemma Table.Compiled.ofList [Regex.Engine] {entries : List (Nat × Transition ρ)}
    (h : ∀ entry ∈ entries, entry.2.matcher.Compiled) : (Table.ofList entries).Compiled :=
  fun _ _ hmem => h _ (Table.mem_transitions_ofList hmem)

/-- Equality of matchers is an equivalence relation. Where all regular expressions are what one
library compiles from their sources, equal matchers accept the same tokens. So exchanging matchers
of a table for equal ones changes nothing about any run but the labels of the transitions that it
takes: the run ends in the same way, with the same result or failure and the same cursor, or it does
not end within the same budget. And exchanging the matchers that end an expression changes neither
the expression or the fault nor the cursor. -/
theorem Matcher.equality_is_interchangeability [Regex.Engine] :
    (Equivalence fun a b : Matcher => (a == b) = true) ∧
      (∀ a b : Matcher, a.Compiled → b.Compiled → (a == b) = true →
        ∀ token, a.accepts token = b.accepts token) ∧
      (∀ (ρ : Type) (machine : Machine ρ) (table : Table ρ),
        machine.table.Compiled → table.Compiled →
        machine.table.Interchangeable table → ∀ (budget : Nat) (cursor : Cursor),
          (machine.run? budget cursor).map Run.unlabelled =
            ({ machine with table }.run? budget cursor).map Run.unlabelled) ∧
      ∀ (operators : Operators String) (stops stops' : List Matcher),
        (∀ stop ∈ stops, stop.Compiled) → (∀ stop ∈ stops', stop.Compiled) →
        List.Forall₂ (fun a b => (a == b) = true) stops stops' → ∀ cursor : Cursor,
          cursor.readExpression operators stops = cursor.readExpression operators stops' := by
  refine ⟨Matcher.beq_equivalence, fun a b ha hb => ha.accepts_eq_of_beq hb, ?_, ?_⟩
  · intro ρ machine table hcompiled hcompiled' h budget cursor
    exact machine.runFrom_agrees (h.agrees hcompiled hcompiled') budget 0 machine.start cursor
  · intro operators stops stops' hstops hstops' h cursor
    have hverdicts := Matcher.forall₂_accepts_eq hstops hstops' h
    simp only [Cursor.readExpression, Roles.ofTokens_eq_of_accepts_eq operators hverdicts]

/-- Keywords in another case and a regular expression, below a union and a negation, make an equal
matcher with another label. A machine goes on to count, and an expression still ends, where they did
before. -/
theorem Matcher.equality_is_interchangeability_nested :
    ∃ pattern : Matcher, Matcher.ofRegex? "e+" = some pattern ∧
      let matcher : Matcher :=
        .not (.anyOf [.exact ⟨.keyword, "end"⟩, .shape .number, pattern])
      let matcher' : Matcher :=
        .not (.anyOf [.exact ⟨.keyword, "END"⟩, .shape .number, pattern])
      let count (matcher : Matcher) : Transition Nat :=
        { matcher, next := 0, action := some (.fold fun _ n => n + 1) }
      let machine : Machine Nat :=
        { lexer := {}, table := Table.ofList [(0, count matcher)], start := 0 }
      let machine' : Machine Nat := { machine with table := Table.ofList [(0, count matcher')] }
      let cursor : Cursor := { tokens := [⟨.identifier, "a"⟩, ⟨.identifier, "End"⟩] }
      matcher.Compiled ∧ matcher'.Compiled ∧ machine.table.Compiled ∧ machine'.table.Compiled ∧
        (matcher == matcher') = true ∧ matcher.label ≠ matcher'.label ∧
        matcher.accepts ⟨.identifier, "eND"⟩ = matcher'.accepts ⟨.identifier, "eND"⟩ ∧
        machine.table.Interchangeable machine'.table ∧
        (machine.run? 2 cursor).map Run.unlabelled = (machine'.run? 2 cursor).map Run.unlabelled ∧
        (machine.run? 2 cursor).map Run.ending = some (.failed (.noMatch "End" 0)) ∧
        cursor.readExpression .standard [.not matcher] =
          cursor.readExpression .standard [.not matcher'] ∧
        (cursor.readExpression .standard [.not matcher]).2.position = 1 := by
  refine ⟨(Matcher.ofRegex? "e+").get rfl, (Option.some_get _).symm, ?_⟩
  intro matcher matcher' count machine machine' cursor
  have hpattern : Matcher.Compiled ((Matcher.ofRegex? "e+").get rfl) :=
    Matcher.compiled_ofRegex? (Option.some_get _).symm
  have hnegated (token : Token) : Matcher.Compiled
      (.not (.anyOf [.exact token, .shape .number, (Matcher.ofRegex? "e+").get rfl])) := by
    refine .not (.anyOf ?_)
    simp only [List.forall_mem_cons]
    exact ⟨.exact token, .shape .number, hpattern, by simp⟩
  have hcompiled : matcher.Compiled := hnegated ⟨.keyword, "end"⟩
  have hcompiled' : matcher'.Compiled := hnegated ⟨.keyword, "END"⟩
  have htable : machine.table.Compiled := .ofList (by simpa [count] using hcompiled)
  have htable' : machine'.table.Compiled := .ofList (by simpa [count] using hcompiled')
  have hequal : (matcher == matcher') = true := by decide
  have hlabels : matcher.label ≠ matcher'.label := by decide
  have htables : machine.table.Interchangeable machine'.table :=
    .ofList (.cons ⟨rfl, hequal, rfl, rfl⟩ .nil)
  have hending : (machine.run? 2 cursor).map Run.ending = some (.failed (.noMatch "End" 0)) := rfl
  have hremaining : cursor.remaining = [⟨.identifier, "a"⟩, ⟨.identifier, "End"⟩] := rfl
  have hread : (cursor.readExpression .standard [.not matcher]).2.position = 1 := by
    rw [Cursor.readExpression_cons hremaining rfl]
    rfl
  obtain ⟨-, haccepts, hruns, hexpressions⟩ := Matcher.equality_is_interchangeability
  have hstops := hexpressions .standard [.not matcher] [.not matcher']
    (by simpa using hcompiled.not) (by simpa using hcompiled'.not) (.cons hequal .nil) cursor
  exact ⟨hcompiled, hcompiled', htable, htable', hequal, hlabels,
    haccepts matcher matcher' hcompiled hcompiled' hequal _, htables,
    hruns Nat machine machine'.table htable htable' htables 2 cursor, hending, hstops, hread⟩

end TableGrammar
