import TableGrammar.Matcher
import TableGrammar.Proofs.Regex.Matching
import TableGrammar.Proofs.Regex.Pieces
import TableGrammar.Regex.Compile

/-!
# Patterns between anchors

A source is put between anchors as a text, not as a pattern. Where the source is a pattern by
itself, a library that does what is documented makes of the whole that pattern between anchors, and
a matcher accepts the values that a match of the source spans (`Matcher.ofRegex?_spans`). But a
source can also close the group around it and open another one; then it is no pattern by itself, and
what it means between anchors is not anchored.

The library to run with is such a library (`Regex.nodes_documented`). The text is read piece by
piece, and inside the group around a source each piece does what it does in the source alone, up to
the parenthesis that closes the group.
-/

namespace TableGrammar.Regex

/-- A pattern in a group between two anchors. -/
def Pattern.anchored (body : Pattern) : Pattern :=
  .cat (.cat (.assertion .lineStart) (.group (.flags []) body)) (.assertion .lineEnd)

/-! ### Reading inside a group -/

/-- The group that stands around a source between anchors. -/
def outerGroup : OpenGroup where
  kind := .flags []
  verbose := false
  items := [.assertion .lineStart]
  branches := []

/-- What has been read of a source, if it stands between anchors. -/
def Parsing.within (parsing : Parsing) : Parsing :=
  { parsing with groups := parsing.groups ++ [outerGroup] }

lemma Parsing.within_groups_ne_nil (parsing : Parsing) : parsing.within.groups ≠ [] := by
  simp [Parsing.within]

/-- Unless it ends the group around the source, a piece does the same inside of it. -/
lemma Parsing.add?_within (parsing : Parsing) (piece : Piece)
    (h : piece = .ending → parsing.groups ≠ []) :
    parsing.within.add? piece = (parsing.add? piece).map Parsing.within := by
  cases piece with
  | item | flags | opening | bar => rfl
  | named name =>
    by_cases hname : name ∈ parsing.names <;>
      simp [Parsing.add?, Parsing.within, hname, Parsing.openGroup]
  | ending =>
    obtain ⟨group, groups, hgroups⟩ := List.exists_cons_of_ne_nil (h rfl)
    simp only [Parsing.add?, Parsing.closeGroup?, Parsing.within, hgroups, List.cons_append]
    rfl
  | again least most =>
    unfold Parsing.add? Parsing.repeatLatest?
    dsimp only [Parsing.within]
    split <;> simp_all [Parsing.within]

lemma Parsing.readAll_within (fuel : Nat) (text : List Char) :
    Parsing.readAll (fuel + 2) {} ('^' :: '(' :: '?' :: ':' :: text) =
      Parsing.readAll fuel (Parsing.within {}) text := rfl

lemma skip_nil (verbose : Bool) : skip verbose [] = [] := by
  cases verbose <;> rfl

/-- A group that is open at the end of the text is an error. -/
lemma Parsing.readAll_nil (fuel : Nat) {parsing : Parsing} (h : parsing.groups ≠ []) :
    parsing.readAll fuel [] = none := by
  cases fuel with
  | zero => rfl
  | succ fuel => simp [Parsing.readAll_succ, skip_nil, h]

/-- Behind the closing parenthesis no group is closed. -/
lemma Parsing.readAll_dollar (fuel : Nat) {parsing : Parsing} (h : parsing.groups ≠ []) :
    parsing.readAll fuel ['$'] = none := by
  have hskip (verbose : Bool) : skip verbose ['$'] = ['$'] := by
    cases verbose <;> rfl
  cases fuel with
  | zero => rfl
  | succ fuel =>
    have hpushed : (parsing.push (.assertion .lineEnd)).groups ≠ [] := h
    rw [Parsing.readAll_succ, hskip]
    exact Parsing.readAll_nil fuel hpushed

lemma suffix_append_closing {text rest : List Char} (h : rest <:+ text ++ closing) :
    (∃ front, rest = front ++ closing) ∨ rest = ['$'] ∨ rest = [] := by
  rcases List.suffix_or_suffix_of_suffix h (List.suffix_append text closing) with h | ⟨front, rfl⟩
  · rcases List.suffix_cons_iff.mp h with rfl | h
    · exact .inl ⟨[], rfl⟩
    · rcases List.suffix_cons_iff.mp h with rfl | h
      · exact .inr (.inl rfl)
      · exact .inr (.inr (List.suffix_nil.mp h))
  · exact .inl ⟨front, rfl⟩

/-! ### Closing the group around a source -/

lemma readGroupPiece_ne_ending {text rest : List Char} :
    readGroupPiece text ≠ some (.ending, rest) := by
  intro h
  have hnamed {text : List Char} (h : readNamedPiece text = some (.ending, rest)) : False := by
    obtain ⟨name, -, heq⟩ := Option.map_eq_some_iff.mp h
    cases heq
  unfold readGroupPiece at h
  split at h
  case h_2 => cases h
  case h_1 =>
    unfold readSpecialPiece at h
    split at h
    case h_1 | h_2 => cases h
    case h_3 =>
      unfold readAnglePiece at h
      split at h
      case h_1 | h_2 => cases h
      case h_3 => exact hnamed h
    case h_4 => exact hnamed h
    case h_5 =>
      obtain ⟨flags, -, h⟩ := Option.bind_eq_some_iff.mp h
      obtain ⟨piece, hpiece, heq⟩ := Option.map_eq_some_iff.mp h
      cases heq
      unfold flagsPiece? at hpiece
      split_ifs at hpiece <;> cases hpiece

/-- Only a parenthesis is read as the end of a group. -/
lemma readPiece_ending {verbose : Bool} {text rest : List Char}
    (h : readPiece verbose text = some (.ending, rest)) : text = ')' :: rest := by
  unfold readPiece at h
  split at h
  case h_2 => exact absurd h readGroupPiece_ne_ending
  case h_3 =>
    cases h
    rfl
  case h_5 | h_9 | h_10 =>
    obtain ⟨read, -, heq⟩ := Option.map_eq_some_iff.mp h
    cases heq
  all_goals cases h

lemma Parsing.add?_ending_eq_none {parsing : Parsing} (h : parsing.groups = []) :
    parsing.add? .ending = none := by
  rw [Parsing.add?, Parsing.closeGroup?, h]

/-- What has been read when the group around a source is closed. -/
def Parsing.leave (parsing : Parsing) : Parsing where
  verbose := false
  names := parsing.names
  items := [.group (.flags []) parsing.body, .assertion .lineStart]
  branches := []
  groups := []

lemma Parsing.within_add?_ending {parsing : Parsing} (h : parsing.groups = []) :
    parsing.within.add? .ending = some parsing.leave := by
  simp only [Parsing.add?, Parsing.closeGroup?, Parsing.within, h, List.nil_append]
  rfl

lemma Parsing.readAll_leave {fuel : Nat} {parsing : Parsing} {pattern : Pattern}
    (h : parsing.leave.readAll fuel ['$'] = some pattern) : pattern = parsing.body.anchored := by
  match fuel with
  | 0 | 1 => cases h
  | fuel + 2 =>
    cases h
    rfl

/-- The group around a source is closed at the end of the source only: before that, the source by
itself would have a parenthesis too many. -/
lemma Parsing.readAll_within_ending {fuel fuel' : Nat} {parsing : Parsing} {text rest : List Char}
    {pattern body : Pattern} (hgroups : parsing.groups = [])
    (hpiece : skip parsing.verbose text ++ closing = ')' :: rest)
    (h : parsing.leave.readAll fuel rest = some pattern)
    (hbody : parsing.readAll fuel' text = some body) : pattern = body.anchored := by
  rcases Parsing.readAll_cases hbody with
    ⟨hskip, -, rfl⟩ | ⟨_, piece, left, next, -, halone, hadd, -⟩
  · rw [hskip] at hpiece
    cases hpiece
    exact Parsing.readAll_leave h
  · cases hskip : skip parsing.verbose text with
    | nil =>
      rw [hskip] at halone
      cases halone
    | cons c text =>
      rw [hskip] at hpiece halone
      cases hpiece
      cases halone
      rw [Parsing.add?_ending_eq_none hgroups] at hadd
      cases hadd

/-- Reading a source between anchors, from any state on: if the whole is a pattern and the source
is one by itself, then the whole is that pattern between anchors. -/
lemma Parsing.readAll_within_append {fuel fuel' : Nat} {parsing : Parsing} {text : List Char}
    {pattern body : Pattern} (h : parsing.within.readAll fuel (text ++ closing) = some pattern)
    (hbody : parsing.readAll fuel' text = some body) : pattern = body.anchored := by
  induction fuel generalizing fuel' parsing text with
  | zero => cases h
  | succ fuel ih =>
    rcases Parsing.readAll_cases h with
      ⟨-, hgroups, -⟩ | ⟨_, piece, rest, next, heq, hpiece, hadd, hlater⟩
    · exact absurd hgroups parsing.within_groups_ne_nil
    cases heq
    have hpiece' : readPiece parsing.verbose (skip parsing.verbose (text ++ closing)) =
        some (piece, rest) := hpiece
    rcases skip_append parsing.verbose text with hskip | ⟨hskip, -⟩
    · rw [hskip] at hpiece'
      -- the parenthesis that closes the group around the source is read where no other group is
      -- open
      by_cases hend : piece = .ending ∧ parsing.groups = []
      · obtain ⟨rfl, hgroups⟩ := hend
        rw [Parsing.within_add?_ending hgroups] at hadd
        cases hadd
        exact Parsing.readAll_within_ending hgroups (readPiece_ending hpiece') hlater hbody
      · rw [parsing.add?_within piece fun hpiece hgroups => hend ⟨hpiece, hgroups⟩] at hadd
        obtain ⟨next, hnext, rfl⟩ := Option.map_eq_some_iff.mp hadd
        -- The group around the source is still open, so the parenthesis that closes it is left.
        rcases suffix_append_closing ((local_readPiece _).suffix hpiece') with
          ⟨front, rfl⟩ | rfl | rfl
        · have halone := (local_readPiece _).alone hpiece'
          cases fuel' with
          | zero => cases hbody
          | succ fuel' =>
            rw [Parsing.readAll_of_piece halone, hnext] at hbody
            exact ih hlater hbody
        · rw [Parsing.readAll_dollar fuel next.within_groups_ne_nil] at hlater
          cases hlater
        · rw [Parsing.readAll_nil fuel next.within_groups_ne_nil] at hlater
          cases hlater
    · rw [hskip] at hpiece'
      cases hpiece'

/-! ### Compiling a source between anchors -/

lemma Pattern.parse?_eq_some_iff {text : List Char} {pattern : Pattern} :
    Pattern.parse? text = some pattern ↔
      Parsing.readAll (text.length + 1) {} text = some pattern ∧
        pattern.height .none ≤ maxHeight := by
  simp [Pattern.parse?, Option.bind_eq_some_iff]

lemma Node.compile?_eq_some_iff {text : List Char} {node : Node} :
    Node.compile? text = some node ↔
      ∃ pattern flags, Pattern.parse? text = some pattern ∧
        pattern.node? {} = some (node, flags) ∧ node.cost ≤ maxCost := by
  simp [Node.compile?, Option.bind_eq_some_iff]

/-- A pattern between anchors means its body between the ends of the text. -/
lemma Pattern.node?_anchored {body : Pattern} {node : Node} {flags : Flags}
    (h : body.anchored.node? {} = some (node, flags)) :
    ∃ inner after, body.node? {} = some (inner, after) ∧
      node = .cat (.cat (.look .textStart) inner) (.look .textEnd) := by
  have hflags : Flags.apply {} [] = {} := rfl
  cases hbody : body.node? {} with
  | none => simp [Pattern.anchored, Pattern.node?, hflags, hbody] at h
  | some p =>
    simp only [Pattern.anchored, Pattern.node?, hflags, hbody, Option.bind_eq_bind,
      Option.bind_some, Option.pure_def, Option.some.injEq, Prod.mk.injEq] at h
    exact ⟨p.1, p.2, rfl, h.1.symm⟩

/-- If a source is a pattern both between anchors and by itself, then the whole is that pattern
between anchors. -/
lemma Pattern.parse?_anchored {source : String} {pattern body : Pattern}
    (h : Pattern.parse? (Regex.anchored source).toList = some pattern)
    (hbody : Pattern.parse? source.toList = some body) : pattern = body.anchored := by
  have hread := (Pattern.parse?_eq_some_iff.mp h).1
  have htext : (Regex.anchored source).toList =
      '^' :: '(' :: '?' :: ':' :: (source.toList ++ closing) := by
    simp [Regex.anchored, closing]
  rw [htext] at hread
  have hwithin : (Parsing.within {}).readAll (source.toList.length + 5) (source.toList ++ closing) =
      some pattern := by
    rw [← Parsing.readAll_within, ← hread]
    simp [closing]
  exact Parsing.readAll_within_append hwithin (Pattern.parse?_eq_some_iff.mp hbody).1

/-- If a source compiles both between anchors and by itself, then the whole means what the source
means between the ends of the text. -/
lemma Node.compile?_anchored {source : String} {node inner : Node}
    (h : Node.compile? (Regex.anchored source).toList = some node)
    (hinner : Node.compile? source.toList = some inner) :
    node = .cat (.cat (.look .textStart) inner) (.look .textEnd) := by
  obtain ⟨pattern, flags, hparse, hnode, -⟩ := Node.compile?_eq_some_iff.mp h
  obtain ⟨body, after, hbody, hbodyNode, -⟩ := Node.compile?_eq_some_iff.mp hinner
  obtain rfl := Pattern.parse?_anchored hparse hbody
  obtain ⟨node, after, hbodyNode', rfl⟩ := Pattern.node?_anchored hnode
  cases hbodyNode.symm.trans hbodyNode'
  rfl

end TableGrammar.Regex

namespace TableGrammar

lemma Text.size_toArray_toList (text : String) : text.toList.toArray.size = text.length := by
  rw [List.size_toArray, String.length_toList]

/-- The library to run with does what is documented, where a match is a match of the node. -/
theorem Regex.nodes_documented :
    Regex.Documented fun (node : Regex.Node) text => node.Matches text.toList.toArray where
  search node text := by
    rw [← Text.size_toArray_toList text]
    exact node.occursIn_iff text.toList.toArray
  anchors source inner whole hinner hwhole text i j := by
    rw [← Text.size_toArray_toList text, Regex.Node.compile?_anchored hwhole hinner]
    exact Regex.Node.matches_anchored_iff text.toList.toArray inner i j

/-- A matcher for a source that compiles by itself accepts a token exactly if a match of the source
spans its value. -/
theorem Matcher.ofRegex?_spans [Regex.Engine]
    {Matches : Regex.Engine.Program → String → Nat → Nat → Prop}
    (documented : Regex.Documented Matches) {source : String} {matcher : Matcher}
    {inner : Regex.Engine.Program} (h : Matcher.ofRegex? source = some matcher)
    (hinner : Regex.Engine.compile? source = some inner) (token : Token) :
    matcher.accepts token = true ↔ Matches inner token.value 0 token.value.length := by
  obtain ⟨regex, hregex, rfl⟩ := Option.map_eq_some_iff.mp h
  exact Regex.accepts_iff_of_documented documented hregex hinner token.value

/-- A source that closes the group around it and opens another one is no pattern by itself. Each of
its two branches is anchored at one end only. -/
example :
    (Regex.Node.compile? "a)|(?:b".toList).isNone = true ∧
      (Matcher.ofRegex? "a)|(?:b").map (fun matcher =>
        ["a", "ax", "xb", "xax"].map fun value => matcher.accepts ⟨.identifier, value⟩) =
          some [true, true, true, false] := by
  decide

end TableGrammar
