/-!
Regular expressions that a whole token has to match.

Patterns are compiled and searched for by a library. The text of a pattern is put between anchors
and the whole is compiled; whatever the text does to the parentheses around it is part of what it
means.
-/

namespace TableGrammar

/-- A library of regular expressions. -/
class Regex.Engine where
  /-- Compiled patterns. -/
  Program : Type
  /-- Compiles a pattern; nothing if it is malformed or too large. -/
  compile? : String → Option Program
  /-- Does the pattern match anywhere in the text? -/
  occursIn : Program → String → Bool

/-- A compiled regular expression: the text it was compiled from, and its verdict on every text. -/
structure Regex where
  source : String
  accepts : String → Bool

namespace Regex

/-- The text of a pattern between anchors at both ends. -/
def anchored (source : String) : String :=
  "^(?:" ++ source ++ ")$"

variable [Engine]

/-- Compiles a pattern between anchors; nothing if the library refuses it. -/
def compile? (source : String) : Option Regex :=
  (Engine.compile? (anchored source)).map fun program =>
    { source, accepts := Engine.occursIn program }

theorem source_of_compile? {source : String} {regex : Regex} (h : compile? source = some regex) :
    regex.source = source := by
  obtain ⟨program, -, rfl⟩ := Option.map_eq_some_iff.mp h
  rfl

/-- What is documented of a library, for what it takes to be a match: `Matches program text i j` if
the text has a match of the pattern from position `i` to position `j`. -/
structure Documented (Matches : Engine.Program → String → Nat → Nat → Prop) : Prop where
  /-- A pattern occurs in a text if the text has a match of it somewhere. -/
  search : ∀ program text,
    Engine.occursIn program text = true ↔ ∃ i ≤ text.length, ∃ j, Matches program text i j
  /-- A pattern that stands in a group between two anchors matches where it matches by itself from
  the start of the text to its end. -/
  anchors : ∀ source inner whole, Engine.compile? source = some inner →
    Engine.compile? (anchored source) = some whole → ∀ text i j,
      Matches whole text i j ↔ i = 0 ∧ j = text.length ∧ Matches inner text i j

/-- An expression whose source compiles by itself accepts the texts that a match of the source
spans. -/
theorem accepts_iff_of_documented {Matches : Engine.Program → String → Nat → Nat → Prop}
    (documented : Documented Matches) {source : String} {regex : Regex} {inner : Engine.Program}
    (h : compile? source = some regex) (hinner : Engine.compile? source = some inner)
    (text : String) : regex.accepts text = true ↔ Matches inner text 0 text.length := by
  obtain ⟨whole, hwhole, rfl⟩ := Option.map_eq_some_iff.mp h
  rw [documented.search]
  constructor
  · rintro ⟨i, -, j, hmatch⟩
    obtain ⟨rfl, rfl, hspans⟩ := (documented.anchors source inner whole hinner hwhole text i j).mp
      hmatch
    exact hspans
  · intro hspans
    exact ⟨0, Nat.zero_le _, _,
      (documented.anchors source inner whole hinner hwhole text 0 text.length).mpr
        ⟨rfl, rfl, hspans⟩⟩

end Regex

end TableGrammar
