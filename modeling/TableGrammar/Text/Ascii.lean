/-!
Texts compared without regard to the case of ASCII letters.

Keywords, operators and exact matchers ignore case, but only the case of the letters `a` to `z`:
every other character stands for itself.
-/

namespace TableGrammar

/-- Upper-cases the ASCII letters of a text; every other character stays. -/
def Text.upper (text : String) : String :=
  String.ofList (text.toList.map Char.toUpper)

/-- Lower-cases the ASCII letters of a text; every other character stays. -/
def Text.lower (text : String) : String :=
  String.ofList (text.toList.map Char.toLower)

/-- Equality of characters up to the case of ASCII letters. -/
def Text.alikeChar (a b : Char) : Bool :=
  a.toLower == b.toLower

/-- Equality of character lists up to the case of ASCII letters. -/
def Text.alikeChars : List Char → List Char → Bool
  | [], [] => true
  | a :: as, b :: bs => Text.alikeChar a b && Text.alikeChars as bs
  | _, _ => false

/-- Equality of texts up to the case of ASCII letters. -/
def Text.alike (a b : String) : Bool :=
  Text.alikeChars a.toList b.toList

/-- Being alike is reflexive on character lists. -/
theorem Text.alikeChars_refl (cs : List Char) : Text.alikeChars cs cs = true := by
  induction cs with
  | nil => rfl
  | cons c cs ih => simp [Text.alikeChars, Text.alikeChar, ih]

/-- Being alike is symmetric on character lists. -/
theorem Text.alikeChars_comm (as bs : List Char) :
    Text.alikeChars as bs = Text.alikeChars bs as := by
  induction as generalizing bs with
  | nil => cases bs <;> rfl
  | cons a as ih =>
    cases bs with
    | nil => rfl
    | cons b bs =>
      have swap : Text.alikeChar a b = Text.alikeChar b a := by
        simp only [Text.alikeChar, BEq.comm]
      simp only [Text.alikeChars, swap, ih bs]

/-- A text is alike to itself. -/
@[simp]
theorem Text.alike_refl (text : String) : Text.alike text text = true :=
  Text.alikeChars_refl text.toList

/-- Being alike is symmetric. -/
theorem Text.alike_comm (a b : String) : Text.alike a b = Text.alike b a :=
  Text.alikeChars_comm a.toList b.toList

end TableGrammar
