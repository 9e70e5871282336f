import Mathlib
import TableGrammar.Text.Ascii

/-!
# The case of letters

Upper case changes letters and nothing else. Texts are alike exactly if they have the same upper
case (`Text.alike_iff_upper_eq`). So whatever does not tell a text from its upper case does not tell
texts that are alike from each other.
-/

namespace TableGrammar

/-! ### Characters -/

lemma Text.toUpper_of_not_isAlpha {c : Char} (h : c.isAlpha = false) : c.toUpper = c := by
  rw [Char.isAlpha, Bool.or_eq_false_iff] at h
  exact Char.toUpper_eq_of_not_isLower (by simp [h.2])

/-- A character that is no letter is the upper case of itself only. -/
lemma Text.toUpper_eq_iff {c d : Char} (hd : d.isAlpha = false) : c.toUpper = d ↔ c = d := by
  constructor
  · rintro rfl
    rw [Char.isAlpha_toUpper_eq_isAlpha] at hd
    exact (Text.toUpper_of_not_isAlpha hd).symm
  · rintro rfl
    exact Text.toUpper_of_not_isAlpha hd

lemma Text.isAlpha_of_isDigit {c : Char} (h : c.isDigit = true) : c.isAlpha = false := by
  simp only [Char.isDigit, Bool.and_eq_true, decide_eq_true_eq] at h
  have hhi : c.toNat ≤ 57 := h.2
  simp [Char.isAlpha, Char.isUpper, Char.isLower, UInt32.le_iff_toNat_le]
  omega

lemma Text.isDigit_of_isAlpha {c : Char} (h : c.isAlpha = true) : c.isDigit = false := by
  by_contra hdigit
  rw [Text.isAlpha_of_isDigit (by simpa using hdigit)] at h
  cases h

lemma Text.isDigit_toUpper (c : Char) : c.toUpper.isDigit = c.isDigit := by
  cases halpha : c.isAlpha with
  | true =>
    rw [Text.isDigit_of_isAlpha halpha,
      Text.isDigit_of_isAlpha (by rwa [Char.isAlpha_toUpper_eq_isAlpha])]
  | false => rw [Text.toUpper_of_not_isAlpha halpha]

lemma Text.alikeChar_iff {a b : Char} :
    Text.alikeChar a b = true ↔ a.toUpper = b.toUpper := by
  rw [Text.alikeChar, beq_iff_eq]
  constructor
  · intro hlower
    rw [← Char.toUpper_toLower_eq_toUpper a, hlower, Char.toUpper_toLower_eq_toUpper]
  · intro hupper
    rw [← Char.toLower_toUpper_eq_toLower a, hupper, Char.toLower_toUpper_eq_toLower]

/-! ### Texts -/

lemma Text.alikeChars_iff {as bs : List Char} :
    Text.alikeChars as bs = true ↔ as.map Char.toUpper = bs.map Char.toUpper := by
  induction as generalizing bs with
  | nil => cases bs <;> simp [Text.alikeChars]
  | cons a as ih =>
    cases bs with
    | nil => simp [Text.alikeChars]
    | cons b bs =>
      rw [Text.alikeChars, Bool.and_eq_true, Text.alikeChar_iff, ih, List.map_cons, List.map_cons,
        List.cons.injEq]

/-- Texts are alike if they have the same upper case. -/
lemma Text.alike_iff_upper_eq {a b : String} :
    Text.alike a b = true ↔ Text.upper a = Text.upper b := by
  rw [Text.alike, Text.alikeChars_iff, Text.upper, Text.upper, String.ofList_inj]

@[simp] lemma Text.toList_upper (text : String) :
    (Text.upper text).toList = text.toList.map Char.toUpper :=
  String.toList_ofList

@[simp] lemma Text.upper_upper (text : String) :
    Text.upper (Text.upper text) = Text.upper text := by
  simp [Text.upper, Function.comp_def]

/-- A text without letters is the upper case of itself only. -/
lemma Text.upper_eq_iff {a b : String} (h : b.toList.any Char.isAlpha = false) :
    Text.upper a = b ↔ a = b := by
  rw [← String.toList_inj, ← String.toList_inj, Text.toList_upper]
  generalize a.toList = as, b.toList = bs at h ⊢
  induction as generalizing bs with
  | nil => rfl
  | cons a as ih =>
    cases bs with
    | nil => simp
    | cons b bs =>
      rw [List.any_cons, Bool.or_eq_false_iff] at h
      rw [List.map_cons, List.cons.injEq, List.cons.injEq, Text.toUpper_eq_iff h.1, ih bs h.2]

/-- A text without letters is like itself only. -/
lemma Text.alike_iff_eq {a b : String} (h : a.toList.any Char.isAlpha = false) :
    Text.alike a b = true ↔ b = a := by
  rw [Text.alike_iff_upper_eq, (Text.upper_eq_iff h).mpr rfl, eq_comm, Text.upper_eq_iff h]

lemma Text.alike_upper (a b : String) : Text.alike a (Text.upper b) = Text.alike a b := by
  rw [Bool.eq_iff_iff, Text.alike_iff_upper_eq, Text.alike_iff_upper_eq, Text.upper_upper]

end TableGrammar
