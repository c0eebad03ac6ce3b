import Mathlib
import SchemaBeans.Proofs.Text.Letters

/-!
# Text — ASCII

In ASCII the classes of characters are the well-known ones of letters and digits, what separates
words is the same for all that looks for it, and each character has one small form and one capital
form (`isTabled_of_lt`).  A text is lowered and raised character by character, without regard to
their neighbours (`lowercase_eq_map`, `uppercase_eq_map`).
-/

namespace SchemaBeans.Text

/-- The text is in ASCII. -/
def IsAscii (cs : List Char) : Prop := ∀ c ∈ cs, c.toNat < 128

instance (cs : List Char) : Decidable (IsAscii cs) := inferInstanceAs (Decidable (∀ c ∈ cs, _))

variable {c : Char} {cs : List Char}

/-! ### Letters and digits -/

/-- Letters and digits are in ASCII. -/
theorem lt_of_isAlphanum (h : c.isAlphanum = true) : c.toNat < 128 := by
  have hz : 'z'.val.toNat = 122 := rfl
  have hZ : 'Z'.val.toNat = 90 := rfl
  have hnine : '9'.val.toNat = 57 := rfl
  simp only [Char.isAlphanum, Char.isAlpha, Char.isUpper, Char.isLower, Char.isDigit,
    Bool.or_eq_true, Bool.and_eq_true, decide_eq_true_eq, UInt32.le_iff_toNat_le] at h
  rw [Char.toNat]
  omega

/-- A character is a letter or a digit if its small form is. -/
@[simp] theorem isAlphanum_toLower (c : Char) : c.toLower.isAlphanum = c.isAlphanum := by
  by_cases h : c.isUpper = true
  · rw [Char.isAlphanum, Char.isAlphanum, Char.isAlpha_toLower_eq_isAlpha, Char.isAlpha, h]
    rfl
  · rw [Char.toLower_eq_of_not_isUpper h]

/-! ### Characters -/

/-- What the tables say of a character is what is known of it in ASCII. -/
structure IsTabled (c : Char) : Prop where
  isLetter : isLetter c = c.isAlpha
  isNumber : isNumber c = c.isDigit
  isLowerLetter : isLowerLetter c = c.isLower
  isUpperLetter : isUpperLetter c = c.isUpper
  isAlphanumeric : isAlphanumeric c = c.isAlphanum
  lower : lower c = [c.toLower]
  upper : upper c = [c.toUpper]
  isDigit : c.toLower.isDigit = c.isDigit ∧ c.toUpper.isDigit = c.isDigit
  lt : c.toLower.toNat < 128 ∧ c.toUpper.toNat < 128

instance (c : Char) : Decidable (IsTabled c) :=
  decidable_of_iff
    (Text.isLetter c = c.isAlpha ∧ Text.isNumber c = c.isDigit ∧
      Text.isLowerLetter c = c.isLower ∧ Text.isUpperLetter c = c.isUpper ∧
      Text.isAlphanumeric c = c.isAlphanum ∧ Text.lower c = [c.toLower] ∧
      Text.upper c = [c.toUpper] ∧
      (c.toLower.isDigit = c.isDigit ∧ c.toUpper.isDigit = c.isDigit) ∧
      (c.toLower.toNat < 128 ∧ c.toUpper.toNat < 128))
    ⟨fun ⟨h₁, h₂, h₃, h₄, h₅, h₆, h₇, h₈, h₉⟩ => ⟨h₁, h₂, h₃, h₄, h₅, h₆, h₇, h₈, h₉⟩,
      fun ⟨h₁, h₂, h₃, h₄, h₅, h₆, h₇, h₈, h₉⟩ => ⟨h₁, h₂, h₃, h₄, h₅, h₆, h₇, h₈, h₉⟩⟩

section Characters

variable (h : c.toNat < 128)
include h

/-- **ASCII.**  The tables say of each of its characters what is known of it; there are so few that
each is looked up. -/
theorem isTabled_of_lt : IsTabled c := by
  refine of_forall_code_lt c h ?_
  decide +kernel

/-- The letters are those from A to Z, large and small. -/
theorem isLetter_eq_isAlpha : isLetter c = c.isAlpha := (isTabled_of_lt h).isLetter

theorem isNumber_eq_isDigit : isNumber c = c.isDigit := (isTabled_of_lt h).isNumber

/-- What a word is made of are letters and digits. -/
theorem isWordChar_eq_isAlphanum : isWordChar c = c.isAlphanum := by
  rw [isWordChar, isLetter_eq_isAlpha h, isNumber_eq_isDigit h, Char.isAlphanum]

theorem toLower_lt : c.toLower.toNat < 128 := (isTabled_of_lt h).lt.1

theorem toUpper_lt : c.toUpper.toNat < 128 := (isTabled_of_lt h).lt.2

theorem isLetter_toLower : isLetter c.toLower = isLetter c := by
  rw [isLetter_eq_isAlpha (toLower_lt h), isLetter_eq_isAlpha h, Char.isAlpha_toLower_eq_isAlpha]

theorem isLetter_toUpper : isLetter c.toUpper = isLetter c := by
  rw [isLetter_eq_isAlpha (toUpper_lt h), isLetter_eq_isAlpha h, Char.isAlpha_toUpper_eq_isAlpha]

theorem isNumber_toLower : isNumber c.toLower = isNumber c := by
  rw [isNumber_eq_isDigit (toLower_lt h), isNumber_eq_isDigit h, (isTabled_of_lt h).isDigit.1]

theorem isNumber_toUpper : isNumber c.toUpper = isNumber c := by
  rw [isNumber_eq_isDigit (toUpper_lt h), isNumber_eq_isDigit h, (isTabled_of_lt h).isDigit.2]

end Characters

/-! ### Texts -/

namespace IsAscii

theorem of_isAlphanum (h : ∀ c ∈ cs, c.isAlphanum = true) : IsAscii cs :=
  fun c hc => lt_of_isAlphanum (h c hc)

theorem map_toLower (h : IsAscii cs) : IsAscii (cs.map Char.toLower) := by
  intro d hd
  obtain ⟨c, hc, rfl⟩ := List.mem_map.mp hd
  exact toLower_lt (h c hc)

theorem map_toUpper (h : IsAscii cs) : IsAscii (cs.map Char.toUpper) := by
  intro d hd
  obtain ⟨c, hc, rfl⟩ := List.mem_map.mp hd
  exact toUpper_lt (h c hc)

end IsAscii

theorem filter_isWordChar (h : IsAscii cs) : cs.filter isWordChar = cs.filter Char.isAlphanum :=
  List.filter_congr fun c hc => isWordChar_eq_isAlphanum (h c hc)

/-- There is no sigma in ASCII, so each character is lowered by itself. -/
theorem lowerFrom_eq_map (h : IsAscii cs) (afterCased : Bool) :
    lowerFrom afterCased cs = cs.map Char.toLower := by
  induction cs generalizing afterCased with
  | nil => rfl
  | cons c cs ih =>
    obtain ⟨hc, hcs⟩ := List.forall_mem_cons.mp h
    have hsigma : c ≠ 'Σ' := by
      rintro rfl
      exact absurd hc (by decide)
    rw [lowerFrom, if_neg hsigma, ih hcs, (isTabled_of_lt hc).lower, List.map_cons,
      List.singleton_append]

/-- A text is lowered character by character. -/
theorem lowercase_eq_map (h : IsAscii cs) : lowercase cs = cs.map Char.toLower :=
  lowerFrom_eq_map h false

/-- A text is raised character by character. -/
theorem uppercase_eq_map (h : IsAscii cs) : uppercase cs = cs.map Char.toUpper := by
  rw [uppercase, List.flatMap_congr fun c hc => (isTabled_of_lt (h c hc)).upper]
  exact List.flatMap_pure_eq_map Char.toUpper cs

end SchemaBeans.Text
