import SchemaBeans.Proofs.Text.CaseMap

/-!
# Text — letters under the case maps

Letters and numbers have small forms that are letters or numbers, one each (`exists_lower`); the
exception is `İ`, whose small form has a combining dot besides.

There are few letters that do not come back when they have been lowered (`oneWay`): raised again,
they become another letter, or several.  And there are small letters for which there is no capital
one, so that they are raised to a letter with marks above or below (`markedCapitals`).  The
classes and the maps are tables of ranges, so all this is found by comparing ranges with ranges.
-/

namespace SchemaBeans.Text

/-! ### Checks of a few characters

The characters are finite in number, so that a check could also run through all of them; these look
at the given ones only.
-/

section Checks

variable {P : Char → Prop} [DecidablePred P]

instance decidableForallMemList (cs : List Char) : Decidable (∀ c ∈ cs, P c) :=
  List.decidableBAll P cs

instance decidableForallMemOption (o : Option Char) : Decidable (∀ c ∈ o, P c) :=
  Option.decidableForallMem o

end Checks

/-- What holds of each character whose code is below a bound is found by the codes. -/
@[elab_as_elim]
theorem of_forall_code_lt {motive : Char → Prop} {bound : Nat} (c : Char) (hc : c.toNat < bound)
    (h : ∀ code < bound, motive (Char.ofNat code)) : motive c :=
  Char.ofNat_toNat c ▸ h c.toNat hc

/-! ### Ranges of a class -/

/-- The range as a shift that leaves its codes where they are. -/
def CharRange.toShift (r : CharRange) : CharShift := ⟨r.first, r.last, r.stride, r.first⟩

/-- A class is looked up like a table of shifts that move nothing. -/
theorem CharRange.covers_eq (ranges : List CharRange) (code : Nat) :
    covers ranges code = (CharShift.image? (ranges.map toShift) code).isSome := by
  induction ranges with
  | nil => rfl
  | cons r ranges ih =>
    rw [covers, List.map_cons, CharShift.image?, ih, toShift]
    dsimp only
    by_cases hfirst : code < r.first
    · rw [if_pos hfirst, if_pos hfirst]
      rfl
    by_cases hlast : code ≤ r.last
    · rw [if_neg hfirst, if_neg hfirst, if_pos hlast, if_pos hlast]
      cases (code - r.first) % r.stride == 0 <;> rfl
    · rw [if_neg hfirst, if_neg hfirst, if_neg hlast, if_neg hlast]

namespace CharShift

variable {s : CharShift} {ranges : List CharRange} {base k : Nat}

/-- A range of the class has all codes at offsets of `s` from `base`. -/
def within (ranges : List CharRange) (s : CharShift) (base : Nat) : Bool :=
  (s.target? base (ranges.map CharRange.toShift)).isSome

/-- The class has no code at an offset of `s` from `base`. -/
def outside (ranges : List CharRange) (s : CharShift) (base : Nat) : Bool :=
  s.misses base (ranges.map CharRange.toShift)

/-- All characters of such a range are in the class. -/
theorem covers_of_within (h : within ranges s base = true) (hk : s.IsOffset k) :
    CharRange.covers ranges (base + k) = true := by
  obtain ⟨image, himage⟩ := Option.isSome_iff_exists.mp h
  rw [CharRange.covers_eq, image?_of_target? himage hk]
  rfl

/-- No character of such a range is in the class. -/
theorem covers_of_outside (h : outside ranges s base = true) (hk : s.IsOffset k) :
    CharRange.covers ranges (base + k) = false := by
  rw [CharRange.covers_eq, image?_of_misses h hk]
  rfl

/-- What the shift leads to are letters or numbers, unless what it leads from are neither. -/
def leadsToWords (s : CharShift) : Bool :=
  isPlain [] s s.image && (within Table.letters s s.image || within Table.numbers s s.image ||
    (outside Table.letters s s.first && outside Table.numbers s s.first))

end CharShift

/-- A letter or a number is shifted to a letter or a number. -/
theorem isWordChar_of_leadsToWords {s : CharShift} {c : Char} {k : Nat}
    (h : s.leadsToWords = true) (hk : s.IsOffset k) (hcode : c.toNat = s.first + k)
    (hc : isWordChar c = true) : isWordChar (Char.ofNat (s.image + k)) = true := by
  simp only [CharShift.leadsToWords, Bool.or_eq_true, Bool.and_eq_true] at h
  obtain ⟨hplain, hwords⟩ := h
  have himage : (Char.ofNat (s.image + k)).toNat = s.image + k :=
    toNat_ofNat_of_isValidChar (isValidChar_of_isPlain hplain hk)
  rw [isWordChar, Bool.or_eq_true, isLetter, isNumber, himage]
  rcases hwords with (hletters | hnumbers) | ⟨hletters, hnumbers⟩
  · exact Or.inl (CharShift.covers_of_within hletters hk)
  · exact Or.inr (CharShift.covers_of_within hnumbers hk)
  · rw [isWordChar, isLetter, isNumber, hcode, CharShift.covers_of_outside hletters hk,
      CharShift.covers_of_outside hnumbers hk] at hc
    cases hc

/-! ### Classes without a common character -/

/-- The ranges have no code in common with the others.  Those that end before a range are dropped
with it, so both lists are gone through once. -/
def CharRange.apart : List CharRange → List CharRange → Bool
  | [], _ => true
  | r :: ranges, others =>
    let rest := others.dropWhile fun t => t.last < r.first
    CharShift.outside rest r.toShift r.first && apart ranges rest

theorem CharRange.covers_dropWhile {others : List CharRange} {first code : Nat}
    (hfirst : first ≤ code)
    (h : covers (others.dropWhile fun t => t.last < first) code = false) :
    covers others code = false := by
  induction others with
  | nil => rfl
  | cons t ts ih =>
    rw [List.dropWhile_cons] at h
    split at h
    · next hlast =>
      have hlast := of_decide_eq_true hlast
      rw [covers]
      split
      · rfl
      · rw [if_neg (by omega), ih h]
    · exact h

/-- A character of the one class is not in the other, if their ranges are apart. -/
theorem CharRange.covers_of_apart {ranges others : List CharRange} {code : Nat}
    (h : apart ranges others = true) (hcode : covers ranges code = true) :
    covers others code = false := by
  induction ranges generalizing others with
  | nil => cases hcode
  | cons r ranges ih =>
    obtain ⟨hr, hranges⟩ := (Bool.and_eq_true _ _).mp h
    rw [covers] at hcode
    split at hcode
    · cases hcode
    next hfirst =>
    refine covers_dropWhile (Nat.not_lt.mp hfirst) ?_
    split at hcode
    · next hlast =>
      rw [← Nat.add_sub_of_le (Nat.not_lt.mp hfirst)]
      exact CharShift.covers_of_outside hr ⟨Nat.sub_le_sub_right hlast _, eq_of_beq hcode⟩
    · exact ih hranges hcode

/-- Letters are no numbers, and small letters are no capital ones. -/
theorem classes_apart : CharRange.apart Table.letters Table.numbers = true ∧
    CharRange.apart Table.upperLetters Table.numbers = true ∧
    CharRange.apart Table.lowerLetters Table.numbers = true ∧
    CharRange.apart Table.lowerLetters Table.upperLetters = true := by decide +kernel

theorem isNumber_of_isLetter {c : Char} (h : isLetter c = true) : isNumber c = false :=
  CharRange.covers_of_apart classes_apart.1 h

theorem isNumber_of_isUpperLetter {c : Char} (h : isUpperLetter c = true) : isNumber c = false :=
  CharRange.covers_of_apart classes_apart.2.1 h

theorem isNumber_of_isLowerLetter {c : Char} (h : isLowerLetter c = true) : isNumber c = false :=
  CharRange.covers_of_apart classes_apart.2.2.1 h

theorem isUpperLetter_of_isLowerLetter {c : Char} (h : isLowerLetter c = true) :
    isUpperLetter c = false :=
  CharRange.covers_of_apart classes_apart.2.2.2 h

/-! ### Small letters -/

/-- Every character but `İ` has one small form, which is a letter or a number if the character
is. -/
theorem exists_lower {c : Char} (hc : c ≠ 'İ') :
    ∃ d, lower c = [d] ∧ (isWordChar c = true → isWordChar d = true) := by
  obtain ⟨image, hmem, h⟩ | ⟨s, hs, k, hk, hcode, h⟩ | h :=
    convert_cases Table.lowerExpansions Table.lowerShifts c
  · have htable : ∀ e ∈ Table.lowerExpansions, Char.ofNat e.1 = 'İ' := by decide +kernel
    refine absurd ?_ hc
    rw [← htable _ hmem, Char.ofNat_toNat]
  · have htable : Table.lowerShifts.all CharShift.leadsToWords = true := by decide +kernel
    exact ⟨_, h, isWordChar_of_leadsToWords (List.all_eq_true.mp htable s hs) hk hcode⟩
  · exact ⟨c, h, id⟩

/-! ### Letters that do not come back -/

/-- The characters that are raised to something else when they have been lowered before. -/
def oneWay : List Char := ['İ', 'ϴ', 'ẞ', '\u2126', '\u212a', '\u212b']

/-- What the shift leads to is raised as what it leads from: the table of capital letters moves the
one back and leaves the other, or each is found by itself. -/
def returns (s : CharShift) : Bool :=
  (isPlain Table.upperExpansions s s.image && isPlain Table.upperExpansions s s.first &&
      s.target? s.image Table.upperShifts == some s.first &&
      s.misses s.first Table.upperShifts) ||
    (List.range (s.last - s.first + 1)).all fun k => k % s.stride != 0 ||
      (upper (Char.ofNat (s.image + k)) == upper (Char.ofNat (s.first + k)) ||
        oneWay.contains (Char.ofNat (s.first + k)))

/-- Raised again, a lowered character is what it was raised, the exceptions aside. -/
theorem upper_of_returns {s : CharShift} {k : Nat} (h : returns s = true) (hk : s.IsOffset k)
    (hnot : Char.ofNat (s.first + k) ∉ oneWay) :
    upper (Char.ofNat (s.image + k)) = upper (Char.ofNat (s.first + k)) := by
  rcases (Bool.or_eq_true _ _).mp h with hrange | heach
  · simp only [Bool.and_eq_true] at hrange
    obtain ⟨⟨⟨himage, hfirst⟩, htarget⟩, hmisses⟩ := hrange
    rw [upper, upper, convert_of_isPlain himage hk, convert_of_isPlain hfirst hk,
      CharShift.image?_of_target? (eq_of_beq htarget) hk, CharShift.image?_of_misses hmisses hk]
    rfl
  · have hin := CharShift.of_all_range heach hk
    rw [Bool.or_eq_true, List.contains_iff_mem, or_iff_left hnot] at hin
    exact eq_of_beq hin

/-- A letter that has been lowered is raised to its own capital form, unless it is one of those that
do not come back. -/
theorem upperFirst_lower_iff (c : Char) : upperFirst (lower c) = upper c ↔ c ∉ oneWay := by
  refine ⟨fun h hmem => ?_, fun hnot => ?_⟩
  · have htable : ∀ c ∈ oneWay, upperFirst (lower c) ≠ upper c := by decide +kernel
    exact htable c hmem h
  obtain ⟨image, hmem, h⟩ | ⟨s, hs, k, hk, hcode, h⟩ | h :=
    convert_cases Table.lowerExpansions Table.lowerShifts c
  · have htable : ∀ e ∈ Table.lowerExpansions, Char.ofNat e.1 ∈ oneWay := by decide +kernel
    refine absurd ?_ hnot
    simpa using htable _ hmem
  · have htable : Table.lowerShifts.all returns = true := by decide +kernel
    obtain rfl : c = Char.ofNat (s.first + k) := by rw [← hcode, Char.ofNat_toNat]
    rw [lower, h, upperFirst, List.append_nil,
      upper_of_returns (List.all_eq_true.mp htable s hs) hk hnot]
  · rw [lower, h, upperFirst, List.append_nil]

/-! ### Letters that are raised to letters with marks -/

/-- The small letters that are raised to a letter and combining marks: Latin letters with a caron,
a line, a diaeresis or a ring, and Greek ones with breathings and accents. -/
def markedCapitals : List Char :=
  [0x1f0, 0x390, 0x3b0, 0x1e96, 0x1e97, 0x1e98, 0x1e99, 0x1f50, 0x1f52, 0x1f54, 0x1f56, 0x1fb6,
    0x1fb7, 0x1fc6, 0x1fc7, 0x1fd2, 0x1fd3, 0x1fd6, 0x1fd7, 0x1fe2, 0x1fe3, 0x1fe4, 0x1fe6,
    0x1fe7, 0x1ff6, 0x1ff7].map Char.ofNat

/-- A letter or a number is raised to letters and numbers, unless its capital form has marks. -/
theorem forall_mem_upper_iff {c : Char} (hc : isWordChar c = true) :
    (∀ d ∈ upper c, isWordChar d = true) ↔ c ∉ markedCapitals := by
  refine ⟨fun h hmem => ?_, fun hnot => ?_⟩
  · have htable : ∀ c ∈ markedCapitals, (upper c).any (!isWordChar ·) = true := by decide +kernel
    obtain ⟨d, hd, hmark⟩ := List.any_eq_true.mp (htable c hmem)
    rw [h d hd] at hmark
    cases hmark
  obtain ⟨image, hmem, h⟩ | ⟨s, hs, k, hk, hcode, h⟩ | h :=
    convert_cases Table.upperExpansions Table.upperShifts c
  · have htable : Table.upperExpansions.all (fun e => markedCapitals.contains (Char.ofNat e.1) ||
        (e.2.map Char.ofNat).all isWordChar) = true := by decide +kernel
    have hin := List.all_eq_true.mp htable _ hmem
    rw [Char.ofNat_toNat, Bool.or_eq_true, List.contains_iff_mem, or_iff_right hnot] at hin
    rw [upper, h]
    exact List.all_eq_true.mp hin
  · have htable : Table.upperShifts.all CharShift.leadsToWords = true := by decide +kernel
    rw [upper, h, List.forall_mem_singleton]
    exact isWordChar_of_leadsToWords (List.all_eq_true.mp htable s hs) hk hcode hc
  · rw [upper, h, List.forall_mem_singleton]
    exact hc

end SchemaBeans.Text
