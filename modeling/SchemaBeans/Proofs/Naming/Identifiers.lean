import SchemaBeans.Proofs.Naming.Words
import SchemaBeans.Proofs.Text.Letters

/-!
# Naming — which names become identifiers

A name in camel case should be made of letters and numbers, begin with a small letter, and be the
name in Pascal case but for the case of that letter.  Neither conversion sees to it: the one that
looks for separators knows more letters than the one that cuts words, and a first character that has
no small form is left as it is.

For which names it comes out so is said by their characters (`IsNameable`, `isNameable_iff`).  Where
there are separators the two conversions always agree, and the words have to begin as they should;
where there are none, all that changes is the first character, which has to come back.  A name in
ASCII becomes an identifier exactly if the first of its letters and digits is a letter
(`isNameable_iff_of_ascii`).
-/

namespace SchemaBeans.Text

theorem upperFirst_append {cs : List Char} (h : cs ≠ []) (ds : List Char) :
    upperFirst (cs ++ ds) = upperFirst cs ++ ds := by
  obtain ⟨c, cs, rfl⟩ := List.exists_cons_of_ne_nil h
  exact (List.append_assoc _ _ _).symm

theorem isWordChar_of_isLetter {c : Char} (h : isLetter c = true) : isWordChar c = true := by
  rw [isWordChar, h, Bool.true_or]

theorem lower_ne_nil (c : Char) : lower c ≠ [] := convert_ne_nil (by decide) c

/-- A word in lower case begins with the small form of its first character. -/
theorem exists_lowercase_cons (c : Char) (cs : List Char) :
    ∃ afterCased, lowercase (c :: cs) = lower c ++ lowerFrom afterCased cs := by
  rw [lowercase, lowerFrom]
  split
  · next hc =>
    have hsigma : lower 'Σ' = ['σ'] := by decide
    exact ⟨_, by rw [hc, hsigma]; rfl⟩
  · exact ⟨_, rfl⟩

/-- Letters and numbers are lowered to letters and numbers, unless there is an `İ` among them. -/
theorem forall_mem_lowerFrom_iff {cs : List Char} (h : ∀ c ∈ cs, isWordChar c = true)
    (afterCased : Bool) :
    (∀ d ∈ lowerFrom afterCased cs, isWordChar d = true) ↔ 'İ' ∉ cs := by
  induction cs generalizing afterCased with
  | nil => simp [lowerFrom]
  | cons c cs ih =>
    obtain ⟨hc, hcs⟩ := List.forall_mem_cons.mp h
    rw [lowerFrom, List.mem_cons, not_or]
    split
    · next hsigma =>
      rw [List.forall_mem_cons, ih hcs]
      refine and_congr_left fun _ => iff_of_true ?_ ?_
      · split <;> decide
      · rw [hsigma]
        decide
    · rw [List.forall_mem_append, ih hcs]
      refine and_congr_left fun _ => ?_
      by_cases hdot : c = 'İ'
      · have hmark : ¬∀ d ∈ lower 'İ', isWordChar d = true := by decide
        rw [hdot]
        exact iff_of_false hmark fun hne => hne rfl
      · obtain ⟨d, hd, hword⟩ := exists_lower hdot
        rw [hd, List.forall_mem_singleton]
        exact iff_of_true (hword hc) (Ne.symm hdot)

end SchemaBeans.Text

namespace SchemaBeans.Naming

open SchemaBeans.Text

/-! ### Identifiers -/

/-- The text is made of letters and numbers and begins with a small letter. -/
structure IsIdentifier (cs : List Char) : Prop where
  letters : ∀ c ∈ cs, isWordChar c = true
  small : ∃ first rest, cs = first :: rest ∧ isLetter first = true ∧ isLowercase first = true

/-- The small form of the character is a small letter. -/
def HasSmallForm (c : Char) : Prop :=
  ∃ d, lower c = [d] ∧ isLetter d = true ∧ isLowercase d = true

theorem HasSmallForm.ne {c : Char} (h : HasSmallForm c) : c ≠ 'İ' := by
  have hlong : (lower 'İ').length ≠ 1 := by decide
  rintro rfl
  obtain ⟨d, hd, -⟩ := h
  exact hlong (by rw [hd]; rfl)

/-- A text that begins with what a character is lowered to is an identifier if that is a small
letter, and letters and numbers follow. -/
theorem isIdentifier_lower_append_iff (c : Char) (cs : List Char) :
    IsIdentifier (lower c ++ cs) ↔ HasSmallForm c ∧ ∀ d ∈ cs, isWordChar d = true := by
  by_cases hdot : c = 'İ'
  · have hmark : ¬∀ d ∈ lower 'İ', isWordChar d = true := by decide
    refine iff_of_false (fun h => hmark ?_) fun h => h.1.ne hdot
    rw [← hdot]
    exact (List.forall_mem_append.mp h.letters).1
  · obtain ⟨d, hd, -⟩ := exists_lower hdot
    rw [hd, List.singleton_append]
    refine ⟨?_, ?_⟩
    · rintro ⟨hletters, first, rest, hcons, hsmall⟩
      cases hcons
      exact ⟨⟨d, hd, hsmall⟩, (List.forall_mem_cons.mp hletters).2⟩
    · rintro ⟨⟨e, he, hletter, hlow⟩, hcs⟩
      obtain rfl : d = e := (List.cons.inj (hd.symm.trans he)).1
      exact ⟨List.forall_mem_cons.mpr ⟨isWordChar_of_isLetter hletter, hcs⟩, d, cs, rfl, hletter,
        hlow⟩

/-! ### Names -/

/-- Names whose form in camel case is an identifier, and agrees with that in Pascal case. -/
inductive IsNameable (cs : List Char) : Prop where
  /-- A name with separators: its first word begins with a character that has a small form, and no
  later one with a letter whose capital form has marks. -/
  | ofWords {c : Char} {word : List Char} {rest : List (List Char)}
      (hseparators : hasSeparators cs = true) (hwords : words cs = (c :: word) :: rest)
      (hfirst : HasSmallForm c) (hdot : 'İ' ∉ cs)
      (hrest : ∀ later ∈ rest, ∀ d ∈ (lowercase later).head?, d ∉ markedCapitals) : IsNameable cs
  /-- A name without separators: it begins with a character that has a small form and comes back,
  and letters and numbers follow. -/
  | whole {c : Char} {rest : List Char} (hseparators : hasSeparators cs = false)
      (hcons : cs = c :: rest) (hfirst : HasSmallForm c) (hback : c ∉ oneWay)
      (hrest : ∀ d ∈ rest, isWordChar d = true) : IsNameable cs

/-- Letters and numbers are capitalized to letters and numbers, unless there is an `İ` among them,
or the capital form of the first has marks. -/
theorem forall_mem_capitalize_iff {word : List Char} (hne : word ≠ [])
    (h : ∀ c ∈ word, isWordChar c = true) :
    (∀ d ∈ capitalize word, isWordChar d = true) ↔
      'İ' ∉ word ∧ ∀ d ∈ (lowercase word).head?, d ∉ markedCapitals := by
  obtain ⟨c, cs, rfl⟩ := List.exists_cons_of_ne_nil hne
  obtain ⟨hc, hcs⟩ := List.forall_mem_cons.mp h
  obtain ⟨afterCased, hlower⟩ := exists_lowercase_cons c cs
  rw [capitalize, hlower, upperFirst_append (lower_ne_nil c), List.forall_mem_append,
    forall_mem_lowerFrom_iff hcs, List.mem_cons, not_or]
  by_cases hdot : c = 'İ'
  · have hmark : ¬∀ d ∈ upperFirst (lower 'İ'), isWordChar d = true := by decide
    rw [hdot]
    exact iff_of_false (fun h => hmark h.1) fun h => h.1.1 rfl
  · obtain ⟨d, hd, hword⟩ := exists_lower hdot
    rw [hd, upperFirst, List.append_nil, forall_mem_upper_iff (hword hc), List.singleton_append,
      List.head?_cons]
    simp [Ne.symm hdot, and_comm]

theorem dot_mem_iff {cs : List Char} : 'İ' ∈ cs ↔ 'İ' ∈ (words cs).flatten := by
  have hletter : isWordChar 'İ' = true := by decide
  rw [flatten_words, List.mem_filter, and_iff_left hletter]

/-- With separators, the form in Pascal case is the one in camel case raised. -/
theorem pascalChars_of_hasSeparators {cs : List Char} (h : hasSeparators cs = true) :
    pascalChars cs = upperFirst (camelChars cs) := by
  rw [pascalChars, camelChars, if_pos h, if_pos h]
  cases hwords : words cs with
  | nil => rfl
  | cons word rest =>
    have hne := ne_nil_of_mem_words (hwords ▸ List.mem_cons_self)
    obtain ⟨c, cs', rfl⟩ := List.exists_cons_of_ne_nil hne
    obtain ⟨afterCased, hlower⟩ := exists_lowercase_cons c cs'
    have hlow : lowercase (c :: cs') ≠ [] := by
      rw [hlower]
      exact List.append_ne_nil_of_left_ne_nil (lower_ne_nil c) _
    rw [List.flatMap_cons, capitalize, upperFirst_append hlow]

/-- With separators, the form in camel case is an identifier if the words are as they should be. -/
theorem isIdentifier_camelChars_iff {cs : List Char} (h : hasSeparators cs = true) :
    IsIdentifier (camelChars cs) ↔ ∃ c word rest, words cs = (c :: word) :: rest ∧
      HasSmallForm c ∧ 'İ' ∉ cs ∧
        ∀ later ∈ rest, ∀ d ∈ (lowercase later).head?, d ∉ markedCapitals := by
  rw [camelChars, if_pos h]
  cases hwords : words cs with
  | nil =>
    refine iff_of_false ?_ (by simp)
    rintro ⟨-, first, rest, hcons, -⟩
    cases hcons
  | cons first rest =>
    have hmem : ∀ {word}, word ∈ first :: rest → word ∈ words cs := fun hword => hwords ▸ hword
    obtain ⟨c, word, rfl⟩ := List.exists_cons_of_ne_nil
      (ne_nil_of_mem_words (hmem List.mem_cons_self))
    obtain ⟨afterCased, hlower⟩ := exists_lowercase_cons c word
    have hword : ∀ d ∈ word, isWordChar d = true := fun d hd =>
      isWordChar_of_mem_words (hmem List.mem_cons_self) (List.mem_cons_of_mem _ hd)
    have hlater : (∀ d ∈ rest.flatMap capitalize, isWordChar d = true) ↔
        ∀ later ∈ rest, 'İ' ∉ later ∧ ∀ d ∈ (lowercase later).head?, d ∉ markedCapitals := by
      simp only [List.forall_mem_flatMap]
      refine forall₂_congr fun later hlater => ?_
      have hin := hmem (List.mem_cons_of_mem _ hlater)
      exact forall_mem_capitalize_iff (ne_nil_of_mem_words hin) fun d => isWordChar_of_mem_words hin
    have hdots : 'İ' ∉ cs ↔ 'İ' ≠ c ∧ 'İ' ∉ word ∧ ∀ later ∈ rest, 'İ' ∉ later := by
      rw [dot_mem_iff, hwords]
      simp [not_or]
    dsimp only
    rw [hlower, List.append_assoc, isIdentifier_lower_append_iff, List.forall_mem_append,
      forall_mem_lowerFrom_iff hword, hlater]
    refine ⟨?_, ?_⟩
    · rintro ⟨hfirst, hnot, hrest⟩
      refine ⟨c, word, rest, rfl, hfirst, hdots.mpr ⟨?_, hnot, fun later hl => (hrest later hl).1⟩,
        fun later hl => (hrest later hl).2⟩
      exact Ne.symm hfirst.ne
    · rintro ⟨_, _, _, hcons, hfirst, hnot, hrest⟩
      cases hcons
      obtain ⟨-, hword, hothers⟩ := hdots.mp hnot
      exact ⟨hfirst, hword, fun later hl => ⟨hothers later hl, hrest later hl⟩⟩

/-- **Identifiers.**  The names whose form in camel case is an identifier, and is the form in Pascal
case when its first letter is raised, are the nameable ones. -/
theorem isNameable_iff {cs : List Char} : IsNameable cs ↔
    IsIdentifier (camelChars cs) ∧ pascalChars cs = upperFirst (camelChars cs) := by
  cases h : hasSeparators cs with
  | true =>
    rw [and_iff_left (pascalChars_of_hasSeparators h), isIdentifier_camelChars_iff h]
    refine ⟨?_, ?_⟩
    · rintro (⟨-, hwords, hfirst, hdot, hrest⟩ | ⟨hnone, -⟩)
      · exact ⟨_, _, _, hwords, hfirst, hdot, hrest⟩
      · rw [h] at hnone
        cases hnone
    · rintro ⟨c, word, rest, hwords, hfirst, hdot, hrest⟩
      exact .ofWords h hwords hfirst hdot hrest
  | false =>
    have hcamel : camelChars cs = lowerFirst cs := by rw [camelChars, if_neg (by simp [h])]
    have hpascal : pascalChars cs = upperFirst cs := by rw [pascalChars, if_neg (by simp [h])]
    rw [hcamel, hpascal]
    cases cs with
    | nil =>
      refine iff_of_false ?_ ?_
      · rintro (⟨hsome, -⟩ | ⟨-, hcons, -⟩)
        · rw [h] at hsome
          cases hsome
        · cases hcons
      · rintro ⟨⟨-, first, rest, hcons, -⟩, -⟩
        cases hcons
    | cons c cs =>
      rw [lowerFirst, upperFirst_append (lower_ne_nil c), upperFirst, List.append_cancel_right_eq,
        eq_comm, upperFirst_lower_iff, isIdentifier_lower_append_iff]
      refine ⟨?_, ?_⟩
      · rintro (⟨hsome, -⟩ | ⟨-, hcons, hfirst, hback, hrest⟩)
        · rw [h] at hsome
          cases hsome
        · cases hcons
          exact ⟨⟨hfirst, hrest⟩, hback⟩
      · rintro ⟨⟨hfirst, hrest⟩, hback⟩
        exact .whole h rfl hfirst hback hrest

/-! ### Names in ASCII -/

/-- A character in ASCII has one small form, in ASCII too, which is a small letter exactly if the
character is a letter. -/
theorem exists_lower_of_ascii {c : Char} (h : c.toNat < 128) :
    ∃ d, lower c = [d] ∧ d.toNat < 128 ∧ (isLetter d && isLowercase d) = isLetter c := by
  obtain ⟨hlength, hall⟩ : (lower c).length = 1 ∧ ∀ d ∈ lower c,
      d.toNat < 128 ∧ (isLetter d && isLowercase d) = isLetter c := by
    refine of_forall_code_lt c h ?_
    decide
  obtain ⟨d, hd⟩ := List.length_eq_one_iff.mp hlength
  exact ⟨d, hd, hall d (hd ▸ List.mem_singleton_self d)⟩

theorem hasSmallForm_iff_of_ascii {c : Char} (h : c.toNat < 128) :
    HasSmallForm c ↔ isLetter c = true := by
  obtain ⟨d, hd, -, hletter⟩ := exists_lower_of_ascii h
  rw [← hletter, Bool.and_eq_true, HasSmallForm, hd]
  refine ⟨?_, fun hsmall => ⟨d, rfl, hsmall⟩⟩
  rintro ⟨e, he, hsmall⟩
  cases he
  exact hsmall

theorem isWordChar_of_ascii {c : Char} (h : c.toNat < 128) :
    isAlphanumeric c = true → isWordChar c = true := by
  refine of_forall_code_lt c h ?_
  decide

/-- No character in ASCII is one of those that need care. -/
theorem not_mem_of_ascii {c : Char} (h : c.toNat < 128) :
    c ≠ 'İ' ∧ c ∉ oneWay ∧ c ∉ markedCapitals := by
  have hall : ∀ d ∈ 'İ' :: oneWay ++ markedCapitals, 128 ≤ d.toNat := by decide
  have hnot : ∀ d ∈ 'İ' :: oneWay ++ markedCapitals, c ≠ d := by
    rintro d hd rfl
    exact absurd h (Nat.not_lt.mpr (hall c hd))
  simp only [List.cons_append, List.forall_mem_cons, List.forall_mem_append] at hnot
  exact ⟨hnot.1, fun hc => hnot.2.1 c hc rfl, fun hc => hnot.2.2 c hc rfl⟩

/-- A word in ASCII begins with a character in ASCII when it has been lowered. -/
theorem head?_lowercase_of_ascii {word : List Char} (h : ∀ c ∈ word, c.toNat < 128) {d : Char}
    (hd : d ∈ (lowercase word).head?) : d.toNat < 128 := by
  cases word with
  | nil => cases hd
  | cons c cs =>
    obtain ⟨afterCased, hlower⟩ := exists_lowercase_cons c cs
    obtain ⟨e, he, hascii, -⟩ := exists_lower_of_ascii (h c List.mem_cons_self)
    rw [hlower, he] at hd
    cases hd
    exact hascii

/-- The first of the letters and numbers of a name is that of its words. -/
theorem find?_isWordChar (cs : List Char) :
    cs.find? isWordChar = (words cs).flatten.head? := by
  rw [flatten_words, List.head?_filter]

/-- Where words come of a name in ASCII, they are in ASCII too. -/
theorem ascii_of_mem_words {cs word : List Char} (hascii : ∀ c ∈ cs, c.toNat < 128)
    (hword : word ∈ words cs) {c : Char} (hc : c ∈ word) : c.toNat < 128 := by
  have hmem : c ∈ (words cs).flatten := List.mem_flatten_of_mem hword hc
  rw [flatten_words] at hmem
  exact hascii c (List.mem_filter.mp hmem).1

/-- **Names in ASCII.**  Such a name is nameable exactly if the first of its letters and digits is a
letter. -/
theorem isNameable_iff_of_ascii {cs : List Char} (hascii : ∀ c ∈ cs, c.toNat < 128) :
    IsNameable cs ↔ ∃ c ∈ cs.find? isWordChar, isLetter c = true := by
  refine ⟨?_, ?_⟩
  · rintro (⟨-, hwords, hfirst, -⟩ | ⟨-, rfl, hfirst, -⟩)
    · rw [find?_isWordChar, hwords]
      have hin := ascii_of_mem_words hascii (hwords ▸ List.mem_cons_self) List.mem_cons_self
      exact ⟨_, rfl, (hasSmallForm_iff_of_ascii hin).mp hfirst⟩
    · have hletter := (hasSmallForm_iff_of_ascii (hascii _ List.mem_cons_self)).mp hfirst
      exact ⟨_, List.find?_cons_of_pos (isWordChar_of_isLetter hletter), hletter⟩
  · rintro ⟨c, hfind, hletter⟩
    have hsmall : HasSmallForm c := (hasSmallForm_iff_of_ascii
      (hascii c (List.mem_of_find?_eq_some hfind))).mpr hletter
    cases h : hasSeparators cs with
    | true =>
      rw [find?_isWordChar] at hfind
      cases hwords : words cs with
      | nil => simp [hwords] at hfind
      | cons first rest =>
        have hmem : ∀ {word}, word ∈ first :: rest → word ∈ words cs := fun hword => hwords ▸ hword
        obtain ⟨c', word, rfl⟩ := List.exists_cons_of_ne_nil
          (ne_nil_of_mem_words (hmem List.mem_cons_self))
        rw [hwords] at hfind
        cases hfind
        refine .ofWords h hwords hsmall (fun hdot => (not_mem_of_ascii (hascii _ hdot)).1 rfl)
          fun later hlater d hd => ?_
        have hin := hmem (List.mem_cons_of_mem _ hlater)
        have hlow := head?_lowercase_of_ascii (fun c => ascii_of_mem_words hascii hin) hd
        exact (not_mem_of_ascii hlow).2.2
    | false =>
      have hwords : ∀ d ∈ cs, isWordChar d = true := fun d hd =>
        isWordChar_of_ascii (hascii d hd) (by simpa using List.any_eq_false.mp h d hd)
      obtain ⟨c', rest, rfl⟩ := List.exists_cons_of_ne_nil
        (List.ne_nil_of_mem (List.mem_of_find?_eq_some hfind))
      obtain ⟨hword, hrest⟩ := List.forall_mem_cons.mp hwords
      rw [List.find?_cons_of_pos hword] at hfind
      cases hfind
      exact .whole h rfl hsmall (not_mem_of_ascii (hascii c List.mem_cons_self)).2.1 hrest

end SchemaBeans.Naming
