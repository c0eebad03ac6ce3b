import SchemaBeans.Naming.Words
import SchemaBeans.Proofs.Text.CaseMap

/-!
# Naming — Names that become the same in camel or Pascal case

Both cases leave out separators, lower words and raise first letters.  What they keep of a name is
its letters and numbers in their order, without regard to case (`letters`): an identifier has those
of the name that it is made of (`fold_camelChars`, `fold_pascalChars`).  An identifier without
separators keeps its capitals as well, but for the first letter.

So names that become the same are *alike* (`Alike`): they have the same letters, and if neither has
separators they differ in the case of the first letter only.
-/

namespace SchemaBeans.Naming

open SchemaBeans.Text

/-! ### Letters -/

/-- What an identifier is made of: the letters and numbers of a name with separators, and the
whole of another. -/
def stem (cs : List Char) : List Char := if hasSeparators cs then cs.filter isWordChar else cs

/-- The letters and numbers of a name without regard to case. -/
def letters (name : String) : List Char := fold (stem name.toList)

/-- The words of a name are its letters and numbers, in their order. -/
theorem flatten_words (cs : List Char) : (words cs).flatten = cs.filter isWordChar := by
  rw [words, List.flatten_filter_not_isEmpty, flatten_split]
  simp

theorem ne_nil_of_mem_words {cs word : List Char} (h : word ∈ words cs) : word ≠ [] := by
  have hne := (List.mem_filter.mp h).2
  rintro rfl
  cases hne

theorem isWordChar_of_mem_words {cs word : List Char} (h : word ∈ words cs) {c : Char}
    (hc : c ∈ word) : isWordChar c = true := by
  simpa using eq_false_of_mem_split (List.mem_filter.mp h).1 hc

/-- The words of a name are the same when other characters stand for its separators. -/
theorem words_map {f : Char → Char} (hclass : ∀ c, isWordChar (f c) = isWordChar c)
    (hword : ∀ c, isWordChar c = true → f c = c) (cs : List Char) :
    words (cs.map f) = words cs := by
  rw [words, words]
  refine congrArg (List.filter _) ?_
  induction cs with
  | nil => rfl
  | cons c cs ih =>
    rw [List.map_cons, split, split, ih, hclass]
    split
    · rfl
    · next hc => rw [hword c (by simpa using hc)]

theorem fold_capitalize (word : List Char) : fold (capitalize word) = fold word := by
  rw [capitalize, fold_upperFirst, fold_lowercase]

theorem fold_flatMap_capitalize (ws : List (List Char)) :
    fold (ws.flatMap capitalize) = fold ws.flatten := by
  induction ws with
  | nil => rfl
  | cons word ws ih => simp [fold_capitalize, ih]

/-- **Pascal case.**  A name in Pascal case is folded like the name without separators. -/
theorem fold_pascalChars (cs : List Char) : fold (pascalChars cs) = fold (stem cs) := by
  rw [pascalChars, stem]
  split
  · rw [fold_flatMap_capitalize, flatten_words]
  · exact fold_upperFirst cs

/-- **Camel case.**  A name in camel case is folded like the name without separators. -/
theorem fold_camelChars (cs : List Char) : fold (camelChars cs) = fold (stem cs) := by
  rw [camelChars, stem]
  split
  · rw [← flatten_words]
    cases words cs with
    | nil => rfl
    | cons first rest =>
      rw [List.flatten_cons, fold_append, fold_append, fold_lowercase, fold_flatMap_capitalize]
  · exact fold_lowerFirst cs

/-! ### Names that are alike -/

/-- The names differ in the case of their first letters only. -/
def SameButFirst (cs ds : List Char) : Prop :=
  lowerFirst cs = lowerFirst ds ∨ upperFirst cs = upperFirst ds

/-- The names may become the same: they have the same letters, and where neither has separators they
differ in the case of the first letter only. -/
structure Alike (name name' : String) : Prop where
  letters : letters name = letters name'
  first : hasSeparators name.toList = false → hasSeparators name'.toList = false →
    SameButFirst name.toList name'.toList

instance (cs ds : List Char) : Decidable (SameButFirst cs ds) :=
  inferInstanceAs (Decidable (_ ∨ _))

instance (name name' : String) : Decidable (Alike name name') :=
  decidable_of_iff (Naming.letters name = Naming.letters name' ∧
    (hasSeparators name.toList = false → hasSeparators name'.toList = false →
      SameButFirst name.toList name'.toList)) ⟨fun h => ⟨h.1, h.2⟩, fun h => ⟨h.1, h.2⟩⟩

variable {name name' : String}

/-- Names that are the same in camel case are alike. -/
theorem alike_of_camel_eq (h : camel name = camel name') : Alike name name' := by
  have hchars : camelChars name.toList = camelChars name'.toList := String.ofList_injective h
  refine ⟨?_, fun hname hname' => Or.inl ?_⟩
  · rw [letters, letters, ← fold_camelChars, hchars, fold_camelChars]
  · simpa [camelChars, hname, hname'] using hchars

/-- Names that are the same in Pascal case are alike. -/
theorem alike_of_pascal_eq (h : pascal name = pascal name') : Alike name name' := by
  have hchars : pascalChars name.toList = pascalChars name'.toList := String.ofList_injective h
  refine ⟨?_, fun hname hname' => Or.inr ?_⟩
  · rw [letters, letters, ← fold_pascalChars, hchars, fold_pascalChars]
  · simpa [pascalChars, hname, hname'] using hchars

end SchemaBeans.Naming
