import SchemaBeans.Naming.Words
import SchemaBeans.Proofs.Text.CaseMap

/-!
# Naming — Pascal case leaves no separators

An identifier in Pascal case is made of letters and numbers and of what they are raised and lowered
to.  A separator that no case map leads to is *barred* (`IsBarred`): it does not stand in an
identifier, whatever the name it is made of (`IsBarred.not_mem_pascal`).  Slashes and dots are
barred, and so is the null character.
-/

namespace SchemaBeans.Naming

open SchemaBeans.Text

/-- A character that is no letter or number, that counts as a separator in names besides, and to
which no other one is raised or lowered. -/
structure IsBarred (d : Char) : Prop extends IsUnreached d where
  not_isWordChar : isWordChar d = false
  not_isAlphanumeric : isAlphanumeric d = false

theorem isBarred_slash : IsBarred '/' :=
  ⟨isAlone_slash.isUnreached, by decide, by decide⟩

theorem isBarred_dot : IsBarred '.' :=
  ⟨isAlone_dot.isUnreached, by decide, by decide⟩

theorem isBarred_null : IsBarred '\x00' :=
  ⟨isUnreached_null, by decide, by decide⟩

namespace IsBarred

variable {d : Char} (hd : IsBarred d)
include hd

/-- Raising the first character does not lead to a separator. -/
theorem not_mem_upperFirst {cs : List Char} (h : d ∉ cs) : d ∉ upperFirst cs := by
  cases cs with
  | nil => exact h
  | cons c cs =>
    obtain ⟨hc, hcs⟩ := not_or.mp fun e => h (List.mem_cons.mpr e)
    rw [upperFirst, List.mem_append]
    exact not_or.mpr ⟨hd.not_mem_upper (Ne.symm hc), hcs⟩

/-- Lowering does not lead to a separator, and neither does a final sigma, which is a letter. -/
theorem not_mem_lowerFrom {cs : List Char} (h : d ∉ cs) (afterCased : Bool) :
    d ∉ lowerFrom afterCased cs := by
  have hsigma : ∀ c, isWordChar c = true → d ≠ c := by
    rintro c hc rfl
    exact absurd hc (by simp [hd.not_isWordChar])
  induction cs generalizing afterCased with
  | nil => exact h
  | cons c cs ih =>
    obtain ⟨hc, hcs⟩ := not_or.mp fun e => h (List.mem_cons.mpr e)
    rw [lowerFrom]
    split
    · rw [List.mem_cons]
      refine not_or.mpr ⟨?_, ih hcs _⟩
      split <;> exact hsigma _ (by decide)
    · rw [List.mem_append]
      exact not_or.mpr ⟨hd.not_mem_lower (Ne.symm hc), ih hcs _⟩

/-- An identifier made of a name has no separator, even if the name has. -/
theorem not_mem_pascalChars (cs : List Char) : d ∉ pascalChars cs := by
  rw [pascalChars]
  split
  · intro hmem
    obtain ⟨word, hword, hin⟩ := List.mem_flatMap.mp hmem
    refine hd.not_mem_upperFirst (hd.not_mem_lowerFrom (fun h => ?_) false) hin
    have hsep := eq_false_of_mem_split (List.mem_filter.mp hword).1 h
    exact absurd hsep (by simp [hd.not_isWordChar])
  · next hsep =>
    refine hd.not_mem_upperFirst fun h => hsep (List.any_eq_true.mpr ⟨d, h, ?_⟩)
    rw [hd.not_isAlphanumeric]
    rfl

/-- **Separators.**  There is none in an identifier in Pascal case. -/
theorem not_mem_pascal (name : String) : d ∉ (pascal name).toList := by
  rw [pascal, String.toList_ofList]
  exact hd.not_mem_pascalChars _

end IsBarred

end SchemaBeans.Naming
