import SchemaBeans.Proofs.Java.Classes
import SchemaBeans.Proofs.Naming.Snake
import SchemaBeans.Proofs.Naming.Words

/-!
# Packages — the names in a type

Nothing but the order of the members of a class, and of the constants of an enum, looks at their
names.  Each has the name that its property, or its value, becomes, whichever names there are
besides.

So members have the same name, or the same accessors, only where their names in serialized form are
alike (`alike_of_mem_members`), and constants have the same name exactly where their values have the
same words (`name_eq_iff_of_mem_constants`).
-/

namespace SchemaBeans.Java

open Naming Text
open Schema (Model Property SchemaType)

variable {m : Model} {t : SchemaType}

/-! ### Members -/

section Hyphens

variable (text : String)

theorem map_hyphen_of_hasSeparators {cs : List Char} (h : hasSeparators cs = false) :
    (cs.map fun c => if c = '-' then '_' else c) = cs := by
  refine (List.map_congr_left fun c hc => ?_).trans (List.map_id cs)
  refine if_neg fun he => ?_
  have hword : isAlphanumeric c = true := by
    simpa using List.any_eq_false.mp h c hc
  rw [he] at hword
  exact absurd hword (by decide)

/-- A hyphen and an underscore are separators both. -/
theorem hasSeparators_withoutHyphens :
    hasSeparators (withoutHyphens text).toList = hasSeparators text.toList := by
  have hboth : isAlphanumeric '_' = isAlphanumeric '-' := by decide
  rw [withoutHyphens, String.toList_ofList, hasSeparators, hasSeparators, List.any_map]
  refine congrArg (List.any text.toList) (funext fun c => ?_)
  rw [Function.comp_apply]
  split
  · next hc => rw [hboth, hc]
  · rfl

theorem words_withoutHyphens : words (withoutHyphens text).toList = words text.toList := by
  have hneither : isWordChar '_' = isWordChar '-' := by decide
  rw [withoutHyphens, String.toList_ofList]
  refine words_map (fun c => ?_) (fun c hc => if_neg ?_) _
  · split
    · next hc => rw [hneither, hc]
    · rfl
  · rintro rfl
    exact absurd hc (by decide)

/-- For camel case, hyphens are as good as underscores. -/
theorem camel_withoutHyphens : camel (withoutHyphens text) = camel text := by
  rw [camel, camel, camelChars, camelChars, hasSeparators_withoutHyphens, words_withoutHyphens]
  split
  · rfl
  · next h =>
    rw [withoutHyphens, String.toList_ofList, map_hyphen_of_hasSeparators (by simpa using h)]

/-- For Pascal case, hyphens are as good as underscores. -/
theorem pascal_withoutHyphens : pascal (withoutHyphens text) = pascal text := by
  rw [pascal, pascal, pascalChars, pascalChars, hasSeparators_withoutHyphens,
    words_withoutHyphens]
  split
  · rfl
  · next h =>
    rw [withoutHyphens, String.toList_ofList, map_hyphen_of_hasSeparators (by simpa using h)]

end Hyphens

/-- The name of a member and that in its accessors are made of the one in serialized form. -/
theorem names_of_mem_members {member : Member} (h : member ∈ (translateClass m t).members) :
    member.name = camel member.wireName ∧ member.pascalName = pascal member.wireName := by
  obtain ⟨p, -, rfl⟩ := List.mem_map.mp ((members_translateClass m t).mem_iff.mp h)
  rw [wireName_dataMember]
  exact ⟨camel_withoutHyphens p.name, pascal_withoutHyphens p.name⟩

/-- Members with the same name, or the same accessors, are alike in serialized form. -/
theorem alike_of_mem_members {a b : Member} (ha : a ∈ (translateClass m t).members)
    (hb : b ∈ (translateClass m t).members)
    (h : a.name = b.name ∨ a.pascalName = b.pascalName) : Alike a.wireName b.wireName := by
  obtain ⟨hname, hpascal⟩ := names_of_mem_members ha
  obtain ⟨hname', hpascal'⟩ := names_of_mem_members hb
  rcases h with h | h
  · exact alike_of_camel_eq (hname.symm.trans (h.trans hname'))
  · exact alike_of_pascal_eq (hpascal.symm.trans (h.trans hpascal'))

/-- The members of a class have different names, and different accessors, if no two of their names
in serialized form are alike. -/
theorem nodup_of_not_alike
    (h : ((translateClass m t).members.map Member.wireName).Pairwise (¬Alike · ·)) :
    ((translateClass m t).members.map Member.name).Nodup ∧
      ((translateClass m t).members.map Member.pascalName).Nodup := by
  have hmembers := List.pairwise_map.mp h
  refine ⟨List.pairwise_map.mpr (hmembers.imp_of_mem fun ha hb halike hname => ?_),
    List.pairwise_map.mpr (hmembers.imp_of_mem fun ha hb halike hname => ?_)⟩
  · exact halike (alike_of_mem_members ha hb (Or.inl hname))
  · exact halike (alike_of_mem_members ha hb (Or.inr hname))

/-! ### Constants of an enum -/

section Constants

variable {name description : String} {values : List String}

/-- The enum of a type is that of different values. -/
theorem exists_values_of_translateEnum (m : Model) (t : SchemaType) : ∃ values : List String,
    values.Nodup ∧
      translateEnum m t = Enum.ofValues (typeName m t) t.description values := by
  refine ⟨_, ?_, rfl⟩
  split
  · exact List.nodup_nil
  · exact Schema.nodup_toList _

theorem constants_ofValues (name description : String) (values : List String) :
    (Enum.ofValues name description values).constants.Perm
      ((values.filter (· ≠ Schema.nilValue)).map EnumConstant.ofValue) :=
  Order.sortBy_perm _ _

/-- Each value has one constant. -/
theorem nodup_values (h : values.Nodup) :
    ((Enum.ofValues name description values).constants.map EnumConstant.value).Nodup := by
  rw [((constants_ofValues name description values).map _).nodup_iff, List.map_map]
  have hvalue : EnumConstant.value ∘ EnumConstant.ofValue = id := rfl
  rw [hvalue, List.map_id]
  exact h.filter _

variable {k l : EnumConstant} (hk : k ∈ (Enum.ofValues name description values).constants)

include hk

theorem name_of_mem_constants : k.name = screaming k.value := by
  obtain ⟨value, -, rfl⟩ :=
    List.mem_map.mp ((constants_ofValues name description values).mem_iff.mp hk)
  rfl

/-- The constant of the empty value is the one without a name. -/
theorem name_eq_empty_iff_of_mem_constants : k.name = "" ↔ k.value = "" := by
  rw [name_of_mem_constants hk, screaming_eq_empty_iff]

/-- Constants have the same name exactly if their values have the same words. -/
theorem name_eq_iff_of_mem_constants
    (hl : l ∈ (Enum.ofValues name description values).constants) :
    k.name = l.name ↔ snakeWords k.value = snakeWords l.value := by
  rw [name_of_mem_constants hk, name_of_mem_constants hl, screaming_eq_iff]

omit hk

/-- The constants of an enum have different names exactly if their values have different words. -/
theorem nodup_names_iff :
    ((Enum.ofValues name description values).constants.map EnumConstant.name).Nodup ↔
      ((Enum.ofValues name description values).constants.map fun k =>
        snakeWords k.value).Nodup := by
  rw [List.Nodup, List.Nodup, List.pairwise_map, List.pairwise_map]
  exact List.Pairwise.iff_of_mem fun hk hl => not_congr (name_eq_iff_of_mem_constants hk hl)

/-- The constants of an enum have names exactly if no value is empty. -/
theorem empty_not_mem_names_iff :
    "" ∉ (Enum.ofValues name description values).constants.map EnumConstant.name ↔
      "" ∉ (Enum.ofValues name description values).constants.map EnumConstant.value := by
  rw [List.mem_map, List.mem_map]
  exact not_congr (exists_congr fun k =>
    and_congr_right fun hk => name_eq_empty_iff_of_mem_constants hk)

end Constants

end SchemaBeans.Java
