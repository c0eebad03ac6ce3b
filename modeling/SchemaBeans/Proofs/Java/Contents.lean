import Mathlib.Data.List.Nodup
import SchemaBeans.Java.Translation

/-!
# Packages — what a translation puts in

A schema type becomes a class or an enum (`class?`, `enum?`).  What adding one type does to each
part of a package is said by one equation for each part; adding all types of a model, in their
order, comes to one equation for each again.  A name belongs to the last of the classes that have
it (`getElem?_classes_translate`), and likewise to the last of the enums.

The name of every type is in the package, as that of a class or of an enum
(`contains_translate_iff`).  If there is no warning, no two types have the same name, so the class
of every type is there (`getElem?_classes_of_warnings`).
-/

namespace SchemaBeans.Java

open Schema (Model Property SchemaType)
open Std (ExtTreeMap)

/-- The class that a type becomes, unless it becomes an enum. -/
def class? (m : Model) (t : SchemaType) : Option Class :=
  if (m.own? t).any Property.isEnum then none else some (translateClass m t)

/-- The enum that a type becomes, unless it becomes a class. -/
def enum? (m : Model) (t : SchemaType) : Option Enum :=
  if (m.own? t).any Property.isEnum then some (translateEnum m t) else none

variable {m : Model} {t : SchemaType} {x : Translation} {c : Class} {name package : String}

theorem class?_eq_some_iff :
    class? m t = some c ↔ (m.own? t).any Property.isEnum = false ∧ translateClass m t = c := by
  rw [class?]
  cases (m.own? t).any Property.isEnum <;> simp

section Own

variable {p : Property} (hown : m.own? t = some p) (henum : p.isEnum = false)

include hown henum

theorem class?_of_own? : class? m t = some (translateClass m t) := by
  rw [class?_eq_some_iff, hown, Option.any_some]
  exact ⟨henum, rfl⟩

theorem typeName_of_own? : typeName m t = t.name := by
  rw [typeName, hown, Option.any_some, henum]
  rfl

end Own

/-- The members of a class are those of the data properties, in some order. -/
theorem members_translateClass (m : Model) (t : SchemaType) :
    (translateClass m t).members.Perm ((dataProperties m t).map (dataMember m)) :=
  Order.sortBy_perm _ _

/-- The constants of a class are those of the constant properties, in some order. -/
theorem constants_translateClass (m : Model) (t : SchemaType) :
    (translateClass m t).constants.Perm ((constantProperties m t).map (constantMember m)) :=
  Order.sortBy_perm _ _

/-- A member or a constant of a class is that of a property of its type. -/
theorem exists_of_mem_class {member : Member}
    (h : member ∈ (translateClass m t).members ++ (translateClass m t).constants) :
    ∃ p ∈ m.members t, member = dataMember m p ∨ member = constantMember m p := by
  rcases List.mem_append.mp h with h | h
  · obtain ⟨p, hp, rfl⟩ := List.mem_map.mp ((members_translateClass m t).mem_iff.mp h)
    exact ⟨p, (List.mem_filter.mp hp).1, Or.inl rfl⟩
  · obtain ⟨p, hp, rfl⟩ := List.mem_map.mp ((constants_translateClass m t).mem_iff.mp h)
    exact ⟨p, (List.mem_filter.mp hp).1, Or.inr rfl⟩

namespace Translation

/-! ### One type -/

theorem getElem?_classes_add (entry : String × SchemaType) :
    (x.add m entry).package.classes[name]? =
      ((class? m entry.2).filter (·.name = name)).or x.package.classes[name]? := by
  rw [add, class?]
  split
  · rfl
  · simp only [Package.addClass, ExtTreeMap.getElem?_insert,
      Std.LawfulEqCmp.compare_eq_iff_eq, Option.filter_some, decide_eq_true_eq]
    split <;> rfl

theorem getElem?_enums_add (entry : String × SchemaType) :
    (x.add m entry).package.enums[name]? =
      ((enum? m entry.2).filter (·.name = name)).or x.package.enums[name]? := by
  rw [add, enum?]
  split
  · simp only [Package.addEnum, ExtTreeMap.getElem?_insert,
      Std.LawfulEqCmp.compare_eq_iff_eq, Option.filter_some, decide_eq_true_eq]
    split <;> rfl
  · rfl

theorem contains_add (entry : String × SchemaType) :
    (x.add m entry).package.contains name =
      (decide (typeName m entry.2 = name) || x.package.contains name) := by
  rw [add]
  split
  · simp only [Package.contains, Package.addEnum, ExtTreeMap.contains_insert,
      Bool.beq_eq_decide_eq, Std.LawfulEqCmp.compare_eq_iff_eq, Bool.or_left_comm]
    rfl
  · simp only [Package.contains, Package.addClass, ExtTreeMap.contains_insert,
      Bool.beq_eq_decide_eq, Std.LawfulEqCmp.compare_eq_iff_eq, Bool.or_assoc]
    rfl

theorem warnings_add (entry : String × SchemaType) :
    (x.add m entry).warnings = x.warnings ++
      if x.package.contains (typeName m entry.2) then
        [.duplicateName entry.1 (typeName m entry.2)]
      else [] := by
  rw [add]
  split <;> (dsimp only; split <;> simp only [List.append_nil])

theorem warnings_add_eq_nil_iff {entry : String × SchemaType} :
    (x.add m entry).warnings = [] ↔
      x.warnings = [] ∧ x.package.contains (typeName m entry.2) = false := by
  rw [warnings_add, List.append_eq_nil_iff]
  cases x.package.contains (typeName m entry.2) <;> simp

/-! ### One type after another -/

/-- A part that each step may overwrite is in the end as the last of the steps that do left it. -/
theorem foldl_last {α σ β : Type} {step : σ → α → σ} (part : σ → Option β)
    {write : α → Option β} (h : ∀ x a, part (step x a) = (write a).or (part x)) (l : List α)
    (x : σ) : part (l.foldl step x) = (l.filterMap write).getLast?.or (part x) := by
  induction l generalizing x with
  | nil => rfl
  | cons a l ih =>
    rw [List.foldl_cons, ih, h, ← Option.or_assoc, List.filterMap_cons]
    cases write a with
    | none => rw [Option.or_none]
    | some b => cases hl : (l.filterMap write).getLast? <;> simp [List.getLast?_cons, hl]

theorem contains_foldl_iff (entries : List (String × SchemaType)) (x : Translation) :
    (entries.foldl (add m) x).package.contains name = true ↔
      (∃ entry ∈ entries, typeName m entry.2 = name) ∨ x.package.contains name = true := by
  induction entries generalizing x with
  | nil => simp
  | cons entry entries ih =>
    rw [List.foldl_cons, ih, contains_add, Bool.or_eq_true, decide_eq_true_eq,
      List.exists_mem_cons_iff, ← or_assoc, or_comm (a := ∃ _, _)]

/-- There are no warnings exactly if no name is taken twice. -/
theorem warnings_foldl_eq_nil_iff (entries : List (String × SchemaType)) (x : Translation) :
    (entries.foldl (add m) x).warnings = [] ↔
      x.warnings = [] ∧ (entries.map fun entry => typeName m entry.2).Nodup ∧
        ∀ entry ∈ entries, x.package.contains (typeName m entry.2) = false := by
  induction entries generalizing x with
  | nil => simp
  | cons entry entries ih =>
    rw [List.foldl_cons, ih, warnings_add_eq_nil_iff, List.map_cons, List.nodup_cons,
      List.forall_mem_cons]
    have hname : typeName m entry.2 ∉ entries.map (fun e => typeName m e.2) ↔
        ∀ e ∈ entries, typeName m entry.2 ≠ typeName m e.2 := by
      simp only [List.mem_map, not_exists, not_and, ne_eq, eq_comm]
    simp only [contains_add, Bool.or_eq_false_iff, decide_eq_false_iff_not, forall_and, hname]
    refine ⟨?_, ?_⟩
    · rintro ⟨⟨hw, hfirst⟩, hnodup, hnot, hrest⟩
      exact ⟨hw, ⟨hnot, hnodup⟩, hfirst, hrest⟩
    · rintro ⟨hw, ⟨hnot, hnodup⟩, hfirst, hrest⟩
      exact ⟨⟨hw, hfirst⟩, hnodup, hnot, hrest⟩

end Translation

/-! ### The package of a model -/

/-- The class of a name is the last of those that have it, in the order of the types' paths. -/
theorem getElem?_classes_translate (m : Model) (package name : String) :
    (translate m package).package.classes[name]? =
      (m.types.toList.filterMap fun entry =>
        (class? m entry.2).filter (·.name = name)).getLast? := by
  refine (Translation.foldl_last (fun x : Translation => x.package.classes[name]?)
    (fun _ entry => Translation.getElem?_classes_add entry) _ _).trans ?_
  rw [ExtTreeMap.getElem?_empty, Option.or_none]

/-- The enum of a name is the last of those that have it, in the order of the types' paths. -/
theorem getElem?_enums_translate (m : Model) (package name : String) :
    (translate m package).package.enums[name]? =
      (m.types.toList.filterMap fun entry =>
        (enum? m entry.2).filter (·.name = name)).getLast? := by
  refine (Translation.foldl_last (fun x : Translation => x.package.enums[name]?)
    (fun _ entry => Translation.getElem?_enums_add entry) _ _).trans ?_
  rw [ExtTreeMap.getElem?_empty, Option.or_none]

/-- A class of the package is that of a type. -/
theorem exists_class?_of_getElem? (h : (translate m package).package.classes[name]? = some c) :
    ∃ path t, m.type? path = some t ∧ class? m t = some c ∧ c.name = name := by
  rw [getElem?_classes_translate] at h
  obtain ⟨⟨path, t⟩, ht, hc⟩ := List.mem_filterMap.mp (List.mem_of_getLast? h)
  obtain ⟨hc, hname⟩ := Option.filter_eq_some_iff.mp hc
  exact ⟨path, t, ExtTreeMap.mem_toList_iff_getElem?_eq_some.mp ht, hc, of_decide_eq_true hname⟩

/-- The names in the package are those of the types. -/
theorem contains_translate_iff :
    (translate m package).package.contains name = true ↔
      ∃ path t, m.type? path = some t ∧ typeName m t = name := by
  have hempty : Package.contains { name := package } name = false := by
    simp [Package.contains]
  rw [translate, Translation.contains_foldl_iff, hempty, Bool.false_eq_true, or_false]
  refine ⟨?_, ?_⟩
  · rintro ⟨⟨path, t⟩, ht, hname⟩
    exact ⟨path, t, ExtTreeMap.mem_toList_iff_getElem?_eq_some.mp ht, hname⟩
  · rintro ⟨path, t, ht, hname⟩
    exact ⟨(path, t), ExtTreeMap.mem_toList_iff_getElem?_eq_some.mpr ht, hname⟩

/-- If there are no warnings, no two types have the same name. -/
theorem eq_of_typeName_eq (h : (translate m package).warnings = []) {path path' : String}
    {t t' : SchemaType} (ht : m.type? path = some t) (ht' : m.type? path' = some t')
    (hname : typeName m t = typeName m t') : path = path' := by
  have hnodup := ((Translation.warnings_foldl_eq_nil_iff _ _).mp h).2.1
  exact congrArg Prod.fst (List.inj_on_of_nodup_map hnodup
    (ExtTreeMap.mem_toList_iff_getElem?_eq_some.mpr ht)
    (ExtTreeMap.mem_toList_iff_getElem?_eq_some.mpr ht') hname)

/-- If there are no warnings, the class of every type is in the package. -/
theorem getElem?_classes_of_warnings (h : (translate m package).warnings = []) {path : String}
    (ht : m.type? path = some t) (hc : class? m t = some c) :
    (translate m package).package.classes[c.name]? = some c := by
  have hcontains : (translate m package).package.classes[c.name]? ≠ none := by
    rw [getElem?_classes_translate, ne_eq, List.getLast?_eq_none_iff]
    refine List.ne_nil_of_mem (a := c) (List.mem_filterMap.mpr ⟨(path, t), ?_, ?_⟩)
    · exact ExtTreeMap.mem_toList_iff_getElem?_eq_some.mpr ht
    · exact Option.filter_eq_some_iff.mpr ⟨hc, decide_eq_true rfl⟩
  obtain ⟨d, hd⟩ := Option.ne_none_iff_exists'.mp hcontains
  obtain ⟨path', t', ht', hc', hname⟩ := exists_class?_of_getElem? hd
  -- the name is that of one type only
  have hpath : path' = path := by
    refine eq_of_typeName_eq h ht' ht ?_
    rwa [← (class?_eq_some_iff.mp hc).2, ← (class?_eq_some_iff.mp hc').2] at hname
  rw [hpath, ht, Option.some.injEq] at ht'
  rw [← ht', hc, Option.some.injEq] at hc'
  rw [hd, hc']

end SchemaBeans.Java
