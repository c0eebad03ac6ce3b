import Mathlib.Data.List.Count
import Mathlib.Data.List.Nodup
import SchemaBeans.Java.Source
import SchemaBeans.Proofs.Java.Contents

/-!
# Packages — whose source a name has

Several types may have one name.  Of those that become classes the package keeps the one at the
greatest path (`IsLast`, `getElem?_classes_eq_some_iff`), and likewise of those that become enums.
The sources of the classes come before those of the enums, so where a class and an enum have the
same name (`Clash`) the last source of the name is an enum's, whatever their paths; otherwise it is
that of the type at the greatest path (`sourceOf?_sources`).  A name has one source for its class
and one for its enum (`count_sources`).
-/

namespace SchemaBeans.Schema.Model

/-- Of the types with a property, the one at the greatest path. -/
structure IsLast (m : Model) (P : SchemaType → Prop) (path : String) (t : SchemaType) : Prop where
  type : m.type? path = some t
  holds : P t
  greatest {path' : String} {t' : SchemaType} : m.type? path' = some t' → P t' → path' ≤ path

variable {m : Model} {P : SchemaType → Prop} {path path' : String} {t t' : SchemaType}

theorem IsLast.unique (h : m.IsLast P path t) (h' : m.IsLast P path' t') :
    path' = path ∧ t' = t := by
  obtain rfl : path' = path :=
    String.le_antisymm (h.greatest h'.type h'.holds) (h'.greatest h.type h.holds)
  exact ⟨rfl, Option.some.inj (h'.type.symm.trans h.type)⟩

theorem le_of_compare_eq_lt {a b : String} (h : compare a b = .lt) : a ≤ b :=
  String.not_lt.mp (String.lt_asymm (compareOfLessAndEq_eq_lt.mp h))

section Written

variable {β : Type} {f : SchemaType → Option β} {become : SchemaType → β} {b : β}

/-- Where nothing comes last, no type comes to anything. -/
theorem eq_none_of_getLast? (h : (m.types.toList.filterMap fun entry => f entry.2).getLast? = none)
    (ht : m.type? path = some t) : f t = none := by
  rw [List.getLast?_eq_none_iff] at h
  exact List.filterMap_eq_nil_iff.mp h _ (Std.ExtTreeMap.mem_toList_iff_getElem?_eq_some.mpr ht)

/-- What comes last is what the type at the greatest path comes to, of those that come to
anything. -/
theorem exists_isLast_of_getLast?
    (h : (m.types.toList.filterMap fun entry => f entry.2).getLast? = some b) :
    ∃ path t, m.IsLast (fun t => (f t).isSome) path t ∧ f t = some b := by
  obtain ⟨before, hbefore⟩ := List.getLast?_eq_some_iff.mp h
  obtain ⟨first, rest, hsplit, -, hrest⟩ := List.filterMap_eq_append_iff.mp hbefore
  obtain ⟨skipped, ⟨path, t⟩, after, rfl, -, hb, hafter⟩ := List.filterMap_eq_cons_iff.mp hrest
  have hsorted := Std.ExtTreeMap.ordered_keys_toList (t := m.types)
  have hmem : (path, t) ∈ m.types.toList := by simp [hsplit]
  refine ⟨path, t, ⟨Std.ExtTreeMap.mem_toList_iff_getElem?_eq_some.mp hmem,
    Option.isSome_of_eq_some hb, fun {path' t'} ht' hsome => ?_⟩, hb⟩
  have hmem' := Std.ExtTreeMap.mem_toList_iff_getElem?_eq_some.mpr ht'
  rw [hsplit, ← List.append_assoc] at hsorted hmem'
  rcases List.mem_append.mp hmem' with hmem' | hmem'
  · exact le_of_compare_eq_lt
      ((List.pairwise_append.mp hsorted).2.2 _ hmem' _ List.mem_cons_self)
  rcases List.mem_cons.mp hmem' with heq | hmem'
  · cases heq
    exact String.le_refl _
  · -- the types behind it come to nothing
    rw [List.filterMap_eq_nil_iff.mp hafter _ hmem'] at hsome
    cases hsome

/-- There is a last one of the types with a property, if there is one at all. -/
theorem exists_isLast (ht : m.type? path = some t) (hP : P t) : ∃ path t, m.IsLast P path t := by
  classical
  have hiff : ∀ t, (if P t then some t else none).isSome = true ↔ P t := by
    intro t
    by_cases h : P t <;> simp [h]
  cases h : (m.types.toList.filterMap fun entry =>
      if P entry.2 then some entry.2 else none).getLast? with
  | none =>
    have hnone := eq_none_of_getLast? (f := fun t => if P t then some t else none) h ht
    exact absurd ((hiff t).mpr hP) (by rw [hnone]; exact Bool.false_ne_true)
  | some _ =>
    obtain ⟨path, t, hlast, -⟩ :=
      exists_isLast_of_getLast? (f := fun t => if P t then some t else none) h
    simp only [hiff] at hlast
    exact ⟨path, t, hlast⟩

/-- If exactly the types with a property come to anything, what comes last is what the last of them
becomes. -/
theorem getLast?_filterMap_eq_some_iff (hf : ∀ t b, f t = some b ↔ P t ∧ become t = b) :
    (m.types.toList.filterMap fun entry => f entry.2).getLast? = some b ↔
      ∃ path t, m.IsLast P path t ∧ become t = b := by
  have hiff : ∀ t, (f t).isSome = true ↔ P t := by
    intro t
    simp [Option.isSome_iff_exists, hf]
  refine ⟨fun h => ?_, ?_⟩
  · obtain ⟨path, t, hlast, hb⟩ := exists_isLast_of_getLast? h
    simp only [hiff] at hlast
    exact ⟨path, t, hlast, ((hf t b).mp hb).2⟩
  · rintro ⟨path, t, ht, rfl⟩
    cases h : (m.types.toList.filterMap fun entry => f entry.2).getLast? with
    | none =>
      have hnone := eq_none_of_getLast? h ht.type
      rw [(hf t _).mpr ⟨ht.holds, rfl⟩] at hnone
      cases hnone
    | some b =>
      obtain ⟨path', t', hlast, hb⟩ := exists_isLast_of_getLast? h
      simp only [hiff] at hlast
      rw [← ((hf t' b).mp hb).2, (ht.unique hlast).2]

end Written

end SchemaBeans.Schema.Model

namespace SchemaBeans.Java

open Schema (Model Property SchemaType)
open Std (ExtTreeMap)

variable {m : Model} {t : SchemaType} {c : Class} {e : Enum} {name package : String}

/-- The type becomes a class of the name. -/
def IsClassNamed (m : Model) (name : String) (t : SchemaType) : Prop :=
  typeName m t = name ∧ (m.own? t).any Property.isEnum = false

/-- The type becomes an enum of the name. -/
def IsEnumNamed (m : Model) (name : String) (t : SchemaType) : Prop :=
  typeName m t = name ∧ (m.own? t).any Property.isEnum = true

/-- There are both, a class and an enum of the name. -/
def Clash (m : Model) (name : String) : Prop :=
  (∃ path t, m.type? path = some t ∧ IsClassNamed m name t) ∧
    ∃ path t, m.type? path = some t ∧ IsEnumNamed m name t

/-- The source of what a type becomes. -/
def typeSource (m : Model) (package : String) (t : SchemaType) : String :=
  if (m.own? t).any Property.isEnum then (translateEnum m t).source package
  else (translateClass m t).source package

/-! ### The type of a name -/

theorem filter_class?_eq_some_iff (m : Model) (name : String) (t : SchemaType) (c : Class) :
    (class? m t).filter (·.name = name) = some c ↔
      IsClassNamed m name t ∧ translateClass m t = c := by
  rw [Option.filter_eq_some_iff, class?_eq_some_iff, IsClassNamed, decide_eq_true_eq]
  refine ⟨?_, ?_⟩
  · rintro ⟨⟨hclass, rfl⟩, hname⟩
    exact ⟨⟨hname, hclass⟩, rfl⟩
  · rintro ⟨⟨hname, hclass⟩, rfl⟩
    exact ⟨⟨hclass, rfl⟩, hname⟩

theorem filter_enum?_eq_some_iff (m : Model) (name : String) (t : SchemaType) (e : Enum) :
    (enum? m t).filter (·.name = name) = some e ↔
      IsEnumNamed m name t ∧ translateEnum m t = e := by
  rw [Option.filter_eq_some_iff, enum?, IsEnumNamed, decide_eq_true_eq]
  split
  · next henum =>
    rw [Option.some.injEq]
    refine ⟨?_, ?_⟩
    · rintro ⟨rfl, hname⟩
      exact ⟨⟨hname, henum⟩, rfl⟩
    · rintro ⟨⟨hname, -⟩, rfl⟩
      exact ⟨rfl, hname⟩
  · next henum => simp [henum]

/-- The class of a name is that of the type at the greatest path. -/
theorem getElem?_classes_eq_some_iff :
    (translate m package).package.classes[name]? = some c ↔
      ∃ path t, m.IsLast (IsClassNamed m name) path t ∧ translateClass m t = c := by
  rw [getElem?_classes_translate]
  exact Model.getLast?_filterMap_eq_some_iff (filter_class?_eq_some_iff m name)

/-- The enum of a name is that of the type at the greatest path. -/
theorem getElem?_enums_eq_some_iff :
    (translate m package).package.enums[name]? = some e ↔
      ∃ path t, m.IsLast (IsEnumNamed m name) path t ∧ translateEnum m t = e := by
  rw [getElem?_enums_translate]
  exact Model.getLast?_filterMap_eq_some_iff (filter_enum?_eq_some_iff m name)

/-! ### The sources of a package -/

/-- The last of the sources of a name. -/
def sourceOf? (sources : List (String × String)) (name : String) : Option String :=
  (sources.filterMap fun s => if s.1 = name then some s.2 else none).getLast?

theorem sourceOf?_cons (s : String × String) (sources : List (String × String)) (name : String) :
    sourceOf? (s :: sources) name =
      (sourceOf? sources name).or (if s.1 = name then some s.2 else none) := by
  rw [sourceOf?, sourceOf?, List.filterMap_cons]
  split
  · next h => rw [h, Option.or_none]
  · next b h => rw [h, List.getLast?_cons, Option.or_some]

theorem sourceOf?_append (sources sources' : List (String × String)) (name : String) :
    sourceOf? (sources ++ sources') name =
      (sourceOf? sources' name).or (sourceOf? sources name) := by
  rw [sourceOf?, List.filterMap_append, List.getLast?_append]
  rfl

section Table

variable {β : Type} {table : ExtTreeMap String β} {nameOf f : β → String}
  (hname : ∀ k v, table[k]? = some v → nameOf v = k)

include hname

/-- The sources of a table whose entries have the names that they are under. -/
theorem map_toList_eq : table.toList.map (fun entry => (nameOf entry.2, f entry.2)) =
    table.toList.map fun entry => (entry.1, f entry.2) :=
  List.map_congr_left fun entry hentry => by
    rw [hname entry.1 entry.2 (ExtTreeMap.mem_toList_iff_getElem?_eq_some.mp hentry)]

/-- The source of a name is that of the entry under it. -/
theorem sourceOf?_toList :
    sourceOf? (table.toList.map fun entry => (nameOf entry.2, f entry.2)) name =
      table[name]?.map f := by
  have hmem : ∀ b, b ∈ (table.toList.map fun entry => (entry.1, f entry.2)).filterMap
      (fun s => if s.1 = name then some s.2 else none) ↔ table[name]?.map f = some b := by
    intro b
    simp [List.mem_filterMap, ExtTreeMap.mem_toList_iff_getElem?_eq_some]
  rw [map_toList_eq hname, sourceOf?]
  cases h : ((table.toList.map fun entry => (entry.1, f entry.2)).filterMap
      fun s => if s.1 = name then some s.2 else none).getLast? with
  | some b => exact ((hmem b).mp (List.mem_of_getLast? h)).symm
  | none =>
    rw [List.getLast?_eq_none_iff] at h
    cases htable : table[name]?.map f with
    | none => rfl
    | some b => exact absurd ((hmem b).mpr htable) (by simp [h])

/-- There is one source for the entry under a name. -/
theorem count_toList :
    ((table.toList.map fun entry => (nameOf entry.2, f entry.2)).map Prod.fst).count name =
      if name ∈ table then 1 else 0 := by
  have hkeys : (table.toList.map fun entry => (entry.1, f entry.2)).map Prod.fst =
      table.keys := by
    rw [List.map_map, ← ExtTreeMap.map_fst_toList_eq_keys]
    rfl
  rw [map_toList_eq hname, hkeys, ExtTreeMap.nodup_keys.count]
  simp only [ExtTreeMap.mem_keys]

end Table

theorem name_translate (m : Model) (package : String) :
    (translate m package).package.name = package := by
  have hfoldl : ∀ (entries : List (String × SchemaType)) (x : Translation),
      (entries.foldl (Translation.add m) x).package.name = x.package.name := by
    intro entries
    induction entries with
    | nil => exact fun _ => rfl
    | cons entry entries ih =>
      intro x
      rw [List.foldl_cons, ih, Translation.add]
      split <;> rfl
  exact hfoldl _ _

theorem name_of_getElem?_classes {k : String}
    (h : (translate m package).package.classes[k]? = some c) : c.name = k := by
  obtain ⟨path, t, ht, rfl⟩ := getElem?_classes_eq_some_iff.mp h
  exact ht.holds.1

theorem name_of_getElem?_enums {k : String}
    (h : (translate m package).package.enums[k]? = some e) : e.name = k := by
  obtain ⟨path, t, ht, rfl⟩ := getElem?_enums_eq_some_iff.mp h
  exact ht.holds.1

/-- A table with what the last of the types with a property becomes has the name if there is such a
type. -/
theorem mem_iff_of_getElem? {β : Type} {table : ExtTreeMap String β} {become : SchemaType → β}
    {P : SchemaType → Prop}
    (h : ∀ {v}, table[name]? = some v ↔ ∃ path t, m.IsLast P path t ∧ become t = v) :
    name ∈ table ↔ ∃ path t, m.type? path = some t ∧ P t := by
  rw [ExtTreeMap.mem_iff_isSome_getElem?, Option.isSome_iff_exists]
  refine ⟨?_, ?_⟩
  · rintro ⟨v, hv⟩
    obtain ⟨path, t, ht, -⟩ := h.mp hv
    exact ⟨path, t, ht.type, ht.holds⟩
  · rintro ⟨path, t, ht, hP⟩
    obtain ⟨path, t, hlast⟩ := Model.exists_isLast ht hP
    exact ⟨_, h.mpr ⟨path, t, hlast, rfl⟩⟩

theorem mem_classes_translate_iff : name ∈ (translate m package).package.classes ↔
    ∃ path t, m.type? path = some t ∧ IsClassNamed m name t :=
  mem_iff_of_getElem? getElem?_classes_eq_some_iff

theorem mem_enums_translate_iff : name ∈ (translate m package).package.enums ↔
    ∃ path t, m.type? path = some t ∧ IsEnumNamed m name t :=
  mem_iff_of_getElem? getElem?_enums_eq_some_iff

/-- The name of a source is that of a type. -/
theorem exists_of_mem_sources {s : String × String}
    (h : s ∈ (translate m package).package.sources) :
    ∃ path t, m.type? path = some t ∧ typeName m t = s.1 := by
  rw [Package.sources, List.mem_append, List.mem_map, List.mem_map] at h
  rcases h with ⟨⟨k, c⟩, hc, rfl⟩ | ⟨⟨k, e⟩, he, rfl⟩
  · obtain ⟨path, t, ht, rfl⟩ := getElem?_classes_eq_some_iff.mp
      (ExtTreeMap.mem_toList_iff_getElem?_eq_some.mp hc)
    exact ⟨path, t, ht.type, rfl⟩
  · obtain ⟨path, t, ht, rfl⟩ := getElem?_enums_eq_some_iff.mp
      (ExtTreeMap.mem_toList_iff_getElem?_eq_some.mp he)
    exact ⟨path, t, ht.type, rfl⟩

/-- Of the sources of a name, that of the enum comes last. -/
theorem sourceOf?_sources (m : Model) (package name : String) :
    sourceOf? (translate m package).package.sources name =
      ((translate m package).package.enums[name]?.map (Enum.source package)).or
        ((translate m package).package.classes[name]?.map (Class.source package)) := by
  rw [Package.sources, name_translate, sourceOf?_append,
    sourceOf?_toList (f := Enum.source package) fun _ _ => name_of_getElem?_enums,
    sourceOf?_toList (f := Class.source package) fun _ _ => name_of_getElem?_classes]

/-- There is one source of a name for its class, and one for its enum. -/
theorem count_sources (m : Model) (package name : String) :
    ((translate m package).package.sources.map Prod.fst).count name =
      (if name ∈ (translate m package).package.classes then 1 else 0) +
        if name ∈ (translate m package).package.enums then 1 else 0 := by
  rw [Package.sources, List.map_append, List.count_append,
    count_toList (f := Enum.source _) fun _ _ => name_of_getElem?_enums,
    count_toList (f := Class.source _) fun _ _ => name_of_getElem?_classes]

/-- The names of the sources are those of the package. -/
theorem mem_sources_iff : name ∈ (translate m package).package.sources.map Prod.fst ↔
    (translate m package).package.contains name = true := by
  rw [← List.count_pos_iff, count_sources, Package.contains, Bool.or_eq_true,
    ExtTreeMap.contains_iff_mem, ExtTreeMap.contains_iff_mem]
  by_cases hclass : name ∈ (translate m package).package.classes <;>
    by_cases henum : name ∈ (translate m package).package.enums <;> simp [hclass, henum]

theorem length_sources (p : Package) : p.sources.length = p.size := by
  simp [Package.sources, Package.size, ExtTreeMap.length_toList]

/-- **A name with one kind of type.**  Its only source is that of the type at the greatest path. -/
theorem exists_isLast_of_not_clash (package : String) {path : String} (ht : m.type? path = some t)
    (hname : typeName m t = name) (h : ¬Clash m name) :
    ∃ path t, m.IsLast (typeName m · = name) path t ∧
      sourceOf? (translate m package).package.sources name = some (typeSource m package t) ∧
      ((translate m package).package.sources.map Prod.fst).count name = 1 := by
  obtain ⟨path, t, hlast⟩ := Model.exists_isLast (P := (typeName m · = name)) ht hname
  refine ⟨path, t, hlast, ?_⟩
  rw [sourceOf?_sources, count_sources, typeSource]
  cases hkind : (m.own? t).any Property.isEnum with
  | true =>
    have henum : IsEnumNamed m name t := ⟨hlast.holds, hkind⟩
    have hno : name ∉ (translate m package).package.classes := fun hclass =>
      h ⟨mem_classes_translate_iff.mp hclass, path, t, hlast.type, henum⟩
    rw [getElem?_enums_eq_some_iff.mpr
        ⟨path, t, ⟨hlast.type, henum, fun ht' h' => hlast.greatest ht' h'.1⟩, rfl⟩,
      if_neg hno, if_pos (mem_enums_translate_iff.mpr ⟨path, t, hlast.type, henum⟩)]
    exact ⟨rfl, rfl⟩
  | false =>
    have hclass : IsClassNamed m name t := ⟨hlast.holds, hkind⟩
    have hno : name ∉ (translate m package).package.enums := fun henum =>
      h ⟨⟨path, t, hlast.type, hclass⟩, mem_enums_translate_iff.mp henum⟩
    rw [getElem?_classes_eq_some_iff.mpr
        ⟨path, t, ⟨hlast.type, hclass, fun ht' h' => hlast.greatest ht' h'.1⟩, rfl⟩,
      ExtTreeMap.getElem?_eq_none hno, if_neg hno,
      if_pos (mem_classes_translate_iff.mpr ⟨path, t, hlast.type, hclass⟩)]
    exact ⟨rfl, rfl⟩

/-- **A name with two kinds of types.**  Its last source is that of the enum at the greatest path
among the enums, and there is another one. -/
theorem exists_isLast_of_clash (package : String) (h : Clash m name) :
    ∃ path t, m.IsLast (IsEnumNamed m name) path t ∧
      sourceOf? (translate m package).package.sources name = some (typeSource m package t) ∧
      ((translate m package).package.sources.map Prod.fst).count name = 2 := by
  obtain ⟨hclass, henum⟩ := h
  obtain ⟨path, t, hlast⟩ := Model.exists_isLast henum.choose_spec.choose_spec.1
    henum.choose_spec.choose_spec.2
  refine ⟨path, t, hlast, ?_, ?_⟩
  · rw [sourceOf?_sources, getElem?_enums_eq_some_iff.mpr ⟨path, t, hlast, rfl⟩, typeSource,
      if_pos hlast.holds.2]
    rfl
  · rw [count_sources, if_pos (mem_classes_translate_iff.mpr hclass),
      if_pos (mem_enums_translate_iff.mpr henum)]

end SchemaBeans.Java
