import SchemaBeans.Proofs.Generation.Accepted
import SchemaBeans.Proofs.Java.Contents
import SchemaBeans.Proofs.Yaml.Equality

/-!
# Generation — the members of a class

The class of an object has a member or a constant for each name in the object: each name is that of
a property at a path of its own, which the object's type lists, and which is still there when
references have been resolved.

A property is found again by its path alone, so this takes safe names and types whose names differ.
The latter is so where there are no warnings; the former is not checked.  The path of a member whose
name has a slash in it seems to lie deeper, so the object does not list it, and the member is lost
without a word.
-/

namespace SchemaBeans.Schema

open Yaml (Node)

namespace Model

variable {m : Model} {t : SchemaType} {path : String} {names : List String} {p : Property}

/-- The properties with these names below a path, of those that are there. -/
def below (m : Model) (path : String) (names : List String) : List Property :=
  names.filterMap fun name => m.property? (Path.child path name)

/-- The members of a type that lists the paths of some names are their properties, in some order. -/
theorem members_perm_below (hnodup : names.Nodup)
    (h : ∀ q, q ∈ t.properties ↔ q ∈ names.map (Path.child path)) :
    (m.members t).Perm (m.below path names) := by
  have hlist : t.properties.toList.Perm (names.map (Path.child path)) := by
    rw [List.perm_ext_iff_of_nodup ?_ (hnodup.map fun _ _ => Path.child_right_injective)]
    · intro q
      rw [Std.ExtTreeSet.mem_toList, h]
    · exact nodup_toList _
  have hbelow := hlist.filterMap m.property?
  rwa [List.filterMap_map] at hbelow

section Named

variable (h : ∀ name ∈ names, ∃ p, m.property? (Path.child path name) = some p ∧ p.name = name)

include h

/-- If each name is that of a property, the properties have all the names. -/
theorem map_name_below : (m.below path names).map Property.name = names := by
  rw [below, List.map_filterMap, List.filterMap_congr fun name hn => ?_, List.filterMap_some]
  obtain ⟨p, hp, hname⟩ := h name hn
  rw [hp, Option.map_some, hname]

/-- If each name is that of a property, each property is found by its name. -/
theorem property?_of_mem_below (hp : p ∈ m.below path names) :
    m.property? (Path.child path p.name) = some p := by
  obtain ⟨name, hn, hp⟩ := List.mem_filterMap.mp hp
  obtain ⟨p', hp', hname⟩ := h name hn
  rw [hp, Option.some.injEq] at hp'
  rw [hp', hname, ← hp', hp]

end Named

end Model

namespace Extraction.IsFilled

variable {schemas : List (Node × Node)} {x : Extraction} {c : Site} {dimensions : Nat}
  {element : List (Node × Node)}

/-- An object that is no choice of values has a type at its path, which lists the paths of the
object's members, and a property that is neither a reference nor a choice of values. -/
theorem lookup_of_object (h : x.IsFilled schemas) (hsafe : PathSafe schemas)
    (hempty : x.errors.isEmpty = true) (hc : IsSite schemas c)
    (he : HasElement c.node dimensions element) (hd : Declares element (.type objectType))
    (hsingle : ¬IsMultiValued element) :
    ∃ t p, x.model.type? c.path = some t ∧ t.name = typeNameAt c.path ∧ t.ownProperty = c.path ∧
      (∀ q, q ∈ t.properties ↔ q ∈ (namesOf (memberEntries element)).map (Path.child c.path)) ∧
      x.model.property? c.path = some p ∧ p.isReference = false ∧ p.isEnum = false := by
  obtain ⟨top, htop, hreach⟩ := hc
  have hsound : ∀ path ∈ x.errors.paths, Path.isWithin path top.path = false :=
    fun path hpath => absurd hpath (Errors.isEmpty_iff.mp hempty path)
  obtain ⟨_, _, _, _, -, hp, ht⟩ := h.lookup_of_reaches hsafe htop hsound hreach
  obtain ⟨description, hs⟩ := Shape.ofNode_of_hasElement he hd
  have hvisited := Shape.visited_of_hasProperties ⟨dimensions, element, he, hd, rfl⟩
  have hpaths : Shape.memberPaths c.path (Shape.ofNode c.node).visited =
      (namesOf (memberEntries element)).map (Path.child c.path) := by
    rw [hvisited, Shape.memberPaths, ← Shape.map_fst_ofEntries, List.map_map]
    rfl
  rw [hs, Shape.propertyAt] at hp
  have htyped : IsTyped (Shape.elementOf (.type objectType) element) := Or.inl rfl
  rw [Shape.typeAt, hpaths, hs, Shape.bareTypeAt, if_pos htyped, Option.map_some] at ht
  refine ⟨_, _, ht, rfl, rfl, fun q => ?_, hp, ?_, ?_⟩
  · rw [SchemaType.mem_properties_listing, or_iff_right Std.ExtTreeSet.not_mem_empty]
  · refine Property.isReference_eq_false_iff.mpr fun path hpath => ?_
    have hobject : (Declaration.reference path).typeName = objectType := by
      rw [Declaration.typeName, ← hpath]
      exact typeName_propertyOf _ _ _ _
    cases Declaration.typeName_eq_objectType_iff.mp hobject
  · change (propertyOf c.path description dimensions _).isEnum = false
    rw [isEnum_propertyOf, decide_eq_false_iff_not, Shape.one_lt_size_values_iff]
    exact hsingle

/-- Each name among the members of an object is that of a property. -/
theorem property?_of_member (h : x.IsFilled schemas) (hsafe : PathSafe schemas)
    (hempty : x.errors.isEmpty = true) (hc : IsSite schemas c)
    (he : HasElement c.node dimensions element) (hd : Declares element (.type objectType))
    {name : String} (hname : name ∈ namesOf (memberEntries element)) :
    ∃ p, x.model.property? (Path.child c.path name) = some p ∧ p.name = name := by
  obtain ⟨⟨key, n⟩, hentry, hkey⟩ := List.mem_filterMap.mp hname
  obtain ⟨top, htop, hreach⟩ := hc
  have hsound : ∀ path ∈ x.errors.paths, Path.isWithin path top.path = false :=
    fun path hpath => absurd hpath (Errors.isEmpty_iff.mp hempty path)
  have hmember : c.HasMember ⟨Path.child c.path name, name, n⟩ :=
    ⟨_, ⟨dimensions, element, he, hd, rfl⟩, ⟨key, hentry, hkey⟩, rfl⟩
  obtain ⟨p, hp, -, hpname⟩ := (h.holds hsafe htop hsound).property (hreach.tail hmember)
  exact ⟨p, hp, hpname⟩

/-! ### After resolution -/

section Resolved

variable (h : x.IsFilled schemas) (hsafe : PathSafe schemas) (hm : x.model.Indexed)
  (hempty : (resolve x.model x.errors).errors.isEmpty = true) (hc : IsSite schemas c)
  (he : HasElement c.node dimensions element) (hd : Declares element (.type objectType))

include h hsafe hm hempty hc he hd

/-- Where no errors are left, the type of an object is still there, and the property that introduced
it is no choice of values. -/
theorem type?_resolve_of_object (hsingle : ¬IsMultiValued element) :
    ∃ t p, (resolve x.model x.errors).model.type? c.path = some t ∧ t.name = typeNameAt c.path ∧
      (∀ q, q ∈ t.properties ↔ q ∈ (namesOf (memberEntries element)).map (Path.child c.path)) ∧
      (resolve x.model x.errors).model.own? t = some p ∧ p.isEnum = false := by
  obtain ⟨t, p, ht, hname, hown, hlist, hp, href, henum⟩ := h.lookup_of_object hsafe
    ((isEmpty_errors_resolve_iff hm _).mp hempty).1 hc he hd hsingle
  refine ⟨t, p, (type?_resolve_of_isEmpty hm hempty _).trans ht, hname, hlist, ?_, henum⟩
  rw [Model.own?, hown, property?_resolve_of_isEmpty hm hempty, hp, Option.map_some,
    Model.meaning_of_not_isReference href]

/-- Where no errors are left, each name among the members of an object is still that of a
property. -/
theorem property?_resolve_of_member {name : String}
    (hname : name ∈ namesOf (memberEntries element)) :
    ∃ p, (resolve x.model x.errors).model.property? (Path.child c.path name) = some p ∧
      p.name = name := by
  obtain ⟨p, hp, hpname⟩ := h.property?_of_member hsafe
    ((isEmpty_errors_resolve_iff hm _).mp hempty).1 hc he hd hname
  refine ⟨x.model.meaning p, ?_, by rw [Model.name_meaning, hpname]⟩
  rw [property?_resolve_of_isEmpty hm hempty, hp, Option.map_some]

end Resolved

end Extraction.IsFilled

end SchemaBeans.Schema

namespace SchemaBeans.Generation

open Schema
open Yaml (Node)

/-! ### Counts -/

theorem foldl_record {α β : Type} (part : Stats → β) {record : Stats → α → Stats}
    (h : ∀ s a, part (record s a) = part s) (l : List α) (s : Stats) :
    part (l.foldl record s) = part s := by
  induction l generalizing s with
  | nil => rfl
  | cons a l ih => rw [List.foldl_cons, ih, h]

/-- What counting a class and an enum leaves alone, counting a package does. -/
theorem part_recordPackage {β : Type} (part : Stats → β)
    (hclass : ∀ s c, part (s.recordClass c) = part s)
    (henum : ∀ s e, part (s.recordEnum e) = part s)
    (s : Stats) (p : Java.Package) : part (s.recordPackage p) = part s := by
  rw [Stats.recordPackage, foldl_record part henum, foldl_record part hclass]

/-- The warnings of a translation are those of the extraction and those about names. -/
theorem warnings_statsOf (x : Extraction) (t : Java.Translation) :
    (statsOf x t).warnings = x.warnings ++ t.warnings := by
  rw [statsOf, part_recordPackage Stats.warnings (fun _ _ => rfl) fun _ _ => rfl]
  rfl

/-! ### Members -/

variable {package text : String} {product : Product} {document : Node}
  {schemas : List (Node × Node)} {c : Site} {dimensions : Nat} {element : List (Node × Node)}

/-- **Members.**  Let a text that is read as a path-safe document be translated without a warning.
The class of an object that is no choice of values then has a member or a constant for the property
of each name in the object, and no others. -/
theorem members_of_object (hread : Yaml.read text = .ok document)
    (hc : components document = .ok schemas) (hsafe : PathSafe schemas)
    (hproduct : (translate package text).result = .ok product)
    (hwarnings : product.stats.warnings = []) (hsite : IsSite schemas c)
    (he : HasElement c.node dimensions element) (hd : Declares element (.type objectType))
    (hsingle : ¬IsMultiValued element) :
    ∃ x r cls, ∃ ps : List Property, extract document = .ok x ∧
      resolve? x.model x.errors = .ok r ∧
      product.package.classes[Extraction.typeNameAt c.path]? = some cls ∧
      ps.map Property.name = namesOf (memberEntries element) ∧
      (∀ p ∈ ps, r.model.property? (Path.child c.path p.name) = some p) ∧
      cls.members.Perm ((ps.filter (!·.isConstant)).map (Java.dataMember r.model)) ∧
      cls.constants.Perm ((ps.filter (·.isConstant)).map (Java.constantMember r.model)) := by
  obtain ⟨x, hx, hfilled⟩ := Extraction.exists_isFilled hc hsafe
  have hm := (extract_wellPlaced hx).indexed
  rw [translate_of_read hread hx] at hproduct
  split at hproduct
  · next hempty =>
    cases hproduct
    rw [warnings_statsOf, List.append_eq_nil_iff] at hwarnings
    obtain ⟨t, p, ht, hname, hlist, hown, henum⟩ :=
      hfilled.type?_resolve_of_object hsafe hm hempty hsite he hd hsingle
    -- no other type has the name, so the class of this one is there
    have hclass := Java.getElem?_classes_of_warnings hwarnings.2 ht (Java.class?_of_own? hown henum)
    have hnames := fun name (hn : name ∈ namesOf (memberEntries element)) =>
      hfilled.property?_resolve_of_member hsafe hm hempty hsite he hd hn
    have hperm := Model.members_perm_below (m := (resolve x.model x.errors).model)
      (hsafe.members hsite ⟨dimensions, element, he, hd, rfl⟩).nodup hlist
    refine ⟨x, _, _, _, hx, resolve?_of_read hread hx, ?_, Model.map_name_below hnames,
      fun p hp => Model.property?_of_mem_below hnames hp,
      (Java.members_translateClass _ t).trans ((hperm.filter _).map _),
      (Java.constants_translateClass _ t).trans ((hperm.filter _).map _)⟩
    rwa [← hname, ← Java.typeName_of_own? hown henum]
  · cases hproduct

/-- An object with a text, a constant and itself for members. -/
def recursiveObject : String :=
  "components:\n  schemas:\n" ++
  "    a: \x7btype: object, properties: \x7bb: \x7btype: string\x7d, " ++
  "c: \x7btype: string, enum: [x]\x7d, d: \x7b$ref: '#/components/schemas/a'\x7d\x7d\x7d\n"

/-- The entries of the object. -/
def recursiveObjectEntries : List (Node × Node) :=
  [(.string "type", .string "object"), (.string "properties", .mapping
    [(.string "b", .mapping [(.string "type", .string "string")]),
      (.string "c", .mapping
        [(.string "type", .string "string"), (.string "enum", .sequence [.string "x"])]),
      (.string "d", .mapping [(.string "$ref", .string "#/components/schemas/a")])])]

/-- The names of the members and of the constants of a class. -/
def memberNames (package : Java.Package) (name : String) : Option (List String × List String) :=
  package.classes[name]?.map fun c =>
    (c.members.map Java.Member.name, c.constants.map Java.Member.name)

/-- The class has two members and a constant. -/
theorem recursiveObject_members : ∃ document schemas product c x r cls, ∃ ps : List Property,
    Yaml.read recursiveObject = .ok document ∧ components document = .ok schemas ∧
      PathSafe schemas ∧ (translate "pets" recursiveObject).result = .ok product ∧
      product.stats.warnings = [] ∧ IsSite schemas c ∧ HasElement c.node 0 recursiveObjectEntries ∧
      Declares recursiveObjectEntries (.type objectType) ∧
      ¬IsMultiValued recursiveObjectEntries ∧ extract document = .ok x ∧
      resolve? x.model x.errors = .ok r ∧
      product.package.classes[Extraction.typeNameAt c.path]? = some cls ∧
      cls.members.map Java.Member.name = ["b", "d"] ∧ cls.constants.map Java.Member.name = ["C"] ∧
      ps.map Property.name = ["b", "c", "d"] ∧
      (∀ p ∈ ps, r.model.property? (Path.child c.path p.name) = some p) ∧
      cls.members.Perm ((ps.filter (!·.isConstant)).map (Java.dataMember r.model)) ∧
      cls.constants.Perm ((ps.filter (·.isConstant)).map (Java.constantMember r.model)) := by
  have hread : Yaml.read recursiveObject =
      .ok (documentOf [(.string "a", .mapping recursiveObjectEntries)]) := by decide +kernel
  have hrun : (translateDocument "pets"
      (documentOf [(.string "a", .mapping recursiveObjectEntries)])).result.toOption.any
        (fun product => product.stats.warnings = [] ∧
          memberNames product.package "A" = some (["b", "d"], ["C"])) = true := by
    decide +kernel
  obtain ⟨product, hproduct, hrun⟩ := exists_of_toOption_any hrun
  obtain ⟨hwarnings, hnames⟩ := of_decide_eq_true hrun
  have hresult : (translate "pets" recursiveObject).result = .ok product := by
    rw [translate, hread]
    exact hproduct
  have hsafe : PathSafe [(.string "a", .mapping recursiveObjectEntries)] := by decide +kernel
  have hsite : IsSite [(.string "a", .mapping recursiveObjectEntries)]
      ⟨"#/components/schemas/a", "a", .mapping recursiveObjectEntries⟩ :=
    ⟨_, ⟨⟨_, List.mem_singleton_self _, rfl⟩, by decide⟩, .refl⟩
  have hd : Declares recursiveObjectEntries (.type objectType) := .type rfl rfl (by decide)
  have hsingle : ¬IsMultiValued recursiveObjectEntries := by
    rintro ⟨a, ha, -⟩
    cases ha
  have he : HasElement (.mapping recursiveObjectEntries) 0 recursiveObjectEntries :=
    .scalar rfl hd.not_isArray
  obtain ⟨x, r, cls, ps, hx, hr, hcls, hps, hrest⟩ :=
    members_of_object hread rfl hsafe hresult hwarnings hsite he hd hsingle
  have hname : Extraction.typeNameAt "#/components/schemas/a" = "A" := by decide +kernel
  rw [memberNames, ← hname, hcls, Option.map_some, Option.some.injEq, Prod.mk.injEq] at hnames
  exact ⟨_, _, product, _, x, r, cls, ps, hread, rfl, hsafe, hresult, hwarnings, hsite, he, hd,
    hsingle, hx, hr, hcls, hnames.1, hnames.2, hps, hrest⟩

/-- An object with a member whose name has a slash in it. -/
def slashedMember : String :=
  "components:\n  schemas:\n" ++
  "    A: \x7btype: object, properties: \x7ba/b: \x7btype: string\x7d\x7d\x7d\n"

/-- The entries of the object. -/
def slashedMemberEntries : List (Node × Node) :=
  [(.string "type", .string "object"), (.string "properties", .mapping
    [(.string "a/b", .mapping [(.string "type", .string "string")])])]

/-- The member is lost: the class is empty, and there is no warning. -/
theorem slashedMember_lost : ∃ document schemas product c cls,
    Yaml.read slashedMember = .ok document ∧ components document = .ok schemas ∧
      (translate "pets" slashedMember).result = .ok product ∧ product.stats.warnings = [] ∧
      IsSite schemas c ∧ HasElement c.node 0 slashedMemberEntries ∧
      Declares slashedMemberEntries (.type objectType) ∧ ¬IsMultiValued slashedMemberEntries ∧
      namesOf (memberEntries slashedMemberEntries) = ["a/b"] ∧ product.package.size = 1 ∧
      product.package.classes[Extraction.typeNameAt c.path]? = some cls ∧
      cls.members = [] ∧ cls.constants = [] := by
  have hread : Yaml.read slashedMember =
      .ok (documentOf [(.string "A", .mapping slashedMemberEntries)]) := by decide +kernel
  have hrun : (translateDocument "pets"
      (documentOf [(.string "A", .mapping slashedMemberEntries)])).result.toOption.any
        (fun product => product.stats.warnings = [] ∧ product.package.size = 1 ∧
          memberNames product.package (Extraction.typeNameAt "#/components/schemas/A") =
            some ([], [])) = true := by
    decide +kernel
  obtain ⟨product, hproduct, hrun⟩ := exists_of_toOption_any hrun
  obtain ⟨hwarnings, hsize, hnames⟩ := of_decide_eq_true hrun
  obtain ⟨cls, hcls, hnames⟩ := Option.map_eq_some_iff.mp hnames
  rw [Prod.mk.injEq, List.map_eq_nil_iff, List.map_eq_nil_iff] at hnames
  have hd : Declares slashedMemberEntries (.type objectType) := .type rfl rfl (by decide)
  have hsingle : ¬IsMultiValued slashedMemberEntries := by
    rintro ⟨a, ha, -⟩
    cases ha
  refine ⟨_, _, product, ⟨"#/components/schemas/A", "A", .mapping slashedMemberEntries⟩, cls, hread,
    rfl, ?_, hwarnings, ⟨_, ⟨⟨_, List.mem_singleton_self _, rfl⟩, by decide⟩, .refl⟩,
    .scalar rfl hd.not_isArray, hd, hsingle, rfl, hsize, hcls, hnames⟩
  rw [translate, hread]
  exact hproduct

end SchemaBeans.Generation
