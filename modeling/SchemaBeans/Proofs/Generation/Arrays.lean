import SchemaBeans.Proofs.Generation.Closed

/-!
# Generation — arrays of arrays

The node of a schema is a number of nested arrays around an element (`HasElement`).  Where the
element is no reference, the type of the member has as many pairs of brackets behind the spelling of
the element.  Where it is one, the arrays of its target come inside those of the schema itself, so
their numbers add up, and the elements are spelled as those of the target (`IsArrayOf`).

Resolution adds the dimensions of a target to those of an array, and lets a scalar take over those
of its target; that is a sum too (`dimensions_resolved`).  A target is never a reference, so two
summands are all there are.  The sum is carried to the member as a largest number of occurrences,
and its type has the brackets that are counted in that number (`Java.memberType_eq`).
-/

namespace SchemaBeans.Schema

open Yaml (Node)

/-! ### What the document says -/

instance (element : List (Node × Node)) : Decidable (IsMultiValued element) :=
  inferInstanceAs (Decidable (∃ a ∈ _, ∃ b ∈ _, a ≠ b))

/-- The element is a type of its own. -/
def IsOwnType (element : List (Node × Node)) (declaration : Declaration) : Prop :=
  declaration = .type objectType ∨ IsMultiValued element

/-- How an element that is no reference is spelled at a path: by the name of the type of its own,
in Pascal case if it is a choice of values, or else as its declaration. -/
def elementSpelling (path : String) (element : List (Node × Node)) (declaration : Declaration) :
    String :=
  if IsMultiValued element then Naming.pascal (Extraction.typeNameAt path)
  else if declaration = .type objectType then Extraction.typeNameAt path
  else Java.spelling declaration.typeName

/-- The schema is `dimensions` nested arrays around an element, no reference, that is spelled
`base`. -/
def IsOwnArray (d : Site) (base : String) (dimensions : Nat) : Prop :=
  ∃ element declaration, HasElement d.node dimensions element ∧ Declares element declaration ∧
    (∀ target, ¬RefersTo d.node target) ∧ base = elementSpelling d.path element declaration

/-- The schema is `dimensions` nested arrays around elements that are spelled `base`, those of the
target included if the innermost element is a reference. -/
inductive IsArrayOf (schemas : List (Node × Node)) (d : Site) : String → Nat → Prop where
  | own {base : String} {dimensions : Nat} (h : IsOwnArray d base dimensions) :
      IsArrayOf schemas d base dimensions
  | referred {target : Site} {base : String} {dimensions inner : Nat}
      {element : List (Node × Node)} (he : HasElement d.node dimensions element)
      (hto : RefersTo d.node target.path) (ht : IsSite schemas target)
      (h : IsOwnArray target base inner) : IsArrayOf schemas d base (dimensions + inner)

/-- A node has one element. -/
theorem HasElement.unique {n : Node} {k k' : Nat} {element element' : List (Node × Node)}
    (h : HasElement n k element) (h' : HasElement n k' element') : k = k' ∧ element = element' := by
  induction h generalizing k' with
  | scalar h ha =>
    cases h' with
    | scalar h' => exact ⟨rfl, Option.some.inj (h.symm.trans h')⟩
    | array h' ha' => exact absurd (Option.some.inj (h.symm.trans h') ▸ ha') ha
  | array h ha hi _ ih =>
    cases h' with
    | scalar h' ha' => exact absurd (Option.some.inj (h.symm.trans h') ▸ ha) ha'
    | array h' _ hi' he' =>
      obtain rfl := Option.some.inj (h.symm.trans h')
      obtain rfl := Option.some.inj (hi.symm.trans hi')
      exact ⟨congrArg (· + 1) (ih he').1, (ih he').2⟩

/-! ### What is extracted -/

/-- The property says what the node of the site does. -/
structure Property.Says (p : Property) (d : Site) (dimensions : Nat)
    (element : List (Node × Node)) (declaration : Declaration) : Prop where
  name : p.name = d.name
  typeName : p.typeName = declaration.typeName
  isEnum : p.isEnum = true ↔ IsMultiValued element
  dimensions : p.cardinality.dimensions = dimensions
  resolvedType : IsOwnType element declaration → p.resolvedType = some d.path
  unresolvedType : ¬IsOwnType element declaration → p.resolvedType = none

theorem Property.dimensions_resolved (p referent : Property) :
    (p.resolved referent).cardinality.dimensions =
      p.cardinality.dimensions + referent.cardinality.dimensions := by
  have hinherits := p.inherits_resolved referent
  cases hcollection : p.isCollection with
  | true => exact (hinherits.collection hcollection).2
  | false =>
    have hzero : p.cardinality.dimensions = 0 := Nat.eq_zero_of_not_pos
      (of_decide_eq_false hcollection)
    rw [hinherits.scalar hcollection, hzero, Nat.zero_add]

namespace Extraction.IsFilled

variable {schemas : List (Node × Node)} {x : Extraction} {c d : Site} {dimensions : Nat}
  {element : List (Node × Node)} {declaration : Declaration} {base : String}

section Extracted

variable (h : x.IsFilled schemas) (hsafe : PathSafe schemas) (hempty : x.errors.isEmpty = true)
  (hd : IsSite schemas d)

include h hsafe hempty hd

/-- The property of a site says what its node does, and a type of its own is there. -/
theorem exists_says (he : HasElement d.node dimensions element)
    (hdecl : Declares element declaration) :
    ∃ p, x.model.property? d.path = some p ∧ p.Says d dimensions element declaration ∧
      (IsOwnType element declaration → ∃ t, x.model.type? d.path = some t ∧
        t.name = typeNameAt d.path ∧ t.ownProperty = d.path) := by
  obtain ⟨top, htop, hreach⟩ := hd
  have hsound : ∀ path ∈ x.errors.paths, Path.isWithin path top.path = false :=
    fun path hpath => absurd hpath (Errors.isEmpty_iff.mp hempty path)
  obtain ⟨_, _, _, _, -, hp, ht⟩ := h.lookup_of_reaches hsafe htop hsound hreach
  obtain ⟨p, hp', -, hname⟩ := (h.holds hsafe htop hsound).property hreach
  obtain ⟨description, hs⟩ := Shape.ofNode_of_hasElement he hdecl
  have htyped : IsTyped (Shape.elementOf declaration element) ↔ IsOwnType element declaration :=
    or_congr Declaration.typeName_eq_objectType_iff Shape.one_lt_size_values_iff
  rw [hs, Shape.propertyAt, hp', Option.some.injEq] at hp
  refine ⟨p, hp', ⟨hname, ?_, ?_, ?_, fun hown => ?_, fun hown => ?_⟩, fun hown => ?_⟩
  · rw [hp, typeName_propertyOf]
    rfl
  · rw [hp]
    change (propertyOf d.path description dimensions _).isEnum = true ↔ _
    rw [isEnum_propertyOf, decide_eq_true_eq, Shape.one_lt_size_values_iff]
  · rw [hp]
  · rw [hp, propertyOf_eq]
    exact if_pos (htyped.mpr hown)
  · rw [hp, propertyOf_eq]
    exact if_neg (htyped.not.mpr hown)
  · rw [Shape.typeAt, hs, Shape.bareTypeAt, if_pos (htyped.mpr hown), Option.map_some] at ht
    exact ⟨_, ht, rfl, rfl⟩

end Extracted

/-! ### What is left after resolution -/

section Resolved

variable (h : x.IsFilled schemas) (hsafe : PathSafe schemas) (hm : x.model.Indexed)
  (hempty : (resolve x.model x.errors).errors.isEmpty = true) (hd : IsSite schemas d)

include h hsafe hm hempty hd

/-- A schema that is no reference is left with its own dimensions and its own spelling. -/
theorem exists_property?_of_isOwnArray (hown : IsOwnArray d base dimensions) :
    ∃ p, x.model.property? d.path = some p ∧ p.isReference = false ∧ p.name = d.name ∧
      p.cardinality.dimensions = dimensions ∧
      Java.elementType (resolve x.model x.errors).model p = base := by
  obtain ⟨element, declaration, he, hdecl, hno, rfl⟩ := hown
  obtain ⟨p, hp, hmeans, htype⟩ :=
    h.exists_says hsafe ((isEmpty_errors_resolve_iff hm _).mp hempty).1 hd he hdecl
  have href : p.isReference = false := by
    rw [Property.isReference_eq_false_iff, hmeans.typeName]
    exact fun target hto => hno target ((refersTo_iff he hdecl).mpr hto)
  refine ⟨p, hp, href, hmeans.name, hmeans.dimensions, ?_⟩
  by_cases hown : IsOwnType element declaration
  · obtain ⟨t, ht, hname, hpath⟩ := htype hown
    have ht' := (type?_resolve_of_isEmpty hm hempty d.path).trans ht
    have hself : (resolve x.model x.errors).model.own? t = some p := by
      rw [Model.own?, hpath, property?_resolve_of_isEmpty hm hempty, hp, Option.map_some,
        Model.meaning_of_not_isReference href]
    rw [Java.elementType_of_type? (hmeans.resolvedType hown) ht', Java.typeName, hself,
      Option.any_some, hname, elementSpelling]
    by_cases hmulti : IsMultiValued element
    · rw [if_pos (hmeans.isEnum.mpr hmulti), if_pos hmulti]
    · rw [if_neg fun henum => hmulti (hmeans.isEnum.mp henum), if_neg hmulti,
        if_pos (hown.resolve_right hmulti)]
  · obtain ⟨hobject, hmulti⟩ := not_or.mp hown
    rw [Java.elementType_of_resolvedType_eq_none _ (hmeans.unresolvedType hown), hmeans.typeName,
      elementSpelling, if_neg hmulti, if_neg hobject]

/-- A schema is left with the dimensions and the spelling that the document gives it. -/
theorem exists_property?_of_isArrayOf (harray : IsArrayOf schemas d base dimensions) :
    ∃ p, (resolve x.model x.errors).model.property? d.path = some p ∧ p.name = d.name ∧
      Java.memberType (resolve x.model x.errors).model p =
        base ++ String.join (List.replicate dimensions "[]") := by
  cases harray with
  | own hown =>
    obtain ⟨p, hp, href, hname, hdims, hbase⟩ :=
      h.exists_property?_of_isOwnArray hsafe hm hempty hd hown
    refine ⟨p, ?_, hname, by rw [Java.memberType_eq, hbase, hdims]⟩
    rw [property?_resolve_of_isEmpty hm hempty, hp, Option.map_some,
      Model.meaning_of_not_isReference href]
  | @referred target _ k inner element he hto ht hown =>
    obtain ⟨_, _, declaration, he', hdecl, -⟩ := id hto
    obtain ⟨rfl, rfl⟩ := he.unique he'
    obtain ⟨p, hp, hmeans, -⟩ :=
      h.exists_says hsafe ((isEmpty_errors_resolve_iff hm _).mp hempty).1 hd he hdecl
    obtain ⟨referent, hreferent, -, -, hdims, hbase⟩ :=
      h.exists_property?_of_isOwnArray hsafe hm hempty ht hown
    have href : p.reference? = some target.path := by
      rw [Property.reference?_eq_some_iff, hmeans.typeName]
      exact (refersTo_iff he hdecl).mp hto
    -- the elements of the resolved property are those of the referent
    have helement : Java.elementType (resolve x.model x.errors).model (p.resolved referent) =
        Java.elementType (resolve x.model x.errors).model referent := rfl
    refine ⟨p.resolved referent, ?_, hmeans.name, ?_⟩
    · rw [property?_resolve_of_isEmpty hm hempty, hp, Option.map_some,
        Model.meaning_of_reference? href hreferent]
    · rw [Java.memberType_eq, helement, hbase, Property.dimensions_resolved, hmeans.dimensions,
        hdims]

end Resolved

/-- Where no errors are left, each type is that of a site, and lists the paths of its members. -/
theorem exists_isSite_of_type? (h : x.IsFilled schemas) (hsafe : PathSafe schemas)
    (hm : x.model.WellPlaced) (hempty : (resolve x.model x.errors).errors.isEmpty = true)
    {path : String} {t : SchemaType}
    (ht : (resolve x.model x.errors).model.type? path = some t) :
    ∃ c, IsSite schemas c ∧ c.path = path ∧
      ∀ q, q ∈ t.properties ↔ ∃ d, c.HasMember d ∧ d.path = q := by
  have hnone := Errors.isEmpty_iff.mp ((isEmpty_errors_resolve_iff hm.indexed _).mp hempty).1
  rw [type?_resolve_of_isEmpty hm.indexed hempty] at ht
  obtain ⟨p, hp⟩ := Option.isSome_iff_exists.mp (hm.property (Option.isSome_of_eq_some ht))
  obtain ⟨c, hc, rfl⟩ := h.exists_isSite hp
  obtain ⟨top, htop, hreach⟩ := id hc
  have hholds := h.holds hsafe htop fun path hpath => absurd hpath (hnone path)
  exact ⟨c, hc, rfl, hholds.members hreach ht⟩

end Extraction.IsFilled

end SchemaBeans.Schema

namespace SchemaBeans.Generation

open Schema
open Yaml (Node)

/-- Every schema of an accepted document is a number of nested arrays. -/
theorem Accepted.exists_isArrayOf {schemas : List (Node × Node)} {d : Site} (h : Accepted schemas)
    (hd : IsSite schemas d) : ∃ base dimensions, IsArrayOf schemas d base dimensions := by
  obtain ⟨k, element, declaration, he, hdecl⟩ := h.isSchema hd
  by_cases hto : ∃ path, RefersTo d.node path
  · obtain ⟨path, hto⟩ := hto
    obtain ⟨target, ht, rfl, hown⟩ := h.target hd hto
    obtain ⟨inner, element', name, he', hdecl', hname⟩ := id hown
    have hno : ∀ path, ¬RefersTo target.node path := fun path hto' =>
      ((hasOwnType_iff he' hdecl').mp hown).2 path ((refersTo_iff he' hdecl').mp hto')
    exact ⟨_, _, .referred he hto ht ⟨element', _, he', hdecl', hno, rfl⟩⟩
  · exact ⟨_, k, .own ⟨element, declaration, he, hdecl, not_exists.mp hto, rfl⟩⟩

/-- The member is that of the property at a site. -/
def IsMemberOf (m : Model) (d : Site) (member : Java.Member) : Prop :=
  ∃ p, m.property? d.path = some p ∧ p.name = d.name ∧
    (member = Java.dataMember m p ∨ member = Java.constantMember m p)

/-- A class is that of a site: it has a member or a constant for each member of the object there,
and no others, and each has the type that the document gives it. -/
structure IsClassOf (schemas : List (Node × Node)) (m : Model) (c : Site) (cls : Java.Class) :
    Prop where
  type : ∃ t, m.type? c.path = some t ∧ cls = Java.translateClass m t
  member {d : Site} : c.HasMember d → ∃ member ∈ cls.members ++ cls.constants, IsMemberOf m d member
  site {member : Java.Member} : member ∈ cls.members ++ cls.constants →
    ∃ d, c.HasMember d ∧ IsMemberOf m d member
  array {d : Site} : c.HasMember d → ∃ base dimensions, IsArrayOf schemas d base dimensions
  memberType {d : Site} {member : Java.Member} {base : String} {dimensions : Nat} :
    c.HasMember d → IsMemberOf m d member → IsArrayOf schemas d base dimensions →
      member.type = base ++ String.join (List.replicate dimensions "[]")

/-- The members and the constants of a class are those of the properties that its type lists. -/
theorem exists_mem_class {m : Model} {t : SchemaType} {p : Property} (hp : p ∈ m.members t) :
    ∃ member ∈ (Java.translateClass m t).members ++ (Java.translateClass m t).constants,
      member = Java.dataMember m p ∨ member = Java.constantMember m p := by
  cases hconstant : p.isConstant with
  | true =>
    refine ⟨_, List.mem_append_right _ ?_, Or.inr rfl⟩
    rw [(Java.constants_translateClass m t).mem_iff]
    exact List.mem_map_of_mem (List.mem_filter.mpr ⟨hp, hconstant⟩)
  | false =>
    refine ⟨_, List.mem_append_left _ ?_, Or.inl rfl⟩
    rw [(Java.members_translateClass m t).mem_iff]
    exact List.mem_map_of_mem (List.mem_filter.mpr ⟨hp, by rw [hconstant]; rfl⟩)

variable {document : Node} {schemas : List (Node × Node)} {x : Extraction}

/-- Where no errors are left, the class of each type is that of the site at the type's path. -/
theorem exists_isClassOf (h : x.IsFilled schemas) (hsafe : PathSafe schemas)
    (hm : x.model.WellPlaced) (hempty : (resolve x.model x.errors).errors.isEmpty = true)
    {path : String} {t : SchemaType}
    (ht : (resolve x.model x.errors).model.type? path = some t) :
    ∃ c, IsSite schemas c ∧ IsClassOf schemas (resolve x.model x.errors).model c
      (Java.translateClass (resolve x.model x.errors).model t) := by
  have haccepted := (isEmpty_errors_iff_accepted h hsafe hm.indexed).mp hempty
  obtain ⟨c, hc, rfl, hlists⟩ := h.exists_isSite_of_type? hsafe hm hempty ht
  have hsite : ∀ {d}, c.HasMember d → IsSite schemas d := by
    obtain ⟨top, htop, hreach⟩ := hc
    exact fun hd => ⟨top, htop, hreach.tail hd⟩
  -- the property of each member is there, and has the type that the document gives it
  have hmember : ∀ {d base dimensions}, c.HasMember d → IsArrayOf schemas d base dimensions →
      ∃ p, (resolve x.model x.errors).model.property? d.path = some p ∧ p.name = d.name ∧
        Java.memberType (resolve x.model x.errors).model p =
          base ++ String.join (List.replicate dimensions "[]") :=
    fun hd => h.exists_property?_of_isArrayOf hsafe hm.indexed hempty (hsite hd)
  refine ⟨c, hc, ⟨t, ht, rfl⟩, fun {d} hd => ?_, fun {member} hin => ?_,
    fun hd => haccepted.exists_isArrayOf (hsite hd), fun {d member _ _} hd hof harray => ?_⟩
  · obtain ⟨base, dimensions, harray⟩ := haccepted.exists_isArrayOf (hsite hd)
    obtain ⟨p, hp, hname, -⟩ := hmember hd harray
    have hlisted : p ∈ (resolve x.model x.errors).model.members t := List.mem_filterMap.mpr
      ⟨d.path, Std.ExtTreeSet.mem_toList.mpr ((hlists _).mpr ⟨d, hd, rfl⟩), hp⟩
    obtain ⟨member, hin, hkind⟩ := exists_mem_class hlisted
    exact ⟨member, hin, p, hp, hname, hkind⟩
  · obtain ⟨p, hp, hkind⟩ := Java.exists_of_mem_class hin
    obtain ⟨q, hq, hp⟩ := List.mem_filterMap.mp hp
    obtain ⟨d, hd, rfl⟩ := (hlists q).mp (Std.ExtTreeSet.mem_toList.mp hq)
    obtain ⟨base, dimensions, harray⟩ := haccepted.exists_isArrayOf (hsite hd)
    obtain ⟨p', hp', hname, -⟩ := hmember hd harray
    rw [hp, Option.some.injEq] at hp'
    exact ⟨d, hd, p, hp, hp' ▸ hname, hkind⟩
  · obtain ⟨p, hp, -, hkind⟩ := hof
    obtain ⟨p', hp', -, htype⟩ := hmember hd harray
    rw [hp, Option.some.injEq] at hp'
    rw [← htype, ← hp']
    rcases hkind with rfl | rfl <;> rfl

/-- **Arrays.**  Let a text that is read as a path-safe document be translated.  Each class of the
package is that of a site, with a member or a constant for each member of the object there.  The
type of each is the spelling of its innermost elements, with as many pairs of brackets behind it as
the document has nested arrays around them. -/
theorem arrays_of_translate {package text : String} {product : Product}
    (hread : Yaml.read text = .ok document) (hc : components document = .ok schemas)
    (hsafe : PathSafe schemas) (hproduct : (translate package text).result = .ok product) :
    ∃ x r, extract document = .ok x ∧ resolve? x.model x.errors = .ok r ∧
      ∀ (name : String) (cls : Java.Class), product.package.classes[name]? = some cls →
        ∃ c, IsSite schemas c ∧ IsClassOf schemas r.model c cls := by
  obtain ⟨x, hx, hfilled⟩ := Extraction.exists_isFilled hc hsafe
  refine ⟨x, _, hx, resolve?_of_read hread hx, fun name cls hcls => ?_⟩
  rw [translate_of_read hread hx] at hproduct
  split at hproduct
  · next hempty =>
    cases hproduct
    obtain ⟨path, t, ht, hclass, -⟩ := Java.exists_class?_of_getElem? hcls
    obtain ⟨-, rfl⟩ := Java.class?_eq_some_iff.mp hclass
    exact exists_isClassOf hfilled hsafe (extract_wellPlaced hx) hempty ht
  · cases hproduct

/-- An object with an array of arrays of references to an array, a reference to that array, and an
array of references to the object itself. -/
def arraysOfArrays : String :=
  "components:\n  schemas:\n" ++
  "    a: \x7btype: object, properties: \x7b" ++
  "b: \x7btype: array, items: \x7btype: array, items: \x7b$ref: '#/components/schemas/f'" ++
  "\x7d\x7d\x7d, " ++
  "c: \x7b$ref: '#/components/schemas/f'\x7d, " ++
  "d: \x7btype: array, items: \x7b$ref: '#/components/schemas/a'\x7d\x7d\x7d\x7d\n" ++
  "    f: \x7btype: array, items: \x7btype: string\x7d\x7d\n"

/-- The schemas of the object and of the array. -/
def arraysOfArraysSchemas : List (Node × Node) :=
  let array (items : Node) := Node.mapping
    [(.string "type", .string "array"), (.string "items", items)]
  let reference (path : String) := Node.mapping [(.string "$ref", .string path)]
  [(.string "a", .mapping [(.string "type", .string "object"), (.string "properties", .mapping
      [(.string "b", array (array (reference "#/components/schemas/f"))),
        (.string "c", reference "#/components/schemas/f"),
        (.string "d", array (reference "#/components/schemas/a"))])]),
    (.string "f", array (.mapping [(.string "type", .string "string")]))]

/-- The dimensions of a target are added to those of a reference, be there arrays around it or
not. -/
theorem arraysOfArrays_types : ∃ document product x r c cls,
    Yaml.read arraysOfArrays = .ok document ∧ components document = .ok arraysOfArraysSchemas ∧
      PathSafe arraysOfArraysSchemas ∧ (translate "pets" arraysOfArrays).result = .ok product ∧
      product.package.classes["A"]? = some cls ∧
      cls.members.map (fun member => (member.name, member.type)) =
        [("b", "String[][][]"), ("c", "String[]"), ("d", "A[]")] ∧
      extract document = .ok x ∧ resolve? x.model x.errors = .ok r ∧
      IsSite arraysOfArraysSchemas c ∧ IsClassOf arraysOfArraysSchemas r.model c cls := by
  have hread : Yaml.read arraysOfArrays = .ok (documentOf arraysOfArraysSchemas) := by
    decide +kernel
  have hsafe : PathSafe arraysOfArraysSchemas := by decide +kernel
  have hrun : (translateDocument "pets" (documentOf arraysOfArraysSchemas)).result.toOption.any
      (fun product => product.package.classes["A"]?.any fun cls =>
        cls.members.map (fun member => (member.name, member.type)) =
          [("b", "String[][][]"), ("c", "String[]"), ("d", "A[]")]) = true := by
    decide +kernel
  obtain ⟨product, hproduct, hrun⟩ := exists_of_toOption_any hrun
  obtain ⟨cls, hcls, hrun⟩ := (Option.any_eq_true _ _).mp hrun
  have hresult : (translate "pets" arraysOfArrays).result = .ok product := by
    rw [translate, hread]
    exact hproduct
  obtain ⟨x, r, hx, hr, hclasses⟩ := arrays_of_translate hread rfl hsafe hresult
  obtain ⟨c, hsite, hclass⟩ := hclasses "A" cls hcls
  exact ⟨_, product, x, r, c, cls, hread, rfl, hsafe, hresult, hcls, of_decide_eq_true hrun, hx, hr,
    hsite, hclass⟩

end SchemaBeans.Generation
