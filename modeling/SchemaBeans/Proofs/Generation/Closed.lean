import SchemaBeans.Proofs.Generation.Accepted
import SchemaBeans.Proofs.Java.Contents
import SchemaBeans.Proofs.Resolution.Instances

/-!
# Generation — closed packages

The type of a member is that of its elements with brackets behind it, one pair for each dimension.
The elements of an instance of a schema type have the name of that type, which is the name of a
class or an enum in the same package: the type is never missing, and the name is the one that it was
added under, even where another type has the same name.  The elements of any other property have a
basic type, or one that the document itself declares (`IsElementType`).
-/

namespace SchemaBeans.Java

open Schema (Model Property SchemaType)

/-- The types that stand for those of scalars, and for any type. -/
def basicTypes : List String := ["String", "int", "double", "boolean", anyType]

/-- A type that is not spelled as it is has a basic type for its spelling. -/
theorem spelling_mem_or_eq (name : String) : spelling name ∈ basicTypes ∨ spelling name = name := by
  rw [spelling, basicTypes]
  split_ifs <;> simp

theorem elementType_of_type? {m : Model} {p : Property} {path : String} {t : SchemaType}
    (hr : p.resolvedType = some path) (ht : m.type? path = some t) :
    elementType m p = typeName m t := by
  simp only [elementType, hr, ht]

theorem elementType_of_resolvedType_eq_none (m : Model) {p : Property}
    (hr : p.resolvedType = none) : elementType m p = spelling p.typeName := by
  simp only [elementType, hr]

end SchemaBeans.Java

namespace SchemaBeans.Generation

open Schema
open Yaml (Node)

/-- The type of the elements of a property: the name of the schema type that the property is an
instance of, which is in the package; or else a basic type, or one that a schema declares. -/
inductive IsElementType (schemas : List (Node × Node)) (m : Model) (package : Java.Package)
    (p : Property) : String → Prop where
  | generated {path : String} {t : SchemaType} (hr : p.resolvedType = some path)
      (ht : m.type? path = some t) (hin : package.contains (Java.typeName m t) = true) :
      IsElementType schemas m package p (Java.typeName m t)
  | basic {base : String} (hr : p.resolvedType = none) (hb : base ∈ Java.basicTypes) :
      IsElementType schemas m package p base
  | declared {c : Site} {dimensions : Nat} {element : List (Node × Node)} {base : String}
      (hr : p.resolvedType = none) (hc : IsSite schemas c)
      (he : HasElement c.node dimensions element) (hd : Declares element (.type base)) :
      IsElementType schemas m package p base

variable {document : Node} {schemas : List (Node × Node)} {x : Extraction}
  {package path text : String} {p : Property} {product : Product}

/-- What a property of a resolved model has for its element type is one, for the package of that
model. -/
theorem isElementType_elementType (hc : components document = .ok schemas)
    (hx : extract document = .ok x)
    (hp : (resolve x.model x.errors).model.property? path = some p) :
    IsElementType schemas (resolve x.model x.errors).model
      (Java.translate (resolve x.model x.errors).model package).package p
      (Java.elementType (resolve x.model x.errors).model p) := by
  cases hr : p.resolvedType with
  | some q =>
    obtain ⟨t, ht⟩ := Option.isSome_iff_exists.mp (isSome_type?_of_resolvedType hc hx hp hr)
    rw [Java.elementType_of_type? hr ht]
    exact .generated hr ht (Java.contains_translate_iff.mpr ⟨q, t, ht, rfl⟩)
  | none =>
    rw [Java.elementType_of_resolvedType_eq_none _ hr]
    rcases Java.spelling_mem_or_eq p.typeName with hbasic | hsame
    · exact .basic hr hbasic
    rcases typeName_of_resolve hc hx hp with hempty | ⟨c, dimensions, element, hsite, he, hd⟩
    · rw [hempty]
      exact .basic hr (by decide)
    · rw [hsame]
      exact .declared hr hsite he hd

/-- **Closed packages.**  In the package of any text, the type of each member and each constant of
each class is that of the elements of a property with brackets behind it. -/
theorem memberTypes_of_translate (h : (translate package text).result = .ok product) :
    ∃ document schemas x r, Yaml.read text = .ok document ∧ components document = .ok schemas ∧
      extract document = .ok x ∧ resolve? x.model x.errors = .ok r ∧
      ∀ (name : String) (c : Java.Class), product.package.classes[name]? = some c →
        ∀ member ∈ c.members ++ c.constants, ∃ path p base, r.model.property? path = some p ∧
          (member = Java.dataMember r.model p ∨ member = Java.constantMember r.model p) ∧
          member.type =
            base ++ String.join (List.replicate p.cardinality.dimensions "[]") ∧
          IsElementType schemas r.model product.package p base := by
  obtain ⟨document, schemas, x, hread, hc, hx, -, rfl⟩ := exists_extract_of_translate h
  refine ⟨document, schemas, x, resolve x.model x.errors, hread, hc, hx,
    resolve?_of_read hread hx, fun name c hclass member hmember => ?_⟩
  obtain ⟨-, t, -, hclass, -⟩ := Java.exists_class?_of_getElem? hclass
  obtain ⟨-, rfl⟩ := Java.class?_eq_some_iff.mp hclass
  obtain ⟨p, hp, hmember⟩ := Java.exists_of_mem_class hmember
  obtain ⟨path, hp⟩ := mem_members hp
  refine ⟨path, p, _, hp, hmember, ?_, isElementType_elementType hc hx hp⟩
  rcases hmember with rfl | rfl <;> exact Java.memberType_eq _ p

/-- An object with a reference to a choice of values, an array of objects and a constant. -/
def mixedObject : String :=
  "components:\n  schemas:\n" ++
  "    a: \x7btype: object, properties: \x7bb: \x7b$ref: '#/components/schemas/c'\x7d, " ++
  "d: \x7btype: array, items: \x7btype: object, properties: \x7be: \x7btype: f\x7d\x7d\x7d\x7d, " ++
  "g: \x7btype: number, enum: [1]\x7d\x7d\x7d\n" ++
  "    c: \x7btype: string, enum: [x, y]\x7d\n"

/-- The types of the members and constants of a class. -/
def memberTypes (package : Java.Package) (name : String) : Option (List String) :=
  package.classes[name]?.map fun c => (c.members ++ c.constants).map Java.Member.type

/-- The object's members have types of the package, its constant a basic type, and the member of the
array's objects the type that the document declares. -/
theorem mixedObject_memberTypes :
    ∃ product document schemas x r, (translate "pets" mixedObject).result = .ok product ∧
      product.package.enums.keys = ["C"] ∧
      memberTypes product.package "A" = some ["C", "AD[]", "double"] ∧
      memberTypes product.package "AD" = some ["f"] ∧
      Yaml.read mixedObject = .ok document ∧ components document = .ok schemas ∧
      extract document = .ok x ∧ resolve? x.model x.errors = .ok r ∧
      ∀ (name : String) (c : Java.Class), product.package.classes[name]? = some c →
        ∀ member ∈ c.members ++ c.constants, ∃ path p base, r.model.property? path = some p ∧
          (member = Java.dataMember r.model p ∨ member = Java.constantMember r.model p) ∧
          member.type =
            base ++ String.join (List.replicate p.cardinality.dimensions "[]") ∧
          IsElementType schemas r.model product.package p base := by
  have hrun : (translate "pets" mixedObject).result.toOption.any (fun product =>
      product.package.enums.keys = ["C"] ∧
        memberTypes product.package "A" = some ["C", "AD[]", "double"] ∧
        memberTypes product.package "AD" = some ["f"]) = true := by
    decide +kernel
  obtain ⟨product, hproduct, hrun⟩ := exists_of_toOption_any hrun
  obtain ⟨henums, hmembers, hdeclared⟩ := of_decide_eq_true hrun
  obtain ⟨document, schemas, x, r, hread, hc, hx, hr, hclosed⟩ :=
    memberTypes_of_translate hproduct
  exact ⟨product, document, schemas, x, r, hproduct, henums, hmembers, hdeclared, hread, hc, hx, hr,
    hclosed⟩

end SchemaBeans.Generation
