import SchemaBeans.Java.Literal
import SchemaBeans.Java.Package
import SchemaBeans.Journal.Event
import SchemaBeans.Naming.Words
import SchemaBeans.Schema.Model

/-!
# Java — Translation

The package of a schema model: one enum for each schema type whose own property is an enum, one
class for each other.  A property with a single value becomes a constant of the class, and every
other property a member.

Types are added in the order of their paths.  Where a name is taken already the later type is added
all the same, with a warning.
-/

namespace SchemaBeans.Java

open Schema (Model Overflow Property SchemaType Warning)
open Journal (Event)

/-- The type of schemas of any type. -/
def anyType : String := "Object"

/-- The brackets of an array type. -/
def brackets : Nat → String
  | 0 => ""
  | n + 1 => "[]" ++ brackets n

theorem brackets_eq (n : Nat) : brackets n = String.join (List.replicate n "[]") := by
  induction n with
  | zero => rfl
  | succ n ih => rw [brackets, ih, List.replicate_succ, String.join_cons]

/-- The type of what occurs at most so often: every full count of a dimension is an array around the
elements. -/
def repeatedType (elements : String) (max : Nat) : String :=
  elements ++ brackets (max / Schema.Cardinality.perDimension)

/-- The spelling of a schema's type, which is itself if it has no other. -/
def spelling (typeName : String) : String :=
  if typeName = "string" then "String"
  else if typeName = "integer" then "int"
  else if typeName = "number" then "double"
  else if typeName = "boolean" then "boolean"
  else if typeName = Schema.objectType ∨ typeName = "" then anyType
  else typeName

/-- The name that a schema type has in the package. -/
def typeName (m : Model) (t : SchemaType) : String :=
  if (m.own? t).any Property.isEnum then Naming.pascal t.name else t.name

/-- The type of a property's elements. -/
def elementType (m : Model) (p : Property) : String :=
  match p.resolvedType with
  | none => spelling p.typeName
  | some path =>
    match m.type? path with
    | none => anyType
    | some t => typeName m t

/-- The type of a property. -/
def memberType (m : Model) (p : Property) : String :=
  repeatedType (elementType m p) p.cardinality.max

/-- The type of a property, if its bounds are words. -/
def memberType? (m : Model) (p : Property) : Except Overflow String :=
  p.cardinality.max?.map (repeatedType (elementType m p))

/-- A type is that of its elements with a pair of brackets behind it for each dimension. -/
theorem memberType_eq (m : Model) (p : Property) : memberType m p =
    elementType m p ++ String.join (List.replicate p.cardinality.dimensions "[]") := by
  rw [memberType, repeatedType, Schema.Cardinality.max_div_perDimension, brackets_eq]

theorem memberType?_eq_ok_iff {m : Model} {p : Property} :
    memberType? m p = .ok (memberType m p) ↔ p.cardinality.max < Schema.wordLimit := by
  rw [memberType?, Schema.Cardinality.max?]
  split
  · next hfit => exact iff_of_true rfl hfit
  · next hfit => exact iff_of_false (fun h => by cases h) hfit

/-- The literal of a property's single value. -/
def constantValue (p : Property) : String :=
  let value := p.possibleValues.toList.headD ""
  if p.typeName = "string" then literal value else value

/-- The constant of a property with a single value. -/
def constantMember (m : Model) (p : Property) : Member where
  name := Naming.screaming p.name
  pascalName := Naming.pascal p.name
  type := memberType m p
  description := commentLines p.description
  value := constantValue p

/-- The text with every hyphen replaced by an underscore. -/
def withoutHyphens (text : String) : String :=
  String.ofList (text.toList.map fun c => if c = '-' then '_' else c)

/-- The name of the member for a property. -/
def fieldName (p : Property) : String := Naming.camel (withoutHyphens p.name)

/-- The member of a property. -/
def dataMember (m : Model) (p : Property) : Member where
  name := fieldName p
  pascalName := Naming.pascal (withoutHyphens p.name)
  type := memberType m p
  description := commentLines p.description
  serializedName := if fieldName p = p.name then "" else p.name
  isRequired := p.isSetInConstructor

/-- The properties of a type that become constants. -/
def constantProperties (m : Model) (t : SchemaType) : List Property :=
  (m.members t).filter Property.isConstant

/-- The properties of a type that become members. -/
def dataProperties (m : Model) (t : SchemaType) : List Property :=
  (m.members t).filter (!·.isConstant)

/-- The class of a schema type. -/
def translateClass (m : Model) (t : SchemaType) : Class :=
  Class.ofMembers (typeName m t) t.description ((dataProperties m t).map (dataMember m))
    ((constantProperties m t).map (constantMember m))

/-- The enum of a schema type. -/
def translateEnum (m : Model) (t : SchemaType) : Enum :=
  Enum.ofValues (typeName m t) t.description
    (match m.own? t with
      | none => []
      | some p => p.possibleValues.toList)

/-- The entries about the members of a class that are not named as their properties. -/
def renamingEvents (m : Model) (t : SchemaType) : List Event :=
  ((dataProperties m t).filter fun p => fieldName p ≠ p.name).map fun p =>
    .renamedMember p.name (Naming.Convention.detect p.name) (fieldName p)

/-- A package under construction. -/
structure Translation where
  package : Package
  warnings : List Warning := []
  events : List Event := []

namespace Translation

/-- Adds a schema type. -/
def add (m : Model) (x : Translation) (entry : String × SchemaType) : Translation :=
  let (path, t) := entry
  let name := typeName m t
  let warnings :=
    if x.package.contains name then x.warnings ++ [.duplicateName path name] else x.warnings
  if (m.own? t).any Property.isEnum then
    let e := translateEnum m t
    { package := x.package.addEnum e
      warnings := warnings
      events := x.events ++ [.translatedEnum e.name e.constants.length] }
  else
    let c := translateClass m t
    { package := x.package.addClass c
      warnings := warnings
      events := x.events ++ renamingEvents m t ++
        [.translatedClass c.name c.members.length c.constants.length] }

end Translation

/-- The package of a model. -/
def translate (m : Model) (package : String) : Translation :=
  m.types.toList.foldl (Translation.add m) { package := { name := package } }

/-- The members of the classes have bounds that are words. -/
def MembersFit (m : Model) : Prop :=
  ∀ entry ∈ m.types.toList, (m.own? entry.2).any Property.isEnum = false →
    ∀ p ∈ m.members entry.2, p.cardinality.max < Schema.wordLimit

instance (m : Model) : Decidable (MembersFit m) := by unfold MembersFit; infer_instance

/-- The package of a model, if the bounds of its members are words. -/
def translate? (m : Model) (package : String) : Except Overflow Translation :=
  if MembersFit m then .ok (translate m package) else .error .multiplication

theorem translate_of_translate? {m : Model} {package : String} {x : Translation}
    (h : translate? m package = .ok x) : translate m package = x := by
  rw [translate?] at h
  split at h
  · exact Except.ok.inj h
  · cases h

end SchemaBeans.Java
