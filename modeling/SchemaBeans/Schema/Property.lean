import SchemaBeans.Schema.Cardinality
import SchemaBeans.Schema.Path
import Std.Data.ExtTreeSet

/-!
# Schema — Property

One schema of a document, seen as a property of the schema around it.  Its type is a text: the
name of a type, a reference (`$ref:` and a path), or nothing for a schema of any type.  A reference
is replaced by what it refers to: `resolved` copies type, values and class of the referent, and
its bounds too, which an array adds to its own.
-/

namespace SchemaBeans.Schema

/-- What the type of a reference begins with. -/
def referenceMark : String := "$ref:"

/-- The value that stands for the lack of one. -/
def nilValue : String := "nil"

/-- The type of schemas that have properties. -/
def objectType : String := "object"

/-- The type of schemas that have elements. -/
def arrayType : String := "array"

/-- A schema at its path. -/
structure Property where
  name : String
  path : String
  description : String := ""
  typeName : String := ""
  possibleValues : Std.ExtTreeSet String := ∅
  /-- The path of the schema type that the property is an instance of. -/
  resolvedType : Option String := none
  cardinality : Cardinality := {}
  deriving DecidableEq

namespace Property

/-- A property that says nothing but where it is. -/
def atPath (path : String) : Property := { name := Path.last path, path := path }

/-- More than one value is allowed. -/
def isEnum (p : Property) : Bool := 1 < p.possibleValues.size

/-- An array of something. -/
def isCollection (p : Property) : Bool := p.cardinality.isCollection

/-- Exactly one value is allowed, of a scalar. -/
def isConstant (p : Property) : Bool := p.possibleValues.size == 1 && !p.isCollection

/-- The path that the property refers to, if it is a reference. -/
def reference? (p : Property) : Option String :=
  (referenceMark.toList.isPrefixOf? p.typeName.toList).map String.ofList

/-- The property stands for the one at another path. -/
def isReference (p : Property) : Bool := p.reference?.isSome

/-- The property is set when an instance is constructed: an enum that cannot be nil, or any other
required property that is not constant. -/
def isSetInConstructor (p : Property) : Bool :=
  if p.isEnum then !p.possibleValues.contains nilValue
  else if p.isConstant then false
  else p.cardinality.isRequired

/-- The property with the meaning of the one it refers to. -/
def resolved (p referent : Property) : Property :=
  { p with
    description := if p.description = "" then referent.description else p.description
    typeName := referent.typeName
    possibleValues := referent.possibleValues
    resolvedType := referent.resolvedType
    cardinality :=
      if p.isCollection then p.cardinality.sum referent.cardinality else referent.cardinality }

/-- The property with the meaning of the one it refers to, if the bounds remain words. -/
def resolve (p referent : Property) : Except Overflow Property :=
  if (p.resolved referent).cardinality.Fits then .ok (p.resolved referent) else .error .addition

end Property

end SchemaBeans.Schema
