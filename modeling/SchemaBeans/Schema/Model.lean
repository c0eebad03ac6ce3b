import SchemaBeans.Schema.Property
import Std.Data.ExtTreeMap

/-!
# Schema — Model

The schemas of a document as two flat tables by path.  Every schema is a property; an object or an
enum is a schema type besides, which lists the paths of its direct properties.

Taking out a schema (`prune`) takes out all that lies within its path, and its entry in the list
of the type around it.
-/

namespace SchemaBeans.Schema

open Std (ExtTreeMap ExtTreeSet)

/-- An object or enum schema, which becomes a type of its own. -/
structure SchemaType where
  name : String
  description : String := ""
  /-- The path of the property that introduced the type. -/
  ownProperty : String
  /-- The paths of the direct properties. -/
  properties : ExtTreeSet String := ∅
  deriving DecidableEq

/-- The schema types and the properties of a document by path. -/
structure Model where
  types : ExtTreeMap String SchemaType := ∅
  properties : ExtTreeMap String Property := ∅
  deriving DecidableEq

namespace Model

/-- The number of types and properties. -/
def size (m : Model) : Nat := m.types.size + m.properties.size

/-- There are no types and no properties. -/
def isEmpty (m : Model) : Bool := m.types.isEmpty && m.properties.isEmpty

/-- The property at a path. -/
def property? (m : Model) (path : String) : Option Property := m.properties[path]?

/-- The schema type at a path. -/
def type? (m : Model) (path : String) : Option SchemaType := m.types[path]?

/-- The property that introduced a type. -/
def own? (m : Model) (t : SchemaType) : Option Property := m.property? t.ownProperty

/-- The direct properties of a type in the order of their paths. -/
def members (m : Model) (t : SchemaType) : List Property :=
  t.properties.toList.filterMap m.property?

/-- Changes the list of properties of the type around `path`, if there is one. -/
def modifyParent (m : Model) (path : String) (change : ExtTreeSet String → ExtTreeSet String) :
    Model :=
  match Path.parent? path with
  | none => m
  | some parent =>
    { m with types := m.types.modify parent fun t => { t with properties := change t.properties } }

/-- The model with a property at its path, which the type around it lists. -/
def insertProperty (m : Model) (p : Property) : Model :=
  let m := m.modifyParent p.path (·.insert p.path)
  { m with properties := m.properties.insert p.path p }

/-- The model with a schema type at a path. -/
def insertType (m : Model) (path : String) (t : SchemaType) : Model :=
  { m with types := m.types.insert path t }

/-- The model with another lower bound for the property at a path. -/
def require (m : Model) (path : String) (min : Nat) : Model :=
  { m with
    properties := m.properties.modify path fun p =>
      { p with cardinality := { p.cardinality with min := min } } }

/-- The model without all that lies within `root`. -/
def prune (m : Model) (root : String) : Model :=
  let kept : Model :=
    { types := m.types.filter fun path _ => !Path.isWithin path root
      properties := m.properties.filter fun path _ => !Path.isWithin path root }
  kept.modifyParent root (·.erase root)

/-- The number of types and properties that pruning takes out. -/
def countWithin (m : Model) (root : String) : Nat := m.size - (m.prune root).size

end Model

end SchemaBeans.Schema
