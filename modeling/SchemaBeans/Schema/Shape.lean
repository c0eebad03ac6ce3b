import SchemaBeans.Schema.Error
import SchemaBeans.Schema.Property
import SchemaBeans.Yaml.Node

/-!
# Schema — Shape

What the node of a schema says.  A node is a mapping; if it describes an array, its items are the
node of another schema, and so on to the innermost one, which is the *element*.  A shape is the
element with the number of arrays around it, or the fault that keeps the node from being used.

The element's type comes from its `type` or its `$ref`, or is left open by an `anyOf`.
-/

namespace SchemaBeans.Schema

open Yaml (Node)

/-- How an element's type is given. -/
inductive Declaration where
  /-- By its name. -/
  | type (name : String)
  /-- By reference to the schema at a path. -/
  | reference (path : String)
  /-- Not at all: it may be any of several schemas. -/
  | anyOf
  deriving DecidableEq, Repr

/-- The type of a property that is so declared. -/
def Declaration.typeName : Declaration → String
  | .type name => name
  | .reference path => referenceMark ++ path
  | .anyOf => ""

/-- What the keywords of an element say, its properties aside. -/
structure Element where
  declaration : Declaration
  description : Option String
  /-- The entries of the enum; one that is not a scalar has no text. -/
  allowed : List (Option String)
  /-- The names of the required properties. -/
  required : List String
  deriving DecidableEq, Repr

/-- The values of an enum that have a text. -/
def Element.values (e : Element) : List String := e.allowed.filterMap id

/-- The number of enum entries without a text. -/
def Element.valuesWithoutText (e : Element) : Nat := e.allowed.countP (·.isNone)

/-- The shape of a schema's node. -/
inductive Shape where
  | faulty (fault : NodeFault)
  /-- An element within arrays; `description` is that of the node itself, and `properties` are those
  of the element. -/
  | valid (description : Option String) (dimensions : Nat) (element : Element)
      (properties : List (String × Shape))

namespace Shape

/-- What a type's name makes of a node, its items aside. -/
inductive Kind where
  | element (declaration : Declaration)
  | array
  | faulty (fault : NodeFault)
  deriving DecidableEq, Repr

/-- The composition of a node that has one. -/
def composition? (entries : List (Node × Node)) : Option Composition :=
  if (Node.find? "allOf" entries).isSome then some .allOf
  else if (Node.find? "oneOf" entries).isSome then some .oneOf
  else none

/-- The kind of a node without a type. -/
def untypedKind (entries : List (Node × Node)) : Kind :=
  match (Node.find? "$ref" entries).bind Node.string? with
  | some path => .element (.reference path)
  | none =>
    match composition? entries with
    | some c => .faulty (.composed c)
    | none =>
      if (Node.find? "anyOf" entries).isSome then .element .anyOf else .faulty .untyped

/-- The kind of a node. -/
def kind (entries : List (Node × Node)) : Kind :=
  match Node.find? "type" entries with
  | none => untypedKind entries
  | some n =>
    match n.scalarText? with
    | none => .faulty .notMapping
    | some name => if name = arrayType then .array else .element (.type name)

/-- The description of a node. -/
def description? (entries : List (Node × Node)) : Option String :=
  (Node.find? "description" entries).bind Node.string?

/-- The items of a sequence that is the value of a key. -/
def itemsAt (key : String) (entries : List (Node × Node)) : List Node :=
  ((Node.find? key entries).bind Node.items?).getD []

/-- The element that a node describes, its properties aside. -/
def elementOf (declaration : Declaration) (entries : List (Node × Node)) : Element where
  declaration := declaration
  description := description? entries
  allowed := (itemsAt "enum" entries).map Node.scalarText?
  required := (itemsAt "required" entries).filterMap Node.scalarText?

/-- The shape of an array whose items have the given shape. -/
def inArray (description : Option String) : Shape → Shape
  | .faulty fault => .faulty fault
  | .valid _ dimensions element properties =>
    .valid description (dimensions + 1) element properties

mutual

/-- The shape of a schema's node. -/
def ofNode : Node → Shape
  | .mapping entries =>
    match kind entries with
    | .faulty fault => .faulty fault
    | .element declaration =>
      let element := elementOf declaration entries
      .valid element.description 0 element (propertiesOf entries)
    | .array =>
      match itemsOf? entries with
      | none => .faulty .withoutItems
      | some items => inArray (description? entries) items
  | .tagged _ n => ofNode n
  | _ => .faulty .notMapping

/-- The shape of the node that describes the items of an array. -/
def itemsOf? : List (Node × Node) → Option Shape
  | [] => none
  | (k, v) :: es => if k.isString "items" then some (ofNode v) else itemsOf? es

/-- The shapes of the properties of an object, with their names. -/
def propertiesOf : List (Node × Node) → List (String × Shape)
  | [] => []
  | (k, v) :: es => if k.isString "properties" then membersOf v else propertiesOf es

/-- The shapes of a mapping's values. -/
def membersOf : Node → List (String × Shape)
  | .mapping entries => ofEntries entries
  | .tagged _ n => membersOf n
  | _ => []

/-- The shapes of the values of entries whose key is a scalar, each with the text of its key. -/
def ofEntries : List (Node × Node) → List (String × Shape)
  | [] => []
  | (k, v) :: es =>
    match k.scalarText? with
    | some name => (name, ofNode v) :: ofEntries es
    | none => ofEntries es

end

end Shape

end SchemaBeans.Schema
