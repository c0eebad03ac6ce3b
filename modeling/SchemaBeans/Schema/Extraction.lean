import SchemaBeans.Journal.Event
import SchemaBeans.Naming.Words
import SchemaBeans.Schema.Model
import SchemaBeans.Schema.Shape
import SchemaBeans.Schema.Warning

/-!
# Schema — Extraction

Filling a model with the schemas of a document.  Each schema is put into the model as a property at
its path.  An object, or a schema with several values, is put in as a schema type too, and the
properties of an object follow.  A schema without a usable node is an error at its path; a type with
an error within its path is taken out again as soon as its properties are done, so the model never
keeps a part of a type.
-/

namespace SchemaBeans.Schema

open Journal (Event)
open Yaml (Node)

/-- A model while it is filled, with the errors and warnings so far. -/
structure Extraction where
  model : Model := {}
  errors : Errors := {}
  warnings : List Warning := []
  /-- The number of component schemas. -/
  count : Nat := 0
  events : List Event := []

namespace Extraction

/-- Records an error. -/
def fail (x : Extraction) (path : String) (fault : NodeFault) : Extraction :=
  let error : SchemaError := ⟨path, .node fault⟩
  { x with errors := x.errors.record error, events := x.events ++ [.schemaError error] }

/-- Adds warnings. -/
def warn (x : Extraction) (warnings : List Warning) : Extraction :=
  { x with warnings := x.warnings ++ warnings }

/-- The warnings about an element itself. -/
def elementWarnings (path : String) (e : Element) : List Warning :=
  (if e.declaration = .anyOf then [.anyType path] else []) ++
    List.replicate e.valuesWithoutText (.enumEntry path)

/-- The property of a schema, by what its node says. -/
def propertyOf (path : String) (description : Option String) (dimensions : Nat) (e : Element) :
    Property :=
  let p : Property :=
    { Property.atPath path with
      description := (description.or e.description).getD ""
      typeName := e.declaration.typeName
      possibleValues := Std.ExtTreeSet.ofList e.values
      cardinality := { dimensions := dimensions } }
  if p.typeName = objectType ∨ p.isEnum then { p with resolvedType := some path } else p

/-- The name of the schema type at a path: the names on the way to it, each in Pascal case. -/
def typeNameAt (path : String) : String := String.join ((Path.names path).map Naming.pascal)

/-- Puts a schema type into the model. -/
def addType (x : Extraction) (path description : String) : Extraction :=
  let name := typeNameAt path
  { x with
    model := x.model.insertType path
      { name := name, description := description, ownProperty := path }
    events := x.events ++ [.foundType path name] }

/-- Makes a direct property of the schema at `path` required, if it has a property of that name. -/
def require (path : String) (x : Extraction) (name : String) : Extraction :=
  let property := Path.child path name
  if (x.model.property? property).isSome then
    { x with model := x.model.require property 1 }
  else x.warn [.unknownRequired path name]

/-- Takes a schema type out if there is an error within its path. -/
def pruneFaulty (x : Extraction) (path : String) : Extraction :=
  if x.errors.paths.any (Path.isWithin · path) then
    { x with
      model := x.model.prune path
      events := x.events ++ [.prunedFaulty path (x.model.countWithin path)] }
  else x

mutual

/-- Puts the schema of a shape into the model at a path. -/
def addShape (path : String) : Shape → Extraction → Extraction
  | .faulty fault, x => x.fail path fault
  | .valid description dimensions element properties, x =>
    let p := propertyOf path description dimensions element
    let x := x.warn (elementWarnings path element)
    let x := { x with model := x.model.insertProperty p }
    if p.typeName = objectType then
      let x := addShapes path properties (x.addType path p.description)
      (element.required.foldl (require path) x).pruneFaulty path
    else if p.isEnum then (x.addType path p.description).pruneFaulty path
    else x

/-- Puts the schemas of named shapes into the model below a path. -/
def addShapes (parent : String) : List (String × Shape) → Extraction → Extraction
  | [], x => x
  | (name, s) :: rest, x => addShapes parent rest (addShape (Path.child parent name) s x)

end

/-- The entry that ends an extraction. -/
def summary (x : Extraction) : Event :=
  .extracted x.model.types.size x.model.properties.size x.errors.size

/-- The extraction of component schemas. -/
def ofEntries (entries : List (Node × Node)) : Extraction :=
  let x := addShapes Path.base (Shape.ofEntries entries) {}
  { x with count := entries.length, events := x.events ++ [x.summary] }

end Extraction

/-- Why a document has no component schemas. -/
inductive Absence where
  | noComponents
  | componentsNotMapping
  | noSchemas
  | schemasNotMapping
  deriving DecidableEq, Repr

/-- What is missing, in words. -/
def Absence.message : Absence → String
  | .noComponents => "the document has no 'components' section"
  | .componentsNotMapping => "the 'components' section is not a mapping"
  | .noSchemas => "the 'components' section has no 'schemas' section"
  | .schemasNotMapping => "the 'components/schemas' section is not a mapping"

/-- The component schemas of a document.  A section that is there and empty has none; its mapping
must not be tagged. -/
def components (document : Node) : Except Absence (List (Node × Node)) :=
  match document.get? "components" with
  | none => .error .noComponents
  | some section_ =>
    match section_.entries? with
    | none => .error .componentsNotMapping
    | some entries =>
      match Node.find? "schemas" entries with
      | none => .error .noSchemas
      | some .null => .ok []
      | some (.mapping schemas) => .ok schemas
      | some _ => .error .schemasNotMapping

/-- The extraction of a document's component schemas. -/
def extract (document : Node) : Except Absence Extraction :=
  (components document).map Extraction.ofEntries

end SchemaBeans.Schema
