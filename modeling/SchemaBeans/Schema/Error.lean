import Std.Data.ExtTreeMap

/-!
# Schema — Error

What can be wrong with a single schema.  Errors do not stop the reading of a document: they are
collected by path, the last one at a path counting, and reported together.
-/

namespace SchemaBeans.Schema

/-- The ways to compose a schema from others that have no counterpart in a class. -/
inductive Composition where
  | allOf
  | oneOf
  deriving DecidableEq, Repr

/-- The keyword of a composition. -/
def Composition.keyword : Composition → String
  | .allOf => "allOf"
  | .oneOf => "oneOf"

/-- What makes the node of a schema faulty. -/
inductive NodeFault where
  | notMapping
  | untyped
  | withoutItems
  | composed (composition : Composition)
  deriving DecidableEq, Repr

/-- What is wrong with the target of a reference. -/
inductive TargetFault where
  | missing
  | reference
  | untyped
  deriving DecidableEq, Repr

/-- Why a schema cannot be used. -/
inductive Cause where
  | node (fault : NodeFault)
  | target (fault : TargetFault) (reference : String)
  deriving DecidableEq, Repr

/-- An error at a path. -/
structure SchemaError where
  path : String
  cause : Cause
  deriving DecidableEq, Repr

namespace SchemaError

/-- The error in words. -/
def message (e : SchemaError) : String :=
  "schema '" ++ e.path ++ "' " ++
    match e.cause with
    | .node .untyped => "has neither a 'type' nor a '$ref'"
    | .node .withoutItems => "is an array but has no 'items'"
    | .node (.composed c) => "uses '" ++ c.keyword ++ "', which is not supported"
    | .node .notMapping => "is not a mapping"
    | .target fault reference =>
      "references '" ++ reference ++ "', which " ++
        match fault with
        | .missing => "does not exist"
        | .reference => "is itself a reference"
        | .untyped => "has no type"

end SchemaError

/-- The errors of a document by path. -/
structure Errors where
  causes : Std.ExtTreeMap String Cause := ∅
  deriving DecidableEq

namespace Errors

/-- The errors with one more, which replaces another at its path. -/
def record (es : Errors) (e : SchemaError) : Errors := ⟨es.causes.insert e.path e.cause⟩

/-- There are none. -/
def isEmpty (es : Errors) : Bool := es.causes.isEmpty

/-- The number of errors. -/
def size (es : Errors) : Nat := es.causes.size

/-- The paths with an error, in order. -/
def paths (es : Errors) : List String := es.causes.keys

/-- The errors in the order of their paths. -/
def toList (es : Errors) : List SchemaError :=
  es.causes.toList.map fun (path, cause) => ⟨path, cause⟩

/-- The errors in words, one line for each. -/
def text (es : Errors) : String :=
  "\n".intercalate (es.toList.map fun e => "Error: " ++ e.message)

end Errors

end SchemaBeans.Schema
