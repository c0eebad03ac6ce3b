/-!
# Schema — Warning

What is odd about a document and does not keep it from being used.
-/

namespace SchemaBeans.Schema

/-- A remark about the schema at a path. -/
inductive Warning where
  /-- The schema may be of any type. -/
  | anyType (path : String)
  /-- A property is required that the schema does not have. -/
  | unknownRequired (path name : String)
  /-- An enum entry is not a scalar. -/
  | enumEntry (path : String)
  /-- The name of the schema's type is that of an earlier one. -/
  | duplicateName (path name : String)
  deriving DecidableEq, Repr

/-- The warning in words. -/
def Warning.message : Warning → String
  | .anyType path => "Schema '" ++ path ++ "' uses 'anyOf'; its type falls back to Object"
  | .unknownRequired path name =>
    "Schema '" ++ path ++ "' lists '" ++ name ++ "' as required, but has no such property"
  | .enumEntry path =>
    "Schema '" ++ path ++
      "' has an enum entry that is not a string, number or boolean; it was ignored"
  | .duplicateName path name =>
    "Schema '" ++ path ++ "' maps to the Java type '" ++ name ++
      "', which already exists; the later one wins"

end SchemaBeans.Schema
