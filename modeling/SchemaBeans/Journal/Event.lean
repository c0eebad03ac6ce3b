import SchemaBeans.Naming.Convention
import SchemaBeans.Schema.Error
import SchemaBeans.Schema.Warning

/-!
# Journal — Event

What happens in a run that is worth an entry in its journal.
-/

namespace SchemaBeans.Journal

open Schema (SchemaError Warning)

/-- Something that happened. -/
inductive Event where
  /-- The input was read. -/
  | read (path : String) (bytes : Nat)
  /-- A schema is a type of its own. -/
  | foundType (path name : String)
  /-- A schema has an error. -/
  | schemaError (error : SchemaError)
  /-- A type with errors was taken out. -/
  | prunedFaulty (path : String) (removed : Nat)
  /-- All schemas have been looked at. -/
  | extracted (types properties errors : Nat)
  /-- A schema with a broken reference was taken out. -/
  | prunedBroken (path : String) (removed : Nat)
  /-- A reference got the meaning of its target. -/
  | resolved (path reference typeName : String)
  /-- The document has no schemas. -/
  | noSchemas
  | warning (warning : Warning)
  | translatedEnum (name : String) (values : Nat)
  | translatedClass (name : String) (members constants : Nat)
  /-- A member has another name than its property. -/
  | renamedMember (property : String) (convention : Naming.Convention) (field : String)
  /-- All schema types have been translated. -/
  | translated (package : String) (classes enums : Nat)
  /-- The sources are about to be written. -/
  | writing (path : String) (types : Nat)
  | emptyPackage (package : String)
  | createdDirectory (path : String)
  | nothingToClean (path : String)
  | deleted (path : String)
  | cleaned (path : String) (removed : Nat)
  | wrote (path : String)
  /-- The run has come to its end. -/
  | complete (input output : String) (files : Nat)
  deriving DecidableEq, Repr

end SchemaBeans.Journal
