import SchemaBeans.Files.Fault
import SchemaBeans.Schema.Extraction
import SchemaBeans.Yaml.Fault

/-!
# Generation — Error

Why a run comes to nothing.
-/

namespace SchemaBeans.Generation

/-- What was to be done with a file or a directory. -/
inductive Action where
  | useAsDirectory
  | createDirectory
  | inspect
  | list
  | delete
  | write
  deriving DecidableEq, Repr

/-- The action in words. -/
def Action.text : Action → String
  | .useAsDirectory => "use as a directory"
  | .createDirectory => "create directory"
  | .inspect => "inspect"
  | .list => "list"
  | .delete => "delete"
  | .write => "write"

/-- Why a run fails. -/
inductive Error where
  /-- The input cannot be read. -/
  | input (path : String) (fault : Files.Fault)
  /-- The input is not a document. -/
  | document (fault : Yaml.Fault)
  /-- The document has no component schemas. -/
  | absent (absence : Schema.Absence)
  /-- Schemas have errors. -/
  | schemas (errors : Schema.Errors)
  /-- There are sources that must not be deleted. -/
  | overwrite (directory : String)
  /-- Something cannot be done with a file or a directory. -/
  | files (action : Action) (path : String) (fault : Files.Fault)
  /-- A bound of a schema is not a word. -/
  | overflow (overflow : Schema.Overflow)
  deriving DecidableEq

namespace Error

/-- The error in words. -/
def message : Error → String
  | .input path fault => "failed to read '" ++ path ++ "': " ++ fault.message
  | .document fault => "failed to parse YAML document: " ++ fault.message
  | .absent absence => absence.message
  | .schemas errors =>
    "found " ++ toString errors.size ++ " schema error(s)\n" ++ errors.text
  | .overwrite directory =>
    "refusing to delete existing .java files in '" ++ directory ++
      "'; re-run with --force to replace them"
  | .files action path fault =>
    "failed to " ++ action.text ++ " '" ++ path ++ "': " ++ fault.message
  | .overflow o => o.message

/-- What caused the error, in words, one text for each cause. -/
def causes : Error → List String
  | .input _ fault => [fault.message]
  | .document fault => [fault.message]
  | .files _ _ fault => [fault.message]
  | _ => []

end Error

end SchemaBeans.Generation
