/-!
# Files — Fault

Why something cannot be done with a file or a directory.
-/

namespace SchemaBeans.Files

/-- Why an operation on files fails. -/
inductive Fault where
  | notFound
  | exists
  | notDirectory
  | isDirectory
  | nameTooLong
  /-- A path with a null character names nothing. -/
  | nullCharacter
  /-- What was read is no text. -/
  | notText
  /-- Something of another kind has the name. -/
  | entityExists
  deriving DecidableEq, Repr

/-- The fault in words, with the system's number for those that are the system's. -/
def Fault.message : Fault → String
  | .notFound => "No such file or directory (os error 2)"
  | .exists => "File exists (os error 17)"
  | .notDirectory => "Not a directory (os error 20)"
  | .isDirectory => "Is a directory (os error 21)"
  | .nameTooLong => "File name too long (os error 36)"
  | .nullCharacter => "file name contained an unexpected NUL byte"
  | .notText => "stream did not contain valid UTF-8"
  | .entityExists => "entity already exists"

end SchemaBeans.Files
