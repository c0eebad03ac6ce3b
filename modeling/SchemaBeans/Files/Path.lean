import SchemaBeans.Text.Split

/-!
# Files — Path

Paths of files as texts.  A path is absolute if it begins with `/`; appending an absolute path to
another one replaces it.  The *steps* of a path are the names between its slashes; a slash at its
end asks for a directory, and is read as a last step `.` that stays where it is.
-/

namespace SchemaBeans.Files.Path

open SchemaBeans.Text

/-- The path begins at the root of the file system. -/
def isAbsolute (path : String) : Bool := path.toList.head? == some '/'

/-- The path ends with a slash. -/
def endsWithSlash (path : String) : Bool := path.toList.getLast? == some '/'

/-- The path with another one appended. -/
def join (path segment : String) : String :=
  if isAbsolute segment then segment
  else if path = "" ∨ endsWithSlash path then path ++ segment
  else path ++ "/" ++ segment

/-- The path with several others appended, one after the other. -/
def joinAll (path : String) (segments : List String) : String := segments.foldl join path

/-- The names between the slashes of a path. -/
def names (path : String) : List String :=
  ((splitOn '/' path.toList).filter (!·.isEmpty)).map String.ofList

/-- The steps of a path. -/
def steps (path : String) : List String :=
  names path ++ if endsWithSlash path then ["."] else []

/-- The extension of a file's name: what comes after its last dot, unless the dot comes first. -/
def extension? (name : String) : Option String :=
  match (splitOn '.' name.toList).reverse with
  | _ :: [] => none
  | [_, []] => none
  | last :: _ => some (String.ofList last)
  | [] => none

end SchemaBeans.Files.Path
