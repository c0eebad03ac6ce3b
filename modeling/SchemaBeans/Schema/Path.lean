import SchemaBeans.Text.Split

/-!
# Schema — Path

The places of schemas in a document.  A path is a text of segments joined by `/`; the component
schemas lie below `#/components/schemas`, and a schema's properties lie below the schema.  A path
is *within* another if it is that path or continues it after a `/`.
-/

namespace SchemaBeans.Schema.Path

open SchemaBeans.Text

/-- The place below which all component schemas lie. -/
def base : String := "#/components/schemas"

/-- The path of the entry `name` below `parent`. -/
def child (parent name : String) : String := parent ++ "/" ++ name

/-- What comes before and after the last `/`, if there is one. -/
def cutLast : List Char → Option (List Char × List Char)
  | [] => none
  | c :: cs =>
    match cutLast cs with
    | some (before, after) => some (c :: before, after)
    | none => if c = '/' then some ([], cs) else none

/-- The path with its last segment taken off, if it has more than one. -/
def parent? (path : String) : Option String :=
  (cutLast path.toList).map fun cut => String.ofList cut.1

/-- The last segment of a path. -/
def last (path : String) : String :=
  match cutLast path.toList with
  | some cut => String.ofList cut.2
  | none => path

/-- The first text is the second one, or continues it after a `/`. -/
def continues : List Char → List Char → Bool
  | rest, [] => rest.head?.all (· == '/')
  | [], _ :: _ => false
  | c :: cs, d :: ds => c == d && continues cs ds

/-- `path` is `root` or lies below it. -/
def isWithin (path root : String) : Bool := continues path.toList root.toList

/-- The path of the top-level schema that holds `path`; a path elsewhere is its own root. -/
def root (path : String) : String :=
  match (base.toList ++ ['/']).isPrefixOf? path.toList with
  | some rest => String.ofList (base.toList ++ '/' :: rest.takeWhile (· != '/'))
  | none => path

/-- The segments of a path below the component schemas, empty ones left out. -/
def names (path : String) : List String :=
  let rest := (base.toList.isPrefixOf? path.toList).getD path.toList
  ((splitOn '/' rest).filter (!·.isEmpty)).map String.ofList

end SchemaBeans.Schema.Path
