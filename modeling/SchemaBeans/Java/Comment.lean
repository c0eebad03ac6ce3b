import SchemaBeans.Text.Split

/-!
# Java — Comment

The lines of a description as they stand in comments.  A description of one line is kept; one of
several lines loses its last two, which takes off the blank tail of a block of text.
-/

namespace SchemaBeans.Java

open SchemaBeans.Text

/-- The comment lines of a description, as characters. -/
def commentPieces (description : List Char) : List (List Char) :=
  match splitOn '\n' description with
  | [[]] => []
  | [line] => [line]
  | lines => lines.take (lines.length - 2)

/-- The comment lines of a description. -/
def commentLines (description : String) : List String :=
  (commentPieces description.toList).map String.ofList

end SchemaBeans.Java
