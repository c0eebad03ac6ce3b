import SchemaBeans.Text.Category

/-!
# Naming — Convention

The convention an identifier is written in.  An underscore makes it snake case.  Without one it is
camel or Pascal case if it is made of letters and numbers with a capital strictly inside, and the
case of its first character tells the two apart.
-/

namespace SchemaBeans.Naming

open SchemaBeans.Text

/-- A convention for writing identifiers. -/
inductive Convention where
  | camel
  | pascal
  | snake
  | none
  deriving DecidableEq, Repr

/-- The identifier has an underscore. -/
def isSnakeVariant (cs : List Char) : Bool := cs.contains '_'

/-- A capital stands in the text before its last character. -/
def hasCapitalBeforeLast : List Char → Bool
  | c :: d :: cs => isUpperLetter c || hasCapitalBeforeLast (d :: cs)
  | _ => false

/-- Letters and numbers only, with a capital after the first and before the last of them. -/
def isCamelVariant (cs : List Char) : Bool := cs.all isWordChar && hasCapitalBeforeLast cs.tail

/-- The first character of the identifier is in the class. -/
def firstIs (isFirst : Char → Bool) (cs : List Char) : Bool := cs.head?.any isFirst

/-- The identifier is in camel case. -/
def isCamelCase (cs : List Char) : Bool := isCamelVariant cs && firstIs isLowercase cs

/-- The identifier is in Pascal case. -/
def isPascalCase (cs : List Char) : Bool := isCamelVariant cs && firstIs isUppercase cs

namespace Convention

/-- The convention an identifier is written in. -/
def detect (name : String) : Convention :=
  let cs := name.toList
  if isSnakeVariant cs then .snake
  else if isCamelCase cs then .camel
  else if isPascalCase cs then .pascal
  else .none

/-- The name of the convention, written in it where it has one. -/
def label : Convention → String
  | .camel => "camelCase"
  | .pascal => "PascalCase"
  | .snake => "snake_variant"
  | .none => "none"

end Convention

end SchemaBeans.Naming
