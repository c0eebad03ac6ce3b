import SchemaBeans.Text.Category
import SchemaBeans.Text.Split

/-!
# Java — Package name

A package name is a dotted sequence of identifiers.  An identifier begins with a letter, an
underscore or a dollar sign, and goes on with those and numbers.
-/

namespace SchemaBeans.Java

open SchemaBeans.Text

/-- A character that an identifier may begin with. -/
def isIdentifierStart (c : Char) : Bool := isLetter c || c == '_' || c == '$'

/-- A character that an identifier may go on with. -/
def isIdentifierPart (c : Char) : Bool := isIdentifierStart c || isNumber c

/-- The text is an identifier. -/
def isIdentifier : List Char → Bool
  | [] => false
  | c :: cs => isIdentifierStart c && cs.all isIdentifierPart

/-- The segments of a package name between its dots. -/
def packageSegments (name : String) : List String :=
  (splitOn '.' name.toList).map String.ofList

/-- Every segment of the name is an identifier. -/
def isPackageName (name : String) : Bool := (splitOn '.' name.toList).all isIdentifier

end SchemaBeans.Java
