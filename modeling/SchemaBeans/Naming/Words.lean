import SchemaBeans.Text.CaseMap
import SchemaBeans.Text.Split

/-!
# Naming — Words

Identifiers in `PascalCase` and `camelCase`.  An identifier with separators is cut into words;
each word is lowered and its first letter raised, and in camel case the first word stays low.  An
identifier without separators keeps the capitals inside it, and only its first letter changes.
-/

namespace SchemaBeans.Naming

open SchemaBeans.Text

/-- The identifier has a character that separates words. -/
def hasSeparators (cs : List Char) : Bool := cs.any (!isAlphanumeric ·)

/-- The words of an identifier: its runs of letters and numbers. -/
def words (cs : List Char) : List (List Char) :=
  (split (!isWordChar ·) cs).filter (!·.isEmpty)

/-- A word in lower case but for its first letter. -/
def capitalize (word : List Char) : List Char := upperFirst (lowercase word)

/-- The identifier in Pascal case, as characters. -/
def pascalChars (cs : List Char) : List Char :=
  if hasSeparators cs then (words cs).flatMap capitalize else upperFirst cs

/-- The identifier in camel case, as characters. -/
def camelChars (cs : List Char) : List Char :=
  if hasSeparators cs then
    match words cs with
    | [] => []
    | first :: rest => lowercase first ++ rest.flatMap capitalize
  else lowerFirst cs

/-- The identifier in Pascal case: `some-name` becomes `SomeName`, and `someName` too. -/
def pascal (name : String) : String := String.ofList (pascalChars name.toList)

/-- The identifier in camel case: `SOME_NAME` becomes `someName`, and `SomeName` too. -/
def camel (name : String) : String := String.ofList (camelChars name.toList)

end SchemaBeans.Naming
