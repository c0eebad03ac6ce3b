import SchemaBeans.Text.CaseMap.Tables
import SchemaBeans.Text.Category

/-!
# Text — Case map

Full case conversion.  A character may become several (`ß` is raised to `SS`), and a text is
lowered character by character, with one exception: a capital sigma that ends a word becomes the
final form `ς`.
-/

namespace SchemaBeans.Text

/-- The image of `c` under a table of expansions and a table of shifts; `c` itself if neither
has it. -/
def convert (expansions : List (Nat × List Nat)) (shifts : List CharShift) (c : Char) :
    List Char :=
  match expansions.lookup c.toNat with
  | some image => image.map Char.ofNat
  | none =>
    match CharShift.image? shifts c.toNat with
    | some image => [Char.ofNat image]
    | none => [c]

/-- The lower-case form of one character. -/
def lower (c : Char) : List Char := convert Table.lowerExpansions Table.lowerShifts c

/-- The upper-case form of one character. -/
def upper (c : Char) : List Char := convert Table.upperExpansions Table.upperShifts c

/-- The text begins with a cased character, case-ignorable ones aside. -/
def startsCased : List Char → Bool
  | [] => false
  | c :: cs => if isCaseIgnorable c then startsCased cs else isCased c

/-- The lower-case form of a text; `afterCased` says that the nearest character before it, among
those that are not case-ignorable, is cased. -/
def lowerFrom (afterCased : Bool) : List Char → List Char
  | [] => []
  | c :: cs =>
    let next := if isCaseIgnorable c then afterCased else isCased c
    if c = 'Σ' then
      (if afterCased && !startsCased cs then 'ς' else 'σ') :: lowerFrom next cs
    else lower c ++ lowerFrom next cs

/-- The lower-case form of a text. -/
def lowercase (cs : List Char) : List Char := lowerFrom false cs

/-- The upper-case form of a text. -/
def uppercase (cs : List Char) : List Char := cs.flatMap upper

/-- The text with its first character raised. -/
def upperFirst : List Char → List Char
  | [] => []
  | c :: cs => upper c ++ cs

/-- The text with its first character lowered. -/
def lowerFirst : List Char → List Char
  | [] => []
  | c :: cs => lower c ++ cs

end SchemaBeans.Text
