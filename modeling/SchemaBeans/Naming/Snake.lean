import SchemaBeans.Text.CaseMap

/-!
# Naming — Snake

Identifiers in `snake_case` and `SCREAMING_SNAKE_CASE`.  An underscore marks each place where a
word ends: before a capital that follows a small letter, before the last capital of an acronym,
between a letter and a number, and between a number and a capitalised word.  Underscores that are
there already stay, and a run of other separators becomes one.
-/

namespace SchemaBeans.Naming

open SchemaBeans.Text

/-- The text begins with a character of the class. -/
def startsWith (isFirst : Char → Bool) : List Char → Bool
  | [] => false
  | c :: _ => isFirst c

/-- The text begins with a capital and a small letter. -/
def startsCapitalized : List Char → Bool
  | c :: d :: _ => isUpperLetter c && isLowerLetter d
  | _ => false

/-- Puts an underscore after every character at which a word ends, as judged by the character and
what follows it. -/
def markEnds (isEnd : Char → List Char → Bool) : List Char → List Char
  | [] => []
  | c :: cs => if isEnd c cs then c :: '_' :: markEnds isEnd cs else c :: markEnds isEnd cs

/-- A small letter with a capital after it. -/
def endsLowerWord (c : Char) (cs : List Char) : Bool :=
  isLowerLetter c && startsWith isUpperLetter cs

/-- A capital with a capitalised word after it. -/
def endsAcronym (c : Char) (cs : List Char) : Bool := isUpperLetter c && startsCapitalized cs

/-- A letter with a number after it. -/
def endsBeforeNumber (c : Char) (cs : List Char) : Bool := isLetter c && startsWith isNumber cs

/-- A number with a capitalised word after it. -/
def endsNumber (c : Char) (cs : List Char) : Bool := isNumber c && startsCapitalized cs

/-- A letter, a number or an underscore. -/
def isSnakeChar (c : Char) : Bool := isWordChar c || c == '_'

/-- Replaces every run of characters that a snake-case name cannot hold by one underscore;
`inRun` says that the run before the text has its underscore already. -/
def joinRuns (inRun : Bool) : List Char → List Char
  | [] => []
  | c :: cs =>
    if isSnakeChar c then c :: joinRuns false cs
    else if inRun then joinRuns true cs
    else '_' :: joinRuns true cs

/-- The identifier with an underscore at every end of a word. -/
def markWords (cs : List Char) : List Char :=
  joinRuns false <|
    markEnds endsNumber <| markEnds endsBeforeNumber <| markEnds endsAcronym <|
      markEnds endsLowerWord cs

/-- The identifier in snake case, as characters. -/
def snakeChars (cs : List Char) : List Char := lowercase (markWords cs)

/-- The identifier in snake case: `someName1` becomes `some_name_1`. -/
def snake (name : String) : String := String.ofList (snakeChars name.toList)

/-- The identifier in screaming snake case: `someName1` becomes `SOME_NAME_1`. -/
def screaming (name : String) : String := String.ofList (uppercase (snakeChars name.toList))

end SchemaBeans.Naming
