/-!
# Yaml — Chars

The classes of characters that tokens are told apart by.  The end of the text counts as a blank
and as a line break wherever a token has to be set off.
-/

namespace SchemaBeans.Yaml

/-- The character may stand in a document. -/
def isAllowed (c : Char) : Bool :=
  c = '\t' || c = '\n' || c = '\r' || (' ' ≤ c && c ≤ '~') || c = '\u0085' ||
    ('\u00a0' ≤ c && c ≤ '\ufffd') || '\uffff' < c

/-- A line break. -/
def isBreak (c : Char) : Bool :=
  c = '\n' || c = '\r' || c = '\u0085' || c = '\u2028' || c = '\u2029'

/-- A space or a tab. -/
def isBlank (c : Char) : Bool := c = ' ' || c = '\t'

/-- What a line break is read as: the older ones as a line feed. -/
def breakText (c : Char) : Char := if c = '\u2028' || c = '\u2029' then c else '\n'

/-- A character of the names of anchors, handles and directives. -/
def isNameChar (c : Char) : Bool := c.isAlphanum || c = '_' || c = '-'

/-- The text ends, or its first character is in the class. -/
def endsOr (isNext : Char → Bool) : List Char → Bool
  | [] => true
  | c :: _ => isNext c

/-- A blank, a line break or the end. -/
def atSpace : List Char → Bool := endsOr fun c => isBlank c || isBreak c

/-- A line break or the end. -/
def atLineEnd : List Char → Bool := endsOr isBreak

/-- The text begins with a line of three such characters that marks a document. -/
def isMarker (mark : Char) : List Char → Bool
  | a :: b :: c :: rest => a = mark && b = mark && c = mark && atSpace rest
  | _ => false

/-- The text begins with the marker of a document's start or end. -/
def atMarker (cs : List Char) : Bool := isMarker '-' cs || isMarker '.' cs

/-- The value of a hexadecimal digit. -/
def hexDigit? (c : Char) : Option Nat :=
  if c.isDigit then some (c.toNat - '0'.toNat)
  else if 'a' ≤ c ∧ c ≤ 'f' then some (c.toNat - 'a'.toNat + 10)
  else if 'A' ≤ c ∧ c ≤ 'F' then some (c.toNat - 'A'.toNat + 10)
  else none

/-- The number that hexadecimal digits spell. -/
def hexNumber? (digits : List Char) : Option Nat :=
  digits.foldl (fun value c => do return (← value) * 16 + (← hexDigit? c)) (some 0)

end SchemaBeans.Yaml
