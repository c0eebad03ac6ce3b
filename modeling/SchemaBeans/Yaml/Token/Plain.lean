import SchemaBeans.Yaml.Cursor
import SchemaBeans.Yaml.Token.Folding

/-!
# Yaml — Token — Plain

Scalars without quotes.  A plain scalar ends before a colon that is followed by white space, before
a comment, before a line that is indented too little or that marks a document, and within a flow
collection before the characters that structure it.
-/

namespace SchemaBeans.Yaml

/-- A character that ends an entry, or begins or ends a collection, within a flow collection. -/
def isFlowIndicator (c : Char) : Bool := [',', '[', ']', '\x7b', '\x7d'].contains c

/-- A colon before such a character is an error. -/
def isFaultyColon (cs : List Char) : Bool :=
  match cs with
  | ':' :: c :: _ => isFlowIndicator c || c = '?'
  | _ => false

/-- A colon with white space behind it. -/
def isValueMark (cs : List Char) : Bool :=
  match cs with
  | ':' :: rest => atSpace rest
  | _ => false

/-- The scalar ends here, where the text goes on after white space. -/
def endsAfterSpace (inFlow : Bool) (indent : Nat) (p : Position) (cs : List Char) : Bool :=
  (!inFlow && p.column < indent) || (p.column = 0 && atMarker cs) || cs.head? = some '#'

/-- Reads a plain scalar; it goes on with lines that begin at column `indent` or later.  Also says
whether line breaks come after it. -/
def plainScalar (inFlow : Bool) (indent : Nat) (f : Folding) :
    Position → List Char → Option (String × Bool × Cursor)
  | p, [] => some (f.trimmed, f.broken, ⟨p, []⟩)
  | p, '\r' :: '\n' :: cs => plainScalar inFlow indent (f.lineBreak '\n') (p.nextLine 2) cs
  | p, c :: cs =>
    if isBreak c then plainScalar inFlow indent (f.lineBreak c) (p.nextLine 1) cs
    else if isBlank c then
      if f.broken ∧ p.column < indent ∧ c = '\t' then none
      else plainScalar inFlow indent (f.blank c) p.next cs
    else if f.isPending ∧ endsAfterSpace inFlow indent p (c :: cs) then
      some (f.trimmed, f.broken, ⟨p, c :: cs⟩)
    else if inFlow ∧ isFaultyColon (c :: cs) then none
    else if isValueMark (c :: cs) ∨ (inFlow ∧ isFlowIndicator c) then
      some (f.trimmed, f.broken, ⟨p, c :: cs⟩)
    else plainScalar inFlow indent (f.push c) p.next cs

end SchemaBeans.Yaml
