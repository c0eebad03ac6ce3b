import SchemaBeans.Yaml.Cursor
import SchemaBeans.Yaml.Token.Folding

/-!
# Yaml — Token — Quoted

Scalars between quotes.  In single quotes a quote is written twice and nothing else is escaped; in
double quotes a backslash begins an escape, and at the end of a line takes the line break away.
The line that a scalar goes on with must not look like the marker of a document.
-/

namespace SchemaBeans.Yaml

/-- The character that an escape of one letter stands for. -/
def simpleEscape? (c : Char) : Option Char :=
  match c with
  | '0' => some '\x00'
  | 'a' => some '\x07'
  | 'b' => some '\x08'
  | 't' | '\t' => some '\t'
  | 'n' => some '\n'
  | 'v' => some '\x0b'
  | 'f' => some '\x0c'
  | 'r' => some '\r'
  | 'e' => some '\x1b'
  | ' ' => some ' '
  | '"' => some '"'
  | '/' => some '/'
  | '\\' => some '\\'
  | 'N' => some '\u0085'
  | '_' => some '\u00a0'
  | 'L' => some '\u2028'
  | 'P' => some '\u2029'
  | _ => none

/-- The character of a code point in hexadecimal digits. -/
def codePoint? (digits : List Char) : Option Char :=
  (hexNumber? digits).bind fun code => if code.isValidChar then some (Char.ofNat code) else none

/-- Reads a scalar in single quotes from behind its first quote. -/
def singleQuoted (f : Folding) : Position → List Char → Option (String × Cursor)
  | _, [] => none
  | p, '\'' :: '\'' :: cs => singleQuoted (f.push '\'') (p.forward 2) cs
  | p, '\'' :: cs => some (f.close, ⟨p.next, cs⟩)
  | p, '\r' :: '\n' :: cs => singleQuoted (f.lineBreak '\n') (p.nextLine 2) cs
  | p, c :: cs =>
    if isBreak c then singleQuoted (f.lineBreak c) (p.nextLine 1) cs
    else if isBlank c then singleQuoted (f.blank c) p.next cs
    else if p.column = 0 ∧ atMarker (c :: cs) then none
    else singleQuoted (f.push c) p.next cs

/-- Reads a scalar in double quotes from behind its first quote. -/
def doubleQuoted (f : Folding) : Position → List Char → Option (String × Cursor)
  | _, [] => none
  | p, '"' :: cs => some (f.close, ⟨p.next, cs⟩)
  | p, '\\' :: '\r' :: '\n' :: cs => doubleQuoted f.escapedBreak (p.next.nextLine 2) cs
  | p, '\\' :: 'x' :: a :: b :: cs =>
    match codePoint? [a, b] with
    | some c => doubleQuoted (f.push c) (p.forward 4) cs
    | none => none
  | p, '\\' :: 'u' :: a :: b :: c :: d :: cs =>
    match codePoint? [a, b, c, d] with
    | some c => doubleQuoted (f.push c) (p.forward 6) cs
    | none => none
  | p, '\\' :: 'U' :: a :: b :: c :: d :: e :: g :: h :: i :: cs =>
    match codePoint? [a, b, c, d, e, g, h, i] with
    | some c => doubleQuoted (f.push c) (p.forward 10) cs
    | none => none
  | p, '\\' :: c :: cs =>
    if isBreak c then doubleQuoted f.escapedBreak (p.next.nextLine 1) cs
    else
      match simpleEscape? c with
      | some c => doubleQuoted (f.push c) (p.forward 2) cs
      | none => none
  | p, '\r' :: '\n' :: cs => doubleQuoted (f.lineBreak '\n') (p.nextLine 2) cs
  | p, c :: cs =>
    if isBreak c then doubleQuoted (f.lineBreak c) (p.nextLine 1) cs
    else if isBlank c then doubleQuoted (f.blank c) p.next cs
    else if p.column = 0 ∧ atMarker (c :: cs) then none
    else doubleQuoted (f.push c) p.next cs

end SchemaBeans.Yaml
