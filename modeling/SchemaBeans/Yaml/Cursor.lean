import SchemaBeans.Yaml.Chars

/-!
# Yaml — Cursor

A place in a text: what is left of it, and the index, line and column of what comes next.  A
carriage return and a line feed are one line break.
-/

namespace SchemaBeans.Yaml

/-- Where a character stands. -/
structure Position where
  index : Nat := 0
  line : Nat := 0
  column : Nat := 0
  deriving DecidableEq, Repr

namespace Position

/-- The position after some characters of the same line. -/
def forward (p : Position) (count : Nat) : Position :=
  { p with index := p.index + count, column := p.column + count }

/-- The position after a character of the same line. -/
def next (p : Position) : Position := p.forward 1

/-- The position after a line break of one or two characters. -/
def nextLine (p : Position) (width : Nat) : Position :=
  { index := p.index + width, line := p.line + 1, column := 0 }

end Position

/-- A place in a text. -/
structure Cursor where
  position : Position := {}
  rest : List Char
  deriving DecidableEq, Repr

namespace Cursor

/-- The column of the next character. -/
def column (c : Cursor) : Nat := c.position.column

/-- The first character of the rest is this one. -/
def isAt (c : Cursor) (char : Char) : Bool := c.rest.head? == some char

/-- The cursor after some characters of the same line. -/
def skip (c : Cursor) (count : Nat) : Cursor := ⟨c.position.forward count, c.rest.drop count⟩

/-- The cursor after the characters of a class that come next. -/
def skipWhile (c : Cursor) (p : Char → Bool) : Cursor := c.skip (c.rest.takeWhile p).length

/-- The cursor after the line break that comes next, if one does. -/
def skipBreak (c : Cursor) : Cursor :=
  match c.rest with
  | '\r' :: '\n' :: rest => ⟨c.position.nextLine 2, rest⟩
  | char :: rest => if isBreak char then ⟨c.position.nextLine 1, rest⟩ else c
  | [] => c

/-- The cursor after blanks, a comment and a line break; nothing else may be left on the line. -/
def skipLine? (c : Cursor) : Option Cursor :=
  let c := c.skipWhile isBlank
  let c := if c.isAt '#' then c.skipWhile (!isBreak ·) else c
  if atLineEnd c.rest then some c.skipBreak else none

end Cursor

end SchemaBeans.Yaml
