import SchemaBeans.Yaml.Chars

/-!
# Yaml — Token — Folding

The text of a scalar that may go over several lines.  White space is held back until it is known
what follows: blanks within a line are kept, and a single line break between two lines becomes a
space, while of several the first is dropped and the others are kept.
-/

namespace SchemaBeans.Yaml

/-- The text so far, and the white space after it that is held back.  All lists are reversed. -/
structure Folding where
  text : List Char := []
  blanks : List Char := []
  /-- A line has ended since the text did. -/
  broken : Bool := false
  /-- The first line break, unless it was escaped. -/
  firstBreak : Option Char := none
  moreBreaks : List Char := []
  deriving DecidableEq, Repr

namespace Folding

/-- White space is held back. -/
def isPending (f : Folding) : Bool := f.broken || !f.blanks.isEmpty

/-- Adds a blank; at the beginning of a line it is left out. -/
def blank (f : Folding) (c : Char) : Folding :=
  if f.broken then f else { f with blanks := c :: f.blanks }

/-- Adds a line break. -/
def lineBreak (f : Folding) (c : Char) : Folding :=
  if f.broken then { f with moreBreaks := breakText c :: f.moreBreaks }
  else { f with blanks := [], broken := true, firstBreak := some (breakText c) }

/-- What the white space that is held back comes to, reversed. -/
def pending (f : Folding) : List Char :=
  if f.broken then
    match f.firstBreak with
    | some '\n' => if f.moreBreaks.isEmpty then [' '] else f.moreBreaks
    | some c => f.moreBreaks ++ [c]
    | none => f.moreBreaks
  else f.blanks

/-- The text with the white space that was held back. -/
def flush (f : Folding) : Folding := { text := f.pending ++ f.text }

/-- Adds a character that is no white space. -/
def push (f : Folding) (c : Char) : Folding := { text := c :: f.flush.text }

/-- Ends a line without a break in the text. -/
def escapedBreak (f : Folding) : Folding := { text := f.flush.text, broken := true }

/-- The text, with the white space at its end. -/
def close (f : Folding) : String := String.ofList f.flush.text.reverse

/-- The text, without the white space at its end. -/
def trimmed (f : Folding) : String := String.ofList f.text.reverse

end Folding

end SchemaBeans.Yaml
