import SchemaBeans.Yaml.Cursor

/-!
# Yaml — Token — Block

Scalars that are blocks of lines.  The block's header tells what becomes of the line breaks at its
end, and may give the block's indentation; otherwise the first line that is not blank does.  A
folded block joins two lines at the left edge by a space.
-/

namespace SchemaBeans.Yaml

/-- What becomes of the line breaks at the end of a block. -/
inductive Chomping where
  | strip
  | clip
  | keep
  deriving DecidableEq, Repr

/-- What the header of a block says. -/
structure BlockHeader where
  chomping : Chomping := .clip
  /-- The indentation beyond that of the node around the block. -/
  increment : Option Nat := none
  deriving DecidableEq, Repr

namespace BlockHeader

/-- Reads the chomping indicator, if there is one. -/
def chomping? (cs : List Char) : Option (Chomping × List Char) :=
  match cs with
  | '+' :: cs => some (.keep, cs)
  | '-' :: cs => some (.strip, cs)
  | _ => none

/-- Reads the indentation indicator, if there is one. -/
def increment? (cs : List Char) : Option (Nat × List Char) :=
  match cs with
  | c :: cs => if c.isDigit then some (c.toNat - '0'.toNat, cs) else none
  | [] => none

/-- Reads both indicators, in either order. -/
def read (cs : List Char) : BlockHeader × List Char :=
  match chomping? cs with
  | some (chomping, cs) =>
    match increment? cs with
    | some (n, cs) => (⟨chomping, some n⟩, cs)
    | none => (⟨chomping, none⟩, cs)
  | none =>
    match increment? cs with
    | some (n, cs) =>
      match chomping? cs with
      | some (chomping, cs) => (⟨chomping, some n⟩, cs)
      | none => (⟨.clip, some n⟩, cs)
    | none => (⟨.clip, none⟩, cs)

end BlockHeader

/-- A block while it is read.  Texts are reversed. -/
structure Block where
  /-- Line breaks are kept as they are. -/
  literal : Bool
  /-- The least indentation that is deeper than the node around the block. -/
  least : Nat
  /-- The indentation, once it is known. -/
  indent : Option Nat
  /-- The greatest column reached while the indentation is sought. -/
  deepest : Nat := 0
  inLine : Bool := false
  /-- The last line begins with a blank. -/
  ledByBlank : Bool := false
  text : List Char := []
  /-- The break that ended the last line. -/
  lastBreak : Option Char := none
  /-- The breaks of the blank lines after it. -/
  blankLines : List Char := []
  deriving DecidableEq, Repr

namespace Block

/-- The column lies before the indentation, or the indentation is not known yet. -/
def isBefore (b : Block) (column : Nat) : Bool := b.indent.all (column < ·)

/-- The break of the last line, as text. -/
def breakOfLast (b : Block) : List Char := b.lastBreak.toList

/-- Begins a line with its first character. -/
def beginLine (b : Block) (c : Char) : Block :=
  let folds := !b.literal && b.lastBreak == some '\n' && !b.ledByBlank && !isBlank c
  let joint :=
    if folds then if b.blankLines.isEmpty then [' '] else b.blankLines
    else b.blankLines ++ b.breakOfLast
  { b with
    inLine := true
    ledByBlank := isBlank c
    text := c :: (joint ++ b.text)
    lastBreak := none
    blankLines := [] }

/-- Ends a line, or adds a blank one, with a break at the given column. -/
def endLine (b : Block) (c : Char) (column : Nat) : Block :=
  if b.inLine then { b with inLine := false, lastBreak := some (breakText c) }
  else
    { b with
      blankLines := breakText c :: b.blankLines
      deepest := max b.deepest column }

/-- The block once the column of the first character that is no blank is known. -/
def settle (b : Block) (column : Nat) : Block :=
  match b.indent with
  | some _ => b
  | none => { b with indent := some (max (max b.deepest column) b.least) }

/-- The text of a block that has been read. -/
def close (b : Block) : Chomping → String
  | .strip => String.ofList b.text.reverse
  | .clip => String.ofList (b.breakOfLast ++ b.text).reverse
  | .keep => String.ofList (b.blankLines ++ b.breakOfLast ++ b.text).reverse

/-- Reads the lines of a block from the beginning of a line. -/
def read (b : Block) : Position → List Char → Option (Block × Cursor)
  | p, [] => some (b, ⟨p, []⟩)
  | p, '\r' :: '\n' :: cs => read (b.endLine '\n' p.column) (p.nextLine 2) cs
  | p, c :: cs =>
    if isBreak c then read (b.endLine c p.column) (p.nextLine 1) cs
    else if b.inLine then read { b with text := c :: b.text } p.next cs
    else if c = ' ' ∧ b.isBefore p.column then read b p.next cs
    else if c = '\t' ∧ b.isBefore p.column then none
    else
      let b := b.settle p.column
      if b.indent = some p.column then read (b.beginLine c) p.next cs
      else some (b, ⟨p, c :: cs⟩)

end Block

/-- Reads a block scalar from behind its indicator; `around` is the indentation of the node around
it, if there is one. -/
def blockScalar (literal : Bool) (around : Option Nat) (c : Cursor) : Option (String × Cursor) :=
  let (header, rest) := BlockHeader.read c.rest
  if header.increment = some 0 then none
  else
    (Cursor.skipLine? ⟨c.position.forward (c.rest.length - rest.length), rest⟩).bind fun c =>
      let block : Block :=
        { literal := literal
          least := around.elim 1 (· + 1)
          indent := header.increment.map (around.getD 0 + ·) }
      (block.read c.position c.rest).map fun (block, c) => (block.close header.chomping, c)

end SchemaBeans.Yaml
