import SchemaBeans.Yaml.Fault
import SchemaBeans.Yaml.Token
import SchemaBeans.Yaml.Token.Block
import SchemaBeans.Yaml.Token.Plain
import SchemaBeans.Yaml.Token.Property
import SchemaBeans.Yaml.Token.Quoted

/-!
# Yaml — Token — Lexer

Cutting a text into tokens.  Besides the place in the text the lexer keeps the columns of the block
collections it is in, and for each level of flow collections the place where a *simple key* may
have begun: a key on one line that only the colon behind it tells from a value.  When the colon
comes, the token that announces the key is put in front of it, and in a block context also the one
that begins a mapping, if its column is deeper than the mapping around it.
-/

namespace SchemaBeans.Yaml

/-- A place where a simple key may have begun. -/
structure SimpleKey where
  /-- The number of tokens before the key. -/
  before : Nat
  position : Position
  /-- Nothing but a key can stand there. -/
  isRequired : Bool
  deriving DecidableEq, Repr

/-- A text that is being cut into tokens. -/
structure Lexer where
  cursor : Cursor
  /-- The tokens so far, the last one first. -/
  tokens : List Token := []
  /-- The number of tokens so far. -/
  count : Nat := 0
  /-- The columns of the open block collections, the innermost first. -/
  indents : List Nat := []
  /-- The possible simple key of the innermost level. -/
  simpleKey : Option SimpleKey := none
  /-- Those of the levels around it; there is one level more than flow collections. -/
  outerKeys : List (Option SimpleKey) := []
  /-- A simple key may begin here. -/
  keyAllowed : Bool := true
  deriving DecidableEq, Repr

namespace Lexer

/-- The lexer is inside a flow collection. -/
def inFlow (x : Lexer) : Bool := !x.outerKeys.isEmpty

/-- The column of the innermost block collection, if there is one. -/
def indent? (x : Lexer) : Option Nat := x.indents.head?

/-- Adds a token. -/
def emit (x : Lexer) (t : Token) : Lexer :=
  { x with tokens := t :: x.tokens, count := x.count + 1 }

/-- Puts a token behind the first `before` ones. -/
def insert (x : Lexer) (before : Nat) (t : Token) : Lexer :=
  let behind := x.count - before
  { x with
    tokens := x.tokens.take behind ++ t :: x.tokens.drop behind
    count := x.count + 1 }

/-- Goes on from another place in the text. -/
def moveTo (x : Lexer) (c : Cursor) : Lexer := { x with cursor := c }

/-- Adds a token that is some characters long. -/
def emitAndSkip (x : Lexer) (t : Token) (width : Nat) : Lexer :=
  (x.emit t).moveTo (x.cursor.skip width)

/-- Adds a token that has been read up to a place in the text. -/
def emitRead (x : Lexer) (t : Token) (c : Cursor) : Lexer := (x.emit t).moveTo c

/-- Says whether a simple key may begin here. -/
def allowKey (x : Lexer) (allowed : Bool) : Lexer := { x with keyAllowed := allowed }

/-- Begins a block collection if the column is deeper than the one around it; the token goes behind
the first `before` ones. -/
def rollIndent (x : Lexer) (column before : Nat) (t : Token) : Lexer :=
  if !x.inFlow && x.indent?.all (· < column) then
    { x.insert before t with indents := column :: x.indents }
  else x

/-- Ends the block collections whose column is in the class. -/
def unrollWhile (deeper : Nat → Bool) : List Nat → Lexer → Lexer
  | [], x => { x with indents := [] }
  | column :: columns, x =>
    if deeper column then unrollWhile deeper columns (x.emit .blockEnd)
    else { x with indents := column :: columns }

/-- Ends the block collections that are deeper than a column. -/
def unrollTo (x : Lexer) (column : Nat) : Lexer :=
  if x.inFlow then x else unrollWhile (column < ·) x.indents x

/-- Ends all block collections. -/
def unrollAll (x : Lexer) : Lexer :=
  if x.inFlow then x else unrollWhile (fun _ => true) x.indents x

/-- Gives up the possible simple key of this level; one that is required must not be given up. -/
def dropKey (x : Lexer) : Option Lexer :=
  if x.simpleKey.any (·.isRequired) then none else some { x with simpleKey := none }

/-- Notes that a simple key may begin here. -/
def noteKey (x : Lexer) : Option Lexer :=
  if x.keyAllowed then
    x.dropKey.map fun y =>
      { y with
        simpleKey := some
          { before := x.count
            position := x.cursor.position
            isRequired := !x.inFlow && x.indent? == some x.cursor.column } }
  else some x

/-- A possible simple key cannot go on to this position: it is one line, and at most 1024
characters long. -/
def isStale (p : Position) (k : SimpleKey) : Bool :=
  k.position.line < p.line || k.position.index + 1024 < p.index

/-- Gives up the possible simple keys that are stale. -/
def dropStaleKeys (x : Lexer) : Option Lexer :=
  let stale := isStale x.cursor.position
  if (x.simpleKey :: x.outerKeys).any (·.any fun k => stale k && k.isRequired) then none
  else
    some
      { x with
        simpleKey := x.simpleKey.filter (!stale ·)
        outerKeys := x.outerKeys.map (·.filter (!stale ·)) }

/-- Skips white space and comments in front of a token; a line break allows a simple key, unless
inside a flow collection.  Tabs are white space only where no simple key may begin. -/
def skipSpace (inFlow : Bool) : (inComment allowed : Bool) → Position → List Char → Cursor × Bool
  | _, allowed, p, [] => (⟨p, []⟩, allowed)
  | _, allowed, p, '\r' :: '\n' :: cs =>
    skipSpace inFlow false (allowed || !inFlow) (p.nextLine 2) cs
  | inComment, allowed, p, c :: cs =>
    if isBreak c then skipSpace inFlow false (allowed || !inFlow) (p.nextLine 1) cs
    else if inComment then skipSpace inFlow true allowed p.next cs
    else if c = ' ' ∨ (c = '\t' ∧ (inFlow ∨ !allowed)) then skipSpace inFlow false allowed p.next cs
    else if c = '#' then skipSpace inFlow true allowed p.next cs
    else (⟨p, c :: cs⟩, allowed)

/-- Goes to the next token. -/
def toToken (x : Lexer) : Lexer :=
  let c := x.cursor
  let c := if c.position.index = 0 ∧ c.isAt '\ufeff' then c.skip 1 else c
  let (c, allowed) := skipSpace x.inFlow false x.keyAllowed c.position c.rest
  (x.moveTo c).allowKey allowed

/-- Ends the text. -/
def finish (x : Lexer) : Option Lexer := x.unrollAll.dropKey

/-- Reads the value of a version directive. -/
def versionDirective (c : Cursor) : Option (Token × Cursor) := do
  let (major, c) ← versionNumber (c.skipWhile isBlank)
  if !c.isAt '.' then none
  let (minor, c) ← versionNumber (c.skip 1)
  return (.versionDirective major minor, c)

/-- Reads the value of a tag directive. -/
def tagDirective (c : Cursor) : Option (Token × Cursor) := do
  let (handle, c) ← tagHandle (c.skipWhile isBlank)
  if handle ≠ "!" ∧ !isNamedHandle handle then none
  if !c.rest.head?.any isBlank then none
  let (start, c) ← tagSuffix true (c.skipWhile isBlank)
  if start.isEmpty || !atSpace c.rest then none
  return (.tagDirective handle start.upToNull, c)

/-- Reads a directive from its percent sign to the end of its line. -/
def directive (x : Lexer) : Option Lexer := do
  let x := (← x.unrollAll.dropKey).allowKey false
  let c := x.cursor.skip 1
  let name := String.ofList (c.rest.takeWhile isNameChar)
  let c := c.skipWhile isNameChar
  if !atSpace c.rest then none
  let (t, c) ←
    if name = "YAML" then versionDirective c
    else if name = "TAG" then tagDirective c
    else none
  return x.emitRead t (← c.skipLine?)

/-- Reads the marker of a document's start or end. -/
def marker (x : Lexer) (t : Token) : Option Lexer := do
  let x := (← x.unrollAll.dropKey).allowKey false
  return x.emitAndSkip t 3

/-- Begins a flow collection. -/
def flowStart (x : Lexer) (t : Token) : Option Lexer := do
  let x ← x.noteKey
  let x := { x with simpleKey := none, outerKeys := x.simpleKey :: x.outerKeys }
  return (x.allowKey true).emitAndSkip t 1

/-- Ends a flow collection. -/
def flowEnd (x : Lexer) (t : Token) : Option Lexer := do
  let x ← x.dropKey
  let x :=
    match x.outerKeys with
    | [] => x
    | key :: keys => { x with simpleKey := key, outerKeys := keys }
  return (x.allowKey false).emitAndSkip t 1

/-- Reads the comma between two entries. -/
def flowEntry (x : Lexer) : Option Lexer := do
  return ((← x.dropKey).allowKey true).emitAndSkip .flowEntry 1

/-- Begins a block collection at an indicator, where one may stand. -/
def blockIndicator (x : Lexer) (t : Token) : Option Lexer :=
  if x.inFlow then some x
  else if x.keyAllowed then some (x.rollIndent x.cursor.column x.count t)
  else none

/-- Reads the dash of an entry. -/
def blockEntry (x : Lexer) : Option Lexer := do
  let x ← (← x.blockIndicator .blockSequenceStart).dropKey
  return (x.allowKey true).emitAndSkip .blockEntry 1

/-- Reads the question mark of a key. -/
def complexKey (x : Lexer) : Option Lexer := do
  let x ← (← x.blockIndicator .blockMappingStart).dropKey
  return (x.allowKey !x.inFlow).emitAndSkip .key 1

/-- Reads the colon of a value. -/
def value (x : Lexer) : Option Lexer :=
  match x.simpleKey with
  | some k =>
    let x := (x.insert k.before .key).rollIndent k.position.column k.before .blockMappingStart
    some (({ x with simpleKey := none }.allowKey false).emitAndSkip .value 1)
  | none =>
    (x.blockIndicator .blockMappingStart).map fun x =>
      (x.allowKey !x.inFlow).emitAndSkip .value 1

/-- Reads a token that may begin a simple key. -/
def keyStart (x : Lexer) (read : Cursor → Option (Token × Cursor)) : Option Lexer := do
  let x ← x.noteKey
  let (t, c) ← read x.cursor
  return (x.allowKey false).emitRead t c

/-- Reads a plain scalar, which may end behind a line break. -/
def plain (x : Lexer) : Option Lexer := do
  let x ← x.noteKey
  let (text, broken, c) ←
    plainScalar x.inFlow (x.indent?.elim 0 (· + 1)) {} x.cursor.position x.cursor.rest
  return (x.allowKey broken).emitRead (.scalar true text) c

/-- Reads a block scalar. -/
def block (x : Lexer) (literal : Bool) : Option Lexer := do
  let x ← x.dropKey
  let (text, c) ← blockScalar literal x.indent? (x.cursor.skip 1)
  return (x.allowKey true).emitRead (.scalar false text) c

/-- A plain scalar may begin with this character, whatever follows. -/
def isPlainStart (c : Char) : Bool :=
  !(isBlank c || isBreak c ||
    ['-', '?', ':', ',', '[', ']', '\x7b', '\x7d', '#', '&', '*', '!', '|', '>', '\'', '"', '%',
      '@', '\x60'].contains c)

/-- A plain scalar begins here, where no indicator does. -/
def startsPlain (inFlow : Bool) (c : Char) (cs : List Char) : Bool :=
  isPlainStart c || (c = '-' && !cs.head?.any isBlank) ||
    (!inFlow && (c = '?' || c = ':') && !atSpace cs)

/-- Reads the token that begins with the character `c`. -/
def token (x : Lexer) (c : Char) (cs : List Char) : Option Lexer :=
  let atMargin := x.cursor.column = 0
  let indicates := x.inFlow || atSpace cs
  if atMargin && c = '%' then x.directive
  else if atMargin && isMarker '-' (c :: cs) then x.marker .documentStart
  else if atMargin && isMarker '.' (c :: cs) then x.marker .documentEnd
  else if c = '[' then x.flowStart .flowSequenceStart
  else if c = '\x7b' then x.flowStart .flowMappingStart
  else if c = ']' then x.flowEnd .flowSequenceEnd
  else if c = '\x7d' then x.flowEnd .flowMappingEnd
  else if c = ',' then x.flowEntry
  else if c = '-' && atSpace cs then x.blockEntry
  else if c = '?' && indicates then x.complexKey
  else if c = ':' && indicates then x.value
  else if c = '*' then x.keyStart fun c => (anchorName (c.skip 1)).map fun (n, c) => (.alias n, c)
  else if c = '&' then x.keyStart fun c => (anchorName (c.skip 1)).map fun (n, c) => (.anchor n, c)
  else if c = '!' then
    x.keyStart fun c => (tag x.inFlow c).map fun ((handle, suffix), c) => (.tag handle suffix, c)
  else if c = '|' && !x.inFlow then x.block true
  else if c = '>' && !x.inFlow then x.block false
  else if c = '\'' then
    x.keyStart fun c => (singleQuoted {} c.position.next cs).map fun (s, c) => (.scalar false s, c)
  else if c = '"' then
    x.keyStart fun c => (doubleQuoted {} c.position.next cs).map fun (s, c) => (.scalar false s, c)
  else if startsPlain x.inFlow c cs then x.plain
  else none

/-- Reads tokens to the end of the text, at most `fuel` of them. -/
def run : (fuel : Nat) → Lexer → Option Lexer
  | 0, _ => none
  | fuel + 1, x => do
    let x ← x.toToken.dropStaleKeys
    match x.cursor.rest with
    | [] => x.finish
    | c :: cs => run fuel (← (x.unrollTo x.cursor.column).token c cs)

end Lexer

/-- The tokens of a text.  Every token is a character long at least, so there are no more of them
than characters. -/
def tokenize (text : String) : Except Fault (List Token) :=
  let cs := text.toList
  if !cs.all isAllowed then .error .character
  else
    match Lexer.run (cs.length + 1) { cursor := { rest := cs } } with
    | some x => .ok x.tokens.reverse
    | none => .error .token

end SchemaBeans.Yaml
