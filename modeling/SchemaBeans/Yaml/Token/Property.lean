import SchemaBeans.Yaml.Cursor
import SchemaBeans.Yaml.Tag

/-!
# Yaml — Token — Property

Names of anchors, tags and directives.  A tag is a handle and a suffix; a suffix may hold octets in
hexadecimal, as many together as the first of them asks for.
-/

namespace SchemaBeans.Yaml

/-- The character may follow the name of an anchor. -/
def endsAnchor (cs : List Char) : Bool :=
  atSpace cs || endsOr (['?', ':', ',', ']', '\x7d', '%', '@', '\x60'].contains ·) cs

/-- Reads the name of an anchor or an alias. -/
def anchorName (c : Cursor) : Option (String × Cursor) :=
  let name := c.rest.takeWhile isNameChar
  let c := c.skipWhile isNameChar
  if name.isEmpty || !endsAnchor c.rest then none else some (String.ofList name, c)

/-- A character of a tag; `verbatim` says that the tag is set off otherwise. -/
def isTagChar (verbatim : Bool) (c : Char) : Bool :=
  isNameChar c ||
    [';', '/', '?', ':', '@', '&', '=', '+', '$', '.', '%', '!', '~', '*', '\'', '(',
      ')'].contains c ||
    (verbatim && [',', '[', ']'].contains c)

/-- The number of octets of a character whose first octet this is. -/
def octetCount? (octet : Nat) : Option Nat :=
  if octet < 0x80 then some 1
  else if octet < 0xc0 then none
  else if octet < 0xe0 then some 2
  else if octet < 0xf0 then some 3
  else if octet < 0xf8 then some 4
  else none

/-- Reads one octet, written as a percent sign and two hexadecimal digits. -/
def octet? : List Char → Option (Nat × List Char)
  | '%' :: a :: b :: cs => (hexNumber? [a, b]).map (·, cs)
  | _ => none

/-- Reads the octets of a character that go on from `value`. -/
def trailingOctets : (count : Nat) → (value : Nat) → List Char → Option (Nat × List Char)
  | 0, value, cs => some (value, cs)
  | count + 1, value, cs =>
    match octet? cs with
    | some (octet, cs) =>
      if 0x80 ≤ octet ∧ octet < 0xc0 then trailingOctets count (value * 64 + (octet - 0x80)) cs
      else none
    | none => none

/-- Reads octets that belong together, and the character that they stand for, if they are one. -/
def escapedChar? (cs : List Char) : Option (Option Char × List Char) := do
  let (octet, cs) ← octet? cs
  let count ← octetCount? octet
  let lead := if count = 1 then octet else octet % Nat.pow 2 (7 - count)
  let (code, cs) ← trailingOctets (count - 1) lead cs
  return (decoded? count code, cs)

/-- Reads at most `limit` characters of a tag. -/
def tagText (verbatim : Bool) : (limit : Nat) → List Char → Option (TagText × List Char)
  | 0, cs => some ([], cs)
  | _, [] => some ([], [])
  | limit + 1, c :: cs =>
    if !isTagChar verbatim c then some ([], c :: cs)
    else if c = '%' then
      match escapedChar? (c :: cs) with
      | some (c, rest) => (tagText verbatim limit rest).map fun (text, rest) => (c :: text, rest)
      | none => none
    else (tagText verbatim limit cs).map fun (text, rest) => (some c :: text, rest)

/-- The cursor once the rest has become shorter within the line. -/
def Cursor.moveTo (c : Cursor) (rest : List Char) : Cursor :=
  c.skip (c.rest.length - rest.length)

/-- Reads all the characters of a tag that come next. -/
def tagSuffix (verbatim : Bool) (c : Cursor) : Option (TagText × Cursor) :=
  (tagText verbatim c.rest.length c.rest).map fun (text, rest) => (text, c.moveTo rest)

/-- Reads a handle: an exclamation mark, a name, and a second exclamation mark if it is there. -/
def tagHandle (c : Cursor) : Option (String × Cursor) :=
  match c.rest with
  | '!' :: cs =>
    let name := cs.takeWhile isNameChar
    let c := (c.skip 1).skipWhile isNameChar
    if c.isAt '!' then some (String.ofList ('!' :: name ++ ['!']), c.skip 1)
    else some (String.ofList ('!' :: name), c)
  | _ => none

/-- The handle has a name, or two exclamation marks. -/
def isNamedHandle (handle : String) : Bool :=
  2 ≤ handle.length && handle.toList.getLast? == some '!'

/-- Reads a tag as a handle and a suffix. -/
def tagParts (c : Cursor) : Option ((String × TagText) × Cursor) :=
  match c.rest with
  | '!' :: '<' :: _ => do
    let (suffix, c) ← tagSuffix true (c.skip 2)
    if suffix.isEmpty || !c.isAt '>' then none else some (("", suffix.upToNull), c.skip 1)
  | _ => do
    let (handle, c) ← tagHandle c
    let (suffix, c) ← tagSuffix false c
    if isNamedHandle handle then
      if suffix.isEmpty then none else some ((handle, suffix.upToNull), c)
    else
      let suffix := TagText.upToNull ((TagText.ofText handle).drop 1 ++ suffix)
      some (if suffix.isEmpty then (("", .ofText "!"), c) else (("!", suffix), c))

/-- Reads a tag, which white space has to follow, or a comma in a flow collection. -/
def tag (inFlow : Bool) (c : Cursor) : Option ((String × TagText) × Cursor) :=
  (tagParts c).bind fun (parts, c) =>
    if atSpace c.rest || (inFlow && c.isAt ',') then some (parts, c) else none

/-- Reads a number of at most nine digits. -/
def versionNumber (c : Cursor) : Option (Nat × Cursor) :=
  let digits := c.rest.takeWhile Char.isDigit
  if digits.isEmpty || 9 < digits.length then none
  else
    some (digits.foldl (fun n d => n * 10 + (d.toNat - '0'.toNat)) 0, c.skip digits.length)

end SchemaBeans.Yaml
