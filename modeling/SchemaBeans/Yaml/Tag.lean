/-!
# Yaml — Tag

A tag is written with characters, and with octets in hexadecimal.  Octets that are UTF-8 stand for a
character like any other; a tag that has other octets is no text, and has no name then.
-/

namespace SchemaBeans.Yaml

/-- What a tag is written with: characters, and octets that are none. -/
abbrev TagText := List (Option Char)

namespace TagText

/-- The tag with these characters. -/
def ofText (text : String) : TagText := text.toList.map some

/-- The characters of a tag, if it has no other octets. -/
def text? (t : TagText) : Option String := (t.mapM id).map String.ofList

/-- A tag has come to its end at a null character, whatever is written behind that. -/
def upToNull (t : TagText) : TagText := t.takeWhile (· ≠ some '\x00')

end TagText

/-- The first code that takes so many octets. -/
def firstCode : (count : Nat) → Nat
  | 0 | 1 => 0
  | 2 => 0x80
  | 3 => 0x800
  | _ => 0x10000

/-- The character with a code that is written in so many octets; it may not take fewer. -/
def decoded? (count code : Nat) : Option Char :=
  if firstCode count ≤ code ∧ code.isValidChar then some (Char.ofNat code) else none

/-- What handles stand for unless a directive says otherwise. -/
def defaultHandles : List (String × TagText) :=
  [("!", .ofText "!"), ("!!", .ofText "tag:yaml.org,2002:")]

/-- The name of a tag that has a kind of its own: one that begins with an exclamation mark. -/
def ownTag? (tag : Option TagText) : Option String :=
  match tag with
  | some [some '!'] => some "!"
  | some (some '!' :: name) => TagText.text? name
  | _ => none

end SchemaBeans.Yaml
