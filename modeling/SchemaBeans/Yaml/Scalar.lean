import SchemaBeans.Yaml.Fault
import SchemaBeans.Yaml.Node
import SchemaBeans.Yaml.Tag

/-!
# Yaml — Scalar

The data that a scalar's text stands for.  A plain scalar may be nothing, a truth value or a number,
and is a string otherwise.  Numbers with a leading zero before other digits are strings, as are
numbers that are too great for a magnitude; an integer that takes more than 64 bits and no more than
128 is a fault.
-/

namespace SchemaBeans.Yaml

open Decimal (Magnitude)

namespace Scalar

/-- The spellings of nothing. -/
def isNull (cs : List Char) : Bool :=
  ["null", "Null", "NULL", "~"].contains (String.ofList cs)

/-- The truth value that a text spells. -/
def bool? (cs : List Char) : Option Bool :=
  let text := String.ofList cs
  if ["true", "True", "TRUE"].contains text then some true
  else if ["false", "False", "FALSE"].contains text then some false
  else none

/-- The number that digits of a base spell. -/
def digits? (base : Nat) (cs : List Char) : Option Nat :=
  let digit? (c : Char) : Option Nat :=
    let value :=
      if c.isDigit then c.toNat - '0'.toNat
      else if 'a' ≤ c ∧ c ≤ 'z' then c.toNat - 'a'.toNat + 10
      else if 'A' ≤ c ∧ c ≤ 'Z' then c.toNat - 'A'.toNat + 10
      else base
    if value < base then some value else none
  if cs.isEmpty then none
  else cs.foldl (fun n c => do return (← n) * base + (← digit? c)) (some 0)

/-- The text without a sign it may begin with. -/
def unsigned : List Char → List Char
  | '+' :: cs | '-' :: cs => cs
  | cs => cs

/-- Digits that begin with a zero are text. -/
def isPadded (cs : List Char) : Bool :=
  match unsigned cs with
  | '0' :: d :: ds => (d :: ds).all Char.isDigit
  | _ => false

/-- The number that a text spells in decimal, or in another base after its mark. -/
def natural? : List Char → Option Nat
  | '0' :: 'x' :: cs => digits? 16 cs
  | '0' :: 'o' :: cs => digits? 8 cs
  | '0' :: 'b' :: cs => digits? 2 cs
  | cs => digits? 10 cs

/-- The integer that a text spells. -/
def integer? (cs : List Char) : Option Int :=
  if isPadded cs then none
  else
    match cs with
    | '-' :: cs => (natural? cs).map fun n => -(n : Int)
    | '+' :: cs => (natural? cs).map Int.ofNat
    | cs => (natural? cs).map Int.ofNat

/-- The integer fits into 64 bits, signed or not. -/
def isShort (i : Int) : Bool := -(Nat.pow 2 63 : Int) ≤ i && i < Nat.pow 2 64

/-- The integer fits into 128 bits, signed or not. -/
def isLong (i : Int) : Bool := -(Nat.pow 2 127 : Int) ≤ i && i < Nat.pow 2 128

/-- The exponent that follows the digits of a number, if it is one. -/
def exponent? : List Char → Option Int
  | [] => some 0
  | e :: cs =>
    if e = 'e' ∨ e = 'E' then
      match cs with
      | '-' :: cs => (digits? 10 cs).map fun n => -(n : Int)
      | '+' :: cs => (digits? 10 cs).map Int.ofNat
      | cs => (digits? 10 cs).map Int.ofNat
    else none

/-- The magnitude that a text without a sign spells, unless it is too great. -/
def magnitude? (cs : List Char) : Option Magnitude := do
  let whole := cs.takeWhile Char.isDigit
  let rest := cs.dropWhile Char.isDigit
  let (part, rest) :=
    match rest with
    | '.' :: rest => (rest.takeWhile Char.isDigit, rest.dropWhile Char.isDigit)
    | _ => ([], rest)
  let digits ← digits? 10 (whole ++ part)
  let exponent ← exponent? rest
  Magnitude.ofDecimal? digits (exponent - part.length)

/-- The number with a point or an exponent that a text spells. -/
def float? (cs : List Char) : Option Number :=
  let text := String.ofList cs
  let finite? (negative : Bool) (cs : List Char) : Option Number :=
    (magnitude? cs).map (.finite negative)
  if [".inf", ".Inf", ".INF", "+.inf", "+.Inf", "+.INF"].contains text then some (.infinite false)
  else if ["-.inf", "-.Inf", "-.INF"].contains text then some (.infinite true)
  else if [".nan", ".NaN", ".NAN"].contains text then some .notANumber
  else
    match cs with
    | '-' :: cs => finite? true cs
    | '+' :: cs => finite? false cs
    | cs => finite? false cs

/-- The integer that a text spells, if it does; it must fit into 64 bits. -/
def integerNode? (cs : List Char) : Option (Except Fault Node) :=
  match integer? cs with
  | none => none
  | some i =>
    if isShort i then some (.ok (.number (.integer i)))
    else if isLong i then some (.error .scalar)
    else none

/-- The data of a plain scalar. -/
def plain (text : String) : Except Fault Node :=
  let cs := text.toList
  if cs.isEmpty || isNull cs then .ok .null
  else
    match bool? cs with
    | some b => .ok (.bool b)
    | none =>
      match integerNode? cs with
      | some result => result
      | none =>
        match if isPadded cs then none else float? cs with
        | some n => .ok (.number n)
        | none => .ok (.string text)

/-- The data of a scalar that has to be there. -/
def required (result : Option Node) : Except Fault Node :=
  match result with
  | some n => .ok n
  | none => .error .scalar

/-- What the tags of the core types begin with. -/
def coreTag : String := "tag:yaml.org,2002:"

/-- The data of a scalar with a tag of no kind of its own: the core types force their type, and any
other tag makes it a string. -/
def forced (tag : TagText) (text : String) : Except Fault Node :=
  let cs := text.toList
  if tag = .ofText (coreTag ++ "bool") then required ((bool? cs).map .bool)
  else if tag = .ofText (coreTag ++ "int") then (integerNode? cs).getD (.error .scalar)
  else if tag = .ofText (coreTag ++ "float") then required ((float? cs).map .number)
  else if tag = .ofText (coreTag ++ "null") then required (if isNull cs then some .null else none)
  else .ok (.string text)

end Scalar

/-- The node under the tag it was written with, if that has a kind of its own. -/
def withTag (tag : Option TagText) (n : Node) : Node :=
  match ownTag? tag with
  | some name => .tagged name n
  | none => n

/-- The data of a scalar as it is written.  A tag of its own kind that has no name counts for
none. -/
def Node.ofScalar (tag : Option TagText) (plain : Bool) (text : String) : Except Fault Node :=
  let untagged : Except Fault Node := if plain then Scalar.plain text else .ok (.string text)
  match tag, ownTag? tag with
  | _, some name => untagged.map (.tagged name)
  | some (some '!' :: _), none => untagged
  | some tag, none => Scalar.forced tag text
  | none, none => untagged

end SchemaBeans.Yaml
