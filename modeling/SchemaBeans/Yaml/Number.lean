import SchemaBeans.Decimal.Shortest

/-!
# Yaml — Number

The numbers of a document and how they are shown.  Integers are shown in decimal.  Other numbers are
shown with the fewest digits that are read back: with a point, unless the point would be far from
the digits, and otherwise with an exponent.
-/

namespace SchemaBeans.Yaml

open Decimal (Magnitude Scientific)

/-- A number. -/
inductive Number where
  | integer (value : Int)
  | finite (negative : Bool) (magnitude : Magnitude)
  | infinite (negative : Bool)
  | notANumber
  deriving DecidableEq, Repr

namespace Number

/-- The two numbers are one key of a mapping.  The two zeros are; an integer and another number are
not. -/
def isSame : Number → Number → Bool
  | .finite s a, .finite t b => a = b && (s = t || a.significand = 0)
  | m, n => m = n

/-- That many zeros. -/
def zeros (count : Nat) : String := String.ofList (List.replicate count '0')

/-- A decimal in words of digits: with a point if it stands at most sixteen digits to the right of
the first digit, or at most four zeros to its left, and with an exponent otherwise. -/
def decimalText (s : Scientific) : String :=
  let digits := Nat.toDigits 10 s.digits
  let point := (digits.length : Int) + s.exponent
  if 0 ≤ s.exponent ∧ point ≤ 16 then String.ofList digits ++ zeros s.exponent.toNat ++ ".0"
  else if 0 < point ∧ point ≤ 16 then
    String.ofList (digits.take point.toNat) ++ "." ++ String.ofList (digits.drop point.toNat)
  else if -5 < point ∧ point ≤ 0 then "0." ++ zeros (-point).toNat ++ String.ofList digits
  else
    String.ofList (digits.take 1) ++
      (if digits.length = 1 then "" else "." ++ String.ofList (digits.drop 1)) ++
      "e" ++ toString (point - 1)

/-- The sign of a number that is not an integer. -/
def signText (negative : Bool) : String := if negative then "-" else ""

/-- The number as it is shown. -/
def text : Number → String
  | .integer value => toString value
  | .finite negative m => signText negative ++ decimalText (Scientific.shortest m)
  | .infinite negative => signText negative ++ ".inf"
  | .notANumber => ".nan"

end Number

end SchemaBeans.Yaml
