/-!
# Decimal — Binary64

Magnitudes with 53 binary digits, as exact numbers `significand · 2 ^ exponent`.  A decimal is read
as the nearest magnitude, and as the one with the even significand if two are equally near.
-/

namespace SchemaBeans.Decimal

/-- The number `significand · 2 ^ exponent`.  The significand is below `2 ^ 53`, and at least
`2 ^ 52` unless the exponent is the least one. -/
structure Magnitude where
  significand : Nat
  exponent : Int
  deriving DecidableEq, Repr

namespace Magnitude

/-- The least exponent. -/
def leastExponent : Int := -1074

/-- The greatest exponent. -/
def greatestExponent : Int := 971

/-- No magnitude at all. -/
def zero : Magnitude := ⟨0, leastExponent⟩

/-- The fraction `numerator / denominator`, divided by `2 ^ exponent`. -/
def scale (numerator denominator : Nat) (exponent : Int) : Nat × Nat :=
  (numerator * Nat.pow 2 (-exponent).toNat, denominator * Nat.pow 2 exponent.toNat)

/-- The whole number nearest to a fraction, and the even one if two are equally near. -/
def roundHalfEven (numerator denominator : Nat) : Nat :=
  let quotient := numerator / denominator
  let rest := numerator % denominator
  if 2 * rest < denominator then quotient
  else if denominator < 2 * rest then quotient + 1
  else quotient + quotient % 2

/-- The exponent at which the whole part of a fraction has 53 binary digits, or the least one. -/
def exponentFor (numerator denominator : Nat) : Int :=
  let guess := (numerator.log2 : Int) - denominator.log2 - 53
  let (n, d) := scale numerator denominator guess
  max leastExponent (if n / d < Nat.pow 2 53 then guess else guess + 1)

/-- The magnitude nearest to a fraction, unless it is too great. -/
def ofFraction? (numerator denominator : Nat) : Option Magnitude :=
  let exponent := exponentFor numerator denominator
  let (n, d) := scale numerator denominator exponent
  let significand := roundHalfEven n d
  let result : Magnitude :=
    if significand < Nat.pow 2 53 then ⟨significand, exponent⟩ else ⟨Nat.pow 2 52, exponent + 1⟩
  if result.exponent ≤ greatestExponent then some result else none

/-- The magnitude nearest to `digits · 10 ^ exponent`, unless it is too great.  What is far too
great or far too small is told from its number of digits. -/
def ofDecimal? (digits : Nat) (exponent : Int) : Option Magnitude :=
  let leading := exponent + (Nat.toDigits 10 digits).length
  if digits = 0 ∨ leading < -400 then some zero
  else if 400 < leading then none
  else ofFraction? (digits * Nat.pow 10 exponent.toNat) (Nat.pow 10 (-exponent).toNat)

end Magnitude

end SchemaBeans.Decimal
