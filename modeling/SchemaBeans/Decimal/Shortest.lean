import SchemaBeans.Decimal.Binary64

/-!
# Decimal — Shortest

The decimal with the fewest digits that is read back as a given magnitude, and of those the one
nearest to it.  For each number of digits the two neighbours of the magnitude on that decimal grid
are tried.
-/

namespace SchemaBeans.Decimal

/-- The number `digits · 10 ^ exponent`. -/
structure Scientific where
  digits : Nat
  exponent : Int
  deriving DecidableEq, Repr

/-- The numbers that round to a magnitude, in quarters of its last binary digit. -/
structure Interval where
  low : Nat
  value : Nat
  high : Nat
  /-- The ends round to the magnitude too. -/
  isClosed : Bool
  /-- The exponent of the quarters. -/
  exponent : Int
  deriving DecidableEq, Repr

namespace Interval

/-- The numbers that round to `m`: half a digit around it, and half of that below a power of two. -/
def around (m : Magnitude) : Interval where
  low :=
    if m.significand = Nat.pow 2 52 ∧ Magnitude.leastExponent < m.exponent then
      4 * m.significand - 1
    else 4 * m.significand - 2
  value := 4 * m.significand
  high := 4 * m.significand + 2
  isClosed := m.significand % 2 = 0
  exponent := m.exponent - 2

/-- Quarters, and points of a decimal grid, as whole numbers of one unit. -/
def quarters (i : Interval) (grid : Int) (count : Nat) : Nat :=
  count * Nat.pow 2 i.exponent.toNat * Nat.pow 10 (-grid).toNat

/-- Points of a decimal grid in the unit of `quarters`. -/
def points (i : Interval) (grid : Int) (count : Nat) : Nat :=
  count * Nat.pow 10 grid.toNat * Nat.pow 2 (-i.exponent).toNat

/-- A point of a decimal grid rounds to the magnitude. -/
def holds (i : Interval) (grid : Int) (count : Nat) : Bool :=
  let point := i.points grid count
  let low := i.quarters grid i.low
  let high := i.quarters grid i.high
  if i.isClosed then low ≤ point && point ≤ high else low < point && point < high

/-- The better of the two neighbours of the value on a decimal grid, if one rounds to it. -/
def pick? (i : Interval) (grid : Int) : Option Nat :=
  let value := i.quarters grid i.value
  let below := value / i.points grid 1
  let above := below + 1
  match i.holds grid below, i.holds grid above with
  | true, false => some below
  | false, true => some above
  | false, false => none
  | true, true =>
    let down := value - i.points grid below
    let up := i.points grid above - value
    if down < up then some below
    else if up < down then some above
    else some (if below % 2 = 0 then below else above)

/-- The exponent of the value's leading decimal digit. -/
def leadingExponent (i : Interval) : Int :=
  let scaled := i.quarters (-350) i.value / Nat.pow 2 (-i.exponent).toNat
  ((Nat.toDigits 10 scaled).length : Int) - 1 - 350

/-- Tries the grids of `digits`, `digits + 1`, … digits. -/
def search (i : Interval) (leading : Int) : (tries digits : Nat) → Scientific
  | 0, _ => ⟨i.value * Nat.pow 2 i.exponent.toNat, 0⟩
  | tries + 1, digits =>
    let grid := leading - digits + 1
    match i.pick? grid with
    | some count => ⟨count, grid⟩
    | none => search i leading tries (digits + 1)

end Interval

namespace Scientific

/-- Takes trailing zeros off the digits, at most `count` of them. -/
def trim : (count : Nat) → Scientific → Scientific
  | 0, s => s
  | count + 1, s =>
    if s.digits ≠ 0 ∧ s.digits % 10 = 0 then trim count ⟨s.digits / 10, s.exponent + 1⟩ else s

/-- The shortest decimal that is read as `m`.  Seventeen digits tell all magnitudes apart. -/
def shortest (m : Magnitude) : Scientific :=
  let i := Interval.around m
  if m.significand = 0 then ⟨0, 0⟩ else trim 20 (i.search i.leadingExponent 17 1)

end Scientific

end SchemaBeans.Decimal
