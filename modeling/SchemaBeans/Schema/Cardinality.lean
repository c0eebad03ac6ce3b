/-!
# Schema — Cardinality

How often a property occurs.  `min` is positive for a required property, and `dimensions` counts
the arrays around its elements.  The largest number of occurrences is given by the dimensions: one
for a scalar, and a multiple of 128 for an array.  Dividing by 128 gives the dimensions back
(`Cardinality.max_div_perDimension`).

Counts are kept in words of 32 bits.  Sums and products are those of `Nat`; an operation that
could leave the word checks that it does not (`Overflow`).
-/

namespace SchemaBeans.Schema

/-- The first number that a word does not hold. -/
def wordLimit : Nat := Nat.pow 2 32

/-- An operation on words whose result is not a word. -/
inductive Overflow where
  | addition
  | multiplication
  deriving DecidableEq, Repr

/-- What is reported of an overflow. -/
def Overflow.message : Overflow → String
  | .addition => "attempt to add with overflow"
  | .multiplication => "attempt to multiply with overflow"

/-- The occurrence bounds of a property. -/
structure Cardinality where
  min : Nat := 0
  dimensions : Nat := 0
  deriving DecidableEq, Repr

namespace Cardinality

/-- Each dimension of an array counts for this many occurrences. -/
def perDimension : Nat := 128

/-- The largest number of occurrences. -/
def max (c : Cardinality) : Nat := if c.dimensions = 0 then 1 else perDimension * c.dimensions

/-- The dimensions are read back from the largest number of occurrences.  A scalar has the remainder
one, which counts for no dimension. -/
@[simp] theorem max_div_perDimension (c : Cardinality) : c.max / perDimension = c.dimensions := by
  rw [max]
  split
  · next h =>
    rw [h]
    exact Nat.div_eq_of_lt (by decide)
  · exact Nat.mul_div_cancel_left _ (by decide)

/-- The property has to occur. -/
def isRequired (c : Cardinality) : Bool := 0 < c.min

/-- The property is an array. -/
def isCollection (c : Cardinality) : Bool := 0 < c.dimensions

/-- The bounds of an array whose elements have bounds of their own. -/
def sum (c d : Cardinality) : Cardinality := ⟨c.min + d.min, c.dimensions + d.dimensions⟩

/-- Both bounds are words. -/
def Fits (c : Cardinality) : Prop := c.min < wordLimit ∧ c.dimensions < wordLimit

instance (c : Cardinality) : Decidable c.Fits := inferInstanceAs (Decidable (_ ∧ _))

/-- The largest number of occurrences, if it is a word. -/
def max? (c : Cardinality) : Except Overflow Nat :=
  if c.max < wordLimit then .ok c.max else .error .multiplication

end Cardinality

end SchemaBeans.Schema
