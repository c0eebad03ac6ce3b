/-!
# Text — Character ranges

A property of characters, as data: a sorted list of evenly spaced ranges of code points.  A class
of letters whose cases alternate is a range with a stride of two, so the tables stay short.
-/

namespace SchemaBeans.Text

/-- The code points `first`, `first + stride`, …, up to `last`. -/
structure CharRange where
  first : Nat
  last : Nat
  stride : Nat
  deriving DecidableEq, Repr

namespace CharRange

/-- Membership in a sorted list of disjoint ranges; the search ends at the first range beyond
`code`. -/
def covers : List CharRange → Nat → Bool
  | [], _ => false
  | r :: rs, code =>
    if code < r.first then false
    else if code ≤ r.last then (code - r.first) % r.stride == 0
    else covers rs code

end CharRange

/-- A range of code points together with the image of its first one; the others keep their
distance from it. -/
structure CharShift where
  first : Nat
  last : Nat
  stride : Nat
  image : Nat
  deriving DecidableEq, Repr

namespace CharShift

/-- The image of `code` under a sorted list of shifts, if one of them moves it. -/
def image? : List CharShift → Nat → Option Nat
  | [], _ => none
  | s :: ss, code =>
    if code < s.first then none
    else if code ≤ s.last then
      if (code - s.first) % s.stride == 0 then some (s.image + (code - s.first)) else none
    else image? ss code

end CharShift

end SchemaBeans.Text
