import SchemaBeans.Java.Comment
import SchemaBeans.Naming.Snake
import SchemaBeans.Order.Stable
import SchemaBeans.Schema.Property

/-!
# Java — Enum

An enum with one constant for each of its values.  The constant's name is the value in screaming
snake case, and the constants are in the order of their names.  The value that stands for the lack
of one has no constant.
-/

namespace SchemaBeans.Java

/-- A constant of an enum and the value it stands for. -/
structure EnumConstant where
  name : String
  value : String
  deriving DecidableEq, Repr

/-- The constant for a value. -/
def EnumConstant.ofValue (value : String) : EnumConstant := ⟨Naming.screaming value, value⟩

/-- An enum. -/
structure Enum where
  name : String
  description : List String
  constants : List EnumConstant
  deriving DecidableEq, Repr

/-- The enum of the given values. -/
def Enum.ofValues (name description : String) (values : List String) : Enum where
  name := name
  description := commentLines description
  constants :=
    Order.sortBy EnumConstant.name
      ((values.filter (· ≠ Schema.nilValue)).map EnumConstant.ofValue)

end SchemaBeans.Java
