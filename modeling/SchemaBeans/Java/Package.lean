import SchemaBeans.Java.Class
import SchemaBeans.Java.Enum
import Std.Data.ExtTreeMap

/-!
# Java — Package

The types of a package by name.  Classes and enums are kept apart, so a class and an enum may have
the same name; of two classes, or two enums, of one name the later stays.
-/

namespace SchemaBeans.Java

/-- A package. -/
structure Package where
  name : String
  classes : Std.ExtTreeMap String Class := ∅
  enums : Std.ExtTreeMap String Enum := ∅
  deriving DecidableEq

namespace Package

/-- There are no types in the package. -/
def isEmpty (p : Package) : Bool := p.classes.isEmpty && p.enums.isEmpty

/-- The number of types. -/
def size (p : Package) : Nat := p.classes.size + p.enums.size

/-- A class or an enum has the name. -/
def contains (p : Package) (name : String) : Bool :=
  p.classes.contains name || p.enums.contains name

/-- The package with one more class. -/
def addClass (p : Package) (c : Class) : Package := { p with classes := p.classes.insert c.name c }

/-- The package with one more enum. -/
def addEnum (p : Package) (e : Enum) : Package := { p with enums := p.enums.insert e.name e }

end Package

end SchemaBeans.Java
