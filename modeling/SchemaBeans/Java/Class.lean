import SchemaBeans.Java.Comment
import SchemaBeans.Order.Stable

/-!
# Java — Class

A class with private members, an accessor pair for each, public constants and one constructor.
Members and constants are kept in the order of their names.  The constructor's parameters are the
required members; they are named by their positions among the members.
-/

namespace SchemaBeans.Java

/-- A member or a constant of a class. -/
structure Member where
  name : String := ""
  /-- The name in the accessors. -/
  pascalName : String := ""
  type : String := ""
  description : List String := []
  /-- The literal assigned to a constant; empty for other members. -/
  value : String := ""
  /-- The name in serialized form, if it differs from the name; empty otherwise. -/
  serializedName : String := ""
  isRequired : Bool := false
  deriving DecidableEq, Repr

namespace Member

/-- The member has another name in serialized form. -/
def isRenamed (m : Member) : Bool := m.serializedName ≠ ""

/-- The name in serialized form. -/
def wireName (m : Member) : String := if m.isRenamed then m.serializedName else m.name

end Member

/-- A parameter of a constructor: the position of its member, and whether it comes first. -/
structure Parameter where
  isFirst : Bool
  index : Nat
  deriving DecidableEq, Repr

/-- A class. -/
structure Class where
  name : String
  description : List String
  members : List Member
  constants : List Member
  deriving DecidableEq, Repr

namespace Class

/-- The class of the given members and constants. -/
def ofMembers (name description : String) (members constants : List Member) : Class where
  name := name
  description := commentLines description
  members := Order.sortBy Member.name members
  constants := Order.sortBy Member.name constants

/-- The positions of the required members, counted from `start`. -/
def requiredFrom (start : Nat) : List Member → List Nat
  | [] => []
  | m :: ms =>
    if m.isRequired then start :: requiredFrom (start + 1) ms else requiredFrom (start + 1) ms

/-- The parameters of the constructor. -/
def parameters (c : Class) : List Parameter :=
  match requiredFrom 0 c.members with
  | [] => []
  | i :: is => ⟨true, i⟩ :: is.map (⟨false, ·⟩)

/-- The members that the constructor sets, in the order of its parameters. -/
def required (c : Class) : List Member := c.parameters.filterMap fun p => c.members[p.index]?

/-- Some member has another name in serialized form. -/
def hasRenamed (c : Class) : Bool := c.members.any Member.isRenamed

end Class

end SchemaBeans.Java
