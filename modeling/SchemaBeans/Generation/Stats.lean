import SchemaBeans.Java.Package
import SchemaBeans.Schema.Warning

/-!
# Generation — Stats

What a run counts: what it found, generated, wrote and deleted, and the warnings it gave.
-/

namespace SchemaBeans.Generation

/-- The counts of a run. -/
structure Stats where
  schemas : Nat := 0
  types : Nat := 0
  classes : Nat := 0
  enums : Nat := 0
  enumValues : Nat := 0
  members : Nat := 0
  constants : Nat := 0
  written : Nat := 0
  removed : Nat := 0
  warnings : List Schema.Warning := []
  deriving DecidableEq, Repr

namespace Stats

/-- Counts schemas. -/
def recordSchemas (s : Stats) (count : Nat) : Stats := { s with schemas := s.schemas + count }

/-- Counts a class with its members and constants. -/
def recordClass (s : Stats) (c : Java.Class) : Stats :=
  { s with
    types := s.types + 1
    classes := s.classes + 1
    members := s.members + c.members.length
    constants := s.constants + c.constants.length }

/-- Counts an enum with its values. -/
def recordEnum (s : Stats) (e : Java.Enum) : Stats :=
  { s with
    types := s.types + 1
    enums := s.enums + 1
    enumValues := s.enumValues + e.constants.length }

/-- Counts written files. -/
def recordWritten (s : Stats) (count : Nat) : Stats := { s with written := s.written + count }

/-- Counts deleted files. -/
def recordRemoved (s : Stats) (count : Nat) : Stats := { s with removed := s.removed + count }

/-- Keeps warnings. -/
def recordWarnings (s : Stats) (warnings : List Schema.Warning) : Stats :=
  { s with warnings := s.warnings ++ warnings }

/-- Counts the types of a package. -/
def recordPackage (s : Stats) (p : Java.Package) : Stats :=
  p.enums.values.foldl recordEnum (p.classes.values.foldl recordClass s)

end Stats

end SchemaBeans.Generation
