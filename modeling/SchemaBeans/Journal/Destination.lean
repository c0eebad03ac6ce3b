import SchemaBeans.Journal.Level

/-!
# Journal — Destination

Where the journal goes, and how much of it there is unless the environment says otherwise.
-/

namespace SchemaBeans.Journal

/-- Where the journal is written. -/
inductive Destination where
  | standardError
  | file (path : String)
  deriving DecidableEq, Repr

namespace Destination

/-- The destination a setting names: a dash and the empty text stand for the standard error. -/
def parse (setting : String) : Destination :=
  if setting = "-" ∨ setting = "" then .standardError else .file setting

/-- The file the journal is written to, if it is a file. -/
def path? : Destination → Option String
  | .standardError => none
  | .file path => some path

end Destination

/-- The level of a journal that nothing else sets. -/
def defaultLevel (verbose : Bool) : Level := if verbose then .debug else .info

end SchemaBeans.Journal
