/-!
# Journal — Level

How severe an entry of the journal is.  A journal that is kept at a level holds the entries of that
level and of the more severe ones.
-/

namespace SchemaBeans.Journal

/-- The severity of an entry. -/
inductive Level where
  | trace
  | debug
  | info
  | warn
  | error
  deriving DecidableEq, Repr

namespace Level

/-- Greater for the more severe. -/
def severity : Level → Nat
  | .trace => 0
  | .debug => 1
  | .info => 2
  | .warn => 3
  | .error => 4

/-- The level as a setting spells it. -/
def name : Level → String
  | .trace => "trace"
  | .debug => "debug"
  | .info => "info"
  | .warn => "warn"
  | .error => "error"

/-- The level as an entry shows it, in five columns. -/
def label : Level → String
  | .trace => "TRACE"
  | .debug => "DEBUG"
  | .info => " INFO"
  | .warn => " WARN"
  | .error => "ERROR"

end Level

end SchemaBeans.Journal
