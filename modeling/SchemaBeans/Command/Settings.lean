import SchemaBeans.Command.Arguments
import SchemaBeans.Generation.Directory
import SchemaBeans.Journal.Destination

/-!
# Command — Settings

The settings of a run: arguments that make sense together.
-/

namespace SchemaBeans.Command

/-- Why arguments make no settings. -/
inductive SettingsError where
  | packageName (name : String)
  | verboseAndQuiet
  deriving DecidableEq, Repr

/-- The error in words. -/
def SettingsError.message : SettingsError → String
  | .packageName name =>
    "Invalid package name '" ++ name ++
      "': expected dot-separated Java identifiers (e.g., dev.galasa.beans)"
  | .verboseAndQuiet => "--verbose and --quiet cannot be used together"

/-- The settings of a run. -/
structure Settings where
  yaml : String
  package : String
  output : String
  log : Journal.Destination
  force : Bool
  verbose : Bool
  quiet : Bool
  color : ColourMode
  deriving DecidableEq, Repr

namespace Settings

/-- The settings of arguments; the name of the package is looked at first. -/
def ofArguments (a : Arguments) : Except SettingsError Settings :=
  if !Java.isPackageName a.package then .error (.packageName a.package)
  else if a.verbose && a.quiet then .error .verboseAndQuiet
  else
    .ok
      { yaml := a.yaml
        package := a.package
        output := a.output
        log := .parse a.log
        force := a.force
        verbose := a.verbose
        quiet := a.quiet
        color := a.color }

/-- Where the sources go. -/
def directory (s : Settings) : String := Generation.storeDirectory s.output s.package

end Settings

end SchemaBeans.Command
