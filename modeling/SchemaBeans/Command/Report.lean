import SchemaBeans.Command.Settings
import SchemaBeans.Command.Style
import SchemaBeans.Generation.Stats

/-!
# Command — Report

What a run tells its user: what it is about to do, each with the time, and at the end its counts.
-/

namespace SchemaBeans.Command

/-- How a report looks. -/
structure Look where
  colouring : Colouring
  /-- The time that stands in front of what is told. -/
  time : String

namespace Look

/-- A line with the time. -/
def timed (l : Look) (message : String) : String :=
  l.colouring.paint .timestamp l.time ++ " " ++ message ++ "\n"

/-- A count with its label, below the text of the timed lines. -/
def count (l : Look) (label value : String) : String :=
  "            " ++ l.colouring.paint .label label ++ " " ++ l.colouring.paint .value value ++ "\n"

/-- A line with the time that tells of a step of the run. -/
def step (l : Look) (message : String) : String := l.timed (l.colouring.paint .primary message)

/-- The lines before the input is read. -/
def loading (l : Look) (s : Settings) : String :=
  (match s.log.path? with
    | some path => l.timed ("Logging to: " ++ path)
    | none => "") ++
    l.step ("Loading OpenAPI document from: " ++ s.yaml)

/-- The lines before the input is translated. -/
def generating (l : Look) (s : Settings) : String :=
  l.step ("Generating Java beans for package " ++ s.package ++ "...") ++
    l.step ("Writing to: " ++ s.directory)

/-- A text if there is something to count. -/
def ifAny (n : Nat) (text : String) : String := if n = 0 then "" else text

/-- The counts of a run. -/
def counts (l : Look) (s : Generation.Stats) : String :=
  l.count "Schemas found:" (toString s.schemas) ++
    l.count "Types generated:" (toString s.types) ++
    l.count "" (toString s.classes ++ " classes") ++
    l.count "" (toString s.enums ++ " enums, " ++ toString s.enumValues ++ " values") ++
    l.count "Members generated:" (toString s.members) ++
    ifAny s.constants (l.count "" (toString s.constants ++ " constants")) ++
    l.count "Files written:" (toString s.written) ++
    ifAny s.removed (l.count "Files replaced:" (toString s.removed)) ++
    ifAny s.warnings.length (l.count "Warnings:" (toString s.warnings.length))

/-- The lines of a run that has come to its end; warnings that are told set a line apart. -/
def success (l : Look) (s : Settings) (stats : Generation.Stats) : String :=
  l.counts stats ++ (if s.verbose then ifAny stats.warnings.length "\n" else "") ++ "\n" ++
    l.timed (l.colouring.paint .success "Successfully generated Java beans")

/-- The line of a warning. -/
def warning (l : Look) (w : Schema.Warning) : String :=
  l.colouring.paint .accent "Warning:" ++ " " ++ l.colouring.paint .primary w.message ++ "\n"

/-- The warnings of a run. -/
def warnings (l : Look) (s : Settings) (stats : Generation.Stats) : String :=
  if s.verbose then String.join (stats.warnings.map l.warning) else ""

end Look

end SchemaBeans.Command
