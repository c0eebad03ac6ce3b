import SchemaBeans.Command.Help
import SchemaBeans.Command.Report
import SchemaBeans.Generation.Write
import SchemaBeans.Journal.Text

/-!
# Command — Run

A run of the program as a function of its words, its environment, the time and the files there are.
The journal is kept from the moment that the settings are known; if it is a file, that file is
emptied at the start, before the input is read, and filled at the end, unless the run has deleted
it.
-/

namespace SchemaBeans.Command

open Files (System)
open Journal (Event)

/-- What a run finds around it. -/
structure Environment where
  /-- The filter of the journal. -/
  filter : Option String := none
  /-- No colours are wanted. -/
  noColour : Bool := false
  /-- The standard output is a terminal. -/
  terminal : Bool := false

/-- When a run takes place. -/
structure Clock where
  /-- The time for the report. -/
  time : String
  /-- The time for the journal. -/
  stamp : String

/-- What a run leaves behind. -/
structure RunResult where
  exitStatus : Nat := 0
  output : String := ""
  errors : String := ""
  system : System

/-- The text for a failure and its causes. -/
def failureText (message : String) (causes : List String) : String :=
  "Error: " ++ message ++
    (if causes.isEmpty then "" else "\n\nCaused by:" ++
      String.join (causes.map fun cause => "\n    " ++ cause)) ++ "\n"

/-- The failure of a run that has not begun. -/
def fail (s : System) (message : String) (causes : List String) : RunResult :=
  { exitStatus := 1, errors := failureText message causes, system := s }

/-- What the work of a run has come to. -/
structure Work where
  system : System
  events : List Event
  /-- The part of the report before the end. -/
  output : String
  result : Except Generation.Error Generation.Stats

/-- Reads the input, translates it and writes the sources. -/
def work (l : Look) (s : Settings) (system : System) : Work :=
  let loaded := Generation.load s.yaml system
  match loaded.result with
  | .error error =>
    { system := system
      events := loaded.events
      output := l.loading s
      result := .error error }
  | .ok text =>
    let generated := Generation.generate s.output s.package s.force text system
    { system := generated.system
      events := loaded.events ++ generated.events
      output := l.loading s ++ l.generating s
      result := generated.result }

/-- The event has deleted the file at a location. -/
def deletes (system : System) (l : Files.Location) : Event → Bool
  | .deleted path =>
    match system.locate path with
    | .ok m => m == l
    | .error _ => false
  | _ => false

/-- Fills the file of a journal, if it is still there. -/
def fillJournal (path : String) (events : List Event) (text : String) (before after : System) :
    System :=
  match before.locate path with
  | .error _ => after
  | .ok l =>
    if events.any (deletes before l) then after else after.put l (.file (Files.encode text))

/-- How the events of a run are written into its journal. -/
structure Recorder where
  threshold : Journal.Threshold
  destination : Journal.Destination
  /-- The terminal may show styles. -/
  styles : Bool
  stamp : String

namespace Recorder

/-- What the standard error shows of events. -/
def shown (r : Recorder) (events : List Event) : String :=
  match r.destination with
  | .standardError => Journal.linesOf r.threshold r.styles r.stamp events
  | .file _ => ""

/-- The files with the journal of all events, if it is one of them. -/
def store (r : Recorder) (events : List Event) (before after : System) : System :=
  match r.destination with
  | .standardError => after
  | .file path =>
    fillJournal path events (Journal.linesOf r.threshold false r.stamp events) before after

end Recorder

/-- The recorder of a run. -/
def recorderOf (clock : Clock) (environment : Environment) (s : Settings) : Recorder :=
  { threshold := Journal.thresholdFor environment.filter (Journal.defaultLevel s.verbose)
    destination := s.log
    styles := !environment.noColour
    stamp := clock.stamp }

/-- The look of a run's report. -/
def lookOf (clock : Clock) (environment : Environment) (s : Settings) : Look :=
  { colouring := .ofMode s.color environment.terminal environment.noColour
    time := clock.time }

/-- A run with its settings, when its journal is ready. -/
def runSettings (clock : Clock) (environment : Environment) (s : Settings) (system : System) :
    RunResult :=
  let look := lookOf clock environment s
  let recorder := recorderOf clock environment s
  let unlessQuiet (text : String) := if s.quiet then "" else text
  let done := work look s system
  match done.result with
  | .ok stats =>
    let ending : List Event := [.complete s.yaml s.directory stats.written]
    { output := unlessQuiet (done.output ++ look.success s stats)
      errors :=
        recorder.shown done.events ++ look.warnings s stats ++ recorder.shown ending
      system := recorder.store (done.events ++ ending) system done.system }
  | .error error =>
    { exitStatus := 1
      output := unlessQuiet done.output
      errors := recorder.shown done.events ++ failureText error.message error.causes
      system := recorder.store done.events system done.system }

/-- A run with its arguments. -/
def runArguments (clock : Clock) (environment : Environment) (a : Arguments) (system : System) :
    RunResult :=
  match Settings.ofArguments a with
  | .error error => fail system error.message []
  | .ok s =>
    match s.log with
    | .standardError => runSettings clock environment s system
    | .file path =>
      match system.write path [] with
      | .ok system => runSettings clock environment s system
      | .error fault =>
        fail system ("failed to create log file '" ++ path ++ "'") [fault.message]

/-- A run of the program. -/
def run (clock : Clock) (environment : Environment) (words : List String) (system : System) :
    RunResult :=
  match Arguments.ofWords words with
  | .error refusal =>
    { exitStatus := refusal.exitStatus
      output := refusal.reply
      errors := refusal.complaint
      system := system }
  | .ok a => runArguments clock environment a system

end SchemaBeans.Command
