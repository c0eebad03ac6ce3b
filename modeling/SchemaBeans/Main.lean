import SchemaBeans.Command.Run
import Std.Time.DateTime
import Std.Time.Zoned

/-!
# Main

The program on a machine: it looks at the files and directories that a run can touch, lets the run
work on them as values, and then makes what has changed so on the machine as well.
-/

namespace SchemaBeans.Main

open Files (Entry Location System)

/-- Where a location is on the machine. -/
def machinePath (l : Location) : String := "/" ++ "/".intercalate l

/-- The file or directory at a location of the machine. -/
def look? (l : Location) : IO (Option Entry) := do
  let path := (← IO.currentDir) / machinePath l
  try
    match (← path.metadata).type with
    | .dir => return some .directory
    | .file => return some (.file (← IO.FS.readBinFile path).toList)
    | _ => return none
  catch _ => return none

/-- Adds what steps lead through. -/
def observeSteps (s : System) (here : Location) : List String → IO System
  | [] => return s
  | name :: names =>
    match System.step here name with
    | .error _ => return s
    | .ok there => do
      match ← look? there with
      | some e => observeSteps (s.put there e) there names
      | none => return s

/-- Adds what a path leads through. -/
def observe (s : System) (path : String) : IO System :=
  observeSteps s (s.start path) (Files.Path.steps path)

/-- Adds the files and directories with the given names in a directory. -/
def observeNames (s : System) (here : Location) : List String → IO System
  | [] => return s
  | name :: names => do
    match ← look? (here ++ [name]) with
    | some e => observeNames (s.put (here ++ [name]) e) here names
    | none => observeNames s here names

/-- Adds what is in the directory at a path. -/
def observeDirectory (s : System) (path : String) : IO System := do
  let s ← observe s path
  match s.locate path, s.status path with
  | .ok here, .ok .directory =>
    let entries ← ((← IO.currentDir) / machinePath here).readDir
    observeNames s here (entries.toList.map (·.fileName))
  | _, _ => return s

/-- What is on the machine of what a run can touch. -/
def observeRun (words : List String) : IO System := do
  let here := Files.Path.names (← IO.currentDir).toString
  let s ← observe { workingDirectory := here } (machinePath here)
  match Command.Arguments.ofWords words with
  | .error _ => return s
  | .ok a => do
    let s ← observe s a.yaml
    let s ← observe s a.log
    observeDirectory s (Generation.storeDirectory a.output a.package)

/-- Makes what is at locations so on the machine. -/
def store (before : System) : List (Location × Entry) → IO Unit
  | [] => return
  | (l, e) :: entries => do
    if before.entry? l ≠ some e then
      match e with
      | .directory => IO.FS.createDirAll (machinePath l)
      | .file content => IO.FS.writeBinFile (machinePath l) ⟨content.toArray⟩
    store before entries

/-- Deletes the files that are no longer there. -/
def discard (after : System) : List (Location × Entry) → IO Unit
  | [] => return
  | (l, _) :: entries => do
    if (after.entry? l).isNone then IO.FS.removeFile (machinePath l)
    discard after entries

/-- A number in decimal, with zeros in front up to a width. -/
def padded (width : Nat) (n : Int) : String :=
  let digits := toString n
  String.ofList (List.replicate (width - digits.length) '0') ++ digits

/-- The time of the day for the report, and the time for the journal. -/
def readClock : IO Command.Clock := do
  let here ← Std.Time.PlainDateTime.now
  let there :=
    (Std.Time.DateTime.ofTimestampWithZone (← Std.Time.Timestamp.now) .UTC).toPlainDateTime
  let timeOf (t : Std.Time.PlainDateTime) :=
    padded 2 t.hour.val ++ ":" ++ padded 2 t.minute.val ++ ":" ++ padded 2 t.second.val
  return {
    time := "[" ++ timeOf here ++ "]"
    stamp :=
      padded 4 there.year ++ "-" ++ padded 2 there.month.val ++ "-" ++ padded 2 there.day.val ++
        "T" ++ timeOf there ++ "." ++ padded 6 (there.nanosecond.val / 1000) ++ "Z" }

end SchemaBeans.Main

/-- Runs the program. -/
def main (words : List String) : IO UInt32 := do
  let output ← IO.getStdout
  let errors ← IO.getStderr
  let environment : SchemaBeans.Command.Environment :=
    { filter := ← IO.getEnv "RUST_LOG"
      noColour := ((← IO.getEnv "NO_COLOR").getD "") ≠ ""
      terminal := ← output.isTty }
  let before ← SchemaBeans.Main.observeRun words
  let result :=
    SchemaBeans.Command.run (← SchemaBeans.Main.readClock) environment words before
  SchemaBeans.Main.discard result.system before.entries.toList
  SchemaBeans.Main.store before result.system.entries.toList
  output.putStr result.output
  errors.putStr result.errors
  return result.exitStatus.toUInt32
