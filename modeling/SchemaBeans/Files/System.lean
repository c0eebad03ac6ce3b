import SchemaBeans.Files.Fault
import SchemaBeans.Files.Path
import Std.Data.ExtTreeMap

/-!
# Files — System

A file system as a table of the files and directories in it, each under the list of names that leads
to it from the root.  Relative paths begin at the working directory.  A path is walked step by step:
every step but the last has to end at a directory.

Names are at most 255 bytes long, and paths less than 4096.
-/

namespace SchemaBeans.Files

/-- A file or a directory. -/
inductive Entry where
  | file (content : List UInt8)
  | directory
  deriving DecidableEq, Repr

/-- Where something is: the names that lead to it from the root. -/
abbrev Location := List String

/-- A file system, seen from a working directory. -/
structure System where
  entries : Std.ExtTreeMap Location Entry := ∅
  workingDirectory : Location := []
  deriving DecidableEq

/-- The bytes of a text. -/
def encode (text : String) : List UInt8 := text.toUTF8.toList

/-- The text of bytes, if they are a text's. -/
def decode? (content : List UInt8) : Option String := String.fromUTF8? ⟨content.toArray⟩

namespace System

/-- What is at a location; at the root there is a directory. -/
def entry? (s : System) (l : Location) : Option Entry :=
  if l = [] then some .directory else s.entries[l]?

/-- The system with something at a location. -/
def put (s : System) (l : Location) (e : Entry) : System :=
  { s with entries := s.entries.insert l e }

/-- The system with nothing at a location. -/
def erase (s : System) (l : Location) : System := { s with entries := s.entries.erase l }

/-- The longest name, in bytes. -/
def longestName : Nat := 255

/-- The first length that a path cannot have, in bytes. -/
def pathLimit : Nat := 4096

/-- Where a step leads from a directory. -/
def step (here : Location) (name : String) : Except Fault Location :=
  if name = "." then .ok here
  else if name = ".." then .ok here.dropLast
  else if longestName < name.utf8ByteSize then .error .nameTooLong
  else .ok (here ++ [name])

/-- Where steps lead.  The last one may lead to where nothing is. -/
def walk (s : System) : (here : Location) → List String → Except Fault Location
  | here, [] => .ok here
  | here, name :: names =>
    match s.entry? here with
    | none => .error .notFound
    | some (.file _) => .error .notDirectory
    | some .directory =>
      match step here name with
      | .ok there => walk s there names
      | .error fault => .error fault

/-- Where a path begins. -/
def start (s : System) (path : String) : Location :=
  if Path.isAbsolute path then [] else s.workingDirectory

/-- What is wrong with a path as a text, if anything is. -/
def pathFault? (path : String) : Option Fault :=
  if path.toList.contains '\x00' then some .nullCharacter
  else if pathLimit ≤ path.utf8ByteSize then some .nameTooLong
  else if path = "" then some .notFound
  else none

/-- Where a path leads. -/
def locate (s : System) (path : String) : Except Fault Location :=
  match pathFault? path with
  | some fault => .error fault
  | none => s.walk (s.start path) (Path.steps path)

/-- What is at a path. -/
def status (s : System) (path : String) : Except Fault Entry :=
  (s.locate path).bind fun l =>
    match s.entry? l with
    | some e => .ok e
    | none => .error .notFound

/-- The text of the file at a path. -/
def readText (s : System) (path : String) : Except Fault String :=
  (s.status path).bind fun e =>
    match e with
    | .directory => .error .isDirectory
    | .file content =>
      match decode? content with
      | some text => .ok text
      | none => .error .notText

/-- Where a file is made for a path: its last name leads to no directory, and no slash follows
it. -/
def locateNew (s : System) (path : String) : Except Fault Location :=
  match pathFault? path with
  | some fault => .error fault
  | none =>
    let names := Path.names path
    let name := names.getLast?.getD "."
    (s.walk (s.start path) (names.dropLast ++ ["."])).bind fun parent =>
      if name = "." ∨ name = ".." ∨ Path.endsWithSlash path then .error .isDirectory
      else
        (step parent name).bind fun l =>
          match s.entry? l with
          | some .directory => .error .isDirectory
          | _ => .ok l

/-- The system with a file of the given content at a path. -/
def write (s : System) (path : String) (content : List UInt8) : Except Fault System :=
  (s.locateNew path).map fun l => s.put l (.file content)

/-- The system without the file at a path. -/
def remove (s : System) (path : String) : Except Fault System :=
  (s.locate path).bind fun l =>
    match s.entry? l with
    | none => .error .notFound
    | some .directory => .error .isDirectory
    | some (.file _) => .ok (s.erase l)

/-- Makes the directories that steps lead through.  If one cannot be made, those before it have
been. -/
def ensure (s : System) : (here : Location) → List String → System × Except Fault Unit
  | _, [] => (s, .ok ())
  | here, name :: names =>
    match step here name with
    | .error fault => (s, .error fault)
    | .ok there =>
      match s.entry? there with
      | some .directory => ensure s there names
      | some (.file _) => (s, .error .exists)
      | none => ensure (s.put there .directory) there names

/-- Makes the directory at a path and those that lead to it. -/
def createDirectories (s : System) (path : String) : System × Except Fault Unit :=
  if path = "" then (s, .ok ())
  else
    match pathFault? path with
    | some fault => (s, .error fault)
    | none => ensure s (s.start path) (Path.steps path)

/-- The name of a regular file right below a location. -/
def fileName? (l : Location) : Location × Entry → Option String
  | (m, .file _) =>
    match l.isPrefixOf? m with
    | some [name] => some name
    | _ => none
  | (_, .directory) => none

/-- The names of the regular files in the directory at a path, in order. -/
def fileNames (s : System) (path : String) : Except Fault (List String) :=
  (s.locate path).bind fun l =>
    match s.entry? l with
    | none => .error .notFound
    | some (.file _) => .error .notDirectory
    | some .directory => .ok (s.entries.toList.filterMap (fileName? l))

/-- All that is below the working directory, by its path from there. -/
def listing (s : System) : List (Location × Entry) :=
  s.entries.toList.filterMap fun (l, e) =>
    match s.workingDirectory.isPrefixOf? l with
    | none | some [] => none
    | some names => some (names, e)

end System

end SchemaBeans.Files
