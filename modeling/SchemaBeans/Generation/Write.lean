import SchemaBeans.Files.System
import SchemaBeans.Generation.Directory
import SchemaBeans.Generation.Translate
import SchemaBeans.Java.Source

/-!
# Generation — Write

Writing the sources of a package into its directory, one file for each type.  Before that the
directory is made, or emptied of sources: files with the extension `java` are deleted, and only if
that is asked for; otherwise nothing is written.
-/

namespace SchemaBeans.Generation

open Files (System)
open Journal (Event)

/-- What comes of a part of a run that works on files. -/
structure Effect (α : Type) where
  system : System
  events : List Event := []
  result : Except Error α

namespace Effect

/-- Goes on with what a part of a run has come to. -/
def andThen {α β : Type} (e : Effect α) (next : α → System → Effect β) : Effect β :=
  match e.result with
  | .error error => { system := e.system, events := e.events, result := .error error }
  | .ok a =>
    let f := next a e.system
    { f with events := e.events ++ f.events }

end Effect

/-- The extension of sources. -/
def sourceExtension : String := "java"

/-- The file is a source by its name. -/
def isSourceName (name : String) : Bool := Files.Path.extension? name == some sourceExtension

/-- Deletes files one after the other. -/
def deleteAll (s : System) : List String → Effect Unit
  | [] => { system := s, result := .ok () }
  | path :: paths =>
    match s.remove path with
    | .error fault => { system := s, result := .error (.files .delete path fault) }
    | .ok s =>
      let rest := deleteAll s paths
      { rest with events := .deleted path :: rest.events }

/-- Empties a directory of sources, and says how many there were. -/
def clean (directory : String) (force : Bool) (s : System) : Effect Nat :=
  match s.fileNames directory with
  | .error fault => { system := s, result := .error (.files .list directory fault) }
  | .ok names =>
    match names.filter isSourceName with
    | [] => { system := s, events := [.nothingToClean directory], result := .ok 0 }
    | sources =>
      if force then
        (deleteAll s (sources.map (Files.Path.join directory))).andThen fun _ s =>
          { system := s
            events := [.cleaned directory sources.length]
            result := .ok sources.length }
      else { system := s, result := .error (.overwrite directory) }

/-- Makes a directory, or empties it of sources if it is there, and says how many there were. -/
def prepare (directory : String) (force : Bool) (s : System) : Effect Nat :=
  match s.status directory with
  | .ok .directory => clean directory force s
  | .ok (.file _) =>
    { system := s, result := .error (.files .useAsDirectory directory .entityExists) }
  | .error .notFound =>
    match s.createDirectories directory with
    | (s, .ok _) => { system := s, events := [.createdDirectory directory], result := .ok 0 }
    | (s, .error fault) =>
      { system := s, result := .error (.files .createDirectory directory fault) }
  | .error fault => { system := s, result := .error (.files .inspect directory fault) }

/-- The path of a type's source in a directory. -/
def sourcePath (directory name : String) : String :=
  Files.Path.join directory (name ++ "." ++ sourceExtension)

/-- Writes sources into a directory, one after the other, and says where. -/
def writeAll (directory : String) (s : System) : List (String × String) → Effect (List String)
  | [] => { system := s, result := .ok [] }
  | (name, source) :: sources =>
    let path := sourcePath directory name
    match s.write path (Files.encode source) with
    | .error fault => { system := s, result := .error (.files .write path fault) }
    | .ok s =>
      let rest := writeAll directory s sources
      { rest with
        events := .wrote path :: rest.events
        result := rest.result.map (path :: ·) }

/-- What writing a package has come to. -/
structure Written where
  paths : List String
  stats : Stats

/-- Writes the sources of a package below `output`. -/
def writePackage (output package : String) (force : Bool) (p : Java.Package) (stats : Stats)
    (s : System) : Effect Written :=
  let directory := storeDirectory output package
  let prepared := (prepare directory force s).andThen fun removed s =>
    (writeAll directory s p.sources).andThen fun paths s =>
      { system := s
        result := .ok
          { paths := paths
            stats := (stats.recordRemoved removed).recordWritten paths.length } }
  { prepared with
    events := (if p.isEmpty then [.emptyPackage p.name] else []) ++ prepared.events }

/-- Translates the text of a document and writes the sources below `output`. -/
def generate (output package : String) (force : Bool) (text : String) (s : System) :
    Effect Stats :=
  let translated := translate package text
  match translated.result with
  | .error error => { system := s, events := translated.events, result := .error error }
  | .ok product =>
    let writing : Event := .writing (storeDirectory output package) product.package.size
    let written := writePackage output package force product.package product.stats s
    { system := written.system
      events := translated.events ++ writing :: written.events
      result := written.result.map Written.stats }

/-- Reads the document at a path. -/
def load (path : String) (s : System) : Outcome String :=
  match s.readText path with
  | .error fault => { result := .error (.input path fault) }
  | .ok text => { events := [.read path text.utf8ByteSize], result := .ok text }

end SchemaBeans.Generation
