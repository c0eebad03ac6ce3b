import SchemaBeans.Generation.Error
import SchemaBeans.Generation.Stats
import SchemaBeans.Java.Translation
import SchemaBeans.Schema.Resolution
import SchemaBeans.Yaml.Document

/-!
# Generation — Translate

From the text of a document to a package: its schemas are extracted, their references resolved, and
what is left is translated.  Errors of schemas, from both steps, are reported together, and then
there is no package.
-/

namespace SchemaBeans.Generation

open Journal (Event)

/-- What comes of a part of a run, and what happened in it. -/
structure Outcome (α : Type) where
  events : List Event := []
  result : Except Error α

/-- A package and the counts of the run so far. -/
structure Product where
  package : Java.Package
  stats : Stats

/-- The counts of a translation. -/
def statsOf (x : Schema.Extraction) (t : Java.Translation) : Stats :=
  (((({} : Stats).recordSchemas x.count).recordWarnings x.warnings).recordWarnings
    t.warnings).recordPackage t.package

/-- The entries of a translation; warnings are entered when they are counted. -/
def translationEvents (package : String) (x : Schema.Extraction) (r : Schema.Resolution)
    (t : Java.Translation) : List Event :=
  let stats := statsOf x t
  (if r.model.isEmpty then [.noSchemas] else []) ++ x.warnings.map .warning ++ t.events ++
    t.warnings.map .warning ++ [.translated package stats.classes stats.enums]

/-- The package of schemas that have been extracted. -/
def translateExtraction (package : String) (x : Schema.Extraction) : Outcome Product :=
  match Schema.resolve? x.model x.errors with
  | .error overflow => { events := x.events, result := .error (.overflow overflow) }
  | .ok r =>
    let events := x.events ++ r.events
    if r.errors.isEmpty then
      match Java.translate? r.model package with
      | .error overflow => { events := events, result := .error (.overflow overflow) }
      | .ok t =>
        { events := events ++ translationEvents package x r t
          result := .ok { package := t.package, stats := statsOf x t } }
    else { events := events, result := .error (.schemas r.errors) }

/-- The package of a document. -/
def translateDocument (package : String) (document : Yaml.Node) : Outcome Product :=
  match Schema.extract document with
  | .error absence => { result := .error (.absent absence) }
  | .ok x => translateExtraction package x

/-- The package of a document's text. -/
def translate (package text : String) : Outcome Product :=
  match Yaml.read text with
  | .error fault => { result := .error (.document fault) }
  | .ok document => translateDocument package document

end SchemaBeans.Generation
