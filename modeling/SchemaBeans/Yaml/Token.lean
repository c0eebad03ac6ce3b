import SchemaBeans.Yaml.Tag

/-!
# Yaml — Token

The pieces a document is read as.  Indentation has been turned into tokens: a block collection has
a token at its start and one at its end, and the key of a mapping is announced by a token of its
own.
-/

namespace SchemaBeans.Yaml

/-- A piece of a document. -/
inductive Token where
  | versionDirective (major minor : Nat)
  /-- From here on the handle stands for the beginning of a tag. -/
  | tagDirective (handle : String) (start : TagText)
  | documentStart
  | documentEnd
  | blockSequenceStart
  | blockMappingStart
  | blockEnd
  | flowSequenceStart
  | flowSequenceEnd
  | flowMappingStart
  | flowMappingEnd
  | blockEntry
  | flowEntry
  | key
  | value
  | alias (name : String)
  | anchor (name : String)
  | tag (handle : String) (suffix : TagText)
  /-- A scalar; a plain one is written without quotes and not as a block. -/
  | scalar (plain : Bool) (text : String)
  deriving DecidableEq, Repr

end SchemaBeans.Yaml
