/-!
# Yaml — Fault

Why a text is not a document.
-/

namespace SchemaBeans.Yaml

/-- Why a text is not a document. -/
inductive Fault where
  /-- A character may not stand in a document. -/
  | character
  /-- A token is malformed or out of place. -/
  | token
  /-- The tokens make no document. -/
  | node
  /-- There is more than one document. -/
  | severalDocuments
  /-- Collections are nested too deeply. -/
  | depth
  /-- Aliases are followed too often. -/
  | repetition
  /-- A number does not fit, or a tag does not fit its scalar. -/
  | scalar
  /-- A key occurs twice in a mapping. -/
  | duplicateKey
  /-- A merge key has no mappings to merge. -/
  | merge
  deriving DecidableEq, Repr

/-- The fault in words. -/
def Fault.message : Fault → String
  | .character => "control characters are not allowed"
  | .token => "found a token that is malformed or out of place"
  | .node => "did not find the expected node"
  | .severalDocuments => "found more than one document"
  | .depth => "recursion limit exceeded"
  | .repetition => "repetition limit exceeded"
  | .scalar => "found a scalar of another type than expected"
  | .duplicateKey => "found a duplicate key"
  | .merge => "expected a mapping or a list of mappings for merging"

end SchemaBeans.Yaml
