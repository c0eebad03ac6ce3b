import SchemaBeans.Yaml.Composition
import SchemaBeans.Yaml.Merge
import SchemaBeans.Yaml.Token.Lexer
import SchemaBeans.Yaml.Tree.Builder

/-!
# Yaml — Document

Reading a text as a document.  A text without a document is read as nothing.
-/

namespace SchemaBeans.Yaml

/-- The data of a text, with merge keys as they are. -/
def parse (text : String) : Except Fault Node := do
  match ← Tree.ofTokens (← tokenize text) with
  | none => return .null
  | some tree => Node.ofTree tree

/-- The data of a text, with merge keys carried out. -/
def read (text : String) : Except Fault Node := do
  match (← parse text).merged? with
  | some n => return n
  | none => throw .merge

end SchemaBeans.Yaml
