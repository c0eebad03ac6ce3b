import SchemaBeans.Journal.Event
import SchemaBeans.Journal.Level

/-!
# Journal — Entry

The entry of an event: how severe it is, what it says, and what it is about.
-/

namespace SchemaBeans.Journal

/-- The value of a field. -/
inductive Value where
  /-- A text that stands as it is. -/
  | plain (text : String)
  /-- A text that stands between quotes. -/
  | quoted (text : String)
  | number (value : Nat)
  deriving DecidableEq, Repr

/-- An entry of the journal. -/
structure Entry where
  level : Level
  message : String
  fields : List (String × Value) := []
  deriving DecidableEq, Repr

/-- The entry of an event. -/
def Event.entry : Event → Entry
  | .read path bytes =>
    ⟨.debug, "read input document", [("path", .plain path), ("bytes", .number bytes)]⟩
  | .foundType path name =>
    ⟨.debug, "found schema type", [("path", .quoted path), ("name", .plain name)]⟩
  | .schemaError error => ⟨.warn, error.message, [("path", .quoted error.path)]⟩
  | .prunedFaulty path removed =>
    ⟨.debug, "pruned schema type with errors",
      [("path", .quoted path), ("removed", .number removed)]⟩
  | .extracted types properties errors =>
    ⟨.debug, "extracted component schemas",
      [("types", .number types), ("properties", .number properties), ("errors", .number errors)]⟩
  | .prunedBroken path removed =>
    ⟨.debug, "pruned schema with unresolvable reference",
      [("path", .plain path), ("removed", .number removed)]⟩
  | .resolved path reference typeName =>
    ⟨.debug, "resolved reference",
      [("path", .plain path), ("reference", .plain reference), ("type_name", .plain typeName)]⟩
  | .noSchemas => ⟨.info, "no component schemas found", []⟩
  | .warning w => ⟨.warn, w.message, []⟩
  | .translatedEnum name values =>
    ⟨.debug, "translated enum", [("name", .plain name), ("values", .number values)]⟩
  | .translatedClass name members constants =>
    ⟨.debug, "translated class",
      [("name", .plain name), ("members", .number members), ("constants", .number constants)]⟩
  | .renamedMember property convention field =>
    ⟨.debug, "renamed member",
      [("property", .plain property), ("case", .plain convention.label), ("field", .plain field)]⟩
  | .translated package classes enums =>
    ⟨.info, "translated schemas",
      [("package", .plain package), ("classes", .number classes), ("enums", .number enums)]⟩
  | .writing path types =>
    ⟨.info, "writing package", [("path", .plain path), ("types", .number types)]⟩
  | .emptyPackage package => ⟨.debug, "package has no types", [("package", .plain package)]⟩
  | .createdDirectory path => ⟨.info, "created package directory", [("path", .plain path)]⟩
  | .nothingToClean path =>
    ⟨.debug, "package directory has no java files", [("path", .plain path)]⟩
  | .deleted path => ⟨.info, "deleted file", [("path", .plain path)]⟩
  | .cleaned path removed =>
    ⟨.info, "cleaned package directory", [("path", .plain path), ("removed", .number removed)]⟩
  | .wrote path => ⟨.info, "wrote file", [("path", .plain path)]⟩
  | .complete input output files =>
    ⟨.info, "generation complete",
      [("input", .plain input), ("output", .plain output), ("files", .number files)]⟩

end SchemaBeans.Journal
