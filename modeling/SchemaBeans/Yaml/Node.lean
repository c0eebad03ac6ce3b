import SchemaBeans.Yaml.Number

/-!
# Yaml — Node

A document as data: scalars with their types, sequences, mappings that keep the order of their
entries, and tagged nodes.  A tag does not hide a mapping, a sequence or a string from those who ask
for one; but a tagged node is no scalar.
-/

namespace SchemaBeans.Yaml

/-- A piece of a document. -/
inductive Node where
  | null
  | bool (value : Bool)
  | number (value : Number)
  | string (value : String)
  | sequence (items : List Node)
  | mapping (entries : List (Node × Node))
  | tagged (tag : String) (value : Node)
  deriving Repr

namespace Node

/-- The node under its tags. -/
def untagged : Node → Node
  | .tagged _ n => n.untagged
  | n => n

/-- The text of a string, number or truth value. -/
def scalarText? : Node → Option String
  | .string s => some s
  | .number n => some n.text
  | .bool b => some (if b then "true" else "false")
  | _ => none

/-- The text of a string. -/
def string? (n : Node) : Option String :=
  match n.untagged with
  | .string s => some s
  | _ => none

/-- The items of a sequence. -/
def items? (n : Node) : Option (List Node) :=
  match n.untagged with
  | .sequence items => some items
  | _ => none

/-- The entries of a mapping. -/
def entries? (n : Node) : Option (List (Node × Node)) :=
  match n.untagged with
  | .mapping entries => some entries
  | _ => none

/-- The node is this string. -/
def isString (n : Node) (s : String) : Bool :=
  match n with
  | .string t => t == s
  | _ => false

/-- The value of a key among the entries of a mapping. -/
def find? (key : String) : List (Node × Node) → Option Node
  | [] => none
  | (k, v) :: es => if k.isString key then some v else find? key es

/-- The value of a key, if the node is a mapping that has it. -/
def get? (n : Node) (key : String) : Option Node := n.entries?.bind (find? key)

/-- A tag without the exclamation mark it may begin with. -/
def tagName (tag : String) : List Char :=
  match tag.toList with
  | '!' :: name => if name.isEmpty then ['!'] else name
  | name => name

mutual

/-- The two nodes are one key of a mapping.  The order of entries does not matter. -/
def isSame : Node → Node → Bool
  | .null, .null => true
  | .bool a, .bool b => a == b
  | .number m, .number n => m.isSame n
  | .string s, .string t => s == t
  | .sequence xs, .sequence ys => areSame xs ys
  | .mapping es, .mapping fs => es.length == fs.length && areAmong fs es
  | .tagged s m, .tagged t n => tagName s == tagName t && m.isSame n
  | _, _ => false

/-- The items of the two sequences are the same one by one. -/
def areSame : List Node → List Node → Bool
  | [], [] => true
  | x :: xs, y :: ys => x.isSame y && areSame xs ys
  | _, _ => false

/-- Every entry is the same as one of `fs`. -/
def areAmong (fs : List (Node × Node)) : List (Node × Node) → Bool
  | [] => true
  | (k, v) :: es => fs.any (fun (l, w) => k.isSame l && v.isSame w) && areAmong fs es

end

/-- A key is among the entries of a mapping. -/
def hasKey {α : Type} (key : Node) (entries : List (Node × α)) : Bool :=
  entries.any fun (k, _) => k.isSame key

/-- Some key occurs twice. -/
def hasDuplicates {α : Type} : List (Node × α) → Bool
  | [] => false
  | (k, _) :: es => hasKey k es || hasDuplicates es

end Node

end SchemaBeans.Yaml
