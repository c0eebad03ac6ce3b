import SchemaBeans.Yaml.Tag

/-!
# Yaml — Tree

A document as it is written: scalars with their text and style, collections, tags, and aliases.
Anchors are numbered, and an alias has the number of its anchor; the number belongs to the last node
that was given it.
-/

namespace SchemaBeans.Yaml

/-- What is said of a node in front of it. -/
structure Properties where
  /-- The number of the node's anchor. -/
  anchor : Option Nat := none
  tag : Option TagText := none
  deriving DecidableEq, Repr

/-- A node as it is written. -/
inductive Tree where
  | alias (anchor : Nat)
  | scalar (properties : Properties) (plain : Bool) (text : String)
  | sequence (properties : Properties) (items : List Tree)
  | mapping (properties : Properties) (entries : List (Tree × Tree))
  deriving Repr, BEq

namespace Tree

/-- The scalar that stands where nothing is written. -/
def empty : Tree := .scalar {} true ""

/-- What is said of the node in front of it. -/
def properties : Tree → Properties
  | .alias _ => {}
  | .scalar p _ _ | .sequence p _ | .mapping p _ => p

mutual

/-- The size of a node, where a collection counts for its start and its end. -/
def size : Tree → Nat
  | .alias _ => 1
  | .scalar _ _ _ => 1
  | .sequence _ items => sizeOfItems items + 2
  | .mapping _ entries => sizeOfEntries entries + 2

/-- The size of the items of a sequence. -/
def sizeOfItems : List Tree → Nat
  | [] => 0
  | t :: ts => t.size + sizeOfItems ts

/-- The size of the entries of a mapping. -/
def sizeOfEntries : List (Tree × Tree) → Nat
  | [] => 0
  | (k, v) :: es => k.size + v.size + sizeOfEntries es

end

mutual

/-- The node that has an anchor's number, within a node: the last one that begins with it. -/
def anchored? (anchor : Nat) : Tree → Option Tree
  | .alias _ => none
  | .scalar p plain text =>
    if p.anchor = some anchor then some (.scalar p plain text) else none
  | .sequence p items =>
    (anchoredInItems? anchor items).or
      (if p.anchor = some anchor then some (.sequence p items) else none)
  | .mapping p entries =>
    (anchoredInEntries? anchor entries).or
      (if p.anchor = some anchor then some (.mapping p entries) else none)

/-- The node that has an anchor's number, within the items of a sequence. -/
def anchoredInItems? (anchor : Nat) : List Tree → Option Tree
  | [] => none
  | t :: ts => (anchoredInItems? anchor ts).or (t.anchored? anchor)

/-- The node that has an anchor's number, within the entries of a mapping. -/
def anchoredInEntries? (anchor : Nat) : List (Tree × Tree) → Option Tree
  | [] => none
  | (k, v) :: es =>
    (anchoredInEntries? anchor es).or ((v.anchored? anchor).or (k.anchored? anchor))

end

end Tree

end SchemaBeans.Yaml
