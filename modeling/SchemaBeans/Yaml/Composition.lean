import SchemaBeans.Yaml.Scalar
import SchemaBeans.Yaml.Tree

/-!
# Yaml — Composition

Making data of a tree.  An alias stands for the node that has its anchor's number, so the data is
the tree with all aliases followed; how often that may happen is limited in proportion to the size
of the tree, and how deeply collections may be nested is limited too.  A mapping has no key twice.
-/

namespace SchemaBeans.Yaml

/-- How deeply collections may be nested. -/
def depthLimit : Nat := 128

/-- A computation that counts how often it has followed an alias. -/
abbrev Following (α : Type) := StateT Nat (Except Fault) α

namespace Following

/-- Fails. -/
def fail {α : Type} (fault : Fault) : Following α := fun _ => .error fault

/-- Does what a result says. -/
def lift {α : Type} (result : Except Fault α) : Following α := fun count => result.map (·, count)

end Following

/-- A document whose aliases can be followed. -/
structure Aliases where
  document : Tree
  /-- How often aliases may be followed. -/
  limit : Nat

/-- The node that a node stands for: the one with its anchor if it is an alias, and otherwise
itself. -/
def Aliases.follow (a : Aliases) (t : Tree) : Following Tree :=
  match t with
  | .alias anchor => fun count =>
    if a.limit < count + 1 then .error .repetition
    else
      match a.document.anchored? anchor with
      | some target => .ok (target, count + 1)
      | none => .error .node
  | t => pure t

/-- A mapping, if no key occurs twice. -/
def mappingNode (entries : List (Node × Node)) : Following Node :=
  if Node.hasDuplicates entries then Following.fail .duplicateKey else pure (.mapping entries)

/-- The data of a tree whose collections are nested at most so deeply. -/
def compose (a : Aliases) : (depth : Nat) → Tree → Following Node
  | 0, t => do
    match ← a.follow t with
    | .scalar p plain text => Following.lift (Node.ofScalar p.tag plain text)
    | _ => Following.fail .depth
  | depth + 1, t => do
    match ← a.follow t with
    | .scalar p plain text => Following.lift (Node.ofScalar p.tag plain text)
    | .sequence p items => return withTag p.tag (.sequence (← items.mapM (compose a depth)))
    | .mapping p entries =>
      let entries ← entries.mapM fun (k, v) => do
        let key ← compose a depth k
        let value ← compose a depth v
        return (key, value)
      return withTag p.tag (← mappingNode entries)
    | .alias _ => Following.fail .node

/-- The data of a document. -/
def Node.ofTree (t : Tree) : Except Fault Node :=
  let a : Aliases := { document := t, limit := 100 * t.size }
  (compose a depthLimit t 0).map (·.1)

end SchemaBeans.Yaml
