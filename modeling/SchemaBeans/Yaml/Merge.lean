import SchemaBeans.Yaml.Node

/-!
# Yaml — Merge

The merge key `<<`.  Its value is a mapping, or a sequence of mappings, whose entries are added to
the mapping that holds it unless their keys are there already.  The merge key itself is taken out,
and the last entry of the mapping moves to its place.

A merge key inside a mapping that is merged is an entry like any other and stays.
-/

namespace SchemaBeans.Yaml.Node

/-- The merge key. -/
def mergeKey : String := "<<"

/-- The entries without the merge key; the last one moves to its place. -/
def takeMergeKey {α : Type} : List (Node × α) → List (Node × α)
  | [] => []
  | (k, v) :: es =>
    if k.isString mergeKey then es.getLast?.toList ++ es.dropLast else (k, v) :: takeMergeKey es

/-- Adds an entry unless its key is there. -/
def addMissing {α : Type} (entries : List (Node × α)) (entry : Node × α) : List (Node × α) :=
  if hasKey entry.1 entries then entries else entries ++ [entry]

/-- The entries whose values could all be made. -/
def complete : List (Node × Option Node) → Option (List (Node × Node))
  | [] => some []
  | (k, some v) :: es => (complete es).map ((k, v) :: ·)
  | (_, none) :: _ => none

mutual

/-- The node with all merge keys carried out, if they have mappings to merge. -/
def merged? : Node → Option Node
  | .sequence items => (mergedItems? items).map .sequence
  | .tagged tag n => n.merged?.map (.tagged tag)
  | .mapping entries =>
    match mergeSources? entries with
    | none => (complete (ownEntries entries)).map .mapping
    | some none => none
    | some (some sources) =>
      (complete (sources.foldl addMissing (takeMergeKey (ownEntries entries)))).map .mapping
  | n => some n

/-- The items of a sequence, each with its merge keys carried out. -/
def mergedItems? : List Node → Option (List Node)
  | [] => some []
  | n :: ns =>
    match n.merged? with
    | some m => (mergedItems? ns).map (m :: ·)
    | none => none

/-- The entries of a mapping, each with the merge keys of its value carried out; the value of the
mapping's own merge key is left open. -/
def ownEntries : List (Node × Node) → List (Node × Option Node)
  | [] => []
  | (k, v) :: es => (k, if k.isString mergeKey then none else v.merged?) :: ownEntries es

/-- The entries of a mapping that is merged, each with the merge keys of its value carried out. -/
def mergedEntries : List (Node × Node) → List (Node × Option Node)
  | [] => []
  | (k, v) :: es => (k, v.merged?) :: mergedEntries es

/-- The entries to merge, if there is a merge key and its value is fit. -/
def mergeSources? : List (Node × Node) → Option (Option (List (Node × Option Node)))
  | [] => none
  | (k, v) :: es => if k.isString mergeKey then some v.sources? else mergeSources? es

/-- The entries that a node has as the value of a merge key. -/
def sources? : Node → Option (List (Node × Option Node))
  | .mapping entries => some (mergedEntries entries)
  | .sequence items => sourcesOfItems? items
  | _ => none

/-- The entries of a sequence of mappings, one mapping after the other. -/
def sourcesOfItems? : List Node → Option (List (Node × Option Node))
  | [] => some []
  | .mapping entries :: ns => (sourcesOfItems? ns).map (mergedEntries entries ++ ·)
  | _ :: _ => none

end

end SchemaBeans.Yaml.Node
