import SchemaBeans.Proofs.Descriptions
import SchemaBeans.Proofs.Extraction.Operations
import SchemaBeans.Proofs.Yaml.Keys

/-!
# Extraction — descriptions aside

The node of a schema has descriptions of its own, those of its properties, of its items, and of the
schemas in a composition.  Leaving them all out (`undescribedNode`) leaves the names of properties
alone, whatever they are, so a property may well be called description.

The shape of what is left is that of the node without its descriptions
(`Shape.ofNode_undescribedNode`), and so is all that an extraction makes of it: its errors,
warnings and events are the same, and its model is the same without the descriptions
(`Extraction.ofEntries_undescribedEntries`).
-/

namespace SchemaBeans.Schema

open Yaml (Node)

/-! ### Nodes -/

/-- The keywords whose values are schemas or lists of schemas. -/
def schemaKeywords : List String :=
  ["items", "allOf", "oneOf", "anyOf", "not", "additionalProperties"]

mutual

/-- The node of a schema, or a list of schemas, without descriptions. -/
def undescribedNode : Node → Node
  | .mapping entries => .mapping (undescribedKeywords entries)
  | .sequence items => .sequence (undescribedNodes items)
  | .tagged tag n => .tagged tag (undescribedNode n)
  | .null => .null
  | .bool value => .bool value
  | .number value => .number value
  | .string value => .string value

/-- The nodes of schemas without descriptions. -/
def undescribedNodes : List Node → List Node
  | [] => []
  | n :: ns => undescribedNode n :: undescribedNodes ns

/-- The keywords of a schema without its description and those of the schemas in it. -/
def undescribedKeywords : List (Node × Node) → List (Node × Node)
  | [] => []
  | (k, v) :: es =>
    if k.isString "description" then undescribedKeywords es
    else if k.isString "properties" then (k, undescribedMembers v) :: undescribedKeywords es
    else if schemaKeywords.any k.isString then (k, undescribedNode v) :: undescribedKeywords es
    else (k, v) :: undescribedKeywords es

/-- The properties of a schema without descriptions. -/
def undescribedMembers : Node → Node
  | .mapping entries => .mapping (undescribedEntries entries)
  | .tagged tag n => .tagged tag (undescribedMembers n)
  | .null => .null
  | .bool value => .bool value
  | .number value => .number value
  | .string value => .string value
  | .sequence items => .sequence items

/-- Entries whose values are schemas, without the descriptions of these.  The keys are names and
stay as they are. -/
def undescribedEntries : List (Node × Node) → List (Node × Node)
  | [] => []
  | (k, v) :: es => (k, undescribedNode v) :: undescribedEntries es

end

@[simp] theorem length_undescribedEntries (entries : List (Node × Node)) :
    (undescribedEntries entries).length = entries.length := by
  induction entries with
  | nil => rfl
  | cons entry entries ih => rw [undescribedEntries, List.length_cons, List.length_cons, ih]

/-- The value of a keyword, other than that of a description, without descriptions. -/
def undescribedValue (k v : Node) : Node :=
  if k.isString "properties" then undescribedMembers v
  else if schemaKeywords.any k.isString then undescribedNode v
  else v

/-- One keyword is left out if it is the description; else its value loses the descriptions
in it. -/
theorem undescribedKeywords_cons (k v : Node) (entries : List (Node × Node)) :
    undescribedKeywords ((k, v) :: entries) =
      if k.isString "description" then undescribedKeywords entries
      else (k, undescribedValue k v) :: undescribedKeywords entries := by
  rw [undescribedKeywords, undescribedValue]
  split
  · rfl
  · split
    · rfl
    · split <;> rfl

/-- There is no description left. -/
theorem find?_undescribedKeywords_description (entries : List (Node × Node)) :
    Node.find? "description" (undescribedKeywords entries) = none := by
  induction entries with
  | nil => rfl
  | cons entry entries ih =>
    obtain ⟨k, v⟩ := entry
    rw [undescribedKeywords_cons]
    split
    · exact ih
    · next hk => rw [Node.find?, if_neg hk, ih]

/-- Any other keyword has its value without descriptions. -/
theorem find?_undescribedKeywords {key : String} (hkey : key ≠ "description")
    (entries : List (Node × Node)) :
    Node.find? key (undescribedKeywords entries) =
      (Node.find? key entries).map (undescribedValue (.string key)) := by
  induction entries with
  | nil => rfl
  | cons entry entries ih =>
    obtain ⟨k, v⟩ := entry
    rw [undescribedKeywords_cons]
    by_cases hk : k.isString key = true
    · obtain rfl := Node.isString_iff.mp hk
      have hdescription : ¬(Node.string key).isString "description" = true := by
        simpa [Node.isString_iff] using hkey
      rw [if_neg hdescription, Node.find?, if_pos hk, Node.find?, if_pos hk, Option.map_some]
    · rw [Node.find?, if_neg hk]
      split
      · exact ih
      · rw [Node.find?, if_neg hk, ih]

/-- A keyword that is neither that of a description nor of schemas is as it was. -/
theorem find?_undescribedKeywords_of_not_mem {key : String}
    (hkey : key ∉ "description" :: "properties" :: schemaKeywords)
    (entries : List (Node × Node)) :
    Node.find? key (undescribedKeywords entries) = Node.find? key entries := by
  obtain ⟨hdescription, hproperties, hschema⟩ : key ≠ "description" ∧ key ≠ "properties" ∧
      key ∉ schemaKeywords := by simpa only [List.mem_cons, not_or] using hkey
  have hid : undescribedValue (.string key) = id := by
    funext v
    rw [undescribedValue, if_neg (by simpa [Node.isString_iff] using hproperties),
      if_neg (by simpa [Node.isString_iff] using hschema), id]
  rw [find?_undescribedKeywords hdescription, hid, Option.map_id, id]

/-- Every other keyword is there if it was there before. -/
theorem isSome_find?_undescribedKeywords {key : String} (hkey : key ≠ "description")
    (entries : List (Node × Node)) :
    (Node.find? key (undescribedKeywords entries)).isSome = (Node.find? key entries).isSome := by
  rw [find?_undescribedKeywords hkey, Option.isSome_map]

/-! ### Shapes -/

namespace Shape

mutual

/-- The shape without descriptions. -/
def undescribed : Shape → Shape
  | .faulty fault => .faulty fault
  | .valid _ dimensions element members =>
    .valid none dimensions { element with description := none } (undescribedAll members)

/-- The shapes of members without descriptions. -/
def undescribedAll : List (String × Shape) → List (String × Shape)
  | [] => []
  | (name, s) :: rest => (name, s.undescribed) :: undescribedAll rest

end

/-- The kind of a schema is read off its keywords other than the description. -/
theorem kind_undescribedKeywords (entries : List (Node × Node)) :
    kind (undescribedKeywords entries) = kind entries := by
  have huntyped : untypedKind (undescribedKeywords entries) = untypedKind entries := by
    rw [untypedKind, untypedKind, composition?, composition?,
      find?_undescribedKeywords_of_not_mem (by decide),
      isSome_find?_undescribedKeywords (by decide), isSome_find?_undescribedKeywords (by decide),
      isSome_find?_undescribedKeywords (by decide)]
  rw [kind, kind, find?_undescribedKeywords_of_not_mem (by decide), huntyped]

theorem description?_undescribedKeywords (entries : List (Node × Node)) :
    description? (undescribedKeywords entries) = none := by
  rw [description?, find?_undescribedKeywords_description, Option.bind_none]

/-- The element of what is left is the element, without its description. -/
theorem elementOf_undescribedKeywords (declaration : Declaration) (entries : List (Node × Node)) :
    elementOf declaration (undescribedKeywords entries) =
      { elementOf declaration entries with description := none } := by
  rw [elementOf, elementOf, description?_undescribedKeywords, itemsAt, itemsAt,
    find?_undescribedKeywords_of_not_mem (by decide),
    find?_undescribedKeywords_of_not_mem (by decide)]
  rfl

/-- An array without its description has the items without theirs. -/
theorem undescribed_inArray (description : Option String) (s : Shape) :
    (inArray description s).undescribed = inArray none s.undescribed := by
  cases s <;> rfl

mutual

/-- The shape of a node without descriptions is the shape of the node, without descriptions. -/
theorem ofNode_undescribedNode : ∀ n : Node, ofNode (undescribedNode n) = (ofNode n).undescribed
  | .mapping entries => by
    rw [undescribedNode, ofNode, ofNode, kind_undescribedKeywords]
    cases kind entries with
    | faulty fault => rfl
    | element declaration =>
      simp only [elementOf_undescribedKeywords, propertiesOf_undescribedKeywords entries,
        undescribed]
    | array =>
      simp only [itemsOf?_undescribedKeywords entries, description?_undescribedKeywords]
      cases itemsOf? entries with
      | none => rfl
      | some items => exact (undescribed_inArray _ items).symm
  | .tagged _ n => by
    rw [undescribedNode, ofNode, ofNode]
    exact ofNode_undescribedNode n
  | .null | .bool _ | .number _ | .string _ | .sequence _ => rfl

/-- The items of what is left have the shape of the items, without descriptions. -/
theorem itemsOf?_undescribedKeywords : ∀ entries : List (Node × Node),
    itemsOf? (undescribedKeywords entries) = (itemsOf? entries).map undescribed
  | [] => rfl
  | (k, v) :: es => by
    by_cases hk : k.isString "items" = true
    · obtain rfl := Node.isString_iff.mp hk
      rw [itemsOf?, if_pos hk, Option.map_some, ← ofNode_undescribedNode v]
      rfl
    · have ih := itemsOf?_undescribedKeywords es
      rw [undescribedKeywords_cons, itemsOf?, if_neg hk]
      split
      · exact ih
      · rw [itemsOf?, if_neg hk, ih]

/-- The properties of what is left have the shapes of the properties, without descriptions. -/
theorem propertiesOf_undescribedKeywords : ∀ entries : List (Node × Node),
    propertiesOf (undescribedKeywords entries) = undescribedAll (propertiesOf entries)
  | [] => rfl
  | (k, v) :: es => by
    by_cases hk : k.isString "properties" = true
    · obtain rfl := Node.isString_iff.mp hk
      rw [propertiesOf, if_pos hk, ← membersOf_undescribedMembers v]
      rfl
    · have ih := propertiesOf_undescribedKeywords es
      rw [undescribedKeywords_cons, propertiesOf, if_neg hk]
      split
      · exact ih
      · rw [propertiesOf, if_neg hk, ih]

theorem membersOf_undescribedMembers : ∀ n : Node,
    membersOf (undescribedMembers n) = undescribedAll (membersOf n)
  | .mapping entries => by
    rw [undescribedMembers, membersOf, membersOf]
    exact ofEntries_undescribedEntries entries
  | .tagged _ n => by
    rw [undescribedMembers, membersOf, membersOf]
    exact membersOf_undescribedMembers n
  | .null | .bool _ | .number _ | .string _ | .sequence _ => rfl

/-- Member for member the shapes are those of the entries, under the same names. -/
theorem ofEntries_undescribedEntries : ∀ entries : List (Node × Node),
    ofEntries (undescribedEntries entries) = undescribedAll (ofEntries entries)
  | [] => rfl
  | (k, v) :: es => by
    rw [undescribedEntries, ofEntries, ofEntries]
    cases k.scalarText? with
    | none => exact ofEntries_undescribedEntries es
    | some name =>
      simp only [ofNode_undescribedNode v, ofEntries_undescribedEntries es, undescribedAll]

end

end Shape

/-! ### Extractions -/

namespace Extraction

/-- The extraction with its model without descriptions. -/
def undescribed (x : Extraction) : Extraction := { x with model := x.model.undescribed }

variable {x : Extraction} {path : String}

/-- The property of a schema takes its description from the schema and from nothing else. -/
theorem undescribed_propertyOf (path : String) (description : Option String) (dimensions : Nat)
    (e : Element) :
    (propertyOf path description dimensions e).undescribed =
      propertyOf path none dimensions { e with description := none } := by
  rw [propertyOf_eq, propertyOf_eq]
  rfl

theorem undescribed_addType (description : String) :
    (x.addType path description).undescribed = x.undescribed.addType path "" := by
  simp only [undescribed, addType, Model.undescribed_insertType]
  rfl

theorem undescribed_require (name : String) :
    (require path x name).undescribed = require path x.undescribed name := by
  have hsome : (x.undescribed.model.property? (Path.child path name)).isSome =
      (x.model.property? (Path.child path name)).isSome := by
    rw [undescribed, Model.property?_undescribed, Option.isSome_map]
  rw [require, require, hsome]
  split
  · simp only [undescribed, Model.undescribed_require]
  · rfl

theorem undescribed_requireAll (names : List String) (x : Extraction) :
    (names.foldl (require path) x).undescribed = names.foldl (require path) x.undescribed := by
  induction names generalizing x with
  | nil => rfl
  | cons name names ih => rw [List.foldl_cons, List.foldl_cons, ih, undescribed_require]

theorem undescribed_pruneFaulty :
    (x.pruneFaulty path).undescribed = x.undescribed.pruneFaulty path := by
  have herrors : x.undescribed.errors = x.errors := rfl
  rw [pruneFaulty, pruneFaulty, herrors]
  split
  · simp only [undescribed, Model.undescribed_prune, Model.countWithin_undescribed]
  · rfl

mutual

/-- Putting in a shape without descriptions puts in the shape, without descriptions. -/
theorem undescribed_addShape (path : String) : ∀ (s : Shape) (x : Extraction),
    (addShape path s x).undescribed = addShape path s.undescribed x.undescribed
  | .faulty fault, x => rfl
  | .valid description dimensions element members, x => by
    rw [addShape, Shape.undescribed, addShape, ← undescribed_propertyOf]
    generalize propertyOf path description dimensions element = p
    -- the warnings about an element have nothing to do with its description
    have hwarn : ({ x.warn (elementWarnings path element) with
        model := (x.warn (elementWarnings path element)).model.insertProperty p } :
          Extraction).undescribed =
        { x.undescribed.warn (elementWarnings path { element with description := none }) with
          model := x.undescribed.model.insertProperty p.undescribed } := by
      simp only [undescribed, warn, Model.undescribed_insertProperty]
      rfl
    have htype : p.undescribed.typeName = p.typeName := rfl
    have henum : p.undescribed.isEnum = p.isEnum := rfl
    dsimp only at hwarn ⊢
    rw [htype, henum]
    split
    · rw [undescribed_pruneFaulty, undescribed_requireAll, undescribed_addShapes path members,
        undescribed_addType, hwarn]
      rfl
    · split
      · rw [undescribed_pruneFaulty, undescribed_addType, hwarn]
        rfl
      · exact hwarn

theorem undescribed_addShapes (parent : String) : ∀ (members : List (String × Shape))
    (x : Extraction), (addShapes parent members x).undescribed =
      addShapes parent (Shape.undescribedAll members) x.undescribed
  | [], x => rfl
  | (name, s) :: rest, x => by
    rw [addShapes, Shape.undescribedAll, addShapes, undescribed_addShapes parent rest,
      undescribed_addShape (Path.child parent name) s]

end

/-- **Descriptions in an extraction.**  The extraction of component schemas without descriptions is
that of the component schemas, with a model without descriptions. -/
theorem ofEntries_undescribedEntries (entries : List (Node × Node)) :
    ofEntries (undescribedEntries entries) = (ofEntries entries).undescribed := by
  have hshapes : addShapes Path.base (Shape.ofEntries (undescribedEntries entries)) {} =
      (addShapes Path.base (Shape.ofEntries entries) {}).undescribed := by
    rw [Shape.ofEntries_undescribedEntries, undescribed_addShapes]
    simp [undescribed]
  rw [ofEntries, ofEntries, hshapes, length_undescribedEntries]
  simp [undescribed, summary, Model.undescribed]

end Extraction

end SchemaBeans.Schema
