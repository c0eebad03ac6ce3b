import Mathlib.Logic.Relation
import SchemaBeans.Proofs.Extraction.Dimensions
import SchemaBeans.Proofs.Path

/-!
# Sites — the nodes of a document that are schemas

What a document says, told without shapes and without the order in which nodes are read.

The node of an array leads by its items to that of another schema, and so on to the entries of the
element (`HasElement`), which declare a type, a reference or an open choice (`Declares`).  A node
for which both can be done is that of a schema (`IsSchema`).

A *site* is a node with its path and its name.  The sites of a document are its component schemas
and the members of objects below them (`Site.IsComponent`, `Site.HasMember`, `IsSite`).  Names are
*safe* if they are segments, and no two in one mapping are alike (`PathSafe`).

A shape says the same as its node (`Shape.ofNode_of_hasElement`, `Shape.hasElement_of_ofNode`).
-/

namespace SchemaBeans.Schema

open Yaml (Node)

/-! ### Elements -/

/-- The type is that of arrays. -/
def IsArray (entries : List (Node × Node)) : Prop :=
  ∃ type, Node.find? "type" entries = some type ∧ type.scalarText? = some arrayType

/-- The node has an element with these entries, within as many arrays as there are dimensions. -/
inductive HasElement : Node → Nat → List (Node × Node) → Prop where
  | scalar {n : Node} {entries : List (Node × Node)} (h : n.entries? = some entries)
      (ha : ¬IsArray entries) : HasElement n 0 entries
  | array {n items : Node} {entries element : List (Node × Node)} {dimensions : Nat}
      (h : n.entries? = some entries) (ha : IsArray entries)
      (hi : Node.find? "items" entries = some items) (he : HasElement items dimensions element) :
      HasElement n (dimensions + 1) element

/-- The entries of an element declare its type. -/
inductive Declares (entries : List (Node × Node)) : Declaration → Prop where
  | type {type : Node} {name : String} (h : Node.find? "type" entries = some type)
      (ht : type.scalarText? = some name) (hne : name ≠ arrayType) : Declares entries (.type name)
  | reference {target : Node} {path : String} (h : Node.find? "type" entries = none)
      (hr : Node.find? "$ref" entries = some target) (ht : target.string? = some path) :
      Declares entries (.reference path)
  | anyOf (h : Node.find? "type" entries = none)
      (hr : ∀ target, Node.find? "$ref" entries = some target → target.string? = none)
      (hall : Node.find? "allOf" entries = none) (hone : Node.find? "oneOf" entries = none)
      (hany : (Node.find? "anyOf" entries).isSome) : Declares entries .anyOf

theorem Declaration.typeName_eq_objectType_iff {declaration : Declaration} :
    declaration.typeName = objectType ↔ declaration = .type objectType := by
  cases declaration with
  | type name => rw [Declaration.typeName, Declaration.type.injEq]
  | reference path =>
    simp only [reduceCtorEq, iff_false]
    intro h
    have h' := congrArg (fun s => s.toList.head?) h
    simp [Declaration.typeName, referenceMark, objectType] at h'
  | anyOf => decide

/-- The node is that of a schema: it has an element, whose type is declared. -/
def IsSchema (n : Node) : Prop :=
  ∃ dimensions element declaration, HasElement n dimensions element ∧ Declares element declaration

/-- The entries of the properties of an object. -/
def memberEntries (element : List (Node × Node)) : List (Node × Node) :=
  ((Node.find? "properties" element).bind Node.entries?).getD []

/-- The node has an object for its element, with these entries for its properties. -/
def HasProperties (n : Node) (properties : List (Node × Node)) : Prop :=
  ∃ dimensions element, HasElement n dimensions element ∧
    Declares element (.type objectType) ∧ memberEntries element = properties

/-- Two texts or more are among the entries of the enum. -/
def IsMultiValued (element : List (Node × Node)) : Prop :=
  ∃ a ∈ (Shape.itemsAt "enum" element).filterMap Node.scalarText?,
    ∃ b ∈ (Shape.itemsAt "enum" element).filterMap Node.scalarText?, a ≠ b

/-- The node is that of a schema which is a type of its own: an object or a choice of values. -/
def IsTypeSchema (n : Node) : Prop :=
  ∃ dimensions element declaration, HasElement n dimensions element ∧
    Declares element declaration ∧ (declaration = .type objectType ∨ IsMultiValued element)

/-! ### Sites -/

/-- A node with its place in a document. -/
structure Site where
  path : String
  name : String
  node : Node

namespace Site

/-- The site is that of an entry of a mapping, below a path. -/
structure IsEntry (parent : String) (entries : List (Node × Node)) (c : Site) : Prop where
  entry : ∃ key, (key, c.node) ∈ entries ∧ key.scalarText? = some c.name
  path_eq : c.path = Path.child parent c.name

/-- The site is that of a component schema. -/
def IsComponent (schemas : List (Node × Node)) (c : Site) : Prop := c.IsEntry Path.base schemas

/-- The second site is that of a property of the object at the first one. -/
def HasMember (c d : Site) : Prop :=
  ∃ properties, HasProperties c.node properties ∧ d.IsEntry c.path properties

theorem HasMember.path_eq {c d : Site} (h : c.HasMember d) : d.path = Path.child c.path d.name := by
  obtain ⟨_, _, he⟩ := h
  exact he.path_eq

/-- The second site is the first one, or lies below it. -/
def Reaches : Site → Site → Prop := Relation.ReflTransGen HasMember

end Site

/-- The site is one of the document with these component schemas. -/
def IsSite (schemas : List (Node × Node)) (c : Site) : Prop :=
  ∃ top : Site, top.IsComponent schemas ∧ top.Reaches c

/-- The names of entries: the texts of their keys. -/
def namesOf (entries : List (Node × Node)) : List String :=
  entries.filterMap fun entry => entry.1.scalarText?

/-- The names are segments, and no two are alike. -/
structure SafeNames (entries : List (Node × Node)) : Prop where
  isSegment : ∀ name ∈ namesOf entries, Path.IsSegment name
  nodup : (namesOf entries).Nodup

/-- The names of the component schemas and of all properties are safe. -/
structure PathSafe (schemas : List (Node × Node)) : Prop where
  components : SafeNames schemas
  members {c : Site} {properties : List (Node × Node)} : IsSite schemas c →
    HasProperties c.node properties → SafeNames properties

/-! ### Shapes of elements -/

namespace Shape

variable {entries element : List (Node × Node)} {declaration : Declaration} {n : Node}

/-- A node is taken for an array exactly if its type is that of arrays. -/
theorem kind_eq_array_iff : kind entries = .array ↔ IsArray entries := by
  rw [kind, IsArray]
  cases Node.find? "type" entries with
  | none =>
    simp only [untypedKind, reduceCtorEq, false_and, exists_false, iff_false]
    split
    · exact Kind.noConfusion
    · split
      · exact Kind.noConfusion
      · split <;> exact Kind.noConfusion
  | some type =>
    cases h : type.scalarText? with
    | none => simp [h]
    | some name => by_cases hn : name = arrayType <;> simp [h, hn]

/-- There is no composition exactly if neither of its keywords is there. -/
theorem composition?_eq_none_iff : composition? entries = none ↔
    Node.find? "allOf" entries = none ∧ Node.find? "oneOf" entries = none := by
  rw [composition?]
  cases Node.find? "allOf" entries <;> cases Node.find? "oneOf" entries <;> simp

theorem untypedKind_of_declares (h : Node.find? "type" entries = none)
    (hd : Declares entries declaration) : untypedKind entries = .element declaration := by
  rw [untypedKind]
  cases hd with
  | type h' => rw [h] at h'; cases h'
  | reference _ hr ht => simp [hr, ht]
  | anyOf _ hr hall hone hany =>
    have hnone : (Node.find? "$ref" entries).bind Node.string? = none := by
      rw [Option.bind_eq_none_iff]
      exact hr
    rw [hnone, composition?_eq_none_iff.mpr ⟨hall, hone⟩]
    simp [hany]

/-- What is read off a node without a type is what the node declares. -/
theorem declares_of_untypedKind (h : Node.find? "type" entries = none)
    (hk : untypedKind entries = .element declaration) : Declares entries declaration := by
  rw [untypedKind] at hk
  split at hk
  · next path hp =>
    cases hk
    obtain ⟨target, hr, ht⟩ := Option.bind_eq_some_iff.mp hp
    exact .reference h hr ht
  · next hp =>
    split at hk
    · cases hk
    · next hc =>
      obtain ⟨hall, hone⟩ := composition?_eq_none_iff.mp hc
      split at hk
      · next hany =>
        cases hk
        exact .anyOf h (Option.bind_eq_none_iff.mp hp) hall hone hany
      · cases hk

/-- A node has the kind of an element exactly if its entries declare a type. -/
theorem kind_eq_element_iff :
    kind entries = .element declaration ↔ Declares entries declaration := by
  cases h : Node.find? "type" entries with
  | none =>
    rw [kind, h]
    exact ⟨declares_of_untypedKind h, untypedKind_of_declares h⟩
  | some type =>
    rw [kind, h]
    refine ⟨?_, ?_⟩
    · intro hk
      cases ht : type.scalarText? with
      | none => simp [ht] at hk
      | some name =>
        by_cases hn : name = arrayType
        · simp [ht, hn] at hk
        · simp only [ht, hn, if_false, Kind.element.injEq] at hk
          rw [← hk]
          exact .type h ht hn
    · intro hd
      cases hd with
      | type h' ht hn =>
        rw [h, Option.some.injEq] at h'
        simp [h', ht, hn]
      | reference h' => rw [h] at h'; cases h'
      | anyOf h' => rw [h] at h'; cases h'

/-! ### Shapes of nodes -/

/-- The items of an array have the shape of their node. -/
theorem itemsOf?_eq (entries : List (Node × Node)) :
    itemsOf? entries = (Node.find? "items" entries).map ofNode := by
  induction entries with
  | nil => simp [itemsOf?, Node.find?]
  | cons entry entries ih =>
    obtain ⟨k, v⟩ := entry
    rw [itemsOf?, Node.find?, ih]
    cases k.isString "items" <;> rfl

theorem membersOf_eq : ∀ n : Node, membersOf n = ofEntries (n.entries?.getD [])
  | .mapping _ => by rw [membersOf]; rfl
  | .tagged _ n => by rw [membersOf, membersOf_eq n]; rfl
  | .null | .bool _ | .number _ | .string _ | .sequence _ => rfl

/-- The properties of an object have the shapes of their entries. -/
theorem propertiesOf_eq (entries : List (Node × Node)) :
    propertiesOf entries = ofEntries (memberEntries entries) := by
  rw [memberEntries]
  induction entries with
  | nil => simp [propertiesOf, Node.find?, ofEntries]
  | cons entry entries ih =>
    obtain ⟨k, v⟩ := entry
    rw [propertiesOf, Node.find?, ih]
    cases k.isString "properties" with
    | false => rfl
    | true => exact membersOf_eq v

/-- Entries are gone through one by one; one whose key has no text is passed over. -/
theorem ofEntries_eq (entries : List (Node × Node)) :
    ofEntries entries = entries.filterMap fun entry =>
      entry.1.scalarText?.map fun name => (name, ofNode entry.2) := by
  induction entries with
  | nil => rfl
  | cons entry entries ih =>
    obtain ⟨k, v⟩ := entry
    rw [ofEntries, ih]
    cases h : k.scalarText? <;> simp [h]

theorem map_fst_ofEntries (entries : List (Node × Node)) :
    (ofEntries entries).map Prod.fst = namesOf entries := by
  rw [ofEntries_eq, List.map_filterMap, namesOf]
  simp [Function.comp_def]

/-- The shape of a node is that of the mapping under its tags. -/
theorem ofNode_of_entries? : ∀ {n : Node}, n.entries? = some entries →
    ofNode n =
      match kind entries with
      | .faulty fault => .faulty fault
      | .element declaration =>
        .valid (description? entries) 0 (elementOf declaration entries)
          (ofEntries (memberEntries entries))
      | .array =>
        match (Node.find? "items" entries).map ofNode with
        | none => .faulty .withoutItems
        | some items => inArray (description? entries) items
  | .mapping es, h => by
    cases h
    rw [ofNode, itemsOf?_eq, ← propertiesOf_eq]
    rfl
  | .tagged _ n, h => by
    rw [ofNode]
    exact ofNode_of_entries? (n := n) h
  | .null, h | .bool _, h | .number _, h | .string _, h | .sequence _, h => by cases h

/-- A schema that is no mapping is faulty. -/
theorem ofNode_of_entries?_eq_none : ∀ {n : Node}, n.entries? = none →
    ofNode n = .faulty .notMapping
  | .mapping _, h => by cases h
  | .tagged _ n, h => by
    rw [ofNode]
    exact ofNode_of_entries?_eq_none (n := n) h
  | .null, _ | .bool _, _ | .number _, _ | .string _, _ | .sequence _, _ => rfl

/-- A node with an element whose type is declared has a valid shape. -/
theorem ofNode_of_hasElement {dimensions : Nat} (he : HasElement n dimensions element)
    (hd : Declares element declaration) :
    ∃ description, ofNode n = .valid description dimensions (elementOf declaration element)
      (ofEntries (memberEntries element)) := by
  induction he with
  | scalar h _ =>
    rw [ofNode_of_entries? h, kind_eq_element_iff.mpr hd]
    exact ⟨_, rfl⟩
  | array h ha hi _ ih =>
    obtain ⟨description, hitems⟩ := ih hd
    rw [ofNode_of_entries? h, kind_eq_array_iff.mpr ha, hi]
    exact ⟨_, by rw [Option.map_some, hitems]; rfl⟩

/-- **Shapes of schemas.**  A valid shape is that of a node with an element whose type is declared,
and tells the dimensions, the element and its members. -/
theorem hasElement_of_ofNode {description : Option String} {dimensions : Nat} {e : Element}
    {members : List (String × Shape)} (h : ofNode n = .valid description dimensions e members) :
    ∃ element declaration, HasElement n dimensions element ∧ Declares element declaration ∧
      e = elementOf declaration element ∧ members = ofEntries (memberEntries element) := by
  -- an array's items are less deep than the array
  induction hdepth : n.depth using Nat.strongRecOn generalizing n description dimensions with
  | _ depth ih =>
    cases hn : n.entries? with
    | none => rw [ofNode_of_entries?_eq_none hn] at h; cases h
    | some entries =>
      rw [ofNode_of_entries? hn] at h
      cases hk : kind entries with
      | faulty fault => rw [hk] at h; cases h
      | element declaration =>
        rw [hk] at h
        simp only [valid.injEq] at h
        obtain ⟨-, rfl, rfl, rfl⟩ := h
        refine ⟨entries, declaration, .scalar hn ?_, kind_eq_element_iff.mp hk, rfl, rfl⟩
        rw [← kind_eq_array_iff, hk]
        exact Kind.noConfusion
      | array =>
        rw [hk] at h
        cases hi : Node.find? "items" entries with
        | none => rw [hi] at h; cases h
        | some items =>
          rw [hi] at h
          have hlt : items.depth < depth := by
            have h₁ := depth_of_entries? hn
            have h₂ := depth_le_of_find? hi
            omega
          simp only [Option.map_some] at h
          cases hs : ofNode items with
          | faulty fault => rw [hs] at h; cases h
          | valid d k e' members' =>
            rw [hs] at h
            simp only [inArray, valid.injEq] at h
            obtain ⟨-, rfl, rfl, rfl⟩ := h
            obtain ⟨element, declaration, he, hd, hrest⟩ := ih items.depth hlt hs rfl
            exact ⟨element, declaration, .array hn (kind_eq_array_iff.mp hk) hi he, hd, hrest⟩

/-- A node has a faulty shape exactly if it is not that of a schema. -/
theorem exists_ofNode_eq_faulty_iff : (∃ fault, ofNode n = .faulty fault) ↔ ¬IsSchema n := by
  refine ⟨?_, ?_⟩
  · rintro ⟨fault, hf⟩ ⟨dimensions, element, declaration, he, hd⟩
    obtain ⟨description, h⟩ := ofNode_of_hasElement he hd
    rw [hf] at h
    cases h
  · intro hn
    cases h : ofNode n with
    | faulty fault => exact ⟨fault, rfl⟩
    | valid description dimensions e members =>
      obtain ⟨element, declaration, he, hd, -⟩ := hasElement_of_ofNode h
      exact absurd ⟨dimensions, element, declaration, he, hd⟩ hn

end Shape

/-- What declares a type is no array. -/
theorem Declares.not_isArray {entries : List (Node × Node)} {declaration : Declaration}
    (h : Declares entries declaration) : ¬IsArray entries := by
  rw [← Shape.kind_eq_array_iff, Shape.kind_eq_element_iff.mpr h]
  exact Shape.Kind.noConfusion

end SchemaBeans.Schema
