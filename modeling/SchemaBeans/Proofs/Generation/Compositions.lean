import SchemaBeans.Proofs.Extraction.Rearrangement
import SchemaBeans.Proofs.Extraction.Visits
import SchemaBeans.Proofs.Generation.Accepted
import SchemaBeans.Proofs.Yaml.Equality

/-!
# Generation — compositions

On the way from the node of a schema to its element an extraction looks at the node itself and at
the items of each array (`HasLevel`).  A level is *composed* if one of the keywords of compositions
is among its keys, and it *leaves the type open* if it has neither a type nor a reference.

A composed level that leaves the type open is an error at the path of its schema, and there is no
package then.  A level that gives a type or a reference is read as if the keywords of compositions
were not there; so a composition beside a type is passed over.  A document comes to the same as one
in which the keywords are taken out of such a level, wherever it is (`TakesOutIn`).
-/

namespace SchemaBeans.Schema

open Yaml (Node)

/-- The entries are those of a node on the way to an element: of the node itself, or of the items
of an array on that way. -/
inductive HasLevel : Node → List (Node × Node) → Prop where
  | self {n : Node} {entries : List (Node × Node)} (h : n.entries? = some entries) :
      HasLevel n entries
  | items {n items : Node} {entries level : List (Node × Node)} (h : n.entries? = some entries)
      (ha : IsArray entries) (hi : Node.find? "items" entries = some items)
      (hl : HasLevel items level) : HasLevel n level

/-- One of the keywords of compositions is among the keys. -/
def IsComposed (entries : List (Node × Node)) : Prop :=
  (Node.find? "allOf" entries).isSome ∨ (Node.find? "oneOf" entries).isSome

/-- There is neither a type nor a reference. -/
def LeavesOpen (entries : List (Node × Node)) : Prop :=
  Node.find? "type" entries = none ∧
    ∀ target, Node.find? "$ref" entries = some target → target.string? = none

variable {n : Node} {entries level : List (Node × Node)} {declaration : Declaration}

theorem LeavesOpen.not_isArray (h : LeavesOpen entries) : ¬IsArray entries := by
  rintro ⟨type, ht, -⟩
  rw [h.1] at ht
  cases ht

/-- What is composed and leaves the type open declares none, whatever else there is. -/
theorem LeavesOpen.not_declares (h : LeavesOpen entries) (hc : IsComposed entries) :
    ¬Declares entries declaration := by
  intro hd
  cases hd with
  | type ht => rw [h.1] at ht; cases ht
  | reference _ hr ht => rw [h.2 _ hr] at ht; cases ht
  | anyOf _ _ hall hone => simp [IsComposed, hall, hone] at hc

/-- A composed level that leaves the type open keeps a node from being that of a schema. -/
theorem HasLevel.not_isSchema (hl : HasLevel n level) (ho : LeavesOpen level)
    (hc : IsComposed level) : ¬IsSchema n := by
  rintro ⟨dimensions, element, declaration, he, hd⟩
  -- each node has one level more to go or none, so the element is the level itself
  induction hl generalizing dimensions with
  | self h =>
    cases he with
    | scalar h' _ =>
      rw [h, Option.some.injEq] at h'
      exact ho.not_declares hc (h' ▸ hd)
    | array h' ha =>
      rw [h, Option.some.injEq] at h'
      exact ho.not_isArray (h' ▸ ha)
  | items h ha hi _ ih =>
    cases he with
    | scalar h' hna =>
      rw [h, Option.some.injEq] at h'
      exact hna (h' ▸ ha)
    | array h' _ hi' he =>
      rw [h, Option.some.injEq] at h'
      rw [← h', hi, Option.some.injEq] at hi'
      exact ih ho hc _ (hi' ▸ he)

/-! ### Compositions that are passed over -/

/-- The key is one of the keywords of compositions. -/
def IsCompositionKey (key : Node) : Bool := key.isString "allOf" || key.isString "oneOf"

/-- The entries other than those of the keywords of compositions. -/
def withoutCompositions (entries : List (Node × Node)) : List (Node × Node) :=
  entries.filter fun entry => !IsCompositionKey entry.1

theorem isCompositionKey_of_isString {key : String} {k : Node} (hk : k.isString key = true)
    (hall : key ≠ "allOf") (hone : key ≠ "oneOf") : IsCompositionKey k = false := by
  cases k with
  | string s =>
    simp only [Node.isString, beq_iff_eq] at hk
    simp [IsCompositionKey, Node.isString, hk, hall, hone]
  | null | bool | number | sequence | mapping | tagged => cases hk

/-- Every other keyword is still there, with its value. -/
theorem find?_withoutCompositions {key : String} (hall : key ≠ "allOf") (hone : key ≠ "oneOf") :
    Node.find? key (withoutCompositions entries) = Node.find? key entries := by
  induction entries with
  | nil => rfl
  | cons entry entries ih =>
    obtain ⟨k, v⟩ := entry
    rw [withoutCompositions] at ih ⊢
    rw [Node.find?]
    cases hc : IsCompositionKey k with
    | true =>
      rw [List.filter_cons_of_neg (by simp [hc]), ih, if_neg]
      intro hk
      rw [isCompositionKey_of_isString hk hall hone] at hc
      cases hc
    | false => rw [List.filter_cons_of_pos (by simp [hc]), Node.find?, ih]

/-- What gives a type or a reference is of the kind that it gives. -/
theorem kind_withoutCompositions (h : ¬LeavesOpen entries) :
    Shape.kind (withoutCompositions entries) = Shape.kind entries := by
  rw [Shape.kind, Shape.kind, find?_withoutCompositions (by decide) (by decide)]
  cases ht : Node.find? "type" entries with
  | some type => rfl
  | none =>
    rw [LeavesOpen, not_and, not_forall] at h
    obtain ⟨target, htarget⟩ := h ht
    rw [Classical.not_imp, ← ne_eq, Option.ne_none_iff_exists'] at htarget
    obtain ⟨hr, path, hpath⟩ := htarget
    simp [Shape.untypedKind, find?_withoutCompositions, hr, hpath]

/-- A node that gives a type or a reference has the shape it would have without compositions. -/
theorem ofNode_withoutCompositions (h : ¬LeavesOpen entries) :
    Shape.ofNode (.mapping (withoutCompositions entries)) = Shape.ofNode (.mapping entries) := by
  rw [Shape.ofNode_of_entries? (n := .mapping (withoutCompositions entries)) rfl,
    Shape.ofNode_of_entries? (n := .mapping entries) rfl, kind_withoutCompositions h]
  simp [Shape.description?, Shape.elementOf, Shape.itemsAt, memberEntries,
    find?_withoutCompositions]

/-- The second node is the first one, that of a schema at `q`, with the keywords of compositions
taken out of a level of the schema at `path`. -/
inductive TakesOut (path : String) (level : List (Node × Node)) :
    (q : String) → Node → Node → Prop where
  | here {m n : Node} (hm : m.entries? = some level)
      (hn : n.entries? = some (withoutCompositions level)) : TakesOut path level path m n
  | items {q : String} {m n v w : Node} {before after : List (Node × Node)}
      (hm : m.entries? = some (before ++ (.string "items", v) :: after))
      (hn : n.entries? = some (before ++ (.string "items", w) :: after))
      (h : TakesOut path level q v w) : TakesOut path level q m n
  | property {q name : String} {m n v w key properties properties' : Node}
      {before after others rest : List (Node × Node)}
      (hm : m.entries? = some (before ++ (.string "properties", properties) :: after))
      (hn : n.entries? = some (before ++ (.string "properties", properties') :: after))
      (hv : properties.entries? = some (others ++ (key, v) :: rest))
      (hw : properties'.entries? = some (others ++ (key, w) :: rest))
      (hname : key.scalarText? = some name) (h : TakesOut path level (Path.child q name) v w) :
      TakesOut path level q m n

/-- The second component schemas are the first ones with the keywords of compositions taken out of a
level of the schema at `path`. -/
inductive TakesOutIn (path : String) (level : List (Node × Node)) :
    List (Node × Node) → List (Node × Node) → Prop where
  | schema {name : String} {key v w : Node} {before after : List (Node × Node)}
      (hname : key.scalarText? = some name)
      (h : TakesOut path level (Path.child Path.base name) v w) :
      TakesOutIn path level (before ++ (key, v) :: after) (before ++ (key, w) :: after)

section Shapes

variable {m n v w : Node} {k key path q : String} {es fs before after : List (Node × Node)}

/-- What two values of a key have in common, the values of every key have in common when one is put
for the other. -/
theorem map_find?_replace {β : Type} (f : Node → β) (hf : k = key → f v = f w)
    (before after : List (Node × Node)) :
    (Node.find? key (before ++ (.string k, v) :: after)).map f =
      (Node.find? key (before ++ (.string k, w) :: after)).map f :=
  Shape.eq_of_rel (Node.rel_find?_value (R := fun v w => f v = f w) (fun _ => rfl)
    (fun h => hf (Node.string.inj h)) before after) (·.map f) (congrArg some)

/-- Schemas with the same keywords have the same shape if their items and their properties do. -/
theorem ofNode_eq_of_keywords (hm : m.entries? = some es) (hn : n.entries? = some fs)
    (hsame : ∀ key, key ≠ "items" → key ≠ "properties" → Node.find? key es = Node.find? key fs)
    (hitems : (Node.find? "items" es).map Shape.ofNode = (Node.find? "items" fs).map Shape.ofNode)
    (hmembers : (Node.find? "properties" es).map Shape.membersOf =
      (Node.find? "properties" fs).map Shape.membersOf) :
    Shape.ofNode m = Shape.ofNode n := by
  have hkind : Shape.kind es = Shape.kind fs := by
    simp [Shape.kind, Shape.untypedKind, Shape.composition?, hsame]
  rw [Shape.ofNode_of_entries? hm, Shape.ofNode_of_entries? hn, hkind, hitems,
    Shape.ofEntries_memberEntries, Shape.ofEntries_memberEntries, hmembers]
  simp [Shape.description?, Shape.elementOf, Shape.itemsAt, hsame]

/-- Replacing the value of one keyword by one that is read in the same way leaves the shape. -/
theorem ofNode_eq_of_replace (hm : m.entries? = some (before ++ (.string k, v) :: after))
    (hn : n.entries? = some (before ++ (.string k, w) :: after))
    (hk : k = "items" ∨ k = "properties") (hitems : k = "items" → Shape.ofNode v = Shape.ofNode w)
    (hmembers : k = "properties" → Shape.membersOf v = Shape.membersOf w) :
    Shape.ofNode m = Shape.ofNode n := by
  refine ofNode_eq_of_keywords hm hn (fun key hkey hkey' => ?_)
    (map_find?_replace _ hitems before after) (map_find?_replace _ hmembers before after)
  have hne : k ≠ key := by
    rintro rfl
    exact hk.elim hkey hkey'
  simpa using map_find?_replace id (fun h => absurd h hne) before after

/-- Taking compositions out of a level that gives a type or a reference leaves the shape. -/
theorem TakesOut.ofNode_eq (h : TakesOut path level q m n) (hl : ¬LeavesOpen level) :
    Shape.ofNode m = Shape.ofNode n := by
  induction h with
  | here hm hn =>
    rw [Shape.ofNode_of_entries? hm, Shape.ofNode_of_entries? hn,
      ← Shape.ofNode_of_entries? (n := .mapping level) rfl,
      ← Shape.ofNode_of_entries? (n := .mapping (withoutCompositions level)) rfl,
      ofNode_withoutCompositions hl]
  | items hm hn _ ih =>
    exact ofNode_eq_of_replace hm hn (Or.inl rfl) (fun _ => ih) fun h => absurd h (by decide)
  | property hm hn hv hw _ _ ih =>
    refine ofNode_eq_of_replace hm hn (Or.inr rfl) (fun h => absurd h (by decide)) fun _ => ?_
    rw [Shape.membersOf_eq, Shape.membersOf_eq, hv, hw, Option.getD_some, Option.getD_some,
      Shape.ofEntries_insert, Shape.ofEntries_insert, ih]

/-- So it leaves all that is extracted. -/
theorem TakesOutIn.ofEntries_eq (h : TakesOutIn path level es fs) (hl : ¬LeavesOpen level) :
    Extraction.ofEntries es = Extraction.ofEntries fs := by
  cases h with
  | schema _ h =>
    rw [Extraction.ofEntries, Extraction.ofEntries, Shape.ofEntries_insert, Shape.ofEntries_insert,
      h.ofNode_eq hl]
    simp

end Shapes

/-! ### Every level can be rid of its compositions -/

/-- From every level of a node the keywords can be taken out. -/
theorem HasLevel.exists_takesOut (hl : HasLevel n level) (path : String) :
    ∃ n', TakesOut path level path n n' := by
  induction hl with
  | self h => exact ⟨.mapping (withoutCompositions _), .here h rfl⟩
  | items h _ hi _ ih =>
    obtain ⟨w, hw⟩ := ih
    obtain ⟨before, after, rfl⟩ := List.append_of_mem (Node.mem_of_find? hi)
    exact ⟨.mapping (before ++ (.string "items", w) :: after), .items h rfl hw⟩

/-- An entry of the properties is one of the mapping below their keyword. -/
theorem exists_of_mem_memberEntries {element : List (Node × Node)} {entry : Node × Node}
    (h : entry ∈ memberEntries element) : ∃ properties es,
      Node.find? "properties" element = some properties ∧ properties.entries? = some es ∧
        entry ∈ es := by
  rw [memberEntries] at h
  cases hp : (Node.find? "properties" element).bind Node.entries? with
  | none => simp [hp] at h
  | some es =>
    obtain ⟨properties, hfind, hes⟩ := Option.bind_eq_some_iff.mp hp
    exact ⟨properties, es, hfind, hes, by simpa [hp] using h⟩

/-- If they can be taken out of a property's node, they can be out of the object's. -/
theorem HasElement.exists_takesOut {dimensions : Nat} {element : List (Node × Node)}
    {path q name : String} {key v w : Node} (he : HasElement n dimensions element)
    (hv : (key, v) ∈ memberEntries element) (hname : key.scalarText? = some name)
    (h : TakesOut path level (Path.child q name) v w) : ∃ n', TakesOut path level q n n' := by
  induction he with
  | scalar hn _ =>
    obtain ⟨properties, es, hp, hes, hentry⟩ := exists_of_mem_memberEntries hv
    obtain ⟨others, rest, rfl⟩ := List.append_of_mem hentry
    obtain ⟨before, after, rfl⟩ := List.append_of_mem (Node.mem_of_find? hp)
    exact ⟨.mapping (before ++ (.string "properties", .mapping (others ++ (key, w) :: rest)) ::
      after), .property hn rfl hes rfl hname h⟩
  | array hn _ hi _ ih =>
    obtain ⟨w, hw⟩ := ih hv
    obtain ⟨before, after, rfl⟩ := List.append_of_mem (Node.mem_of_find? hi)
    exact ⟨.mapping (before ++ (.string "items", w) :: after), .items hn rfl hw⟩

/-- So they can be out of the node of every site from which the level is reached. -/
theorem Site.Reaches.exists_takesOut {c d : Site} (h : c.Reaches d) {path : String} {w : Node}
    (hd : TakesOut path level d.path d.node w) : ∃ n', TakesOut path level c.path c.node n' := by
  induction h using Relation.ReflTransGen.head_induction_on with
  | refl => exact ⟨w, hd⟩
  | head hmember _ ih =>
    obtain ⟨w, hw⟩ := ih
    obtain ⟨_, ⟨_, _, he, -, rfl⟩, ⟨key, hentry, hname⟩, hpath⟩ := hmember
    exact he.exists_takesOut hentry hname (hpath ▸ hw)

/-- Compositions can be taken out of every level of every schema of a document. -/
theorem IsSite.exists_takesOutIn {schemas : List (Node × Node)} {c : Site} (hc : IsSite schemas c)
    (hl : HasLevel c.node level) : ∃ schemas', TakesOutIn c.path level schemas schemas' := by
  obtain ⟨top, ⟨⟨key, hentry, hname⟩, hpath⟩, hreach⟩ := hc
  obtain ⟨w, hw⟩ := hl.exists_takesOut c.path
  obtain ⟨w', hw'⟩ := hreach.exists_takesOut hw
  obtain ⟨before, after, rfl⟩ := List.append_of_mem hentry
  exact ⟨_, .schema hname (hpath ▸ hw')⟩

end SchemaBeans.Schema

namespace SchemaBeans.Generation

open Schema
open Yaml (Node)

/-- An error of extraction keeps a text from being translated, and is reported. -/
theorem translate_of_mem_paths {package text : String} {document : Node} {x : Extraction}
    (hread : Yaml.read text = .ok document) (hx : extract document = .ok x) {q : String}
    (hq : q ∈ x.errors.paths) :
    ∃ errors, (translate package text).result = .error (.schemas errors) ∧ q ∈ errors.paths := by
  have hr := mem_paths_resolve (extract_wellPlaced hx).indexed hq
  refine ⟨_, ?_, hr⟩
  rw [translate_of_read hread hx, if_neg]
  rw [Errors.isEmpty_iff]
  exact fun h => h q hr

/-- **Compositions.**  Let a schema of a document have a composed level.  If the level leaves the
type open, an error is recorded at the path of the schema and reported in place of a package.
Otherwise the composition is passed over: the keywords can be taken out of the level, and whatever
document and text come of that, the same is extracted from it, and its translation is the same. -/
theorem composition_reported_or_passedOver {text : String} {document : Node}
    {schemas : List (Node × Node)} (hread : Yaml.read text = .ok document)
    (hc : components document = .ok schemas) {c : Site} (hsite : IsSite schemas c)
    {level : List (Node × Node)} (hl : HasLevel c.node level) (hcomp : IsComposed level) :
    (LeavesOpen level → ∃ x, extract document = .ok x ∧ c.path ∈ x.errors.paths ∧
      ∀ package, ∃ errors, (translate package text).result = .error (.schemas errors) ∧
        c.path ∈ errors.paths) ∧
    (¬LeavesOpen level → (∃ schemas', TakesOutIn c.path level schemas schemas') ∧
      ∀ schemas' document', TakesOutIn c.path level schemas schemas' →
        components document' = .ok schemas' → extract document' = extract document ∧
          ∀ text', Yaml.read text' = .ok document' →
            ∀ package, translate package text' = translate package text) := by
  refine ⟨fun ho => ?_, fun ho => ⟨hsite.exists_takesOutIn hl, fun schemas' document' h hc' => ?_⟩⟩
  · obtain ⟨x, hx⟩ : ∃ x, extract document = .ok x := ⟨_, by rw [extract, hc]; rfl⟩
    have hq : c.path ∈ x.errors.paths :=
      (Extraction.mem_paths_extract_iff hc hx).mpr ⟨c, hsite, rfl, hl.not_isSchema ho hcomp⟩
    exact ⟨x, hx, hq, fun package => translate_of_mem_paths hread hx hq⟩
  · have hextract : extract document' = extract document := by
      rw [extract, extract, hc, hc', Except.map, Except.map, h.ofEntries_eq ho]
    refine ⟨hextract, fun text' hread' package => ?_⟩
    rw [translate, translate, hread, hread']
    simp only [translateDocument, hextract]

/-- An object with an array whose items may be one of several schemas, or any. -/
def composedItems : String :=
  "components:\n  schemas:\n" ++
  "    a: \x7btype: object, properties: \x7bb: \x7btype: array, " ++
  "items: \x7banyOf: [], oneOf: []\x7d\x7d\x7d\x7d\n"

/-- The array. -/
def composedItemsArray : Node :=
  .mapping [(.string "type", .string "array"), (.string "items", .mapping
    [(.string "anyOf", .sequence []), (.string "oneOf", .sequence [])])]

/-- The schemas of the text. -/
def composedItemsSchemas : List (Node × Node) :=
  [(.string "a", .mapping [(.string "type", .string "object"),
    (.string "properties", .mapping [(.string "b", composedItemsArray)])])]

/-- An object that is all of several schemas, of which there are none. -/
def composedObject : String := "components:\n  schemas:\n    a: \x7btype: object, allOf: []\x7d\n"

/-- The entries of the object. -/
def composedObjectEntries : List (Node × Node) :=
  [(.string "type", .string "object"), (.string "allOf", .sequence [])]

/-- The object without its composition. -/
def plainObject : String := "components:\n  schemas:\n    a: \x7btype: object\x7d\n"

/-- The items are an error at the path of the array.  The composition of the object is passed
over. -/
theorem composedItems_reported : (∃ level x,
    Yaml.read composedItems = .ok (documentOf composedItemsSchemas) ∧
      components (documentOf composedItemsSchemas) = .ok composedItemsSchemas ∧
      IsSite composedItemsSchemas ⟨"#/components/schemas/a/b", "b", composedItemsArray⟩ ∧
      HasLevel composedItemsArray level ∧ IsComposed level ∧ LeavesOpen level ∧
      extract (documentOf composedItemsSchemas) = .ok x ∧
      "#/components/schemas/a/b" ∈ x.errors.paths ∧
      ∀ package, ∃ errors, (translate package composedItems).result = .error (.schemas errors) ∧
        "#/components/schemas/a/b" ∈ errors.paths) ∧
    ¬LeavesOpen composedObjectEntries ∧
      ∀ package, translate package plainObject = translate package composedObject := by
  have hread : Yaml.read composedItems = .ok (documentOf composedItemsSchemas) := by
    decide +kernel
  have hc : components (documentOf composedItemsSchemas) = .ok composedItemsSchemas := rfl
  have hsite : IsSite composedItemsSchemas
      ⟨"#/components/schemas/a/b", "b", composedItemsArray⟩ := by
    refine ⟨⟨"#/components/schemas/a", "a", _⟩, ⟨⟨_, List.mem_singleton_self _, rfl⟩, by decide⟩,
      .single ⟨[(.string "b", composedItemsArray)], ?_, ⟨_, List.mem_singleton_self _, rfl⟩,
        by decide⟩⟩
    refine ⟨0, _, .scalar rfl ?_, .type rfl rfl (by decide), rfl⟩
    rintro ⟨type, ht, htext⟩
    cases ht
    exact absurd htext (by decide)
  have hlevel : HasLevel composedItemsArray
      [(.string "anyOf", .sequence []), (.string "oneOf", .sequence [])] :=
    .items rfl ⟨_, rfl, rfl⟩ rfl (.self rfl)
  have hcomp : IsComposed [(Node.string "anyOf", .sequence []), (.string "oneOf", .sequence [])] :=
    Or.inr rfl
  have hopen : LeavesOpen [(Node.string "anyOf", .sequence []), (.string "oneOf", .sequence [])] :=
    ⟨rfl, fun _ h => by cases h⟩
  obtain ⟨x, hx, herror, hresult⟩ :=
    (composition_reported_or_passedOver hread hc hsite hlevel hcomp).1 hopen
  refine ⟨⟨_, x, hread, hc, hsite, hlevel, hcomp, hopen, hx, herror, hresult⟩, ?_⟩
  have hobject : Yaml.read composedObject =
      .ok (documentOf [(.string "a", .mapping composedObjectEntries)]) := by decide +kernel
  have hplain : Yaml.read plainObject =
      .ok (documentOf [(.string "a", .mapping [(.string "type", .string "object")])]) := by
    decide +kernel
  have hclosed : ¬LeavesOpen composedObjectEntries := fun h => by cases h.1
  have htaken : TakesOutIn "#/components/schemas/a" composedObjectEntries
      ([] ++ (.string "a", .mapping composedObjectEntries) :: [])
      ([] ++ (.string "a", .mapping [(.string "type", .string "object")]) :: []) :=
    .schema rfl (.here rfl rfl)
  have hpassed := (composition_reported_or_passedOver hobject rfl
    (c := ⟨"#/components/schemas/a", "a", .mapping composedObjectEntries⟩)
    ⟨_, ⟨⟨_, List.mem_singleton_self _, rfl⟩, by decide⟩, .refl⟩ (.self rfl) (Or.inl rfl)).2 hclosed
  exact ⟨hclosed, (hpassed.2 _ _ htaken rfl).2 _ hplain⟩

/-- The object is translated without an error: its composition stands beside a type. -/
theorem composedObject_translated : ∃ document schemas c level x product,
    Yaml.read composedObject = .ok document ∧ components document = .ok schemas ∧
      IsSite schemas c ∧ HasLevel c.node level ∧ IsComposed level ∧
      extract document = .ok x ∧ c.path ∉ x.errors.paths ∧
      (translate "generated" composedObject).result = .ok product := by
  have hread : Yaml.read composedObject =
      .ok (documentOf [(.string "a", .mapping composedObjectEntries)]) := by decide +kernel
  have hrun : ((extract (documentOf [(.string "a", .mapping composedObjectEntries)])).toOption.any
      fun x => x.errors.isEmpty) &&
        (translate "generated" composedObject).result.toOption.any fun _ => true := by
    decide +kernel
  obtain ⟨hx, hproduct⟩ := (Bool.and_eq_true _ _).mp hrun
  obtain ⟨x, hx, hempty⟩ := exists_of_toOption_any hx
  obtain ⟨product, hproduct, -⟩ := exists_of_toOption_any hproduct
  exact ⟨_, _, ⟨"#/components/schemas/a", "a", .mapping composedObjectEntries⟩,
    composedObjectEntries, x, product, hread, rfl,
    ⟨_, ⟨⟨_, List.mem_singleton_self _, rfl⟩, by decide⟩, .refl⟩, .self rfl, Or.inl rfl, hx,
    Errors.isEmpty_iff.mp hempty _, hproduct⟩

end SchemaBeans.Generation
