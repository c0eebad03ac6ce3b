import SchemaBeans.Proofs.Extraction.AllOrNothing
import SchemaBeans.Proofs.Resolution.Meaning

/-!
# Models — how the two tables hang together

A model is *coherent* if each property and each type is stored under the path that it names itself,
and if what a type lists are properties that are stored, and of which it is the parent
(`Model.Coherent`).  Then the members of a type are the listed properties, each of them once and in
the order of their paths (`Model.Coherent.map_path_members`).

A model comes about by *edits*: properties and types without properties are put in, lower bounds
are set, and schemas are pruned (`Model.Edit`).  Every edit leaves a coherent model coherent
(`Model.Coherent.edit`), pruning too, although it takes a path out of a single list, that of the
parent of its root: of any other path that it takes out, it takes out the parent as well
(`Path.eq_or_isWithin_of_parent?`).

So all models that come about by edits are coherent.  Extracted models are among them, and
resolution leaves a coherent model coherent (`coherent_of_edits`).
-/

namespace SchemaBeans.Schema

open Yaml (Node)

namespace Model

variable {m m' : Model} {path q root : String} {t : SchemaType}

/-! ### Coherence -/

/-- The tables agree with each other, and with what their entries say of themselves. -/
structure Coherent (m : Model) : Prop where
  indexed : m.Indexed
  /-- A type is introduced by the property at its own path. -/
  own {path : String} {t : SchemaType} : m.type? path = some t → t.ownProperty = path
  parent {path q : String} {t : SchemaType} : m.type? path = some t → q ∈ t.properties →
    Path.parent? q = some path
  listed {path q : String} {t : SchemaType} : m.type? path = some t → q ∈ t.properties →
    (m.property? q).isSome

theorem coherent_empty : Coherent {} where
  indexed := indexed_empty
  own ht := by simp at ht
  parent ht := by simp at ht
  listed ht := by simp at ht

/-- **Members.**  The members of a type are the properties at the paths that it lists, in order. -/
theorem Coherent.map_path_members (h : m.Coherent) (ht : m.type? path = some t) :
    (m.members t).map Property.path = t.properties.toList := by
  have hpath : ∀ q ∈ t.properties.toList, (m.property? q).map Property.path = some q := by
    intro q hq
    obtain ⟨p, hp⟩ := Option.isSome_iff_exists.mp
      (h.listed ht (Std.ExtTreeSet.mem_toList.mp hq))
    rw [hp, Option.map_some, h.indexed q p hp]
  rw [members, List.map_filterMap, List.filterMap_congr hpath, List.filterMap_some]

/-- A model with the same types, and with properties wherever there were some, is coherent too. -/
theorem Coherent.of_property? (h : m.Coherent) (hi : m'.Indexed)
    (hp : ∀ q, (m.property? q).isSome → (m'.property? q).isSome)
    (ht : ∀ q, m'.type? q = m.type? q) : m'.Coherent where
  indexed := hi
  own ht' := h.own (ht _ ▸ ht')
  parent ht' := h.parent (ht _ ▸ ht')
  listed ht' hq := hp _ (h.listed (ht _ ▸ ht') hq)

/-! ### Edits -/

/-- An edit of a model. -/
inductive Edit where
  | insertProperty (p : Property)
  /-- The type has no properties yet, and is introduced by the property at its path. -/
  | insertType (path name description : String)
  | require (path : String) (min : Nat)
  | prune (root : String)

/-- The model after an edit. -/
def edit (m : Model) : Edit → Model
  | .insertProperty p => m.insertProperty p
  | .insertType path name description =>
    m.insertType path { name := name, description := description, ownProperty := path }
  | .require path min => m.require path min
  | .prune root => m.prune root

/-- The model that comes of edits, starting from nothing. -/
def ofEdits (edits : List Edit) : Model := edits.foldl edit {}

theorem ofEdits_append (edits : List Edit) (e : Edit) :
    ofEdits (edits ++ [e]) = (ofEdits edits).edit e := by
  simp [ofEdits]

namespace Coherent

theorem insertProperty (h : m.Coherent) (p : Property) : (m.insertProperty p).Coherent := by
  -- besides what was listed, a type may list the property that is put in
  have hlisted : ∀ {path t q}, (m.insertProperty p).type? path = some t → q ∈ t.properties →
      ∃ t', m.type? path = some t' ∧ t.ownProperty = t'.ownProperty ∧
        (q ∈ t'.properties ∨ q = p.path ∧ Path.parent? q = some path) := by
    intro path t q ht hq
    rw [type?_insertProperty] at ht
    split at ht
    · next hparent =>
      obtain ⟨t', ht', rfl⟩ := Option.map_eq_some_iff.mp ht
      refine ⟨t', ht', rfl, ?_⟩
      rcases Std.ExtTreeSet.mem_insert.mp hq with hq | hq
      · rw [Std.LawfulEqCmp.compare_eq_iff_eq] at hq
        exact Or.inr ⟨hq.symm, hq ▸ hparent⟩
      · exact Or.inl hq
    · exact ⟨t, ht, rfl, Or.inl hq⟩
  refine ⟨h.indexed.insertProperty p, fun {path t} ht => ?_, fun ht hq => ?_, fun ht hq => ?_⟩
  · rw [type?_insertProperty] at ht
    split at ht
    · obtain ⟨t', ht', rfl⟩ := Option.map_eq_some_iff.mp ht
      exact h.own (t := t') ht'
    · exact h.own ht
  · obtain ⟨t', ht', -, hq | ⟨-, hparent⟩⟩ := hlisted ht hq
    · exact h.parent ht' hq
    · exact hparent
  · rw [property?_insertProperty]
    split
    · rfl
    · next hne =>
      obtain ⟨t', ht', -, hq | ⟨hpath, -⟩⟩ := hlisted ht hq
      · exact h.listed ht' hq
      · exact absurd hpath hne

theorem insertType (h : m.Coherent) (path name description : String) :
    (m.insertType path
      { name := name, description := description, ownProperty := path }).Coherent := by
  refine ⟨h.indexed, fun {q t} ht => ?_, fun {q r t} ht hr => ?_, fun {q r t} ht hr => ?_⟩
  all_goals
    rw [type?_insertType] at ht
    split at ht
  · next hq =>
    cases ht
    exact hq.symm
  · exact h.own ht
  · cases ht
    exact absurd hr Std.ExtTreeSet.not_mem_empty
  · exact h.parent ht hr
  · cases ht
    exact absurd hr Std.ExtTreeSet.not_mem_empty
  · exact h.listed ht hr

theorem require (h : m.Coherent) (path : String) (min : Nat) : (m.require path min).Coherent :=
  h.of_property? (h.indexed.require path min)
    (fun q hq => by rwa [isSome_property?_require]) fun _ => rfl

/-- Pruning leaves lists of properties that are left. -/
theorem prune (h : m.Coherent) (root : String) : (m.prune root).Coherent := by
  -- a type that is left was there, and lists at most what it listed, but not the root
  have hleft : ∀ {path t}, (m.prune root).type? path = some t → Path.isWithin path root = false ∧
      ∃ t', m.type? path = some t' ∧ t.ownProperty = t'.ownProperty ∧
        ∀ q ∈ t.properties, q ∈ t'.properties ∧ q ≠ root := by
    intro path t ht
    rw [type?_prune] at ht
    split at ht
    · cases ht
    · next hw =>
      refine ⟨by simpa using hw, ?_⟩
      split at ht
      · obtain ⟨t', ht', rfl⟩ := Option.map_eq_some_iff.mp ht
        refine ⟨t', ht', rfl, fun q hq => ?_⟩
        obtain ⟨hne, hq⟩ := Std.ExtTreeSet.mem_erase.mp hq
        exact ⟨hq, fun e => hne (Std.LawfulEqCmp.compare_eq_iff_eq.mpr e.symm)⟩
      · next hparent =>
        refine ⟨t, ht, rfl, fun q hq => ⟨hq, ?_⟩⟩
        rintro rfl
        exact hparent (h.parent ht hq)
  refine ⟨h.indexed.prune root, fun ht => ?_, fun ht hq => ?_, fun ht hq => ?_⟩
  · obtain ⟨-, t', ht', hown, -⟩ := hleft ht
    rw [hown, h.own ht']
  · obtain ⟨-, t', ht', -, hlist⟩ := hleft ht
    exact h.parent ht' (hlist _ hq).1
  · obtain ⟨hout, t', ht', -, hlist⟩ := hleft ht
    obtain ⟨hq, hne⟩ := hlist _ hq
    rw [property?_prune, if_neg]
    · exact h.listed ht' hq
    · intro hw
      rcases Path.eq_or_isWithin_of_parent? hw (h.parent ht' hq) with rfl | hw
      · exact hne rfl
      · rw [hout] at hw
        cases hw

/-- **Edits.**  Every edit leaves a coherent model coherent. -/
theorem edit (h : m.Coherent) : ∀ e, (m.edit e).Coherent
  | .insertProperty p => h.insertProperty p
  | .insertType path name description => h.insertType path name description
  | .require path min => h.require path min
  | .prune root => h.prune root

end Coherent

/-- Any sequence of edits leaves a coherent model coherent. -/
theorem Coherent.foldl_edit (h : m.Coherent) (edits : List Edit) :
    (edits.foldl Model.edit m).Coherent := by
  induction edits generalizing m with
  | nil => exact h
  | cons e edits ih => exact ih (h.edit e)

end Model

/-! ### Extracted and resolved models -/

/-- An extraction edits its model. -/
theorem Extraction.operations_ofEdits (limit : Nat) :
    Operations limit fun m => ∃ edits, Model.ofEdits edits = m where
  insertProperty {m} p _ _ _ := by
    rintro ⟨edits, rfl⟩
    exact ⟨_, Model.ofEdits_append edits (.insertProperty p)⟩
  insertType {m path} name description _ := by
    rintro ⟨edits, rfl⟩
    exact ⟨_, Model.ofEdits_append edits (.insertType path name description)⟩
  require {m} path := by
    rintro ⟨edits, rfl⟩
    exact ⟨_, Model.ofEdits_append edits (.require path 1)⟩
  prune {m} path := by
    rintro ⟨edits, rfl⟩
    exact ⟨_, Model.ofEdits_append edits (.prune path)⟩

/-- Every extracted model comes of edits. -/
theorem exists_ofEdits_of_extract {document : Node} {x : Extraction}
    (hx : extract document = .ok x) : ∃ edits, Model.ofEdits edits = x.model :=
  (Extraction.operations_ofEdits _).extract ⟨[], rfl⟩ hx

namespace Resolution

variable {x y : Resolution}

theorem coherent_foldl_drop (h : x.model.Coherent) (order : List SchemaError) :
    (order.foldl drop x).model.Coherent := by
  induction order generalizing x with
  | nil => exact h
  | cons e order ih => exact ih (h.prune _)

/-- Rounds of dropping broken references prune, and that is all they do to a model. -/
theorem Settles.coherent {takes : List SchemaError → List SchemaError → Prop}
    (hy : Settles takes x y) (h : x.model.Coherent) : y.model.Coherent := by
  induction hy with
  | stable => exact h
  | round order _ _ _ ih => exact ih (coherent_foldl_drop h order)

end Resolution

/-- A meaning is at the path of the property. -/
theorem Model.path_meaning (m : Model) (p : Property) : (m.meaning p).path = p.path := by
  rw [meaning]
  split <;> rfl

/-- Resolution leaves a coherent model coherent. -/
theorem Model.Coherent.resolve {m : Model} (h : m.Coherent) (errors : Errors) :
    (Schema.resolve m errors).model.Coherent := by
  have hsettled : (m.settled errors).Coherent :=
    (Resolution.settles_settle (x := { model := m, errors := errors }) h.indexed).coherent h
  refine hsettled.of_property? (fun q p hp => ?_) (fun q hq => ?_) (type?_resolve m errors)
  · rw [property?_resolve h.indexed] at hp
    obtain ⟨p', hp', rfl⟩ := Option.map_eq_some_iff.mp hp
    rw [path_meaning, hsettled.indexed q p' hp']
  · rw [property?_resolve h.indexed, Option.isSome_map]
    exact hq

/-- Each type has the listed properties for its members, one for each path and in order. -/
def Model.ListsMembers (m : Model) : Prop :=
  ∀ path t, m.type? path = some t → (m.members t).map Property.path = t.properties.toList ∧
    ((m.members t).map Property.path).Pairwise (· < ·)

theorem Model.Coherent.listsMembers {m : Model} (h : m.Coherent) : m.ListsMembers := by
  intro path t ht
  have hordered : t.properties.toList.Pairwise fun a b => compare a b = .lt :=
    Std.ExtTreeSet.ordered_toList
  rw [h.map_path_members ht]
  exact ⟨rfl, hordered.imp fun hlt => compareOfLessAndEq_eq_lt.mp hlt⟩

/-- **Coherence.**  Whatever comes of edits is coherent, and its types have the properties that they
list for members, one for each path and in order.  An extracted model comes of edits, and the same
holds when it has been resolved. -/
theorem coherent_of_edits :
    (∀ edits, (Model.ofEdits edits).Coherent ∧ (Model.ofEdits edits).ListsMembers) ∧
      ∀ {document : Node} {x : Extraction}, extract document = .ok x →
        (∃ edits, Model.ofEdits edits = x.model) ∧
          ∀ errors, (resolve x.model errors).model.Coherent ∧
            (resolve x.model errors).model.ListsMembers := by
  have hedits : ∀ edits, (Model.ofEdits edits).Coherent :=
    Model.coherent_empty.foldl_edit
  refine ⟨fun edits => ⟨hedits edits, (hedits edits).listsMembers⟩, fun hx => ?_⟩
  obtain ⟨edits, hmodel⟩ := exists_ofEdits_of_extract hx
  refine ⟨⟨edits, hmodel⟩, fun errors => ?_⟩
  have hresolved := (hmodel ▸ hedits edits).resolve errors
  exact ⟨hresolved, hresolved.listsMembers⟩

/-- A property is put in before the object that it belongs to, taken out and put in again. -/
def replacedMember : List Model.Edit :=
  [.insertProperty (Property.atPath "#/components/schemas/a/b"),
    .insertProperty (Property.atPath "#/components/schemas/a"),
    .insertType "#/components/schemas/a" "A" "",
    .insertProperty (Property.atPath "#/components/schemas/a/c"),
    .prune "#/components/schemas/a/b",
    .insertProperty (Property.atPath "#/components/schemas/a/b"),
    .require "#/components/schemas/a/b" 1]

/-- An object with an array of objects, and a reference to it. -/
def referredObject : List (Node × Node) :=
  [(.string "a", .mapping [(.string "type", .string "object"),
      (.string "properties", .mapping [(.string "list", .mapping [(.string "type", .string "array"),
        (.string "items", .mapping [(.string "type", .string "object")])])])]),
    (.string "b", .mapping [(.string "$ref", .string "#/components/schemas/a")])]

/-- The object has both properties for members in the first case.  In the second one the type at the
path of the object has its array. -/
theorem replacedMember_coherent :
    (Model.ofEdits replacedMember).Coherent ∧
      (((Model.ofEdits replacedMember).type? "#/components/schemas/a").map fun t =>
        ((Model.ofEdits replacedMember).members t).map Property.path) =
          some ["#/components/schemas/a/b", "#/components/schemas/a/c"] ∧
      ∃ x, extract (documentOf referredObject) = .ok x ∧
        (∃ edits, Model.ofEdits edits = x.model) ∧
        (resolve x.model x.errors).model.Coherent ∧
        (resolve x.model x.errors).model.types.keys =
          ["#/components/schemas/a", "#/components/schemas/a/list"] := by
  obtain ⟨hedits, hextracted⟩ := coherent_of_edits
  have hrun : (extract (documentOf referredObject)).toOption.any (fun x =>
      (resolve x.model x.errors).model.types.keys =
        ["#/components/schemas/a", "#/components/schemas/a/list"]) = true := by
    decide +kernel
  obtain ⟨x, hx, hkeys⟩ := exists_of_toOption_any hrun
  obtain ⟨hmodel, hresolved⟩ := hextracted hx
  exact ⟨(hedits replacedMember).1, by decide +kernel, x, hx, hmodel, (hresolved x.errors).1,
    of_decide_eq_true hkeys⟩

end SchemaBeans.Schema
