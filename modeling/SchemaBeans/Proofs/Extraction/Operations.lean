import SchemaBeans.Proofs.Extraction.Dimensions
import SchemaBeans.Proofs.Model

/-!
# Extraction — what the operations on a model keep

An extraction changes its model by four operations only: it inserts the property of a schema,
inserts a schema type at the path of a property that is there, makes a property required, and
prunes.  Whatever the four keep, an extraction keeps (`Operations.addShape`).

So in every extracted model each property is stored under its own path, all paths lie below the
component schemas, and there is a property at the path of each type (`extract_wellPlaced`).  Its
bounds are small (`extract_boundsWithin`): they remain words when references are resolved.
-/

namespace SchemaBeans.Schema

open Yaml (Node)

namespace Extraction

variable {limit : Nat} {I : Model → Prop} {x : Extraction} {path : String}

/-! ### The property of a schema -/

/-- A schema of such an element is a type of its own: an object, or a choice of values. -/
def IsTyped (e : Element) : Prop :=
  e.declaration.typeName = objectType ∨ 1 < (Std.ExtTreeSet.ofList e.values).size

instance (e : Element) : Decidable (IsTyped e) := inferInstanceAs (Decidable (_ ∨ _))

/-- The property of a schema, written out: it resolves to itself exactly if the schema is a type of
its own. -/
theorem propertyOf_eq (path : String) (description : Option String) (dimensions : Nat)
    (e : Element) :
    propertyOf path description dimensions e =
      { name := Path.last path
        path := path
        description := (description.or e.description).getD ""
        typeName := e.declaration.typeName
        possibleValues := Std.ExtTreeSet.ofList e.values
        resolvedType := if IsTyped e then some path else none
        cardinality := { dimensions := dimensions } } := by
  unfold propertyOf
  by_cases h : IsTyped e
  · rw [if_pos h]
    refine (if_pos ?_).trans rfl
    simpa [IsTyped, Property.isEnum] using h
  · rw [if_neg h]
    refine (if_neg ?_).trans rfl
    simpa [IsTyped, Property.isEnum] using h

@[simp] theorem path_propertyOf (path : String) (description : Option String) (dimensions : Nat)
    (e : Element) : (propertyOf path description dimensions e).path = path := by
  rw [propertyOf_eq]

@[simp] theorem typeName_propertyOf (path : String) (description : Option String)
    (dimensions : Nat) (e : Element) :
    (propertyOf path description dimensions e).typeName = e.declaration.typeName := by
  rw [propertyOf_eq]

@[simp] theorem cardinality_propertyOf (path : String) (description : Option String)
    (dimensions : Nat) (e : Element) :
    (propertyOf path description dimensions e).cardinality = { dimensions := dimensions } := by
  rw [propertyOf_eq]

theorem isEnum_propertyOf (path : String) (description : Option String) (dimensions : Nat)
    (e : Element) :
    (propertyOf path description dimensions e).isEnum =
      decide (1 < (Std.ExtTreeSet.ofList e.values).size) := by
  rw [propertyOf_eq, Property.isEnum]

/-! ### The four operations -/

/-- Requiring properties by their names keeps what requiring one keeps. -/
theorem requireAll_keeps (h : ∀ {m : Model} (path : String), I m → I (m.require path 1))
    (names : List String) (hx : I x.model) : I (names.foldl (Extraction.require path) x).model := by
  induction names generalizing x with
  | nil => exact hx
  | cons name names ih =>
    refine ih ?_
    rw [Extraction.require]
    split
    · exact h _ hx
    · exact hx

/-- Taking out what is faulty keeps what pruning keeps. -/
theorem pruneFaulty_keeps (h : ∀ {m : Model} (path : String), I m → I (m.prune path))
    (hx : I x.model) : I (x.pruneFaulty path).model := by
  rw [Extraction.pruneFaulty]
  split
  · exact h _ hx
  · exact hx

/-- The operations of an extraction keep `I`, as long as no array has more dimensions than
`limit`. -/
structure Operations (limit : Nat) (I : Model → Prop) : Prop where
  insertProperty {m : Model} (p : Property) : Path.IsBelowBase p.path → p.cardinality.min = 0 →
    p.cardinality.dimensions ≤ limit → I m → I (m.insertProperty p)
  insertType {m : Model} {path : String} (name description : String) :
    (m.property? path).isSome → I m →
      I (m.insertType path { name := name, description := description, ownProperty := path })
  require {m : Model} (path : String) : I m → I (m.require path 1)
  prune {m : Model} (path : String) : I m → I (m.prune path)

namespace Operations

/-- The property of a schema is inserted. -/
theorem insertPropertyOf (h : Operations limit I) (hpath : Path.IsBelowBase path)
    (description : Option String) {dimensions : Nat} (hd : dimensions ≤ limit) (e : Element)
    (hx : I x.model) :
    I (x.model.insertProperty (propertyOf path description dimensions e)) :=
  h.insertProperty _ (by rwa [path_propertyOf]) (by rw [cardinality_propertyOf])
    (by rwa [cardinality_propertyOf]) hx

/-- The type of a schema is inserted, where its property is already. -/
theorem addType (h : Operations limit I) (hp : (x.model.property? path).isSome) (hx : I x.model)
    (description : String) : I (x.addType path description).model :=
  h.insertType _ _ hp hx

mutual

/-- **Preservation.**  Adding a shape keeps what the operations keep. -/
theorem addShape (h : Operations limit I) : ∀ {path : String} (s : Shape) {x : Extraction},
    Path.IsBelowBase path → s.Within limit → I x.model →
      I (Extraction.addShape path s x).model
  | _, .faulty _, _, _, _, hx => hx
  | path, .valid description dimensions element members, x, hpath, hs, hx => by
    have hins := h.insertPropertyOf hpath description hs.1 element hx
    have hsome : ((x.model.insertProperty
        (propertyOf path description dimensions element)).property? path).isSome := by
      simp [Model.property?_insertProperty]
    have htype := fun text => h.addType
      (x := { x.warn (elementWarnings path element) with
        model := x.model.insertProperty (propertyOf path description dimensions element) })
      hsome hins text
    simp only [Extraction.addShape]
    split
    · exact pruneFaulty_keeps h.prune (requireAll_keeps h.require _
        (h.addShapes members hpath.child hs.2 (htype _)))
    · split
      · exact pruneFaulty_keeps h.prune (htype _)
      · exact hins

theorem addShapes (h : Operations limit I) : ∀ {parent : String} (members : List (String × Shape))
    {x : Extraction}, (∀ name, Path.IsBelowBase (Path.child parent name)) →
      Shape.AllWithin limit members → I x.model →
        I (Extraction.addShapes parent members x).model
  | _, [], _, _, _, hx => hx
  | _, (name, s) :: rest, _, hparent, hs, hx => by
    simp only [Extraction.addShapes]
    exact h.addShapes rest hparent hs.2 (h.addShape s (hparent name) hs.1 hx)

end

end Operations

/-- What the operations keep, and an empty model has, every extracted model has. -/
theorem Operations.extract {document : Node} (h : Operations document.depth I) (h₀ : I {})
    (hx : extract document = .ok x) : I x.model := by
  rw [Schema.extract] at hx
  cases hc : components document with
  | error e => simp [hc, Except.map] at hx
  | ok entries =>
    simp only [hc, Except.map, Except.ok.injEq] at hx
    rw [← hx]
    simp only [Extraction.ofEntries]
    exact h.addShapes _ Path.isBelowBase_child
      (Shape.allWithin_ofEntries entries (depth_le_of_components hc)) h₀

end Extraction

/-! ### Placement -/

/-- Each property is stored under its own path, below the place of the component schemas, and there
is one at the path of each type. -/
structure Model.WellPlaced (m : Model) : Prop where
  indexed : m.Indexed
  isBelowBase {path : String} : (m.property? path).isSome → Path.IsBelowBase path
  property {path : String} : (m.type? path).isSome → (m.property? path).isSome

namespace Model

variable {m : Model} {path : String}

theorem wellPlaced_empty : WellPlaced {} where
  indexed := indexed_empty
  isBelowBase h := by simp at h
  property h := by simp at h

/-- A property below the component schemas is in place. -/
theorem WellPlaced.insertProperty (h : m.WellPlaced) {p : Property} (hp : Path.IsBelowBase p.path) :
    (m.insertProperty p).WellPlaced where
  indexed := h.indexed.insertProperty p
  isBelowBase {path} hq := by
    rw [property?_insertProperty] at hq
    split at hq
    · next e => exact e ▸ hp
    · exact h.isBelowBase hq
  property {path} ht := by
    have ht' : (m.type? path).isSome := by
      rw [type?_insertProperty] at ht
      split at ht
      · simpa using ht
      · exact ht
    rw [property?_insertProperty]
    split
    · rfl
    · exact h.property ht'

/-- A type is in place where there is a property. -/
theorem WellPlaced.insertType (h : m.WellPlaced) (hp : (m.property? path).isSome) (t : SchemaType) :
    (m.insertType path t).WellPlaced where
  indexed := h.indexed
  isBelowBase hq := h.isBelowBase hq
  property {path'} ht := by
    rw [type?_insertType] at ht
    split at ht
    · next e =>
      rw [e]
      exact hp
    · exact h.property ht

theorem isSome_property?_require {q : String} (min : Nat) :
    ((m.require path min).property? q).isSome = (m.property? q).isSome := by
  rw [property?_require]
  split <;> simp

theorem WellPlaced.require (h : m.WellPlaced) (path : String) (min : Nat) :
    (m.require path min).WellPlaced where
  indexed := h.indexed.require path min
  isBelowBase hq := h.isBelowBase (by rwa [isSome_property?_require] at hq)
  property ht := by
    rw [isSome_property?_require]
    exact h.property ht

/-- Within a root, types are taken out together with their properties. -/
theorem WellPlaced.prune (h : m.WellPlaced) (root : String) : (m.prune root).WellPlaced where
  indexed := h.indexed.prune root
  isBelowBase {path} hq := by
    rw [property?_prune] at hq
    split at hq
    · cases hq
    · exact h.isBelowBase hq
  property {path} ht := by
    rw [type?_prune] at ht
    rw [property?_prune]
    split at ht
    · cases ht
    · next hw =>
      rw [if_neg hw]
      refine h.property ?_
      split at ht
      · simpa using ht
      · exact ht

/-- There is no type at the place of the component schemas itself. -/
theorem WellPlaced.type?_base (h : m.WellPlaced) : m.type? Path.base = none := by
  rw [← Option.not_isSome_iff_eq_none]
  intro ht
  exact (h.isBelowBase (h.property ht)).ne_base rfl

end Model

/-- All four operations keep a model well placed. -/
theorem Extraction.operations_wellPlaced (limit : Nat) :
    Extraction.Operations limit Model.WellPlaced where
  insertProperty _ hp _ _ h := h.insertProperty hp
  insertType _ _ hp h := h.insertType hp _
  require path h := h.require path 1
  prune path h := h.prune path

/-- **Placement.**  Every extracted model is well placed. -/
theorem extract_wellPlaced {document : Node} {x : Extraction} (hx : extract document = .ok x) :
    x.model.WellPlaced :=
  (Extraction.operations_wellPlaced _).extract Model.wellPlaced_empty hx

/-! ### Bounds -/

/-- The bounds that an extraction gives: a property is required once at most, and an array has no
more dimensions than `limit`. -/
def Model.BoundsWithin (limit : Nat) (m : Model) : Prop :=
  ∀ path p, m.property? path = some p → p.cardinality.min ≤ 1 ∧ p.cardinality.dimensions ≤ limit

/-- All four operations keep the bounds within the limit. -/
theorem Extraction.operations_boundsWithin (limit : Nat) :
    Extraction.Operations limit (Model.BoundsWithin limit) where
  insertProperty p _ hmin hd h path q hq := by
    rw [Model.property?_insertProperty] at hq
    split at hq
    · cases hq
      exact ⟨by omega, hd⟩
    · exact h path q hq
  insertType _ _ _ h := h
  require path h path' q hq := by
    rw [Model.property?_require] at hq
    split at hq
    · obtain ⟨p, hp, rfl⟩ := Option.map_eq_some_iff.mp hq
      exact ⟨Nat.le_refl 1, (h path' p hp).2⟩
    · exact h path' q hq
  prune path h path' q hq := h path' q (Model.property?_prune_eq_some.mp hq).2

theorem Model.boundsWithin_empty (limit : Nat) : BoundsWithin limit {} := by
  intro path p hp
  simp at hp

/-- **Bounds.**  Every extracted model has the bounds that the depth of its document allows. -/
theorem extract_boundsWithin {document : Node} {x : Extraction} (hx : extract document = .ok x) :
    x.model.BoundsWithin document.depth :=
  (Extraction.operations_boundsWithin _).extract (Model.boundsWithin_empty _) hx

end SchemaBeans.Schema
