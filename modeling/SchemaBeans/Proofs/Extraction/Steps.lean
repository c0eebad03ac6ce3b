import SchemaBeans.Proofs.Errors
import SchemaBeans.Proofs.Extraction.Places

/-!
# Extraction — the steps at one path

What is put in for a shape, and what each step of an extraction does to the look-ups.

The property of a place is that of its node, but required if the object around it says so
(`Shape.propertyAt`); the type of a place lists the paths of its visited members (`Shape.typeAt`).

An extraction *enters* a path when it puts in the property and the type of the shape there
(`enter`).  Then it goes through the visited members, makes the required ones so, and takes all of
it out again if there was an error.  A path where nothing was stored or recorded before is gone
through by these steps, whatever the shape (`addShape_valid`).
-/

namespace SchemaBeans.Schema

open Std (ExtTreeSet)

/-! ### Types -/

/-- The type with more paths in its list of properties. -/
def SchemaType.listing (paths : List String) (t : SchemaType) : SchemaType :=
  { t with properties := t.properties.insertMany paths }

namespace SchemaType

variable {t : SchemaType} {paths paths' : List String} {q : String}

theorem mem_properties_listing :
    q ∈ (t.listing paths).properties ↔ q ∈ t.properties ∨ q ∈ paths := by
  simp [listing, ExtTreeSet.mem_insertMany_list]

theorem listing_append (t : SchemaType) (paths paths' : List String) :
    t.listing (paths ++ paths') = (t.listing paths).listing paths' := by
  simp only [listing, mk.injEq, true_and]
  refine ExtTreeSet.ext_mem fun q => ?_
  simp [ExtTreeSet.mem_insertMany_list, or_assoc]

/-- Only which paths are listed matters. -/
theorem listing_congr (t : SchemaType) (h : ∀ q, q ∈ paths ↔ q ∈ paths') :
    t.listing paths = t.listing paths' := by
  simp only [listing, mk.injEq, true_and]
  refine ExtTreeSet.ext_mem fun q => ?_
  simp [ExtTreeSet.mem_insertMany_list, h]

@[simp] theorem listing_nil : listing [] = id := rfl

theorem listing_singleton (t : SchemaType) (path : String) :
    t.listing [path] = { t with properties := t.properties.insert path } := by
  simp only [listing, mk.injEq, true_and]
  refine ExtTreeSet.ext_mem fun q => ?_
  simp [eq_comm]

end SchemaType

/-! ### What is put in at a place -/

namespace Shape

/-- The names of the properties that an object requires. -/
def requiredNames : Shape → List String
  | .faulty _ => []
  | .valid _ _ element _ =>
    if element.declaration.typeName = objectType then element.required else []

/-- The paths that the objects among some places require. -/
def requiredPaths (places : List (String × Shape)) : List String :=
  places.flatMap fun place => place.2.requiredNames.map (Path.child place.1)

/-- The paths of the members that are visited. -/
def memberPaths (path : String) (members : List (String × Shape)) : List String :=
  members.map fun m => Path.child path m.1

/-- The property of a place, where the paths in `required` are. -/
def propertyAt (required : List String) (path : String) : Shape → Option Property
  | .faulty _ => none
  | .valid description dimensions element _ =>
    some { Extraction.propertyOf path description dimensions element with
      cardinality := { min := if path ∈ required then 1 else 0, dimensions := dimensions } }

/-- The type of a place without its properties. -/
def bareTypeAt (path : String) : Shape → Option SchemaType
  | .faulty _ => none
  | .valid description dimensions element _ =>
    if Extraction.IsTyped element then
      some {
        name := Extraction.typeNameAt path
        description := (Extraction.propertyOf path description dimensions element).description
        ownProperty := path }
    else none

/-- The type of a place. -/
def typeAt (path : String) (s : Shape) : Option SchemaType :=
  (s.bareTypeAt path).map (SchemaType.listing (memberPaths path s.visited))

/-- A required path is made of the path of an object and a name that it requires. -/
theorem mem_requiredPaths_iff {places : List (String × Shape)} {q : String} :
    q ∈ requiredPaths places ↔
      ∃ path s name, (path, s) ∈ places ∧ name ∈ s.requiredNames ∧ q = Path.child path name := by
  simp only [requiredPaths, List.mem_flatMap, List.mem_map, Prod.exists]
  refine ⟨?_, ?_⟩
  · rintro ⟨path, s, hs, name, hn, rfl⟩
    exact ⟨path, s, name, hs, hn, rfl⟩
  · rintro ⟨path, s, name, hs, hn, rfl⟩
    exact ⟨path, s, hs, name, hn, rfl⟩

/-- The paths that a shape and the shapes below it require. -/
theorem requiredPaths_places (path : String) (s : Shape) :
    requiredPaths (places path s) =
      s.requiredNames.map (Path.child path) ++ requiredPaths (placesBelow path s.visited) := by
  rw [places_eq, requiredPaths, List.flatMap_cons]
  rfl

/-- No shape requires itself. -/
theorem not_mem_requiredPaths_places (path : String) (s : Shape) :
    path ∉ requiredPaths (places path s) := by
  rw [mem_requiredPaths_iff]
  rintro ⟨q, t, name, ht, -, e⟩
  have hw := isWithin_of_mem_places ht
  exact Path.ne_of_isWithin_child (e ▸ hw) rfl

/-- The property of a place depends on what is required only by whether the place is. -/
theorem propertyAt_congr {required required' : List String} {path : String} {s : Shape}
    (h : path ∈ required ↔ path ∈ required') :
    s.propertyAt required path = s.propertyAt required' path := by
  cases s with
  | faulty fault => rfl
  | valid description dimensions element members => simp only [propertyAt, h]

/-- A property that is required besides. -/
theorem map_propertyAt (required required' : List String) (path : String) (s : Shape) :
    ((s.propertyAt required path).map fun p =>
        if path ∈ required' then { p with cardinality := { p.cardinality with min := 1 } }
        else p) = s.propertyAt (required' ++ required) path := by
  cases s with
  | faulty fault => rfl
  | valid description dimensions element members =>
    by_cases h : path ∈ required' <;> simp [propertyAt, h]

/-- A schema that is no type of its own is no object, so nothing is visited below it. -/
theorem visited_eq_nil {description : Option String} {dimensions : Nat} {element : Element}
    {members : List (String × Shape)} (h : ¬Extraction.IsTyped element) :
    (Shape.valid description dimensions element members).visited = [] :=
  if_neg fun ho => h (Or.inl ho)

theorem requiredNames_eq_nil {description : Option String} {dimensions : Nat} {element : Element}
    {members : List (String × Shape)} (h : ¬Extraction.IsTyped element) :
    (Shape.valid description dimensions element members).requiredNames = [] :=
  if_neg fun ho => h (Or.inl ho)

/-- A place that nothing requires has the property of its node. -/
theorem propertyAt_of_not_mem {required : List String} {path : String}
    {description : Option String} {dimensions : Nat} {element : Element}
    {members : List (String × Shape)} (h : path ∉ required) :
    (Shape.valid description dimensions element members).propertyAt required path =
      some (Extraction.propertyOf path description dimensions element) := by
  rw [propertyAt, if_neg h, Extraction.propertyOf_eq]

end Shape

namespace Extraction

variable {x : Extraction} {path parent name q : String} {description : Option String}
  {dimensions : Nat} {element : Element} {members : List (String × Shape)}

/-! ### Entering -/

/-- Puts in the property of an element at a path, and its type if it has one. -/
def enter (path : String) (description : Option String) (dimensions : Nat) (element : Element)
    (x : Extraction) : Extraction :=
  let p := propertyOf path description dimensions element
  let x := { x.warn (elementWarnings path element) with model := x.model.insertProperty p }
  if IsTyped element then x.addType path p.description else x

theorem errors_enter : (x.enter path description dimensions element).errors = x.errors := by
  simp only [enter]
  split <;> rfl

/-- The property of the schema is found at its path; elsewhere nothing changes. -/
theorem property?_enter :
    (x.enter path description dimensions element).model.property? q =
      if q = path then some (propertyOf path description dimensions element)
      else x.model.property? q := by
  have h : (x.enter path description dimensions element).model.property? q =
      (x.model.insertProperty (propertyOf path description dimensions element)).property? q := by
    simp only [enter]
    split <;> rfl
  rw [h, Model.property?_insertProperty, path_propertyOf]

/-- The type of the schema is found at its path, if it has one, and its path is listed by the type
around it. -/
theorem type?_enter (members : List (String × Shape)) (hn : Path.IsSegment name) :
    (x.enter (Path.child parent name) description dimensions element).model.type? q =
      if q = Path.child parent name ∧ IsTyped element then
        (Shape.valid description dimensions element members).bareTypeAt (Path.child parent name)
      else if q = parent then (x.model.type? q).map (SchemaType.listing [Path.child parent name])
      else x.model.type? q := by
  have hp : (x.model.insertProperty
      (propertyOf (Path.child parent name) description dimensions element)).type? q =
      if q = parent then (x.model.type? q).map (SchemaType.listing [Path.child parent name])
      else x.model.type? q := by
    rw [Model.type?_insertProperty, path_propertyOf, Path.parent?_child parent hn]
    by_cases hq : q = parent
    · subst hq
      rw [if_pos rfl, if_pos rfl]
      exact congrArg (fun f => Option.map f _)
        (funext fun t => (SchemaType.listing_singleton t _).symm)
    · rw [if_neg hq, if_neg fun h => hq (Option.some.inj h).symm]
  simp only [enter]
  split
  · next ht =>
    rw [addType, Model.type?_insertType, Shape.bareTypeAt, if_pos ht, hp]
    simp [ht]
  · next ht =>
    rw [hp]
    simp [ht]

/-! ### Required members -/

theorem errors_requireAll (names : List String) :
    (names.foldl (require path) x).errors = x.errors := by
  induction names generalizing x with
  | nil => rfl
  | cons name names ih =>
    rw [List.foldl_cons, ih, require]
    split <;> rfl

theorem type?_requireAll (names : List String) :
    (names.foldl (require path) x).model.type? q = x.model.type? q := by
  induction names generalizing x with
  | nil => rfl
  | cons name names ih =>
    rw [List.foldl_cons, ih, require]
    split <;> rfl

/-- A required property is one whose lower bound is set, at the path that the name leads to; an
unknown name changes nothing. -/
theorem property?_require :
    (x.require path name).model.property? q =
      (x.model.property? q).map fun p =>
        if q = Path.child path name then
          { p with cardinality := { p.cardinality with min := 1 } }
        else p := by
  rw [require]
  split
  · rw [Model.property?_require]
    split
    · rfl
    · exact Option.map_id'.symm
  · next h =>
    by_cases hq : q = Path.child path name
    · subst hq
      rw [Option.not_isSome_iff_eq_none] at h
      simp [warn, h]
    · simp [warn, hq]

/-- Requiring names requires the properties at their paths, of those that are there. -/
theorem property?_requireAll (names : List String) :
    (names.foldl (require path) x).model.property? q =
      (x.model.property? q).map fun p =>
        if q ∈ names.map (Path.child path) then
          { p with cardinality := { p.cardinality with min := 1 } }
        else p := by
  induction names generalizing x with
  | nil => simp
  | cons name names ih =>
    rw [List.foldl_cons, ih, property?_require, Option.map_map]
    refine congrArg (fun f => Option.map f _) (funext fun p => ?_)
    by_cases hq : q = Path.child path name <;>
      by_cases hn : q ∈ names.map (Path.child path) <;> simp_all

/-- What is no direct child is required by no name. -/
theorem property?_requireAll_of_ne (names : List String) (h : ∀ name, q ≠ Path.child path name) :
    (names.foldl (require path) x).model.property? q = x.model.property? q := by
  rw [property?_requireAll]
  have hq : q ∉ names.map (Path.child path) := by
    rw [List.mem_map]
    rintro ⟨name, -, rfl⟩
    exact h name rfl
  simp only [if_neg hq, Option.map_id']

/-! ### Pruning -/

/-- An error lies within the path if one is recorded at such a path. -/
theorem any_isWithin_iff {errors : Errors} :
    errors.paths.any (Path.isWithin · path) = true ↔
      ∃ q c, errors.cause? q = some c ∧ Path.isWithin q path = true := by
  simp only [List.any_eq_true, Errors.mem_paths_iff, exists_and_right]

/-- Nothing is taken out where there is no error. -/
theorem pruneFaulty_of_sound
    (h : ∀ q c, x.errors.cause? q = some c → Path.isWithin q path = false) :
    x.pruneFaulty path = x := by
  rw [pruneFaulty, if_neg]
  rw [any_isWithin_iff]
  rintro ⟨q, c, hc, hw⟩
  rw [h q c hc] at hw
  cases hw

theorem errors_pruneFaulty : (x.pruneFaulty path).errors = x.errors := by
  rw [pruneFaulty]
  split <;> rfl

/-- Where an error lies within the path, what is there is taken out. -/
theorem model_pruneFaulty_of_error {c : Cause} (hc : x.errors.cause? q = some c)
    (hw : Path.isWithin q path = true) : (x.pruneFaulty path).model = x.model.prune path := by
  rw [pruneFaulty, if_pos (any_isWithin_iff.mpr ⟨q, c, hc, hw⟩)]

/-! ### All steps -/

/-- A valid shape is put in by entering its path.  If it has a type, its visited members are gone
through, those it names are required, and all is taken out again if there was an error. -/
theorem addShape_eq_enter :
    addShape path (.valid description dimensions element members) x =
      if IsTyped element then
        ((Shape.valid description dimensions element members).requiredNames.foldl (require path)
          (addShapes path (Shape.valid description dimensions element members).visited
            (x.enter path description dimensions element))).pruneFaulty path
      else x.enter path description dimensions element := by
  by_cases ho : element.declaration.typeName = objectType
  · have ht : IsTyped element := Or.inl ho
    simp only [addShape, Shape.requiredNames, Shape.visited, enter, typeName_propertyOf, if_pos ho,
      if_pos ht]
    rfl
  -- what is no object has no visited members and requires nothing
  · simp only [addShape, Shape.requiredNames, Shape.visited, typeName_propertyOf, if_neg ho,
      isEnum_propertyOf, List.foldl_nil, addShapes, decide_eq_true_eq]
    by_cases he : 1 < (ExtTreeSet.ofList element.values).size
    · have ht : IsTyped element := Or.inr he
      simp only [if_pos he, enter, if_pos ht]
      rfl
    · have ht : ¬IsTyped element := not_or.mpr ⟨ho, he⟩
      simp only [if_neg he, enter, if_neg ht]
      rfl

/-- Where no error is recorded, a valid shape is put in by entering its path, going through its
visited members, requiring those it names, and taking all out again if there was an error. -/
theorem addShape_valid
    (h : ∀ q c, x.errors.cause? q = some c → Path.isWithin q path = false) :
    addShape path (.valid description dimensions element members) x =
      ((Shape.valid description dimensions element members).requiredNames.foldl (require path)
        (addShapes path (Shape.valid description dimensions element members).visited
          (x.enter path description dimensions element))).pruneFaulty path := by
  rw [addShape_eq_enter]
  split
  · rfl
  · next ht =>
    -- here pruning is not even tried, but there is nothing to prune
    rw [Shape.visited_eq_nil ht, Shape.requiredNames_eq_nil ht, List.foldl_nil, addShapes,
      pruneFaulty_of_sound]
    rwa [errors_enter]

end Extraction

end SchemaBeans.Schema
