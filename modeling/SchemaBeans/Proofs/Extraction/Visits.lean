import SchemaBeans.Proofs.Extraction.Steps

/-!
# Extraction — what it visits, and what that keeps

Filling a model by its places needs safe names.  Some things hold of every document, with whatever
names: an extraction visits the same places whatever it has stored before.

So it records an error at each faulty place and nowhere else (`mem_paths_addShape`), and the errors
of a document are at the sites that are not schemas (`mem_paths_extract_iff`).  What entering the
places, requiring and pruning keep, the whole extraction keeps (`Visits.addShape`).  In particular
each property has the type that a site at its path declares, and one that is an instance of a type
is an instance of the type at its own path, which is there (`extract_declared`).
-/

namespace SchemaBeans.Schema

open Shape (places placesBelow)
open Yaml (Node)

namespace Extraction

variable {x : Extraction} {path parent q : String} {s : Shape} {members : List (String × Shape)}
  {ps : List (String × Shape)} {I : Model → Prop}

/-! ### Errors -/

/-- Errors are recorded at the faulty places below a path, if they are for each member. -/
theorem mem_paths_addShapes
    (hm : ∀ m ∈ members, ∀ {x : Extraction} {path : String},
      q ∈ (addShape path m.2 x).errors.paths ↔
        q ∈ x.errors.paths ∨ ∃ fault, (q, Shape.faulty fault) ∈ places path m.2) :
    q ∈ (addShapes parent members x).errors.paths ↔
      q ∈ x.errors.paths ∨ ∃ fault, (q, Shape.faulty fault) ∈ placesBelow parent members := by
  induction members generalizing x with
  | nil => simp [addShapes, placesBelow]
  | cons m members ih =>
    obtain ⟨name, s⟩ := m
    rw [addShapes, ih fun m hm' => hm m (List.mem_cons_of_mem _ hm'), hm _ List.mem_cons_self,
      placesBelow, or_assoc]
    simp only [List.mem_append, exists_or]

/-- **Errors.**  Adding a shape records an error at each of its faulty places, and no other. -/
theorem mem_paths_addShape : q ∈ (addShape path s x).errors.paths ↔
    q ∈ x.errors.paths ∨ ∃ fault, (q, Shape.faulty fault) ∈ places path s := by
  induction s using Shape.visitedInduction generalizing path x with
  | step s ih =>
    rw [Shape.places_eq]
    cases s with
    | faulty fault =>
      simp only [addShape, fail, Errors.mem_paths_iff, Errors.cause?_record, Shape.visited,
        placesBelow, List.mem_singleton, Prod.mk.injEq, Shape.faulty.injEq]
      by_cases hq : q = path <;> simp [hq]
    | valid description dimensions element members =>
      have hself : ∀ fault, (q, Shape.faulty fault) ≠
          (path, .valid description dimensions element members) := fun _ h => by cases h
      simp only [List.mem_cons, hself, false_or]
      rw [addShape_eq_enter]
      split
      · rw [errors_pruneFaulty, errors_requireAll, mem_paths_addShapes ih, errors_enter]
      · next ht =>
        rw [errors_enter, Shape.visited_eq_nil ht]
        simp [placesBelow]

/-! ### What a visit keeps -/

/-- Entering these places, requiring properties and pruning keep `I`. -/
structure Visits (ps : List (String × Shape)) (I : Model → Prop) : Prop where
  enter {x : Extraction} {path : String} {description : Option String} {dimensions : Nat}
    {element : Element} {members : List (String × Shape)} :
    (path, Shape.valid description dimensions element members) ∈ ps → I x.model →
      I (x.enter path description dimensions element).model
  require {m : Model} (path : String) : I m → I (m.require path 1)
  prune {m : Model} (path : String) : I m → I (m.prune path)

namespace Visits

theorem addShapes (hsub : ∀ place ∈ placesBelow parent members, place ∈ ps) (hx : I x.model)
    (hm : ∀ m ∈ members, ∀ {x : Extraction} {path : String},
      (∀ place ∈ places path m.2, place ∈ ps) → I x.model →
        I (Extraction.addShape path m.2 x).model) :
    I (Extraction.addShapes parent members x).model := by
  induction members generalizing x with
  | nil => exact hx
  | cons m members ih =>
    obtain ⟨name, s⟩ := m
    rw [placesBelow, List.forall_mem_append] at hsub
    rw [Extraction.addShapes]
    exact ih hsub.2 (hm _ List.mem_cons_self hsub.1 hx)
      fun m hm' => hm m (List.mem_cons_of_mem _ hm')

/-- **Preservation.**  Adding a shape keeps what visiting its places keeps. -/
theorem addShape (h : Visits ps I) (hsub : ∀ place ∈ places path s, place ∈ ps)
    (hx : I x.model) : I (Extraction.addShape path s x).model := by
  induction s using Shape.visitedInduction generalizing path x with
  | step s ih =>
    rw [Shape.places_eq, List.forall_mem_cons] at hsub
    cases s with
    | faulty fault => exact hx
    | valid description dimensions element members =>
      have hentered := h.enter hsub.1 hx
      rw [addShape_eq_enter]
      split
      · exact pruneFaulty_keeps h.prune (requireAll_keeps h.require _
          (addShapes hsub.2 hentered ih))
      · exact hentered

/-- What visiting the places of a document keeps, and an empty model has, its model has. -/
theorem extract {document : Node} {schemas : List (Node × Node)}
    (h : Visits (placesBelow Path.base (Shape.ofEntries schemas)) I) (h₀ : I {})
    (hc : components document = .ok schemas) (hx : extract document = .ok x) : I x.model := by
  simp only [Schema.extract, hc, Except.map, Except.ok.injEq] at hx
  rw [← hx]
  exact addShapes (fun _ hplace => hplace) h₀ fun m _ _ _ hsub => h.addShape hsub

end Visits

/-- **Errors of a document.**  They are at the sites that are not schemas. -/
theorem mem_paths_extract_iff {document : Node} {schemas : List (Node × Node)}
    (hc : components document = .ok schemas) (hx : extract document = .ok x) :
    q ∈ x.errors.paths ↔ ∃ c, IsSite schemas c ∧ c.path = q ∧ ¬IsSchema c.node := by
  simp only [extract, hc, Except.map, Except.ok.injEq] at hx
  rw [← hx]
  simp only [ofEntries, mem_paths_addShapes fun m _ {_ _} => mem_paths_addShape,
    Errors.mem_paths_iff, Errors.cause?_empty, reduceCtorEq, exists_false, false_or,
    Shape.mem_placesBelow_ofEntries_iff, ← Shape.exists_ofNode_eq_faulty_iff]
  refine ⟨?_, ?_⟩
  · rintro ⟨fault, c, hc, hpath, hf⟩
    exact ⟨c, hc, hpath, fault, hf⟩
  · rintro ⟨c, hc, hpath, fault, hf⟩
    exact ⟨fault, c, hc, hpath, hf⟩

end Extraction

/-! ### Declared types -/

namespace Model

/-- Each property has the type that a site at its path declares.  If it is an instance of a type at
all, it is so of the one at its own path. -/
structure Declared (schemas : List (Node × Node)) (m : Model) : Prop where
  type {path : String} {p : Property} : m.property? path = some p →
    ∃ c dimensions element declaration, IsSite schemas c ∧ c.path = path ∧
      HasElement c.node dimensions element ∧ Declares element declaration ∧
        p.typeName = declaration.typeName
  own {path q : String} {p : Property} : m.property? path = some p →
    p.resolvedType = some q → q = path ∧ (m.type? path).isSome

theorem declared_empty (schemas : List (Node × Node)) : Declared schemas {} where
  type hp := by simp at hp
  own hp := by simp at hp

namespace Declared

variable {schemas : List (Node × Node)} {m : Model}

/-- A property is required in its bounds only. -/
theorem require (h : Declared schemas m) (path : String) : Declared schemas (m.require path 1) := by
  have hsame : ∀ {q p}, (m.require path 1).property? q = some p →
      ∃ p', m.property? q = some p' ∧ p.typeName = p'.typeName ∧
        p.resolvedType = p'.resolvedType := by
    intro q p hp
    rw [property?_require] at hp
    split at hp
    · obtain ⟨p', hp', rfl⟩ := Option.map_eq_some_iff.mp hp
      exact ⟨p', hp', rfl, rfl⟩
    · exact ⟨p, hp, rfl, rfl⟩
  refine ⟨fun hp => ?_, fun hp hr => ?_⟩
  · obtain ⟨p', hp', htype, -⟩ := hsame hp
    rw [htype]
    exact h.type hp'
  · obtain ⟨p', hp', -, hres⟩ := hsame hp
    exact h.own hp' (hres ▸ hr)

/-- The type at a path goes only if the property does. -/
theorem prune (h : Declared schemas m) (root : String) : Declared schemas (m.prune root) := by
  refine ⟨fun hp => h.type (property?_prune_eq_some.mp hp).2, fun hp hr => ?_⟩
  obtain ⟨hw, hp⟩ := property?_prune_eq_some.mp hp
  obtain ⟨hq, ht⟩ := h.own hp hr
  refine ⟨hq, ?_⟩
  rw [type?_prune, hw, if_neg Bool.false_ne_true]
  split
  · simpa using ht
  · exact ht

end Declared

end Model

/-- Entering a path leaves all types, and puts in the one of a typed element. -/
theorem Extraction.isSome_type?_enter {x : Extraction} {path q : String}
    {description : Option String} {dimensions : Nat} {element : Element} :
    ((x.enter path description dimensions element).model.type? q).isSome ↔
      (q = path ∧ IsTyped element) ∨ (x.model.type? q).isSome := by
  have hp : ((x.model.insertProperty
      (propertyOf path description dimensions element)).type? q).isSome =
        (x.model.type? q).isSome := by
    rw [Model.type?_insertProperty]
    split <;> simp
  simp only [enter]
  split
  · next ht =>
    rw [addType, Model.type?_insertType, ← hp]
    by_cases hq : q = path <;> simp [hq, ht]
  · next ht => simpa [ht] using congrArg (· = true) hp

/-- A path is entered with what its site declares, and with the type that goes with it. -/
theorem Extraction.declared_enter {schemas : List (Node × Node)} {x : Extraction} {path : String}
    {description : Option String} {dimensions : Nat} {e : Element}
    {members : List (String × Shape)} (h : x.model.Declared schemas)
    (hplace : (path, .valid description dimensions e members) ∈
      placesBelow Path.base (Shape.ofEntries schemas)) :
    (x.enter path description dimensions e).model.Declared schemas := by
  obtain ⟨c, hc, hpath, hs⟩ := Shape.mem_placesBelow_ofEntries_iff.mp hplace
  obtain ⟨element, declaration, he, hd, hdecl, -⟩ := Shape.hasElement_of_ofNode hs
  refine ⟨fun {q p} hp => ?_, fun {q r p} hp hr => ?_⟩
  · rw [property?_enter] at hp
    split at hp
    · next hq =>
      cases hp
      refine ⟨c, dimensions, element, declaration, hc, hpath.trans hq.symm, he, hd, ?_⟩
      rw [typeName_propertyOf, hdecl]
      rfl
    · exact h.type hp
  · rw [isSome_type?_enter]
    rw [property?_enter] at hp
    split at hp
    · next hq =>
      cases hp
      rw [propertyOf_eq] at hr
      by_cases ht : IsTyped e
      · rw [if_pos ht, Option.some.injEq] at hr
        exact ⟨hr.symm.trans hq.symm, Or.inl ⟨hq, ht⟩⟩
      · rw [if_neg ht] at hr
        cases hr
    · exact ⟨(h.own hp hr).1, Or.inr (h.own hp hr).2⟩

theorem Extraction.visits_declared (schemas : List (Node × Node)) :
    Extraction.Visits (placesBelow Path.base (Shape.ofEntries schemas))
      (Model.Declared schemas) where
  enter hplace h := declared_enter h hplace
  require path h := h.require path
  prune path h := h.prune path

/-- **Declared types.**  In the model of a document, with whatever names, every property has the
type that a site declares, and is an instance of no type but the one at its path. -/
theorem extract_declared {document : Node} {schemas : List (Node × Node)} {x : Extraction}
    (hc : components document = .ok schemas) (hx : extract document = .ok x) :
    x.model.Declared schemas :=
  (Extraction.visits_declared schemas).extract (Model.declared_empty schemas) hc hx

end SchemaBeans.Schema
