import SchemaBeans.Proofs.Extraction.Filling

/-!
# Extraction — all or nothing

What an extraction makes of a path-safe document, in terms of its sites.

The errors are at the sites whose node is not that of a schema (`Extraction.Fills.mem_paths_iff`).
Of a component schema within which there is none, the model holds every site as a property, every
object and every choice of values as a type with its members, and nothing else (`Model.Holds`).  Of
one within which there is an error, it holds nothing.
-/

namespace SchemaBeans.Schema

open Yaml (Node)
open Shape (memberPaths placesBelow)

variable {schemas : List (Node × Node)} {top c d : Site} {q : String}

/-- The model holds what a document says at a site and below, and nothing else there. -/
structure Model.Holds (m : Model) (top : Site) : Prop where
  property {c : Site} : top.Reaches c →
    ∃ p, m.property? c.path = some p ∧ p.path = c.path ∧ p.name = c.name
  type {c : Site} : top.Reaches c → ((m.type? c.path).isSome ↔ IsTypeSchema c.node)
  members {c : Site} {t : SchemaType} : top.Reaches c → m.type? c.path = some t →
    ∀ q, q ∈ t.properties ↔ ∃ d, c.HasMember d ∧ d.path = q
  only {q : String} : Path.isWithin q top.path = true →
    (m.property? q).isSome ∨ (m.type? q).isSome → ∃ c, top.Reaches c ∧ c.path = q

namespace Extraction

variable {x : Extraction}

/-- What the extraction of component schemas comes to, starting from nothing. -/
def IsFilled (schemas : List (Node × Node)) (x : Extraction) : Prop :=
  Fills Path.base (memberPaths Path.base (Shape.ofEntries schemas))
    (placesBelow Path.base (Shape.ofEntries schemas)) {} x

/-- **Extraction of a document.**  The component schemas of a path-safe document are put in. -/
theorem isFilled_ofEntries (hsafe : PathSafe schemas) : (ofEntries schemas).IsFilled schemas :=
  have hfill : IsFilled schemas (addShapes Path.base (Shape.ofEntries schemas) {}) :=
    fills_members hsafe.allSafe (fresh_empty _)
  -- the number of schemas and the last entry are nobody's concern
  { hfill with }

theorem extract_of_components {document : Node} (hc : components document = .ok schemas) :
    extract document = .ok (ofEntries schemas) := by
  rw [extract, hc]
  rfl

theorem exists_isFilled {document : Node} (hc : components document = .ok schemas)
    (hsafe : PathSafe schemas) : ∃ x, extract document = .ok x ∧ x.IsFilled schemas :=
  ⟨_, extract_of_components hc, isFilled_ofEntries hsafe⟩

namespace IsFilled

/-- The errors are at the sites that are not schemas. -/
theorem mem_paths_iff (h : x.IsFilled schemas) :
    q ∈ x.errors.paths ↔ ∃ c, IsSite schemas c ∧ c.path = q ∧ ¬IsSchema c.node := by
  simp only [Errors.mem_paths_iff, Fills.error h, Errors.cause?_empty, reduceCtorEq, false_or,
    Shape.mem_placesBelow_ofEntries_iff, ← Shape.exists_ofNode_eq_faulty_iff]
  refine ⟨?_, ?_⟩
  · rintro ⟨_, fault, ⟨c, hc, hpath, hf⟩, rfl⟩
    exact ⟨c, hc, hpath, fault, hf⟩
  · rintro ⟨c, hc, hpath, fault, hf⟩
    exact ⟨_, fault, ⟨c, hc, hpath, hf⟩, rfl⟩

/-- The path of a component schema is one of those that are filled. -/
theorem mem_memberPaths (htop : top.IsComponent schemas) :
    top.path ∈ memberPaths Path.base (Shape.ofEntries schemas) := by
  rw [htop.path_eq, memberPaths, List.mem_map]
  exact ⟨_, (Shape.mem_ofEntries_iff Path.base).mpr ⟨top, htop, rfl⟩, rfl⟩

/-- Within a component schema there are the places of the sites that it reaches. -/
theorem mem_placesBelow_iff (hsafe : PathSafe schemas) (htop : top.IsComponent schemas) {s : Shape}
    (hw : Path.isWithin q top.path = true) :
    (q, s) ∈ placesBelow Path.base (Shape.ofEntries schemas) ↔
      ∃ c, top.Reaches c ∧ c.path = q ∧ Shape.ofNode c.node = s := by
  have hm := (Shape.mem_ofEntries_iff Path.base).mpr ⟨top, htop, rfl⟩
  rw [htop.path_eq] at hw
  rw [Shape.mem_placesBelow_iff_of_isWithin hsafe.allSafe.toSafeMembers hm hw, ← htop.path_eq,
    Shape.mem_places_ofNode_iff]

theorem isWithin_of_reaches (h : top.Reaches c) : Path.isWithin c.path top.path = true :=
  Shape.isWithin_of_mem_places (Shape.mem_places_ofNode_iff.mpr ⟨c, h, rfl, rfl⟩)

/-- A component schema is sound if no error lies within its path. -/
theorem soundWithin_iff (h : x.IsFilled schemas) :
    SoundWithin (placesBelow Path.base (Shape.ofEntries schemas)) top.path ↔
      ∀ path ∈ x.errors.paths, Path.isWithin path top.path = false := by
  refine ⟨?_, ?_⟩
  · intro hsound path hpath
    obtain ⟨c, hc⟩ := Errors.mem_paths_iff.mp hpath
    rcases (Fills.error h).mp hc with hc | ⟨fault, hf, -⟩
    · rw [Errors.cause?_empty] at hc
      cases hc
    · exact hsound path fault hf
  · intro hnone path fault hf
    refine hnone path (Errors.mem_paths_iff.mpr ⟨.node fault, ?_⟩)
    exact (Fills.error h).mpr (Or.inr ⟨fault, hf, rfl⟩)

/-- No error lies within the path of a component schema if all that it reaches are schemas. -/
theorem forall_isSchema_iff (h : x.IsFilled schemas) (hsafe : PathSafe schemas)
    (htop : top.IsComponent schemas) :
    (∀ c, top.Reaches c → IsSchema c.node) ↔
      ∀ path ∈ x.errors.paths, Path.isWithin path top.path = false := by
  refine ⟨fun hall => ?_, fun hsound c hreach => ?_⟩
  · rw [← h.soundWithin_iff]
    intro path fault hf
    rw [Bool.eq_false_iff]
    intro hw
    obtain ⟨c, hreach, -, hc⟩ := (mem_placesBelow_iff hsafe htop hw).mp hf
    exact Shape.exists_ofNode_eq_faulty_iff.mp ⟨fault, hc⟩ (hall c hreach)
  · by_contra hfault
    have hpath := hsound c.path (h.mem_paths_iff.mpr ⟨c, ⟨top, htop, hreach⟩, rfl, hfault⟩)
    rw [isWithin_of_reaches hreach] at hpath
    cases hpath

/-- A site of a sound component schema has the property and the type of its shape. -/
theorem lookup_of_reaches (h : x.IsFilled schemas) (hsafe : PathSafe schemas)
    (htop : top.IsComponent schemas)
    (hsound : ∀ path ∈ x.errors.paths, Path.isWithin path top.path = false)
    (hreach : top.Reaches c) :
    ∃ description dimensions element members,
      Shape.ofNode c.node = .valid description dimensions element members ∧
      x.model.property? c.path = (Shape.ofNode c.node).propertyAt
        (Shape.requiredPaths (placesBelow Path.base (Shape.ofEntries schemas))) c.path ∧
      x.model.type? c.path = (Shape.ofNode c.node).typeAt c.path := by
  have hw := isWithin_of_reaches hreach
  -- the shape cannot be faulty, as its place would be an error
  have hplace := (mem_placesBelow_iff hsafe htop hw).mpr ⟨c, hreach, rfl, rfl⟩
  have hsound' := (soundWithin_iff h).mpr hsound
  cases hs : Shape.ofNode c.node with
  | faulty fault =>
    rw [hs] at hplace
    rw [hsound' _ _ hplace] at hw
    cases hw
  | valid description dimensions element members =>
    rw [hs] at hplace
    exact ⟨_, _, _, _, rfl, Fills.property_inside h (mem_memberPaths htop) hsound' hplace hw,
      Fills.type_inside h (mem_memberPaths htop) hsound' hplace hw⟩

/-- The type at a site lists the paths of its members. -/
theorem mem_properties_iff {t : SchemaType} (ht : (Shape.ofNode c.node).typeAt c.path = some t) :
    q ∈ t.properties ↔ ∃ d, c.HasMember d ∧ d.path = q := by
  obtain ⟨bare, hbare, rfl⟩ := Option.map_eq_some_iff.mp ht
  have hnone : q ∉ bare.properties := by
    cases hs : Shape.ofNode c.node with
    | faulty fault => rw [hs] at hbare; cases hbare
    | valid description dimensions element members =>
      rw [hs, Shape.bareTypeAt] at hbare
      split at hbare
      · cases hbare
        exact Std.ExtTreeSet.not_mem_empty
      · cases hbare
  rw [SchemaType.mem_properties_listing, or_iff_right hnone, memberPaths, List.mem_map]
  refine ⟨?_, ?_⟩
  · rintro ⟨m, hm, rfl⟩
    obtain ⟨d, hd, rfl⟩ := Shape.mem_visited_iff.mp hm
    exact ⟨d, hd, hd.path_eq⟩
  · rintro ⟨d, hd, rfl⟩
    exact ⟨_, Shape.mem_visited_iff.mpr ⟨d, hd, rfl⟩, hd.path_eq.symm⟩

/-- All of a sound component schema is held. -/
theorem holds (h : x.IsFilled schemas) (hsafe : PathSafe schemas) (htop : top.IsComponent schemas)
    (hsound : ∀ path ∈ x.errors.paths, Path.isWithin path top.path = false) :
    x.model.Holds top where
  property {c} hreach := by
    obtain ⟨_, _, _, _, hs, hp, -⟩ := h.lookup_of_reaches hsafe htop hsound hreach
    obtain ⟨parent, hpath, hn⟩ := hsafe.exists_parent ⟨top, htop, hreach⟩
    rw [hs, Shape.propertyAt] at hp
    refine ⟨_, hp, path_propertyOf _ _ _ _, ?_⟩
    rw [propertyOf_eq]
    change Path.last c.path = c.name
    rw [hpath, Path.last_child parent hn]
  type {c} hreach := by
    obtain ⟨_, _, element, _, hs, -, ht⟩ := h.lookup_of_reaches hsafe htop hsound hreach
    rw [ht, Shape.typeAt, Option.isSome_map, hs, Shape.bareTypeAt, Shape.isTypeSchema_iff hs]
    by_cases hty : IsTyped element <;> simp [hty]
  members {c t} hreach ht q := by
    obtain ⟨_, _, _, _, -, -, ht'⟩ := h.lookup_of_reaches hsafe htop hsound hreach
    exact mem_properties_iff (ht' ▸ ht)
  only {q} hw hq := by
    by_contra hno
    have hnone := Fills.nothing h (mem_memberPaths htop) hw fun _ s hs => by
      obtain ⟨c, hreach, hpath, -⟩ := (mem_placesBelow_iff hsafe htop hw).mp hs
      exact hno ⟨c, hreach, hpath⟩
    simp [hnone] at hq

/-- Nothing of a component schema with an error is held. -/
theorem nothing_of_error (h : x.IsFilled schemas) (htop : top.IsComponent schemas) {path : String}
    (hpath : path ∈ x.errors.paths) (hwithin : Path.isWithin path top.path = true)
    (hw : Path.isWithin q top.path = true) :
    x.model.property? q = none ∧ x.model.type? q = none := by
  refine Fills.nothing h (mem_memberPaths htop) hw fun hsound => ?_
  rw [(soundWithin_iff h).mp hsound path hpath] at hwithin
  cases hwithin

/-- There is no property at a path with an error. -/
theorem property?_of_mem_paths (h : x.IsFilled schemas) (hq : q ∈ x.errors.paths) :
    x.model.property? q = none := by
  obtain ⟨c, ⟨top, htop, hreach⟩, rfl, -⟩ := h.mem_paths_iff.mp hq
  have hw := isWithin_of_reaches hreach
  exact (h.nothing_of_error htop hq hw hw).1

end IsFilled

end Extraction

/-- **All or nothing.**  A path-safe document with component schemas can be extracted.  The errors
are at the sites that are not schemas, and of each component schema the model holds either all that
the document says, if there is no error within its path, or nothing. -/
theorem extract_allOrNothing {document : Node} (hc : components document = .ok schemas)
    (hsafe : PathSafe schemas) :
    ∃ x, extract document = .ok x ∧
      (∀ path, path ∈ x.errors.paths ↔ ∃ c, IsSite schemas c ∧ c.path = path ∧ ¬IsSchema c.node) ∧
      ∀ top, top.IsComponent schemas →
        ((∀ path ∈ x.errors.paths, Path.isWithin path top.path = false) ∧ x.model.Holds top) ∨
          (∃ path ∈ x.errors.paths, Path.isWithin path top.path = true) ∧
            ∀ q, Path.isWithin q top.path = true →
              x.model.property? q = none ∧ x.model.type? q = none := by
  obtain ⟨x, hx, hfilled⟩ := Extraction.exists_isFilled hc hsafe
  refine ⟨x, hx, fun path => hfilled.mem_paths_iff, fun top htop => ?_⟩
  by_cases hsound : ∀ path ∈ x.errors.paths, Path.isWithin path top.path = false
  · exact Or.inl ⟨hsound, hfilled.holds hsafe htop hsound⟩
  · simp only [not_forall, Bool.not_eq_false] at hsound
    obtain ⟨path, hpath, hwithin⟩ := hsound
    exact Or.inr ⟨⟨path, hpath, hwithin⟩, fun q => hfilled.nothing_of_error htop hpath hwithin⟩

/-- The document with these component schemas and nothing else. -/
def documentOf (schemas : List (Node × Node)) : Node :=
  .mapping [(.string "components", .mapping [(.string "schemas", .mapping schemas)])]

theorem components_documentOf (schemas : List (Node × Node)) :
    components (documentOf schemas) = .ok schemas := rfl

/-- An object with a choice of values, and one with an array without items far below. -/
def partlyFaulty : List (Node × Node) :=
  [(.string "good", .mapping [(.string "type", .string "object"),
      (.string "properties", .mapping [(.string "color", .mapping [
        (.string "type", .string "string"),
        (.string "enum", .sequence [.string "red", .string "green"])])])]),
    (.string "bad", .mapping [(.string "type", .string "object"),
      (.string "properties", .mapping [
        (.string "fine", .mapping [(.string "type", .string "string")]),
        (.string "inner", .mapping [(.string "type", .string "object"),
          (.string "properties", .mapping [(.string "list", .mapping [
            (.string "type", .string "array")])])])])])]

/-- The first object is extracted, and nothing of the second one. -/
theorem partlyFaulty_extracted :
    components (documentOf partlyFaulty) = .ok partlyFaulty ∧ PathSafe partlyFaulty ∧
      ∃ x, extract (documentOf partlyFaulty) = .ok x ∧
        x.model.properties.keys = ["#/components/schemas/good", "#/components/schemas/good/color"] ∧
        x.errors.paths = ["#/components/schemas/bad/inner/list"] ∧
        ∀ top, top.IsComponent partlyFaulty →
          ((∀ path ∈ x.errors.paths, Path.isWithin path top.path = false) ∧ x.model.Holds top) ∨
            (∃ path ∈ x.errors.paths, Path.isWithin path top.path = true) ∧
              ∀ q, Path.isWithin q top.path = true →
                x.model.property? q = none ∧ x.model.type? q = none := by
  have hc : components (documentOf partlyFaulty) = .ok partlyFaulty := rfl
  have hsafe : PathSafe partlyFaulty := by decide +kernel
  obtain ⟨x, hx, -, htop⟩ := extract_allOrNothing hc hsafe
  have hrun : (extract (documentOf partlyFaulty)).toOption.all (fun x =>
      x.model.properties.keys = ["#/components/schemas/good", "#/components/schemas/good/color"] ∧
        x.errors.paths = ["#/components/schemas/bad/inner/list"]) = true := by
    decide +kernel
  rw [hx] at hrun
  obtain ⟨hkeys, hpaths⟩ := of_decide_eq_true hrun
  exact ⟨hc, hsafe, x, hx, hkeys, hpaths, htop⟩

end SchemaBeans.Schema
