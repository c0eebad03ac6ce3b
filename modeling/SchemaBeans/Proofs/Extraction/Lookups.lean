import SchemaBeans.Proofs.Extraction.AllOrNothing

/-!
# Extraction — what each member leaves

When members have been put in below a path, each look-up goes back to one of them, and to that one
only.  A member *keeps* its places if none of them is faulty, and otherwise no place (`Keeps`).  The
property and the type at a path are those of the place that some member keeps there, and there is
nothing where no member keeps a place (`Fills.lookup_of_keeps`, `Fills.lookup_eq_none`).

So an extracted document has three equations, one for each table, in which every component schema
stands alone: `IsFilled.property?_eq_some_iff`, `IsFilled.type?_eq_some_iff` and
`IsFilled.cause?_eq_some_iff`.
-/

namespace SchemaBeans.Schema

open Yaml (Node)
open Shape (memberPaths places placesBelow requiredPaths)

namespace Shape

/-- The shape is that of a faulty node. -/
def isFaulty : Shape → Bool
  | .faulty _ => true
  | .valid .. => false

/-- No place of the shape is faulty. -/
def IsSound (path : String) (s : Shape) : Prop := ∀ place ∈ places path s, place.2.isFaulty = false

instance (path : String) (s : Shape) : Decidable (s.IsSound path) :=
  inferInstanceAs (Decidable (∀ _ ∈ _, _))

/-- The shape keeps a place at `q`: it has this one, and none that is faulty. -/
structure Keeps (path : String) (s : Shape) (q : String) (t : Shape) : Prop where
  isSound : s.IsSound path
  mem : (q, t) ∈ places path s

variable {path q : String} {s t : Shape}

theorem isFaulty_ofNode_iff {n : Node} : (ofNode n).isFaulty = true ↔ ¬IsSchema n := by
  rw [← exists_ofNode_eq_faulty_iff]
  cases ofNode n <;> simp [isFaulty]

/-- No place of a site's shape is faulty if all that the site reaches are schemas. -/
theorem isSound_ofNode_iff {c : Site} :
    (ofNode c.node).IsSound c.path ↔ ∀ d, c.Reaches d → IsSchema d.node := by
  refine ⟨fun hsound d hreach => ?_, ?_⟩
  · by_contra hfault
    have hplace := hsound _ (mem_places_ofNode_iff.mpr ⟨d, hreach, rfl, rfl⟩)
    rw [isFaulty_ofNode_iff.mpr hfault] at hplace
    cases hplace
  · rintro hall ⟨q, s⟩ hplace
    obtain ⟨d, hreach, -, rfl⟩ := mem_places_ofNode_iff.mp hplace
    rw [Bool.eq_false_iff, ne_eq, isFaulty_ofNode_iff, not_not]
    exact hall d hreach

theorem Keeps.isWithin (h : s.Keeps path q t) : Path.isWithin q path = true :=
  isWithin_of_mem_places h.mem

/-- What is kept is not faulty. -/
theorem Keeps.exists_valid (h : s.Keeps path q t) :
    ∃ description dimensions element members,
      t = .valid description dimensions element members := by
  cases t with
  | faulty fault => cases h.isSound _ h.mem
  | valid description dimensions element members => exact ⟨_, _, _, _, rfl⟩

theorem Keeps.isSome_propertyAt (h : s.Keeps path q t) (required : List String) :
    (t.propertyAt required q).isSome := by
  obtain ⟨_, _, _, _, rfl⟩ := h.exists_valid
  rfl

end Shape

namespace Extraction

variable {x y : Extraction} {parent path q : String} {s : Shape} {members : List (String × Shape)}
  {m : String × Shape}

/-! ### Members below a path -/

theorem soundWithin_places_iff : SoundWithin (places path s) path ↔ s.IsSound path := by
  refine ⟨?_, ?_⟩
  · rintro h ⟨q, t⟩ ht
    cases t with
    | valid => rfl
    | faulty fault =>
      have hw := h q fault ht
      rw [Shape.isWithin_of_mem_places ht] at hw
      cases hw
  · intro h q fault hf
    cases h _ hf

/-- A member is sound if all is sound within its path. -/
theorem soundWithin_placesBelow_iff (hm : Shape.SafeMembers members) (hmem : m ∈ members) :
    SoundWithin (placesBelow parent members) (Path.child parent m.1) ↔
      m.2.IsSound (Path.child parent m.1) := by
  rw [← soundWithin_places_iff]
  exact soundWithin_congr fun q s hw => Shape.mem_placesBelow_iff_of_isWithin hm hmem hw

/-- What is required within a member is required by that member. -/
theorem mem_requiredPaths_placesBelow_iff (hm : Shape.SafeMembers members) (hmem : m ∈ members)
    (hw : Path.isWithin q (Path.child parent m.1) = true) :
    q ∈ requiredPaths (placesBelow parent members) ↔
      q ∈ requiredPaths (places (Path.child parent m.1) m.2) := by
  rw [Shape.mem_requiredPaths_iff, Shape.mem_requiredPaths_iff]
  refine ⟨?_, ?_⟩
  · rintro ⟨path, s, name, hs, hn, rfl⟩
    obtain ⟨m', hmem', hs⟩ := Shape.mem_placesBelow_iff.mp hs
    have hw' : Path.isWithin (Path.child path name) (Path.child parent m'.1) = true :=
      Path.isWithin_trans (Path.isWithin_child path name) (Shape.isWithin_of_mem_places hs)
    have hname : m'.1 = m.1 := Path.eq_of_isWithin_children (hm.isSegment m' hmem')
      (hm.isSegment m hmem) hw' hw
    obtain rfl : m' = m := List.inj_on_of_nodup_map hm.nodup hmem' hmem hname
    exact ⟨path, s, name, hs, hn, rfl⟩
  · rintro ⟨path, s, name, hs, hn, rfl⟩
    exact ⟨path, s, name, Shape.mem_placesBelow_iff.mpr ⟨m, hmem, hs⟩, hn, rfl⟩

section Members

variable (h : Fills parent (memberPaths parent members) (placesBelow parent members) x y)
  (hm : Shape.SafeMembers members)

include h hm

/-- Where a member keeps a place, there is the property and the type of the place. -/
theorem Fills.lookup_of_keeps (hmem : m ∈ members) (hk : m.2.Keeps (Path.child parent m.1) q s) :
    y.model.property? q =
        s.propertyAt (requiredPaths (places (Path.child parent m.1) m.2)) q ∧
      y.model.type? q = s.typeAt q := by
  have hchild : Path.child parent m.1 ∈ memberPaths parent members :=
    List.mem_map.mpr ⟨m, hmem, rfl⟩
  have hsound : SoundWithin (placesBelow parent members) (Path.child parent m.1) :=
    (soundWithin_placesBelow_iff hm hmem).mpr hk.isSound
  have hplace := Shape.mem_placesBelow_iff.mpr ⟨m, hmem, hk.mem⟩
  refine ⟨?_, h.type_inside hchild hsound hplace hk.isWithin⟩
  rw [h.property_inside hchild hsound hplace hk.isWithin]
  exact Shape.propertyAt_congr (mem_requiredPaths_placesBelow_iff hm hmem hk.isWithin)

/-- Within the members there is nothing where none of them keeps a place. -/
theorem Fills.lookup_eq_none (hcov : Covered (memberPaths parent members) q)
    (hnone : ∀ m ∈ members, ∀ s, ¬m.2.Keeps (Path.child parent m.1) q s) :
    y.model.property? q = none ∧ y.model.type? q = none := by
  obtain ⟨child, hchild, hw⟩ := hcov
  obtain ⟨m, hmem, rfl⟩ := List.mem_map.mp hchild
  refine h.nothing hchild hw fun hsound s hs => hnone m hmem s ⟨?_, ?_⟩
  · exact (soundWithin_placesBelow_iff hm hmem).mp hsound
  · exact (Shape.mem_placesBelow_iff_of_isWithin hm hmem hw).mp hs

/-- Below a parent there is a property exactly where a member keeps a place. -/
theorem Fills.isSome_property?_iff (hx : ¬Covered (memberPaths parent members) q →
    x.model.property? q = none) :
    (y.model.property? q).isSome ↔
      ∃ m ∈ members, ∃ s, m.2.Keeps (Path.child parent m.1) q s := by
  refine ⟨?_, ?_⟩
  · intro hq
    by_contra hno
    have hnone : y.model.property? q = none := by
      by_cases hcov : Covered (memberPaths parent members) q
      · exact (h.lookup_eq_none hm hcov fun m hmem s hk => hno ⟨m, hmem, s, hk⟩).1
      · rw [h.property_outside hcov, hx hcov]
    rw [hnone] at hq
    cases hq
  · rintro ⟨m, hmem, s, hk⟩
    rw [(h.lookup_of_keeps hm hmem hk).1]
    exact hk.isSome_propertyAt _

end Members

/-! ### Documents -/

variable {schemas : List (Node × Node)}

/-- There is no type at the place of the component schemas itself. -/
theorem type?_ofEntries_base (schemas : List (Node × Node)) :
    (ofEntries schemas).model.type? Path.base = none :=
  (extract_wellPlaced (extract_of_components (components_documentOf schemas))).type?_base

namespace IsFilled

/-- Every property of a document is that of a place which a component schema keeps. -/
theorem property?_eq_some_iff (h : x.IsFilled schemas) (hsafe : PathSafe schemas) {p : Property} :
    x.model.property? q = some p ↔ ∃ m ∈ Shape.ofEntries schemas, ∃ s,
      m.2.Keeps (Path.child Path.base m.1) q s ∧
        s.propertyAt (requiredPaths (places (Path.child Path.base m.1) m.2)) q = some p := by
  have hm := hsafe.allSafe.toSafeMembers
  refine ⟨?_, ?_⟩
  · intro hp
    have hsome : (x.model.property? q).isSome := by rw [hp]; rfl
    obtain ⟨m, hmem, s, hk⟩ := (Fills.isSome_property?_iff h hm
      fun _ => Model.property?_empty q).mp hsome
    exact ⟨m, hmem, s, hk, by rw [← (Fills.lookup_of_keeps h hm hmem hk).1, hp]⟩
  · rintro ⟨m, hmem, s, hk, hp⟩
    rw [(Fills.lookup_of_keeps h hm hmem hk).1, hp]

/-- Every type of a document is that of a place which a component schema keeps. -/
theorem type?_eq_some_iff (h : x.IsFilled schemas) (hsafe : PathSafe schemas)
    (hbase : x.model.type? Path.base = none) {t : SchemaType} :
    x.model.type? q = some t ↔ ∃ m ∈ Shape.ofEntries schemas, ∃ s,
      m.2.Keeps (Path.child Path.base m.1) q s ∧ s.typeAt q = some t := by
  have hm := hsafe.allSafe.toSafeMembers
  refine ⟨?_, ?_⟩
  · intro ht
    by_contra hno
    have hnone : x.model.type? q = none := by
      by_cases hcov : Covered (memberPaths Path.base (Shape.ofEntries schemas)) q
      · refine (Fills.lookup_eq_none h hm hcov fun m hmem s hk => hno ⟨m, hmem, s, hk, ?_⟩).2
        rw [← (Fills.lookup_of_keeps h hm hmem hk).2, ht]
      · by_cases hq : q = Path.base
        · rw [hq, hbase]
        · rw [Fills.type_outside h hcov hq, Model.type?_empty]
    rw [hnone] at ht
    cases ht
  · rintro ⟨m, hmem, s, hk, ht⟩
    rw [(Fills.lookup_of_keeps h hm hmem hk).2, ht]

/-- Every error of a document is that of a faulty place of a component schema. -/
theorem cause?_eq_some_iff (h : x.IsFilled schemas) {c : Cause} :
    x.errors.cause? q = some c ↔ ∃ m ∈ Shape.ofEntries schemas, ∃ fault,
      (q, Shape.faulty fault) ∈ places (Path.child Path.base m.1) m.2 ∧ c = .node fault := by
  simp only [Fills.error h, Errors.cause?_empty, reduceCtorEq, false_or, Shape.mem_placesBelow_iff]
  refine ⟨?_, ?_⟩
  · rintro ⟨fault, ⟨m, hmem, hf⟩, rfl⟩
    exact ⟨m, hmem, fault, hf, rfl⟩
  · rintro ⟨m, hmem, fault, hf, rfl⟩
    exact ⟨fault, ⟨m, hmem, hf⟩, rfl⟩

end IsFilled

end Extraction

end SchemaBeans.Schema
