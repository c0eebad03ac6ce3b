import Mathlib.Data.List.Nodup
import SchemaBeans.Proofs.Extraction.Operations
import SchemaBeans.Proofs.Extraction.Sites

/-!
# Places — the shapes that an extraction comes by

An extraction goes through the members of objects and of nothing else.  The *places* of a shape at
a path are the paths that it comes by, each with the shape that it finds there (`Shape.places`).

The places of a node's shape are the sites that the node reaches (`Shape.mem_places_ofNode_iff`).
Where names are safe, the shapes are (`PathSafe.allSafe`), and the places of two members lie apart.
-/

namespace SchemaBeans.Schema

open Yaml (Node)

namespace Shape

/-! ### Members -/

/-- The members that an extraction goes through: those of an object. -/
def visited : Shape → List (String × Shape)
  | .faulty _ => []
  | .valid _ _ element members => if element.declaration.typeName = objectType then members else []

mutual

/-- What holds for a shape if it does for all of its members holds for every shape. -/
@[elab_as_elim]
theorem memberInduction {P : Shape → Prop} (faulty : ∀ fault, P (.faulty fault))
    (valid : ∀ description dimensions element members, (∀ m ∈ members, P m.2) →
      P (.valid description dimensions element members)) : ∀ s, P s
  | .faulty fault => faulty fault
  | .valid _ _ _ members => valid _ _ _ _ (forall_members faulty valid members)

theorem forall_members {P : Shape → Prop} (faulty : ∀ fault, P (.faulty fault))
    (valid : ∀ description dimensions element members, (∀ m ∈ members, P m.2) →
      P (.valid description dimensions element members)) :
    ∀ members : List (String × Shape), ∀ m ∈ members, P m.2
  | [], _, hm => by cases hm
  | (_, s) :: rest, m, hm => by
    rcases List.mem_cons.mp hm with rfl | hm
    · exact memberInduction faulty valid s
    · exact forall_members faulty valid rest m hm

end

/-! ### Places -/

mutual

/-- The paths of a shape at a path and of all that is visited below it, with their shapes. -/
def places (path : String) : Shape → List (String × Shape)
  | .faulty fault => [(path, .faulty fault)]
  | .valid description dimensions element members =>
    (path, .valid description dimensions element members) ::
      if element.declaration.typeName = objectType then placesBelow path members else []

/-- The places of members below a path. -/
def placesBelow (parent : String) : List (String × Shape) → List (String × Shape)
  | [] => []
  | (name, s) :: rest => places (Path.child parent name) s ++ placesBelow parent rest

end

variable {path q : String} {s t : Shape} {members : List (String × Shape)}

theorem places_eq (path : String) (s : Shape) :
    places path s = (path, s) :: placesBelow path s.visited := by
  cases s with
  | faulty fault => rfl
  | valid description dimensions element members =>
    rw [places, visited]
    split <;> rfl

theorem mem_placesBelow_iff : (q, t) ∈ placesBelow path members ↔
    ∃ m ∈ members, (q, t) ∈ places (Path.child path m.1) m.2 := by
  induction members with
  | nil => simp [placesBelow]
  | cons m members ih =>
    obtain ⟨name, s⟩ := m
    rw [placesBelow, List.mem_append, ih]
    simp

/-- A place is the shape itself or a place of a visited member. -/
theorem mem_places_iff : (q, t) ∈ places path s ↔
    (q, t) = (path, s) ∨ ∃ m ∈ s.visited, (q, t) ∈ places (Path.child path m.1) m.2 := by
  rw [places_eq, List.mem_cons, mem_placesBelow_iff]

theorem mem_places_self (path : String) (s : Shape) : (path, s) ∈ places path s :=
  mem_places_iff.mpr (Or.inl rfl)

/-- What holds for a shape if it does for all visited members holds for every shape. -/
theorem visitedInduction {P : Shape → Prop} (step : ∀ s, (∀ m ∈ s.visited, P m.2) → P s)
    (s : Shape) : P s := by
  induction s using memberInduction with
  | faulty fault => exact step _ fun m hm => by cases hm
  | valid description dimensions element members ih =>
    refine step _ fun m hm => ih m ?_
    rw [visited] at hm
    split at hm
    · exact hm
    · cases hm

/-- All places lie within the path. -/
theorem isWithin_of_mem_places (h : (q, t) ∈ places path s) : Path.isWithin q path = true := by
  induction s using visitedInduction generalizing path with
  | step s ih =>
    rcases mem_places_iff.mp h with h | ⟨m, hm, h⟩
    · cases h
      exact Path.isWithin_self _
    · exact Path.isWithin_trans (ih m hm h) (Path.isWithin_child path m.1)

/-! ### Safe names -/

/-- The names are segments, and no two are alike. -/
structure SafeMembers (members : List (String × Shape)) : Prop where
  isSegment : ∀ m ∈ members, Path.IsSegment m.1
  nodup : (members.map Prod.fst).Nodup

theorem SafeMembers.tail {m : String × Shape} (h : SafeMembers (m :: members)) :
    SafeMembers members :=
  ⟨fun m' hm => h.isSegment m' (List.mem_cons_of_mem _ hm), (List.nodup_cons.mp h.nodup).2⟩

/-- The names of the visited members are safe, there and below. -/
inductive Safe : Shape → Prop where
  | intro {s : Shape} (h : SafeMembers s.visited) (hm : ∀ m ∈ s.visited, Safe m.2) : Safe s

/-- The names of these members are safe, there and below. -/
structure AllSafe (members : List (String × Shape)) : Prop extends SafeMembers members where
  safe : ∀ m ∈ members, Safe m.2

theorem AllSafe.tail {m : String × Shape} (h : AllSafe (m :: members)) : AllSafe members :=
  ⟨h.toSafeMembers.tail, fun m' hm => h.safe m' (List.mem_cons_of_mem _ hm)⟩

/-- Within the path of a member there are the places of that member only. -/
theorem mem_placesBelow_iff_of_isWithin {parent : String} {m : String × Shape}
    (h : SafeMembers members) (hm : m ∈ members)
    (hw : Path.isWithin q (Path.child parent m.1) = true) :
    (q, t) ∈ placesBelow parent members ↔ (q, t) ∈ places (Path.child parent m.1) m.2 := by
  rw [mem_placesBelow_iff]
  refine ⟨?_, ?_⟩
  · rintro ⟨m', hm', ht⟩
    have hname : m'.1 = m.1 := Path.eq_of_isWithin_children (h.isSegment m' hm') (h.isSegment m hm)
      (isWithin_of_mem_places ht) hw
    obtain rfl : m' = m := List.inj_on_of_nodup_map h.nodup hm' hm hname
    exact ht
  · exact fun ht => ⟨m, hm, ht⟩

/-- Within the path of a place there are the places of the shape there only. -/
theorem mem_places_iff_of_mem {q' : String} {u : Shape} (hs : s.Safe) (h : (q, t) ∈ places path s)
    (hw : Path.isWithin q' q = true) : (q', u) ∈ places path s ↔ (q', u) ∈ places q t := by
  induction s using visitedInduction generalizing path with
  | step s ih =>
    rcases mem_places_iff.mp h with h | ⟨m, hm, h⟩
    · cases h
      rfl
    · obtain ⟨hsafe, hmem⟩ := hs
      have hw' := Path.isWithin_trans hw (isWithin_of_mem_places h)
      have hne : (q', u) ≠ (path, s) := by
        rintro ⟨⟩
        exact Path.ne_of_isWithin_child hw' rfl
      rw [← ih m hm (hmem m hm) h, ← mem_placesBelow_iff_of_isWithin hsafe hm hw', places_eq,
        List.mem_cons, or_iff_right hne]

theorem mem_placesBelow_iff_of_mem {parent q' : String} {u : Shape} (hs : AllSafe members)
    (h : (q, t) ∈ placesBelow parent members) (hw : Path.isWithin q' q = true) :
    (q', u) ∈ placesBelow parent members ↔ (q', u) ∈ places q t := by
  obtain ⟨m, hm, h⟩ := mem_placesBelow_iff.mp h
  rw [mem_placesBelow_iff_of_isWithin hs.toSafeMembers hm
    (Path.isWithin_trans hw (isWithin_of_mem_places h))]
  exact mem_places_iff_of_mem (hs.safe m hm) h hw

/-- At a path there is one place. -/
theorem eq_of_mem_placesBelow {parent : String} {u : Shape} (hs : AllSafe members)
    (h : (q, t) ∈ placesBelow parent members) (h' : (q, u) ∈ placesBelow parent members) :
    u = t := by
  rw [mem_placesBelow_iff_of_mem hs h (Path.isWithin_self q), mem_places_iff] at h'
  rcases h' with h' | ⟨m, -, h'⟩
  · exact congrArg Prod.snd h'
  · exact absurd rfl (Path.ne_of_isWithin_child (isWithin_of_mem_places h'))

/-- What is visited below a place is a place. -/
theorem mem_placesBelow_of_visited {parent : String} {m : String × Shape} (hs : AllSafe members)
    (h : (q, t) ∈ placesBelow parent members) (hm : m ∈ t.visited) :
    (Path.child q m.1, m.2) ∈ placesBelow parent members :=
  (mem_placesBelow_iff_of_mem hs h (Path.isWithin_child q m.1)).mpr
    (mem_places_iff.mpr (Or.inr ⟨m, hm, mem_places_self _ _⟩))

theorem Safe.isSegment (hs : s.Safe) {m : String × Shape} (hm : m ∈ s.visited) :
    Path.IsSegment m.1 := by
  obtain ⟨hsafe, -⟩ := hs
  exact hsafe.isSegment m hm

theorem Safe.of_mem_places (hs : s.Safe) (h : (q, t) ∈ places path s) : t.Safe := by
  induction s using visitedInduction generalizing path with
  | step s ih =>
    rcases mem_places_iff.mp h with h | ⟨m, hm, h⟩
    · cases h
      exact hs
    · obtain ⟨-, hmem⟩ := hs
      exact ih m hm (hmem m hm) h

/-! ### Sites as places -/

/-- An extraction visits the properties of an object, and otherwise nothing. -/
theorem visited_ofNode (n : Node) : (ofNode n).visited = [] ∨
    ∃ properties, HasProperties n properties ∧ (ofNode n).visited = ofEntries properties := by
  cases h : ofNode n with
  | faulty fault => exact Or.inl rfl
  | valid description dimensions e members =>
    obtain ⟨element, declaration, he, hd, rfl, rfl⟩ := hasElement_of_ofNode h
    rw [Shape.visited]
    split
    · next ht =>
      obtain rfl := Declaration.typeName_eq_objectType_iff.mp ht
      exact Or.inr ⟨_, ⟨dimensions, element, he, hd, rfl⟩, rfl⟩
    · exact Or.inl rfl

theorem visited_of_hasProperties {n : Node} {properties : List (Node × Node)}
    (h : HasProperties n properties) : (ofNode n).visited = ofEntries properties := by
  obtain ⟨dimensions, element, he, hd, rfl⟩ := h
  obtain ⟨description, hs⟩ := ofNode_of_hasElement he hd
  rw [hs, Shape.visited]
  exact if_pos rfl

theorem mem_ofEntries_iff (parent : String) {entries : List (Node × Node)} {m : String × Shape} :
    m ∈ ofEntries entries ↔
      ∃ c : Site, c.IsEntry parent entries ∧ m = (c.name, ofNode c.node) := by
  rw [ofEntries_eq, List.mem_filterMap]
  refine ⟨?_, ?_⟩
  · rintro ⟨⟨key, n⟩, he, hm⟩
    obtain ⟨name, hname, rfl⟩ := Option.map_eq_some_iff.mp hm
    exact ⟨⟨Path.child parent name, name, n⟩, ⟨⟨key, he, hname⟩, rfl⟩, rfl⟩
  · rintro ⟨c, ⟨⟨key, he, hname⟩, -⟩, rfl⟩
    exact ⟨(key, c.node), he, by simp [hname]⟩

/-- The visited members of a site's shape are the members of the site. -/
theorem mem_visited_iff {c : Site} {m : String × Shape} :
    m ∈ (ofNode c.node).visited ↔ ∃ d, c.HasMember d ∧ m = (d.name, ofNode d.node) := by
  refine ⟨?_, ?_⟩
  · intro hm
    rcases visited_ofNode c.node with h | ⟨properties, hp, h⟩
    · rw [h] at hm
      cases hm
    · rw [h, mem_ofEntries_iff c.path] at hm
      obtain ⟨d, hd, rfl⟩ := hm
      exact ⟨d, ⟨properties, hp, hd⟩, rfl⟩
  · rintro ⟨d, ⟨properties, hp, hd⟩, rfl⟩
    rw [visited_of_hasProperties hp, mem_ofEntries_iff c.path]
    exact ⟨d, hd, rfl⟩

theorem exists_reaches_of_mem_places {s : Shape} {c : Site} (hs : ofNode c.node = s)
    (h : (q, t) ∈ places c.path s) : ∃ d, c.Reaches d ∧ d.path = q ∧ ofNode d.node = t := by
  induction s using visitedInduction generalizing c with
  | step s ih =>
    rcases mem_places_iff.mp h with h | ⟨m, hm, h⟩
    · cases h
      exact ⟨c, .refl, rfl, hs⟩
    · rw [← hs, mem_visited_iff] at hm
      obtain ⟨d, hd, rfl⟩ := hm
      -- the member is a site of its own, so the rest is what that one reaches
      rw [← hd.path_eq] at h
      obtain ⟨d', hreach, hd'⟩ := ih _ (hs ▸ mem_visited_iff.mpr ⟨d, hd, rfl⟩) rfl h
      exact ⟨d', .head hd hreach, hd'⟩

/-- **Sites are places.**  The places of the shape at a site are the sites that it reaches. -/
theorem mem_places_ofNode_iff {c : Site} : (q, t) ∈ places c.path (ofNode c.node) ↔
    ∃ d, c.Reaches d ∧ d.path = q ∧ ofNode d.node = t := by
  refine ⟨?_, ?_⟩
  · exact exists_reaches_of_mem_places rfl
  · rintro ⟨d, hreach, rfl, rfl⟩
    induction hreach using Relation.ReflTransGen.head_induction_on with
    | refl => exact mem_places_self _ _
    | head hd _ ih =>
      refine mem_places_iff.mpr (Or.inr ⟨_, mem_visited_iff.mpr ⟨_, hd, rfl⟩, ?_⟩)
      rwa [← hd.path_eq]

/-- The places of component schemas are the sites of the document. -/
theorem mem_placesBelow_ofEntries_iff {schemas : List (Node × Node)} :
    (q, t) ∈ placesBelow Path.base (ofEntries schemas) ↔
      ∃ c, IsSite schemas c ∧ c.path = q ∧ ofNode c.node = t := by
  rw [mem_placesBelow_iff]
  refine ⟨?_, ?_⟩
  · rintro ⟨m, hm, h⟩
    obtain ⟨top, htop, rfl⟩ := (mem_ofEntries_iff Path.base).mp hm
    rw [← htop.path_eq, mem_places_ofNode_iff] at h
    obtain ⟨c, hc, h⟩ := h
    exact ⟨c, ⟨top, htop, hc⟩, h⟩
  · rintro ⟨c, ⟨top, htop, hc⟩, h⟩
    refine ⟨_, (mem_ofEntries_iff Path.base).mpr ⟨top, htop, rfl⟩, ?_⟩
    rw [← htop.path_eq, mem_places_ofNode_iff]
    exact ⟨c, hc, h⟩

/-- Two texts or more make a set of two or more. -/
theorem one_lt_size_ofList_iff {values : List String} :
    1 < (Std.ExtTreeSet.ofList values).size ↔ ∃ a ∈ values, ∃ b ∈ values, a ≠ b := by
  have hmem : ∀ a, a ∈ (Std.ExtTreeSet.ofList values).toList ↔ a ∈ values := by simp
  have hnodup : (Std.ExtTreeSet.ofList values).toList.Nodup := nodup_toList _
  simp only [← Std.ExtTreeSet.length_toList, ← hmem]
  generalize (Std.ExtTreeSet.ofList values).toList = l at hnodup
  match l, hnodup with
  | [], _ => simp
  | [a], _ => simp
  | a :: b :: l, h =>
    have hne : a ≠ b := List.rel_of_pairwise_cons h List.mem_cons_self
    simp only [List.length_cons, Nat.lt_add_left_iff_pos, Nat.zero_lt_succ, true_iff]
    exact ⟨a, List.mem_cons_self, b, List.mem_cons_of_mem _ List.mem_cons_self, hne⟩

/-- An element has several values exactly if its entries do. -/
theorem one_lt_size_values_iff {declaration : Declaration} {element : List (Node × Node)} :
    1 < (Std.ExtTreeSet.ofList (elementOf declaration element).values).size ↔
      IsMultiValued element := by
  rw [one_lt_size_ofList_iff, IsMultiValued, elementOf, Element.values, List.filterMap_map]
  rfl

/-- A schema is a type of its own exactly if the element of its shape is. -/
theorem isTypeSchema_iff {n : Node} {description : Option String} {dimensions : Nat} {e : Element}
    (h : ofNode n = .valid description dimensions e members) :
    IsTypeSchema n ↔ Extraction.IsTyped e := by
  have htyped : ∀ declaration element, Extraction.IsTyped (elementOf declaration element) ↔
      declaration = .type objectType ∨ IsMultiValued element := by
    intro declaration element
    exact or_congr Declaration.typeName_eq_objectType_iff one_lt_size_values_iff
  refine ⟨?_, ?_⟩
  · rintro ⟨dimensions', element, declaration, he, hd, ht⟩
    obtain ⟨description', h'⟩ := ofNode_of_hasElement he hd
    rw [h, valid.injEq] at h'
    rw [h'.2.2.1]
    exact (htyped declaration element).mpr ht
  · intro ht
    obtain ⟨element, declaration, he, hd, rfl, -⟩ := hasElement_of_ofNode h
    exact ⟨dimensions, element, declaration, he, hd, (htyped declaration element).mp ht⟩

/-- The names of entries are safe exactly if those of their shapes are. -/
theorem safeMembers_ofEntries_iff {entries : List (Node × Node)} :
    SafeMembers (ofEntries entries) ↔ SafeNames entries := by
  have hnames := map_fst_ofEntries entries
  refine ⟨fun h => ⟨fun name hn => ?_, hnames ▸ h.nodup⟩,
    fun h => ⟨fun m hm => ?_, hnames ▸ h.nodup⟩⟩
  · rw [← hnames] at hn
    obtain ⟨m, hm, rfl⟩ := List.mem_map.mp hn
    exact h.isSegment m hm
  · exact h.isSegment m.1 (hnames ▸ List.mem_map_of_mem hm)

end Shape

namespace PathSafe

variable {schemas : List (Node × Node)} {c : Site}

theorem safeMembers (h : PathSafe schemas) (hc : IsSite schemas c) :
    Shape.SafeMembers (Shape.ofNode c.node).visited := by
  rcases Shape.visited_ofNode c.node with hv | ⟨properties, hp, hv⟩
  · rw [hv]
    exact ⟨fun _ hm => absurd hm List.not_mem_nil, List.nodup_nil⟩
  · rw [hv]
    exact Shape.safeMembers_ofEntries_iff.mpr (h.members hc hp)

/-- In a path-safe document the shapes of all sites are safe. -/
theorem safe (h : PathSafe schemas) (hc : IsSite schemas c) : (Shape.ofNode c.node).Safe := by
  induction hs : Shape.ofNode c.node using Shape.visitedInduction generalizing c with
  | step s ih =>
    subst hs
    refine .intro (h.safeMembers hc) fun m hm => ?_
    obtain ⟨d, hd, rfl⟩ := Shape.mem_visited_iff.mp hm
    obtain ⟨top, htop, hreach⟩ := hc
    exact ih _ hm ⟨top, htop, hreach.tail hd⟩ rfl

/-- A site lies below another path by its name, which is a segment. -/
theorem exists_parent (h : PathSafe schemas) (hc : IsSite schemas c) :
    ∃ parent, c.path = Path.child parent c.name ∧ Path.IsSegment c.name := by
  have hentry : ∀ {parent entries}, SafeNames entries → c.IsEntry parent entries →
      ∃ parent, c.path = Path.child parent c.name ∧ Path.IsSegment c.name := by
    rintro parent entries hsafe ⟨⟨key, he, hname⟩, hpath⟩
    exact ⟨parent, hpath, hsafe.isSegment _ (List.mem_filterMap.mpr ⟨_, he, hname⟩)⟩
  obtain ⟨top, htop, hreach⟩ := hc
  cases hreach with
  | refl => exact hentry h.components htop
  | tail hreach hd =>
    obtain ⟨properties, hp, he⟩ := hd
    exact hentry (h.members ⟨top, htop, hreach⟩ hp) he

theorem allSafe (h : PathSafe schemas) : Shape.AllSafe (Shape.ofEntries schemas) where
  toSafeMembers := Shape.safeMembers_ofEntries_iff.mpr h.components
  safe m hm := by
    obtain ⟨c, hc, rfl⟩ := (Shape.mem_ofEntries_iff Path.base).mp hm
    exact h.safe ⟨c, hc, .refl⟩

end PathSafe

/-! ### Checking names -/

instance (entries : List (Node × Node)) : Decidable (SafeNames entries) :=
  decidable_of_iff
    ((∀ name ∈ namesOf entries, Path.IsSegment name) ∧ (namesOf entries).Nodup)
    ⟨fun h => ⟨h.1, h.2⟩, fun h => ⟨h.isSegment, h.nodup⟩⟩

instance (members : List (String × Shape)) : Decidable (Shape.SafeMembers members) :=
  decidable_of_iff ((∀ m ∈ members, Path.IsSegment m.1) ∧ (members.map Prod.fst).Nodup)
    ⟨fun h => ⟨h.1, h.2⟩, fun h => ⟨h.isSegment, h.nodup⟩⟩

/-- A document is path-safe if the names at all places are safe. -/
theorem pathSafe_iff {schemas : List (Node × Node)} : PathSafe schemas ↔ SafeNames schemas ∧
    ∀ place ∈ Shape.placesBelow Path.base (Shape.ofEntries schemas),
      Shape.SafeMembers place.2.visited := by
  refine ⟨?_, ?_⟩
  · rintro h
    refine ⟨h.components, fun place hplace => ?_⟩
    obtain ⟨c, hc, -, hs⟩ := Shape.mem_placesBelow_ofEntries_iff.mp hplace
    rw [← hs]
    exact h.safeMembers hc
  · rintro ⟨hcomponents, hplaces⟩
    refine ⟨hcomponents, fun {c properties} hc hp => ?_⟩
    have hs := hplaces _ (Shape.mem_placesBelow_ofEntries_iff.mpr ⟨c, hc, rfl, rfl⟩)
    rwa [Shape.visited_of_hasProperties hp, Shape.safeMembers_ofEntries_iff] at hs

instance (schemas : List (Node × Node)) : Decidable (PathSafe schemas) :=
  decidable_of_iff _ pathSafe_iff.symm

end SchemaBeans.Schema
