import SchemaBeans.Proofs.Extraction.Steps

/-!
# Extraction — how a model is filled

Adding shapes below a path changes an extraction at the paths of those shapes and at the list of
their parent, and nowhere else.  Within the path of one of them it leaves all that its places say if
none of these is faulty, and otherwise nothing at all (`Fills`).  The errors are those of the faulty
places, be they pruned or not.

This needs safe names, and that nothing was stored or recorded within the paths before (`Fresh`).
Shapes whose paths lie apart fill one after another (`Fills.append`), and a shape fills its path if
its members fill theirs, as its steps show (`Fills.close`); so every shape does (`fills_addShape`).
-/

namespace SchemaBeans.Schema

open Shape (memberPaths places placesBelow requiredPaths)

namespace Extraction

/-- The path lies within one of the others. -/
def Covered (paths : List String) (q : String) : Prop :=
  ∃ path ∈ paths, Path.isWithin q path = true

/-- No place within the path is faulty. -/
def SoundWithin (places : List (String × Shape)) (path : String) : Prop :=
  ∀ q fault, (q, Shape.faulty fault) ∈ places → Path.isWithin q path = false

/-- Nothing is stored or recorded within the paths. -/
structure Fresh (paths : List String) (x : Extraction) : Prop where
  error {q : String} : Covered paths q → x.errors.cause? q = none
  property {q : String} : Covered paths q → x.model.property? q = none
  type {q : String} : Covered paths q → x.model.type? q = none

/-- `y` is `x` with the shapes at `children`, which lie below `parent`, put in by their places. -/
structure Fills (parent : String) (children : List String) (places : List (String × Shape))
    (x y : Extraction) : Prop where
  /-- The new errors are those of faulty places. -/
  error {q : String} {c : Cause} : y.errors.cause? q = some c ↔
    x.errors.cause? q = some c ∨ ∃ fault, (q, Shape.faulty fault) ∈ places ∧ c = .node fault
  property_outside {q : String} : ¬Covered children q → y.model.property? q = x.model.property? q
  type_outside {q : String} : ¬Covered children q → q ≠ parent → y.model.type? q = x.model.type? q
  /-- The type around the children lists them, if all of them can be used. -/
  type_parent : (∀ child ∈ children, SoundWithin places child) →
    y.model.type? parent = (x.model.type? parent).map (SchemaType.listing children)
  property_inside {q child : String} {s : Shape} : child ∈ children → SoundWithin places child →
    (q, s) ∈ places → Path.isWithin q child = true →
      y.model.property? q = s.propertyAt (requiredPaths places) q
  type_inside {q child : String} {s : Shape} : child ∈ children → SoundWithin places child →
    (q, s) ∈ places → Path.isWithin q child = true → y.model.type? q = s.typeAt q
  /-- There is nothing else, and nothing at all within a child with a faulty place. -/
  nothing {q child : String} : child ∈ children → Path.isWithin q child = true →
    (SoundWithin places child → ∀ s, (q, s) ∉ places) →
      y.model.property? q = none ∧ y.model.type? q = none

variable {x y z : Extraction} {parent path name q : String} {children children' : List String}
  {ps ps' members : List (String × Shape)}

/-! ### Covered paths -/

theorem covered_singleton : Covered [path] q ↔ Path.isWithin q path = true := by
  simp [Covered]

theorem covered_append :
    Covered (children ++ children') q ↔ Covered children q ∨ Covered children' q := by
  simp only [Covered, List.mem_append, or_and_right, exists_or]

theorem Covered.child (h : Covered children q) (name : String) :
    Covered children (Path.child q name) := by
  obtain ⟨path, hp, hw⟩ := h
  exact ⟨path, hp, Path.isWithin_trans (Path.isWithin_child q name) hw⟩

/-- What members cover lies below their parent. -/
theorem isWithin_of_covered (h : Covered (memberPaths parent members) q) :
    Path.isWithin q parent = true ∧ q ≠ parent := by
  obtain ⟨path, hp, hw⟩ := h
  obtain ⟨m, -, rfl⟩ := List.mem_map.mp hp
  exact ⟨Path.isWithin_trans hw (Path.isWithin_child parent m.1), Path.ne_of_isWithin_child hw⟩

/-- A member and the members with other names cover no path in common. -/
theorem not_covered_of_isWithin (hn : Path.IsSegment name)
    (hseg : ∀ m ∈ members, Path.IsSegment m.1) (hnot : name ∉ members.map Prod.fst)
    (hw : Path.isWithin q (Path.child parent name) = true) :
    ¬Covered (memberPaths parent members) q := by
  rintro ⟨path, hp, hw'⟩
  obtain ⟨m, hm, rfl⟩ := List.mem_map.mp hp
  refine hnot (List.mem_map.mpr ⟨m, hm, ?_⟩)
  exact Path.eq_of_isWithin_children (hseg m hm) hn hw' hw

theorem covered_of_mem_placesBelow {s : Shape} (h : (q, s) ∈ placesBelow parent members) :
    Covered (memberPaths parent members) q := by
  obtain ⟨m, hm, hs⟩ := Shape.mem_placesBelow_iff.mp h
  exact ⟨_, List.mem_map.mpr ⟨m, hm, rfl⟩, Shape.isWithin_of_mem_places hs⟩

/-- Required paths are covered where the places are. -/
theorem covered_of_mem_requiredPaths (hps : ∀ q s, (q, s) ∈ ps → Covered children q)
    (h : q ∈ requiredPaths ps) : Covered children q := by
  obtain ⟨path, s, name, hs, -, rfl⟩ := Shape.mem_requiredPaths_iff.mp h
  exact (hps path s hs).child name

/-- No error lies within a fresh path. -/
theorem Fresh.isWithin_eq_false (h : Fresh [path] x) {c : Cause}
    (hc : x.errors.cause? q = some c) : Path.isWithin q path = false := by
  rw [Bool.eq_false_iff]
  intro hw
  rw [h.error (covered_singleton.mpr hw)] at hc
  cases hc

theorem Fresh.mono (h : Fresh children x) (hc : ∀ q, Covered children' q → Covered children q) :
    Fresh children' x :=
  ⟨fun hq => h.error (hc _ hq), fun hq => h.property (hc _ hq), fun hq => h.type (hc _ hq)⟩

/-- Everything is fresh in the beginning. -/
theorem fresh_empty (paths : List String) : Fresh paths {} :=
  ⟨fun _ => Errors.cause?_empty _, fun _ => Model.property?_empty _, fun _ => Model.type?_empty _⟩

/-! ### One after another -/

theorem mem_requiredPaths_append : q ∈ requiredPaths (ps ++ ps') ↔
    q ∈ requiredPaths ps ∨ q ∈ requiredPaths ps' := by
  simp only [requiredPaths, List.flatMap_append, List.mem_append]

theorem SoundWithin.mono (h : SoundWithin ps path)
    (hsub : ∀ q s, Path.isWithin q path = true → (q, s) ∈ ps' → (q, s) ∈ ps) :
    SoundWithin ps' path := by
  intro q fault hq
  by_contra hw
  rw [Bool.not_eq_false] at hw
  rw [h q fault (hsub q _ hw hq)] at hw
  cases hw

/-- Soundness within a path is a matter of the places within it. -/
theorem soundWithin_congr
    (h : ∀ q s, Path.isWithin q path = true → ((q, s) ∈ ps ↔ (q, s) ∈ ps')) :
    SoundWithin ps path ↔ SoundWithin ps' path :=
  ⟨fun hs => hs.mono fun q s hw => (h q s hw).mpr, fun hs => hs.mono fun q s hw => (h q s hw).mp⟩

/-- **One after another.**  Children that cover no path in common may be put in one after
another. -/
theorem Fills.append (h : Fills parent children ps x y) (h' : Fills parent children' ps' y z)
    (hps : ∀ q s, (q, s) ∈ ps → Covered children q)
    (hps' : ∀ q s, (q, s) ∈ ps' → Covered children' q)
    (hdisjoint : ∀ q, Covered children q → ¬Covered children' q)
    (hparent : ¬Covered (children ++ children') parent) :
    Fills parent (children ++ children') (ps ++ ps') x z := by
  -- the parent is outside, so its list is not what changes within the children
  have hne : ∀ {q}, Covered (children ++ children') q → q ≠ parent := by
    rintro q hq rfl
    exact hparent hq
  -- within a child there are only the places of its own side
  have hleft : ∀ {child}, child ∈ children → ∀ q s, Path.isWithin q child = true →
      ((q, s) ∈ ps ++ ps' ↔ (q, s) ∈ ps) := by
    intro child hchild q s hw
    rw [List.mem_append, or_iff_left]
    exact fun hs => hdisjoint q ⟨child, hchild, hw⟩ (hps' q s hs)
  have hright : ∀ {child}, child ∈ children' → ∀ q s, Path.isWithin q child = true →
      ((q, s) ∈ ps ++ ps' ↔ (q, s) ∈ ps') := by
    intro child hchild q s hw
    rw [List.mem_append, or_iff_right]
    exact fun hs => hdisjoint q (hps q s hs) ⟨child, hchild, hw⟩
  constructor
  case error =>
    intro q c
    rw [h'.error, h.error]
    simp only [List.mem_append, or_and_right, exists_or, or_assoc]
  case property_outside =>
    intro q hq
    obtain ⟨hq, hq'⟩ := not_or.mp (covered_append.not.mp hq)
    rw [h'.property_outside hq', h.property_outside hq]
  case type_outside =>
    intro q hq hne
    obtain ⟨hq, hq'⟩ := not_or.mp (covered_append.not.mp hq)
    rw [h'.type_outside hq' hne, h.type_outside hq hne]
  case type_parent =>
    intro hsound
    rw [h'.type_parent fun child hchild => ?_, h.type_parent fun child hchild => ?_, Option.map_map]
    · exact congrArg (fun f => Option.map f _)
        (funext fun t => (t.listing_append children children').symm)
    · exact (soundWithin_congr (hleft hchild)).mp (hsound child (List.mem_append_left _ hchild))
    · exact (soundWithin_congr (hright hchild)).mp (hsound child (List.mem_append_right _ hchild))
  case property_inside =>
    intro q child s hchild hsound hs hw
    rcases List.mem_append.mp hchild with hchild | hchild
    · have hcov : Covered children q := ⟨child, hchild, hw⟩
      rw [h'.property_outside (hdisjoint q hcov), h.property_inside hchild
        ((soundWithin_congr (hleft hchild)).mp hsound) ((hleft hchild q s hw).mp hs) hw]
      refine Shape.propertyAt_congr ?_
      rw [mem_requiredPaths_append, or_iff_left]
      exact fun hr => hdisjoint q hcov (covered_of_mem_requiredPaths hps' hr)
    · have hcov : Covered children' q := ⟨child, hchild, hw⟩
      rw [h'.property_inside hchild ((soundWithin_congr (hright hchild)).mp hsound)
        ((hright hchild q s hw).mp hs) hw]
      refine Shape.propertyAt_congr ?_
      rw [mem_requiredPaths_append, or_iff_right]
      exact fun hr => hdisjoint q (covered_of_mem_requiredPaths hps hr) hcov
  case type_inside =>
    intro q child s hchild hsound hs hw
    rcases List.mem_append.mp hchild with hchild | hchild
    · have hcov : Covered children q := ⟨child, hchild, hw⟩
      rw [h'.type_outside (hdisjoint q hcov) (hne (covered_append.mpr (Or.inl hcov)))]
      exact h.type_inside hchild ((soundWithin_congr (hleft hchild)).mp hsound)
        ((hleft hchild q s hw).mp hs) hw
    · exact h'.type_inside hchild ((soundWithin_congr (hright hchild)).mp hsound)
        ((hright hchild q s hw).mp hs) hw
  case nothing =>
    intro q child hchild hw hnot
    rcases List.mem_append.mp hchild with hchild | hchild
    · have hcov : Covered children q := ⟨child, hchild, hw⟩
      rw [h'.property_outside (hdisjoint q hcov),
        h'.type_outside (hdisjoint q hcov) (hne (covered_append.mpr (Or.inl hcov)))]
      refine h.nothing hchild hw fun hsound s hs => ?_
      exact hnot ((soundWithin_congr (hleft hchild)).mpr hsound) s ((hleft hchild q s hw).mpr hs)
    · refine h'.nothing hchild hw fun hsound s hs => ?_
      exact hnot ((soundWithin_congr (hright hchild)).mpr hsound) s ((hright hchild q s hw).mpr hs)

/-- Nothing is put in for no children. -/
theorem fills_nil (parent : String) (x : Extraction) : Fills parent [] [] x x := by
  constructor <;> simp [Covered]

/-- What is put in for some children leaves the paths of others as they were. -/
theorem Fills.fresh (h : Fills parent children ps x y)
    (hps : ∀ q s, (q, s) ∈ ps → Covered children q) (hx : Fresh children' x)
    (hdisjoint : ∀ q, Covered children' q → ¬Covered children q)
    (hparent : ¬Covered children' parent) : Fresh children' y := by
  constructor
  case error =>
    intro q hq
    rw [Option.eq_none_iff_forall_ne_some]
    intro c hc
    rcases h.error.mp hc with hc | ⟨fault, hf, -⟩
    · rw [hx.error hq] at hc
      cases hc
    · exact hdisjoint q hq (hps q _ hf)
  case property =>
    intro q hq
    rw [h.property_outside (hdisjoint q hq), hx.property hq]
  case type =>
    intro q hq
    have hne : q ≠ parent := by
      rintro rfl
      exact hparent hq
    rw [h.type_outside (hdisjoint q hq) hne, hx.type hq]

/-- A member and its siblings cover no path in common. -/
theorem not_covered_siblings {s : Shape} (hm : Shape.SafeMembers ((name, s) :: members))
    (hq : Covered [Path.child parent name] q) : ¬Covered (memberPaths parent members) q :=
  not_covered_of_isWithin (hm.isSegment _ List.mem_cons_self)
    (fun m hm' => hm.isSegment m (List.mem_cons_of_mem _ hm')) (List.nodup_cons.mp hm.nodup).1
    (covered_singleton.mp hq)

/-- When a member has been put in, its siblings are as fresh as before. -/
theorem Fills.fresh_siblings {s : Shape} (hm : Shape.SafeMembers ((name, s) :: members))
    (hx : Fresh (memberPaths parent ((name, s) :: members)) x)
    (h : Fills parent [Path.child parent name] (places (Path.child parent name) s) x y) :
    Fresh (memberPaths parent members) y := by
  have hx' : Fresh ([Path.child parent name] ++ memberPaths parent members) x := hx
  have hothers : Fresh (memberPaths parent members) x :=
    hx'.mono fun q hq => covered_append.mpr (Or.inr hq)
  exact h.fresh (fun q t hq => covered_singleton.mpr (Shape.isWithin_of_mem_places hq)) hothers
    (fun q hq hw => not_covered_siblings hm hw hq) fun h => (isWithin_of_covered h).2 rfl

/-- The first of some fresh members is fresh. -/
theorem Fresh.head {s : Shape} (hx : Fresh (memberPaths parent ((name, s) :: members)) x) :
    Fresh [Path.child parent name] x := by
  have hx' : Fresh ([Path.child parent name] ++ memberPaths parent members) x := hx
  exact hx'.mono fun _ hq => covered_append.mpr (Or.inl hq)

/-- The members of a parent may be added one after another, if each fills its path. -/
theorem fills_addShapes (hm : Shape.SafeMembers members) (hx : Fresh (memberPaths parent members) x)
    (hfill : ∀ m ∈ members, ∀ x, Fresh [Path.child parent m.1] x →
      Fills parent [Path.child parent m.1] (places (Path.child parent m.1) m.2) x
        (addShape (Path.child parent m.1) m.2 x)) :
    Fills parent (memberPaths parent members) (placesBelow parent members) x
      (addShapes parent members x) := by
  induction members generalizing x with
  | nil => exact fills_nil parent x
  | cons m members ih =>
    obtain ⟨name, s⟩ := m
    have hfirst := hfill _ List.mem_cons_self x hx.head
    have hrest := ih hm.tail (hfirst.fresh_siblings hm hx)
      fun m hm' => hfill m (List.mem_cons_of_mem _ hm')
    have hparent : ¬Covered (memberPaths parent ((name, s) :: members)) parent :=
      fun h => (isWithin_of_covered h).2 rfl
    exact hfirst.append hrest
      (fun q t hq => covered_singleton.mpr (Shape.isWithin_of_mem_places hq))
      (fun q t hq => covered_of_mem_placesBelow hq) (fun q hq => not_covered_siblings hm hq) hparent

/-! ### One path -/

/-- Of a path with a faulty place only the errors matter, as long as nothing is left there. -/
theorem Fills.of_faulty {fault : NodeFault} (hfault : (q, Shape.faulty fault) ∈ ps)
    (hw : Path.isWithin q path = true)
    (herror : ∀ {q c}, y.errors.cause? q = some c ↔
      x.errors.cause? q = some c ∨ ∃ fault, (q, Shape.faulty fault) ∈ ps ∧ c = .node fault)
    (hproperty : ∀ {q}, ¬Path.isWithin q path = true →
      y.model.property? q = x.model.property? q)
    (htype : ∀ {q}, ¬Path.isWithin q path = true → q ≠ parent →
      y.model.type? q = x.model.type? q)
    (hnothing : ∀ {q}, Path.isWithin q path = true →
      y.model.property? q = none ∧ y.model.type? q = none) : Fills parent [path] ps x y := by
  have hunsound : ∀ child ∈ [path], ¬SoundWithin ps child := by
    intro child hchild hsound
    rw [List.mem_singleton.mp hchild] at hsound
    rw [hsound q fault hfault] at hw
    cases hw
  constructor
  case error => exact herror
  case property_outside => exact fun hq => hproperty (covered_singleton.not.mp hq)
  case type_outside => exact fun hq => htype (covered_singleton.not.mp hq)
  case type_parent =>
    exact fun hsound => absurd (hsound path List.mem_cons_self) (hunsound path List.mem_cons_self)
  case property_inside => exact fun hchild hsound => absurd hsound (hunsound _ hchild)
  case type_inside => exact fun hchild hsound => absurd hsound (hunsound _ hchild)
  case nothing =>
    intro q child hchild hw _
    rw [List.mem_singleton.mp hchild] at hw
    exact hnothing hw

/-- A faulty shape fills its path with an error. -/
theorem fills_fail (fault : NodeFault) (hx : Fresh [path] x) :
    Fills parent [path] (places path (.faulty fault)) x (x.fail path fault) := by
  refine .of_faulty (Shape.mem_places_self path _) (Path.isWithin_self path) (fun {q c} => ?_)
    (fun _ => rfl) (fun _ _ => rfl) fun hw =>
      ⟨hx.property (covered_singleton.mpr hw), hx.type (covered_singleton.mpr hw)⟩
  simp only [fail, Errors.cause?_record, places, List.mem_singleton, Prod.mk.injEq,
    Shape.faulty.injEq]
  by_cases hq : q = path
  · subst hq
    simp [hx.error (covered_singleton.mpr (Path.isWithin_self q)), eq_comm]
  · simp [hq]

section Closing

variable {description : Option String} {dimensions : Nat} {element : Element} {s : Shape}

/-- Before its members are gone through, nothing is stored or recorded below an entered path. -/
theorem fresh_enter (description : Option String) (dimensions : Nat) (element : Element)
    (hn : Path.IsSegment name) (hx : Fresh [Path.child parent name] x) :
    Fresh (memberPaths (Path.child parent name) members)
      (x.enter (Path.child parent name) description dimensions element) := by
  have hcov : ∀ {q}, Covered (memberPaths (Path.child parent name) members) q →
      Covered [Path.child parent name] q ∧ q ≠ Path.child parent name ∧ q ≠ parent := by
    intro q hq
    obtain ⟨hw, hne⟩ := isWithin_of_covered hq
    exact ⟨covered_singleton.mpr hw, hne, Path.ne_of_isWithin_child hw⟩
  constructor
  case error =>
    intro q hq
    rw [errors_enter, hx.error (hcov hq).1]
  case property =>
    intro q hq
    rw [property?_enter, if_neg (hcov hq).2.1, hx.property (hcov hq).1]
  case type =>
    intro q hq
    rw [type?_enter members hn, if_neg (fun h => (hcov hq).2.1 h.1),
      if_neg (hcov hq).2.2, hx.type (hcov hq).1]

/-- Entering a path puts in the property and the type of its shape, without members. -/
theorem lookup_enter (hn : Path.IsSegment name) (hx : Fresh [Path.child parent name] x)
    (hs : s = .valid description dimensions element members) :
    (x.enter (Path.child parent name) description dimensions element).model.property?
        (Path.child parent name) =
          s.propertyAt (requiredPaths (places (Path.child parent name) s))
            (Path.child parent name) ∧
      (x.enter (Path.child parent name) description dimensions element).model.type?
        (Path.child parent name) = s.bareTypeAt (Path.child parent name) := by
  have hnot := Shape.not_mem_requiredPaths_places (Path.child parent name) s
  subst hs
  refine ⟨?_, ?_⟩
  · rw [property?_enter, if_pos rfl, Shape.propertyAt_of_not_mem hnot]
  · rw [type?_enter members hn]
    by_cases ht : IsTyped element
    · rw [if_pos ⟨rfl, ht⟩]
    · rw [if_neg fun h => ht h.2, if_neg (Path.child_ne_self parent name),
        hx.type (covered_singleton.mpr (Path.isWithin_self _)), Shape.bareTypeAt, if_neg ht]

/-- Elsewhere it changes nothing but the list of the type around the path. -/
theorem lookup_enter_of_ne (x : Extraction) (description : Option String) (dimensions : Nat)
    (element : Element) (hn : Path.IsSegment name) (hq : q ≠ Path.child parent name) :
    (x.enter (Path.child parent name) description dimensions element).model.property? q =
        x.model.property? q ∧
      (x.enter (Path.child parent name) description dimensions element).model.type? q =
        if q = parent then (x.model.type? q).map (SchemaType.listing [Path.child parent name])
        else x.model.type? q := by
  refine ⟨?_, ?_⟩
  · rw [property?_enter, if_neg hq]
  · rw [type?_enter [] hn, if_neg fun h => hq h.1]

/-- Going through the members of an entered path leaves what lies outside the path. -/
theorem Fills.lookup_outside (hn : Path.IsSegment name)
    (inner : Fills (Path.child parent name) (memberPaths (Path.child parent name) members) ps
      (x.enter (Path.child parent name) description dimensions element) y)
    (hq : ¬Path.isWithin q (Path.child parent name) = true) :
    y.model.property? q = x.model.property? q ∧
      y.model.type? q =
        if q = parent then (x.model.type? q).map (SchemaType.listing [Path.child parent name])
        else x.model.type? q := by
  have hne : q ≠ Path.child parent name := by
    rintro rfl
    exact hq (Path.isWithin_self _)
  have hcov : ¬Covered (memberPaths (Path.child parent name) members) q :=
    fun h => hq (isWithin_of_covered h).1
  obtain ⟨hproperty, htype⟩ := lookup_enter_of_ne x description dimensions element hn hne
  exact ⟨(inner.property_outside hcov).trans hproperty, (inner.type_outside hcov hne).trans htype⟩

/-- The errors within a path are those of its members, for the shape there is valid. -/
theorem Fills.error_of_members
    (hs : s = .valid description dimensions element members)
    (inner : Fills path (memberPaths path s.visited) (placesBelow path s.visited)
      (x.enter path description dimensions element) y) {c : Cause} :
    y.errors.cause? q = some c ↔
      x.errors.cause? q = some c ∨ ∃ fault, (q, Shape.faulty fault) ∈ places path s ∧
        c = .node fault := by
  rw [inner.error, errors_enter, Shape.places_eq]
  refine or_congr_right (exists_congr fun fault => and_congr_left fun _ => ?_)
  rw [List.mem_cons, or_iff_right]
  rw [hs]
  intro h
  cases h

/-- What lies outside a path is not required by the shape there. -/
theorem ne_child_of_not_isWithin (hq : ¬Path.isWithin q path = true) (name : String) :
    q ≠ Path.child path name := by
  rintro rfl
  exact hq (Path.isWithin_child path name)

/-- A valid shape without faulty places fills its path. -/
theorem Fills.close_of_sound (hn : Path.IsSegment name) (hx : Fresh [Path.child parent name] x)
    (hs : s = .valid description dimensions element members)
    (inner : Fills (Path.child parent name) (memberPaths (Path.child parent name) s.visited)
      (placesBelow (Path.child parent name) s.visited)
      (x.enter (Path.child parent name) description dimensions element) y)
    (hsound : ∀ q fault, (q, Shape.faulty fault) ∉ places (Path.child parent name) s) :
    Fills parent [Path.child parent name] (places (Path.child parent name) s) x
      (s.requiredNames.foldl (require (Path.child parent name)) y) := by
  obtain ⟨hown, hbare⟩ := lookup_enter hn hx hs
  have hself : ¬Covered (memberPaths (Path.child parent name) s.visited) (Path.child parent name) :=
    fun h => (isWithin_of_covered h).2 rfl
  have hinner : ∀ child, SoundWithin (placesBelow (Path.child parent name) s.visited) child := by
    intro child q fault hq
    refine absurd ?_ (hsound q fault)
    rw [Shape.places_eq]
    exact List.mem_cons_of_mem _ hq
  constructor
  case error =>
    intro q c
    rw [errors_requireAll]
    exact inner.error_of_members hs
  case property_outside =>
    intro q hq
    rw [covered_singleton] at hq
    rw [property?_requireAll_of_ne _ (ne_child_of_not_isWithin hq)]
    exact (inner.lookup_outside hn hq).1
  case type_outside =>
    intro q hq hne
    rw [covered_singleton] at hq
    rw [type?_requireAll, (inner.lookup_outside hn hq).2, if_neg hne]
  case type_parent =>
    intro _
    rw [type?_requireAll, (inner.lookup_outside hn _).2, if_pos rfl]
    rw [Path.not_isWithin_child]
    exact Bool.false_ne_true
  case property_inside =>
    intro q child t _ _ ht _
    rw [Shape.places_eq, List.mem_cons, Prod.mk.injEq] at ht
    rcases ht with ⟨rfl, rfl⟩ | ht
    -- the shape itself, which nothing within its path requires
    · rw [property?_requireAll_of_ne _ fun n => (Path.child_ne_self _ n).symm,
        inner.property_outside hself, hown]
    -- a place below, which the shape may require besides
    · obtain ⟨c, hc, hw⟩ := covered_of_mem_placesBelow ht
      rw [property?_requireAll, inner.property_inside hc (hinner c) ht hw, Shape.map_propertyAt,
        ← Shape.requiredPaths_places]
  case type_inside =>
    intro q child t _ _ ht _
    rw [Shape.places_eq, List.mem_cons, Prod.mk.injEq] at ht
    rw [type?_requireAll]
    rcases ht with ⟨rfl, rfl⟩ | ht
    · rw [inner.type_parent fun c _ => hinner c, hbare, Shape.typeAt]
    · obtain ⟨c, hc, hw⟩ := covered_of_mem_placesBelow ht
      exact inner.type_inside hc (hinner c) ht hw
  case nothing =>
    intro q child hchild hw hnot
    rw [List.mem_singleton.mp hchild] at hw hnot
    have hnot' : ∀ t, (q, t) ∉ places (Path.child parent name) s :=
      hnot fun q fault hq => absurd hq (hsound q fault)
    have hne : q ≠ Path.child parent name := by
      rintro rfl
      exact hnot' s (Shape.mem_places_self _ _)
    rw [property?_requireAll, type?_requireAll, Option.map_eq_none_iff]
    -- a path within the shape's, but not within that of a member, was never touched
    by_cases hcov : Covered (memberPaths (Path.child parent name) s.visited) q
    · obtain ⟨c, hc, hw⟩ := hcov
      refine inner.nothing hc hw fun _ t ht => hnot' t ?_
      rw [Shape.places_eq]
      exact List.mem_cons_of_mem _ ht
    · have hfresh := covered_singleton.mpr hw
      obtain ⟨hproperty, htype⟩ := lookup_enter_of_ne x description dimensions element hn hne
      rw [inner.property_outside hcov, inner.type_outside hcov hne, hproperty, htype]
      refine ⟨hx.property hfresh, ?_⟩
      rw [if_neg (Path.ne_of_isWithin_child hw), hx.type hfresh]

/-- A valid shape with a faulty place fills its path with errors only. -/
theorem Fills.close_of_faulty (hn : Path.IsSegment name)
    (hs : s = .valid description dimensions element members)
    (inner : Fills (Path.child parent name) (memberPaths (Path.child parent name) s.visited)
      (placesBelow (Path.child parent name) s.visited)
      (x.enter (Path.child parent name) description dimensions element) y)
    {q₀ : String} {fault : NodeFault}
    (hfault : (q₀, Shape.faulty fault) ∈ places (Path.child parent name) s) :
    Fills parent [Path.child parent name] (places (Path.child parent name) s) x
      ((s.requiredNames.foldl (require (Path.child parent name)) y).pruneFaulty
        (Path.child parent name)) := by
  have hw₀ := Shape.isWithin_of_mem_places hfault
  -- the error of the faulty place is what has the path pruned
  have hmodel : ((s.requiredNames.foldl (require (Path.child parent name)) y).pruneFaulty
      (Path.child parent name)).model =
        (s.requiredNames.foldl (require (Path.child parent name)) y).model.prune
          (Path.child parent name) := by
    refine model_pruneFaulty_of_error (c := .node fault) ?_ hw₀
    rw [errors_requireAll]
    exact (inner.error_of_members hs).mpr (Or.inr ⟨fault, hfault, rfl⟩)
  refine .of_faulty hfault hw₀ ?_ (fun hq => ?_) (fun hq hne => ?_) fun hw => ?_
  · intro q c
    rw [errors_pruneFaulty, errors_requireAll]
    exact inner.error_of_members hs
  · rw [hmodel, Model.property?_prune, if_neg hq,
      property?_requireAll_of_ne _ (ne_child_of_not_isWithin hq)]
    exact (inner.lookup_outside hn hq).1
  · rw [hmodel, Model.type?_prune, if_neg hq, Path.parent?_child parent hn,
      if_neg fun h => hne (Option.some.inj h).symm, type?_requireAll,
      (inner.lookup_outside hn hq).2, if_neg hne]
  · rw [hmodel, Model.property?_prune, Model.type?_prune, if_pos hw, if_pos hw]
    exact ⟨rfl, rfl⟩

end Closing

/-- **Filling.**  A shape with safe names fills its path. -/
theorem fills_addShape {s : Shape} (hs : s.Safe) (hn : Path.IsSegment name)
    (hx : Fresh [Path.child parent name] x) :
    Fills parent [Path.child parent name] (places (Path.child parent name) s) x
      (addShape (Path.child parent name) s x) := by
  induction hs generalizing parent name x with
  | @intro s hm _ ih =>
    cases s with
    | faulty fault => exact fills_fail fault hx
    | valid description dimensions element members =>
      rw [addShape_valid fun q c => hx.isWithin_eq_false]
      have inner := fills_addShapes hm (fresh_enter description dimensions element hn hx)
        fun m hmem x hx => ih m hmem (hm.isSegment m hmem) hx
      by_cases hfault : ∃ q fault, (q, Shape.faulty fault) ∈
          places (Path.child parent name) (.valid description dimensions element members)
      · obtain ⟨q, fault, hfault⟩ := hfault
        exact inner.close_of_faulty hn rfl hfault
      -- without a faulty place there is no error, and nothing is pruned
      · have hsound : ∀ q fault, (q, Shape.faulty fault) ∉
            places (Path.child parent name) (.valid description dimensions element members) :=
          fun q fault h => hfault ⟨q, fault, h⟩
        have hclose := inner.close_of_sound hn hx rfl hsound
        rw [pruneFaulty_of_sound]
        · exact hclose
        · intro q c hc
          rcases hclose.error.mp hc with hc | ⟨fault, hf, -⟩
          · exact hx.isWithin_eq_false hc
          · exact absurd hf (hsound q fault)

/-- Members with safe names fill their paths. -/
theorem fills_members (h : Shape.AllSafe members) (hx : Fresh (memberPaths parent members) x) :
    Fills parent (memberPaths parent members) (placesBelow parent members) x
      (addShapes parent members x) :=
  fills_addShapes h.toSafeMembers hx fun m hm _ hx =>
    fills_addShape (h.safe m hm) (h.isSegment m hm) hx

end Extraction

end SchemaBeans.Schema
