import Mathlib.Data.List.Perm.Basic
import SchemaBeans.Proofs.Extraction.Warnings

/-!
# Extraction — what an extraction looks at

Of the shape at a place an extraction looks at its *view* (`Shape.view`): at everything but the
order of members and of values, and how often a value is repeated.  What is put in for a place is
read off its view, and so are the warnings about it, if one knows the views of the places around it
(`View.warnings`).

So two path-safe documents whose places have the same views, in whatever order, are extracted alike:
their models and errors are equal, and they have the same warnings up to order
(`Extraction.ofEntries_congr`).
-/

namespace SchemaBeans.Schema

open Std (ExtTreeSet)
open Yaml (Node)
open Shape (memberPaths places placesBelow requiredPaths)

/-- What an extraction looks at in a shape. -/
inductive View where
  | faulty (fault : NodeFault)
  | valid (description : Option String) (dimensions : Nat) (declaration : Declaration)
      (elementDescription : Option String) (values : ExtTreeSet String) (valuesWithoutText : Nat)
      (required : List String) (names : ExtTreeSet String)

namespace View

/-- The view is that of a faulty shape. -/
def isFaulty : View → Bool
  | .faulty _ => true
  | .valid .. => false

/-- The names of the properties that an object requires. -/
def requiredNames : View → List String
  | .faulty _ => []
  | .valid _ _ declaration _ _ _ required _ =>
    if declaration.typeName = objectType then required else []

/-- The warnings about the element of a shape. -/
def openingWarnings (path : String) : View → List Warning
  | .faulty _ => []
  | .valid _ _ declaration _ _ valuesWithoutText _ _ =>
    (if declaration = .anyOf then [.anyType path] else []) ++
      List.replicate valuesWithoutText (.enumEntry path)

end View

namespace Shape

/-- The view of a shape: its names are those of the members that are visited. -/
def view (s : Shape) : View :=
  match s with
  | .faulty fault => .faulty fault
  | .valid description dimensions element _ =>
    .valid description dimensions element.declaration element.description
      (ExtTreeSet.ofList element.values) element.valuesWithoutText element.required
      (ExtTreeSet.ofList (s.visited.map Prod.fst))

/-- The places with their views instead of shapes. -/
def views (ps : List (String × Shape)) : List (String × View) :=
  ps.map fun place => (place.1, place.2.view)

/-- The places have the same views, in whatever order. -/
def SameViews (ps ps' : List (String × Shape)) : Prop := (views ps).Perm (views ps')

variable {s t : Shape} {path parent q name : String} {required : List String}
  {ps ps' members members' : List (String × Shape)}

/-! ### What a view tells -/

theorem isFaulty_view (s : Shape) : s.view.isFaulty = s.isFaulty := by cases s <;> rfl

theorem requiredNames_view (s : Shape) : s.view.requiredNames = s.requiredNames := by
  cases s <;> rfl

theorem openingWarnings_view (path : String) (s : Shape) :
    s.view.openingWarnings path = s.openingWarnings path := by cases s <;> rfl

/-- A faulty shape is all in its view. -/
theorem eq_faulty_of_view {fault : NodeFault} (h : s.view = (Shape.faulty fault).view) :
    s = .faulty fault := by
  cases s with
  | faulty fault' =>
    cases h
    rfl
  | valid => cases h

/-- Whether a schema is a type of its own depends on its declaration and on its values as a set. -/
theorem isTyped_congr {e e' : Element} (hd : e.declaration = e'.declaration)
    (hv : ExtTreeSet.ofList e.values = ExtTreeSet.ofList e'.values) :
    Extraction.IsTyped e ↔ Extraction.IsTyped e' := by
  rw [Extraction.IsTyped, Extraction.IsTyped, hd, hv]

/-- Of its values the property of a schema keeps the set. -/
theorem propertyOf_congr {e e' : Element} (hdecl : e.declaration = e'.declaration)
    (hdesc : e.description = e'.description)
    (hv : ExtTreeSet.ofList e.values = ExtTreeSet.ofList e'.values) (path : String)
    (description : Option String) (dimensions : Nat) :
    Extraction.propertyOf path description dimensions e =
      Extraction.propertyOf path description dimensions e' := by
  simp only [Extraction.propertyOf_eq, isTyped_congr hdecl hv, hdecl, hdesc, hv]

/-- The property of a place can be told from the view. -/
theorem propertyAt_congr_view (h : s.view = t.view) (required : List String) (q : String) :
    s.propertyAt required q = t.propertyAt required q := by
  cases t with
  | faulty fault => rw [eq_faulty_of_view h]
  | valid description dimensions element members =>
    cases s with
    | faulty fault => cases h
    | valid description' dimensions' element' members' =>
      simp only [view, View.valid.injEq] at h
      obtain ⟨rfl, rfl, hdecl, hdesc, hv, -⟩ := h
      rw [propertyAt, propertyAt, propertyOf_congr hdecl hdesc hv]

/-- The paths of members are told from the names, as a set. -/
theorem mem_memberPaths_iff :
    q ∈ memberPaths path members ↔
      ∃ name ∈ ExtTreeSet.ofList (members.map Prod.fst), q = Path.child path name := by
  simp [memberPaths, ExtTreeSet.mem_ofList, eq_comm]

/-- The type of a place can be told from the view. -/
theorem typeAt_congr_view (h : s.view = t.view) (q : String) : s.typeAt q = t.typeAt q := by
  cases t with
  | faulty fault => rw [eq_faulty_of_view h]
  | valid description dimensions element members =>
    cases s with
    | faulty fault => cases h
    | valid description' dimensions' element' members' =>
      simp only [view, View.valid.injEq] at h
      obtain ⟨rfl, rfl, hdecl, hdesc, hv, -, -, hnames⟩ := h
      rw [typeAt, typeAt, bareTypeAt, bareTypeAt, propertyOf_congr hdecl hdesc hv]
      simp only [isTyped_congr hdecl hv]
      refine congrArg (fun f => Option.map f _) (funext fun bare => ?_)
      refine SchemaType.listing_congr bare fun q => ?_
      rw [mem_memberPaths_iff, mem_memberPaths_iff, hnames]

/-! ### The same views -/

namespace SameViews

theorem symm (h : SameViews ps ps') : SameViews ps' ps := List.Perm.symm h

/-- For each place there is one with the same path and the same view among the others. -/
theorem exists_mem (h : SameViews ps ps') (hs : (q, s) ∈ ps) :
    ∃ s', (q, s') ∈ ps' ∧ s'.view = s.view := by
  have hv : (q, s.view) ∈ views ps' := h.mem_iff.mp (List.mem_map_of_mem hs)
  obtain ⟨⟨q', s'⟩, hs', he⟩ := List.mem_map.mp hv
  simp only [Prod.mk.injEq] at he
  exact ⟨s', he.1 ▸ hs', he.2⟩

theorem mem_requiredPaths (h : SameViews ps ps') (hq : q ∈ requiredPaths ps) :
    q ∈ requiredPaths ps' := by
  obtain ⟨path, s, name, hs, hname, rfl⟩ := mem_requiredPaths_iff.mp hq
  obtain ⟨s', hs', hv⟩ := h.exists_mem hs
  refine mem_requiredPaths_iff.mpr ⟨path, s', name, hs', ?_, rfl⟩
  rwa [← requiredNames_view, hv, requiredNames_view]

theorem soundWithin (h : SameViews ps ps') (hs : Extraction.SoundWithin ps path) :
    Extraction.SoundWithin ps' path := by
  intro q fault hq
  obtain ⟨s, hs', hv⟩ := h.symm.exists_mem hq
  rw [eq_faulty_of_view hv] at hs'
  exact hs q fault hs'

/-- What a member keeps, a member of the same name keeps with the same view. -/
theorem exists_keeps (h : SameViews (placesBelow parent members) (placesBelow parent members'))
    (hm : SafeMembers members) (hm' : SafeMembers members') {m : String × Shape}
    (hmem : m ∈ members) (hk : m.2.Keeps (Path.child parent m.1) q s) :
    ∃ m' ∈ members', m'.1 = m.1 ∧ ∃ s', m'.2.Keeps (Path.child parent m'.1) q s' ∧
      s'.view = s.view := by
  obtain ⟨s', hs', hv⟩ := h.exists_mem (mem_placesBelow_iff.mpr ⟨m, hmem, hk.mem⟩)
  obtain ⟨m', hmem', hs'⟩ := mem_placesBelow_iff.mp hs'
  have hname : m'.1 = m.1 := Path.eq_of_isWithin_children (hm'.isSegment m' hmem')
    (hm.isSegment m hmem) (isWithin_of_mem_places hs') hk.isWithin
  refine ⟨m', hmem', hname, s', ⟨?_, hs'⟩, hv⟩
  have hsound : Extraction.SoundWithin (placesBelow parent members) (Path.child parent m.1) :=
    (Extraction.soundWithin_placesBelow_iff hm hmem).mpr hk.isSound
  rw [← hname] at hsound
  exact (Extraction.soundWithin_placesBelow_iff hm' hmem').mp (h.soundWithin hsound)

/-- Members of the same name require the same within their path. -/
theorem mem_requiredPaths_member
    (h : SameViews (placesBelow parent members) (placesBelow parent members'))
    (hm : SafeMembers members) (hm' : SafeMembers members') {m m' : String × Shape}
    (hmem : m ∈ members) (hmem' : m' ∈ members') (hname : m'.1 = m.1)
    (hw : Path.isWithin q (Path.child parent m.1) = true) :
    q ∈ requiredPaths (places (Path.child parent m.1) m.2) ↔
      q ∈ requiredPaths (places (Path.child parent m'.1) m'.2) := by
  rw [← Extraction.mem_requiredPaths_placesBelow_iff hm hmem hw,
    ← Extraction.mem_requiredPaths_placesBelow_iff hm' hmem' (hname.symm ▸ hw)]
  exact ⟨h.mem_requiredPaths, h.symm.mem_requiredPaths⟩

end SameViews

/-! ### Warnings -/

/-- All warnings about a shape itself. -/
def ownWarnings (place : String × Shape) : List Warning :=
  place.2.openingWarnings place.1 ++ place.2.closingWarnings place.1

theorem warningsBelow_perm_of_members (h : ∀ m ∈ members, ∀ path,
      (m.2.warnings path).Perm ((places path m.2).flatMap ownWarnings)) :
    (warningsBelow parent members).Perm ((placesBelow parent members).flatMap ownWarnings) := by
  induction members with
  | nil => exact .refl _
  | cons m members ih =>
    obtain ⟨name, s⟩ := m
    rw [warningsBelow, placesBelow, List.flatMap_append]
    exact (h _ List.mem_cons_self _).append (ih fun m hm => h m (List.mem_cons_of_mem _ hm))

/-- The warnings about a shape are those about its places, but in another order. -/
theorem warnings_perm (path : String) (s : Shape) :
    (s.warnings path).Perm ((places path s).flatMap ownWarnings) := by
  induction s using visitedInduction generalizing path with
  | step s ih =>
    rw [warnings_eq, places_eq, List.flatMap_cons, ownWarnings, List.append_assoc,
      List.append_assoc]
    refine List.Perm.append_left _ (List.perm_append_comm.trans (List.Perm.append_left _ ?_))
    exact warningsBelow_perm_of_members fun m hm path => ih m hm path

/-- The warnings about members are those of the places below them, up to order. -/
theorem warningsBelow_perm (parent : String) (members : List (String × Shape)) :
    (warningsBelow parent members).Perm ((placesBelow parent members).flatMap ownWarnings) :=
  warningsBelow_perm_of_members fun m _ path => warnings_perm path m.2

end Shape

namespace View

/-- By the views of all places, a property is there when the names that an object requires are
looked for: it has a place, and none is faulty within the member that it belongs to. -/
def isKnown (views : List (String × View)) (path name : String) : Bool :=
  views.any (fun place => place.1 = Path.child path name) &&
    views.all fun place => !place.2.isFaulty ||
      !Path.isWithin place.1 (Path.child path (Path.firstSegment name))

/-- The warnings about one place, by the views of all. -/
def warningsAt (views : List (String × View)) (place : String × View) : List Warning :=
  place.2.openingWarnings place.1 ++
    (place.2.requiredNames.filter fun name => !isKnown views place.1 name).map
      (.unknownRequired place.1)

/-- The warnings that places with these views come to. -/
def warnings (views : List (String × View)) : List Warning := views.flatMap (warningsAt views)

/-- The order of the views matters for the order of the warnings only. -/
theorem warnings_perm {views views' : List (String × View)} (h : views.Perm views') :
    (warnings views).Perm (warnings views') := by
  have hsame : warningsAt views = warningsAt views' := by
    funext place
    simp only [warningsAt, isKnown, h.any_eq, h.all_eq]
  rw [warnings, warnings, hsame]
  exact h.flatMap_right _

end View

namespace Shape

variable {s : Shape} {parent path q name : String} {ps members members' : List (String × Shape)}

/-- A required name is known if there is such a place and nothing is faulty from its first segment
on. -/
theorem isKnown_views_iff : View.isKnown (views ps) path name = true ↔
    (∃ t, (Path.child path name, t) ∈ ps) ∧
      Extraction.SoundWithin ps (Path.child path (Path.firstSegment name)) := by
  rw [View.isKnown, Bool.and_eq_true, views, List.any_map, List.all_map]
  refine and_congr ?_ ?_
  · simp [Prod.exists]
  · rw [List.all_eq_true]
    refine ⟨?_, ?_⟩
    · intro h q fault hq
      simpa [isFaulty_view, isFaulty] using h _ hq
    · rintro h ⟨q, t⟩ ht
      cases t with
      | valid => simp [isFaulty_view, isFaulty]
      | faulty fault => simp [h q fault ht]

/-- Below a place a name is known if a member of the shape keeps a place of that name. -/
theorem isKnown_views_placesBelow_iff (hs : AllSafe members)
    (h : (q, s) ∈ placesBelow parent members) :
    View.isKnown (views (placesBelow parent members)) q name = true ↔
      Path.child q name ∈ keptBelow q s.visited := by
  obtain ⟨m₀, hm₀, h₀⟩ := mem_placesBelow_iff.mp h
  have hseg : ∀ m ∈ s.visited, Path.IsSegment m.1 := fun m hm =>
    ((hs.safe m₀ hm₀).of_mem_places h₀).isSegment hm
  -- within the path of a member there are its own places only, and so it is sound if all is there
  have hmember : ∀ m ∈ s.visited, ∀ q' u, Path.isWithin q' (Path.child q m.1) = true →
      ((q', u) ∈ placesBelow parent members ↔ (q', u) ∈ places (Path.child q m.1) m.2) :=
    fun m hm q' u hw => mem_placesBelow_iff_of_mem hs (mem_placesBelow_of_visited hs h hm) hw
  have hsound : ∀ m ∈ s.visited,
      (Extraction.SoundWithin (placesBelow parent members) (Path.child q m.1) ↔
        m.2.IsSound (Path.child q m.1)) := by
    intro m hm
    rw [← Extraction.soundWithin_places_iff]
    exact Extraction.soundWithin_congr (hmember m hm)
  have hname : ∀ m ∈ s.visited, Path.isWithin (Path.child q name) (Path.child q m.1) = true →
      Path.firstSegment name = m.1 := by
    intro m hm hw
    obtain ⟨tail, he, hfirst⟩ := Path.exists_firstSegment_of_isWithin (hseg m hm) hw
    rwa [Path.child_right_injective he]
  rw [isKnown_views_iff, mem_keptBelow_iff]
  refine ⟨?_, ?_⟩
  · rintro ⟨⟨t, ht⟩, hw⟩
    have ht' := (mem_placesBelow_iff_of_mem hs h (Path.isWithin_child q name)).mp ht
    rcases mem_places_iff.mp ht' with he | ⟨m, hm, ht'⟩
    · exact absurd (congrArg Prod.fst he) (Path.child_ne_self q name)
    · rw [hname m hm (isWithin_of_mem_places ht')] at hw
      exact ⟨m, hm, t, (hsound m hm).mp hw, ht'⟩
  · rintro ⟨m, hm, t, hk⟩
    refine ⟨⟨t, (hmember m hm _ t hk.isWithin).mpr hk.mem⟩, ?_⟩
    rw [hname m hm hk.isWithin]
    exact (hsound m hm).mpr hk.isSound

/-- **Warnings by views.**  The warnings about members are those that the views of their places come
to, but in another order. -/
theorem warningsBelow_perm_views (hs : AllSafe members) :
    (warningsBelow parent members).Perm (View.warnings (views (placesBelow parent members))) := by
  refine (warningsBelow_perm parent members).trans (.of_eq ?_)
  rw [View.warnings, views, List.flatMap_map]
  refine List.flatMap_congr fun place hplace => ?_
  obtain ⟨q, s⟩ := place
  have hknown : ∀ name, (Path.child q name ∉ keptBelow q s.visited) ↔
      (!View.isKnown (views (placesBelow parent members)) q name) = true := by
    intro name
    rw [← isKnown_views_placesBelow_iff hs hplace, Bool.not_eq_true, Bool.not_eq_true']
  simp only [ownWarnings, View.warningsAt, openingWarnings_view, requiredNames_view,
    closingWarnings, hknown, Bool.decide_eq_true]
  rfl

end Shape

namespace Extraction

open Shape (SameViews)

variable {schemas schemas' : List (Node × Node)}

section SameViews

variable (hsafe : PathSafe schemas) (hsafe' : PathSafe schemas')
  (h : SameViews (placesBelow Path.base (Shape.ofEntries schemas))
    (placesBelow Path.base (Shape.ofEntries schemas')))

include hsafe hsafe' h

/-- Where the views are the same, so is each property. -/
theorem property?_of_sameViews {q : String} {p : Property}
    (hp : (ofEntries schemas).model.property? q = some p) :
    (ofEntries schemas').model.property? q = some p := by
  have hm := hsafe.allSafe.toSafeMembers
  have hm' := hsafe'.allSafe.toSafeMembers
  rw [(isFilled_ofEntries hsafe).property?_eq_some_iff hsafe] at hp
  obtain ⟨m, hmem, s, hk, hp⟩ := hp
  obtain ⟨m', hmem', hname, s', hk', hv⟩ := h.exists_keeps hm hm' hmem hk
  refine ((isFilled_ofEntries hsafe').property?_eq_some_iff hsafe').mpr ⟨m', hmem', s', hk', ?_⟩
  rw [Shape.propertyAt_congr_view hv, ← hp]
  exact Shape.propertyAt_congr
    (h.mem_requiredPaths_member hm hm' hmem hmem' hname hk.isWithin).symm

/-- Where the views are the same, so is each type. -/
theorem type?_of_sameViews {q : String} {t : SchemaType}
    (ht : (ofEntries schemas).model.type? q = some t) :
    (ofEntries schemas').model.type? q = some t := by
  have hm := hsafe.allSafe.toSafeMembers
  have hm' := hsafe'.allSafe.toSafeMembers
  rw [(isFilled_ofEntries hsafe).type?_eq_some_iff hsafe (type?_ofEntries_base _)] at ht
  obtain ⟨m, hmem, s, hk, ht⟩ := ht
  obtain ⟨m', hmem', -, s', hk', hv⟩ := h.exists_keeps hm hm' hmem hk
  refine ((isFilled_ofEntries hsafe').type?_eq_some_iff hsafe' (type?_ofEntries_base _)).mpr
    ⟨m', hmem', s', hk', ?_⟩
  rw [Shape.typeAt_congr_view hv, ht]

/-- Where the views are the same, so is the error at each path. -/
theorem cause?_of_sameViews {q : String} {c : Cause}
    (hc : (ofEntries schemas).errors.cause? q = some c) :
    (ofEntries schemas').errors.cause? q = some c := by
  obtain ⟨m, hmem, fault, hf, rfl⟩ := (isFilled_ofEntries hsafe).cause?_eq_some_iff.mp hc
  obtain ⟨s', hs', hv⟩ := h.exists_mem (Shape.mem_placesBelow_iff.mpr ⟨m, hmem, hf⟩)
  obtain rfl := Shape.eq_faulty_of_view hv
  obtain ⟨m', hmem', hf'⟩ := Shape.mem_placesBelow_iff.mp hs'
  exact (isFilled_ofEntries hsafe').cause?_eq_some_iff.mpr ⟨m', hmem', fault, hf', rfl⟩

/-- **Extraction by views.**  Path-safe documents whose places have the same views are extracted
alike. -/
theorem ofEntries_congr :
    (ofEntries schemas).model = (ofEntries schemas').model ∧
      (ofEntries schemas).errors = (ofEntries schemas').errors ∧
      (ofEntries schemas).warnings.Perm (ofEntries schemas').warnings := by
  have hback : SameViews (placesBelow Path.base (Shape.ofEntries schemas'))
      (placesBelow Path.base (Shape.ofEntries schemas)) := h.symm
  refine ⟨Model.ext_lookup (fun q => Option.ext fun p => ?_) fun q => Option.ext fun t => ?_,
    Errors.ext_cause? fun q => Option.ext fun c => ?_, ?_⟩
  · exact ⟨property?_of_sameViews hsafe hsafe' h, property?_of_sameViews hsafe' hsafe hback⟩
  · exact ⟨type?_of_sameViews hsafe hsafe' h, type?_of_sameViews hsafe' hsafe hback⟩
  · exact ⟨cause?_of_sameViews hsafe hsafe' h, cause?_of_sameViews hsafe' hsafe hback⟩
  · rw [warnings_ofEntries hsafe, warnings_ofEntries hsafe']
    refine (Shape.warningsBelow_perm_views hsafe.allSafe).trans ?_
    refine (View.warnings_perm h).trans (Shape.warningsBelow_perm_views hsafe'.allSafe).symm

end SameViews

end Extraction

end SchemaBeans.Schema
