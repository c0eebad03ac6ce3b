import SchemaBeans.Proofs.Extraction.Warnings
import SchemaBeans.Proofs.Yaml.Equality
import SchemaBeans.Proofs.Yaml.Characters

/-!
# Extraction — what is required

An object requires properties by their names.  A name is looked up by the path that it gives, which
is that of a member if the name is a segment (`exists_site_child_iff`).  But nothing keeps a text
with a slash out of the list, and such a text can lead further down: it makes a member of another
object required, and there is no warning of it (`Site.LeadsTo`).

So a member is required exactly if the object around it names it, or some object above leads to it
(`Extraction.IsFilled.min_of_hasMember`), and there are warnings of just the texts in the list of an
object that are neither names of members nor lead further down (`required_of_extract`).
-/

namespace SchemaBeans.Schema

open Yaml (Node)
open Shape (places placesBelow requiredPaths keptBelow warningsBelow)

/-! ### Lists of required properties -/

/-- The texts in the list of required properties. -/
def requiredTexts (element : List (Node × Node)) : List String :=
  (Shape.itemsAt "required" element).filterMap Node.scalarText?

/-- The node has an object for its element, with these texts in its list of required properties. -/
def HasRequired (n : Node) (names : List String) : Prop :=
  ∃ dimensions element, HasElement n dimensions element ∧ Declares element (.type objectType) ∧
    requiredTexts element = names

/-- A text that is no segment leads from an object to a site further down. -/
structure Site.LeadsTo (c : Site) (text : String) (d : Site) : Prop where
  not_isSegment : ¬Path.IsSegment text
  path_eq : d.path = Path.child c.path text

/-- An object of the document has a text in its list of required properties that leads to the
site. -/
def IsLedTo (schemas : List (Node × Node)) (d : Site) : Prop :=
  ∃ c names, IsSite schemas c ∧ HasRequired c.node names ∧ ∃ text ∈ names, c.LeadsTo text d

/-- A text leads from an object to a site of the document. -/
def Site.LeadsFar (schemas : List (Node × Node)) (c : Site) (text : String) : Prop :=
  ∃ d, IsSite schemas d ∧ c.LeadsTo text d

instance (schemas : List (Node × Node)) (c : Site) (text : String) :
    Decidable (c.LeadsFar schemas text) :=
  decidable_of_iff (¬Path.IsSegment text ∧
      ∃ place ∈ placesBelow Path.base (Shape.ofEntries schemas),
        place.1 = Path.child c.path text) <| by
    refine ⟨?_, ?_⟩
    · rintro ⟨hseg, ⟨q, s⟩, hplace, rfl⟩
      obtain ⟨d, hd, hpath, -⟩ := Shape.mem_placesBelow_ofEntries_iff.mp hplace
      exact ⟨d, hd, hseg, hpath⟩
    · rintro ⟨d, hd, hseg, hpath⟩
      exact ⟨hseg, _, Shape.mem_placesBelow_ofEntries_iff.mpr ⟨d, hd, rfl, rfl⟩, hpath⟩

namespace Shape

variable {n : Node} {names : List String} {q text : String}

theorem requiredNames_of_hasRequired (h : HasRequired n names) :
    (ofNode n).requiredNames = names := by
  obtain ⟨dimensions, element, he, hd, rfl⟩ := h
  obtain ⟨description, hs⟩ := ofNode_of_hasElement he hd
  rw [hs, requiredNames]
  exact if_pos rfl

theorem exists_hasRequired_of_mem (h : text ∈ (ofNode n).requiredNames) :
    ∃ names, HasRequired n names ∧ text ∈ names := by
  cases hs : ofNode n with
  | faulty fault =>
    rw [hs] at h
    cases h
  | valid description dimensions e members =>
    obtain ⟨element, declaration, he, hd, rfl, -⟩ := hasElement_of_ofNode hs
    rw [hs, requiredNames] at h
    split at h
    · next ho =>
      obtain rfl := Declaration.typeName_eq_objectType_iff.mp ho
      exact ⟨_, ⟨dimensions, element, he, hd, rfl⟩, h⟩
    · cases h

/-- The required paths of a document are those that the lists of its objects give. -/
theorem mem_requiredPaths_ofEntries_iff {schemas : List (Node × Node)} :
    q ∈ requiredPaths (placesBelow Path.base (ofEntries schemas)) ↔
      ∃ c names, IsSite schemas c ∧ HasRequired c.node names ∧
        ∃ text ∈ names, q = Path.child c.path text := by
  rw [mem_requiredPaths_iff]
  refine ⟨?_, ?_⟩
  · rintro ⟨path, s, text, hs, htext, rfl⟩
    obtain ⟨c, hc, rfl, rfl⟩ := mem_placesBelow_ofEntries_iff.mp hs
    obtain ⟨names, hnames, htext⟩ := exists_hasRequired_of_mem htext
    exact ⟨c, names, hc, hnames, text, htext, rfl⟩
  · rintro ⟨c, names, hc, hnames, text, htext, rfl⟩
    refine ⟨c.path, _, text, mem_placesBelow_ofEntries_iff.mpr ⟨c, hc, rfl, rfl⟩, ?_, rfl⟩
    rwa [requiredNames_of_hasRequired hnames]

end Shape

/-! ### Where a text leads -/

section Sites

variable {schemas properties : List (Node × Node)} {c d : Site} {text : String}

/-- What a site reaches below a path that lies below it, a member of the site reaches. -/
theorem exists_hasMember_of_reaches (h : c.Reaches d) (hne : d.path ≠ c.path) :
    ∃ d', c.HasMember d' ∧ d'.Reaches d := by
  cases h using Relation.ReflTransGen.head_induction_on with
  | refl => exact absurd rfl hne
  | head hd hreach => exact ⟨_, hd, hreach⟩

/-- A site below another one by path is reached from there. -/
theorem exists_reaches_of_isWithin (hsafe : PathSafe schemas) (hc : IsSite schemas c)
    (hd : IsSite schemas d) (hw : Path.isWithin d.path c.path = true) :
    ∃ d', c.Reaches d' ∧ d'.path = d.path := by
  have hplace := Shape.mem_placesBelow_ofEntries_iff.mpr ⟨c, hc, rfl, rfl⟩
  have hplace' := Shape.mem_placesBelow_ofEntries_iff.mpr ⟨d, hd, rfl, rfl⟩
  rw [Shape.mem_placesBelow_iff_of_mem hsafe.allSafe hplace hw, Shape.mem_places_ofNode_iff]
    at hplace'
  obtain ⟨d', hreach, hpath, -⟩ := hplace'
  exact ⟨d', hreach, hpath⟩

theorem Site.HasMember.isSegment (hsafe : PathSafe schemas) (hc : IsSite schemas c)
    (hd : c.HasMember d) : Path.IsSegment d.name :=
  (hsafe.safeMembers hc).isSegment _ (Shape.mem_visited_iff.mpr ⟨d, hd, rfl⟩)

/-- The names in an object are those of its members. -/
theorem HasProperties.mem_namesOf_iff (hp : HasProperties c.node properties) :
    text ∈ namesOf properties ↔ ∃ d, c.HasMember d ∧ d.name = text := by
  rw [← Shape.map_fst_ofEntries, ← Shape.visited_of_hasProperties hp, List.mem_map]
  refine ⟨?_, ?_⟩
  · rintro ⟨m, hm, rfl⟩
    obtain ⟨d, hd, rfl⟩ := Shape.mem_visited_iff.mp hm
    exact ⟨d, hd, rfl⟩
  · rintro ⟨d, hd, rfl⟩
    exact ⟨_, Shape.mem_visited_iff.mpr ⟨d, hd, rfl⟩, rfl⟩

/-- A text leads to a site exactly if it is the name of a member, or leads further down. -/
theorem exists_site_child_iff (hsafe : PathSafe schemas) (hc : IsSite schemas c)
    (hp : HasProperties c.node properties) :
    (∃ d, IsSite schemas d ∧ d.path = Path.child c.path text) ↔
      text ∈ namesOf properties ∨ c.LeadsFar schemas text := by
  rw [hp.mem_namesOf_iff]
  refine ⟨?_, ?_⟩
  · rintro ⟨d, hd, hpath⟩
    by_cases htext : Path.IsSegment text
    · obtain ⟨d', hreach, hpath'⟩ := exists_reaches_of_isWithin hsafe hc hd
        (hpath ▸ Path.isWithin_child c.path text)
      rw [hpath] at hpath'
      obtain ⟨m, hm, hreach⟩ :=
        exists_hasMember_of_reaches hreach (hpath' ▸ Path.child_ne_self c.path text)
      -- the site is within the member and within the path that the text gives, so they are one
      have hw := Extraction.IsFilled.isWithin_of_reaches hreach
      rw [hpath', hm.path_eq] at hw
      exact Or.inl ⟨m, hm, Path.eq_of_isWithin_children (hm.isSegment hsafe hc) htext hw
        (Path.isWithin_self _)⟩
    · exact Or.inr ⟨d, hd, htext, hpath⟩
  · rintro (⟨d, hd, rfl⟩ | ⟨d, hd, -, hpath⟩)
    · obtain ⟨top, htop, hreach⟩ := hc
      exact ⟨d, ⟨top, htop, hreach.tail hd⟩, hd.path_eq⟩
    · exact ⟨d, hd, hpath⟩

/-- What is required of a member is required by the object around it, or by one that leads to it. -/
theorem path_mem_requiredPaths_iff (hsafe : PathSafe schemas) (hc : IsSite schemas c)
    {names : List String} (hr : HasRequired c.node names) (hd : c.HasMember d) :
    d.path ∈ requiredPaths (placesBelow Path.base (Shape.ofEntries schemas)) ↔
      d.name ∈ names ∨ IsLedTo schemas d := by
  rw [Shape.mem_requiredPaths_ofEntries_iff]
  refine ⟨?_, ?_⟩
  · rintro ⟨c', names', hc', hr', text, htext, hpath⟩
    by_cases hseg : Path.IsSegment text
    · -- the path has one parent, and there is one site at it
      have hname := hd.isSegment hsafe hc
      have hparent : c.path = c'.path := by
        have h := congrArg Path.parent? hpath
        rwa [hd.path_eq, Path.parent?_child _ hname, Path.parent?_child _ hseg,
          Option.some.injEq] at h
      rw [hd.path_eq, hparent] at hpath
      have hshape := Shape.eq_of_mem_placesBelow hsafe.allSafe
        (Shape.mem_placesBelow_ofEntries_iff.mpr ⟨c, hc, hparent, rfl⟩)
        (Shape.mem_placesBelow_ofEntries_iff.mpr ⟨c', hc', rfl, rfl⟩)
      rw [← Shape.requiredNames_of_hasRequired hr', hshape,
        Shape.requiredNames_of_hasRequired hr] at htext
      exact Or.inl (Path.child_right_injective hpath ▸ htext)
    · exact Or.inr ⟨c', names', hc', hr', text, htext, hseg, hpath⟩
  · rintro (hname | ⟨c', names', hc', hr', text, htext, -, hpath⟩)
    · exact ⟨c, names, hc, hr, d.name, hname, hd.path_eq⟩
    · exact ⟨c', names', hc', hr', text, htext, hpath⟩

/-- Nothing is required of a component schema. -/
theorem Site.IsComponent.path_not_mem_requiredPaths (hsafe : PathSafe schemas)
    (hc : c.IsComponent schemas) :
    c.path ∉ requiredPaths (placesBelow Path.base (Shape.ofEntries schemas)) := by
  have hm := (Shape.mem_ofEntries_iff Path.base).mpr ⟨c, hc, rfl⟩
  rw [hc.path_eq, Extraction.mem_requiredPaths_placesBelow_iff hsafe.allSafe.toSafeMembers hm
    (Path.isWithin_self _)]
  exact Shape.not_mem_requiredPaths_places _ _

end Sites

/-! ### Names that are required in vain -/

/-- The name that a warning says is required in vain at a path. -/
def Warning.unknownName? (path : String) : Warning → Option String
  | .unknownRequired path' name => if path' = path then some name else none
  | .anyType _ | .enumEntry _ | .duplicateName _ _ => none

/-- The names that warnings say are required in vain at a path, in order. -/
def unknownNames (path : String) (warnings : List Warning) : List String :=
  warnings.filterMap (Warning.unknownName? path)

theorem unknownNames_append (path : String) (ws ws' : List Warning) :
    unknownNames path (ws ++ ws') = unknownNames path ws ++ unknownNames path ws' :=
  List.filterMap_append

/-- Warnings about other paths are left aside. -/
theorem unknownNames_eq_nil {path : String} {ws : List Warning} (h : ∀ w ∈ ws, w.path ≠ path) :
    unknownNames path ws = [] := by
  rw [unknownNames, List.filterMap_eq_nil_iff]
  intro w hw
  have hne := h w hw
  cases w with
  | unknownRequired path' name => exact if_neg hne
  | anyType | enumEntry | duplicateName => rfl

namespace Shape

variable {path parent q : String} {s t : Shape} {members : List (String × Shape)}

theorem unknownNames_openingWarnings : unknownNames q (s.openingWarnings path) = [] := by
  cases s with
  | faulty fault => rfl
  | valid description dimensions element members =>
    rw [openingWarnings, Extraction.elementWarnings, unknownNames_append, List.append_eq_nil_iff]
    refine ⟨?_, ?_⟩
    · split <;> rfl
    · rw [unknownNames, List.filterMap_eq_nil_iff]
      intro w hw
      rw [(List.mem_replicate.mp hw).2]
      rfl

theorem unknownNames_closingWarnings : unknownNames path (s.closingWarnings path) =
    s.requiredNames.filter fun name => Path.child path name ∉ keptBelow path s.visited := by
  rw [closingWarnings, unknownNames, List.filterMap_map]
  exact (List.filterMap_congr fun name _ => if_pos rfl).trans List.filterMap_some

/-- Within a member only that member is warned of. -/
theorem unknownNames_warningsBelow {m : String × Shape} (hm : SafeMembers members)
    (hmem : m ∈ members) (hw : Path.isWithin q (Path.child parent m.1) = true) :
    unknownNames q (warningsBelow parent members) =
      unknownNames q (m.2.warnings (Path.child parent m.1)) := by
  induction members with
  | nil => cases hmem
  | cons m' members ih =>
    obtain ⟨name, s⟩ := m'
    rw [warningsBelow, unknownNames_append]
    -- a member with another name warns of other paths
    have hother : ∀ m' ∈ (name, s) :: members, m'.1 ≠ m.1 →
        ∀ w ∈ m'.2.warnings (Path.child parent m'.1), w.path ≠ q := by
      rintro m' hm' hne w hw' rfl
      exact hne (Path.eq_of_isWithin_children (hm.isSegment m' hm') (hm.isSegment m hmem)
        (isWithin_of_mem_warnings hw') hw)
    have hnodup : ∀ m' ∈ members, m'.1 ≠ name := fun m' hm' e =>
      (List.nodup_cons.mp hm.nodup).1 (List.mem_map.mpr ⟨m', hm', e⟩)
    rcases List.mem_cons.mp hmem with rfl | hmem'
    · have hrest : unknownNames q (warningsBelow parent members) = [] := by
        refine unknownNames_eq_nil fun w hw' => ?_
        rw [warningsBelow_eq, List.mem_flatMap] at hw'
        obtain ⟨m', hm', hw'⟩ := hw'
        exact hother m' (List.mem_cons_of_mem _ hm') (hnodup m' hm') w hw'
      rw [hrest, List.append_nil]
    · rw [unknownNames_eq_nil (hother _ List.mem_cons_self (hnodup m hmem').symm),
        List.nil_append, ih hm.tail hmem']

/-- The names that are required in vain at a place are those that its shape requires and no member
keeps. -/
theorem unknownNames_warnings (hs : s.Safe) (ht : (q, t) ∈ places path s) :
    unknownNames q (s.warnings path) =
      t.requiredNames.filter fun name => Path.child q name ∉ keptBelow q t.visited := by
  induction s using visitedInduction generalizing path with
  | step s ih =>
    rw [warnings_eq, unknownNames_append, unknownNames_append, unknownNames_openingWarnings,
      List.nil_append]
    rcases mem_places_iff.mp ht with ht | ⟨m, hm, ht⟩
    · cases ht
      have hbelow : unknownNames q (warningsBelow q t.visited) = [] := by
        refine unknownNames_eq_nil fun w hw => ?_
        rw [warningsBelow_eq, List.mem_flatMap] at hw
        obtain ⟨m, -, hw⟩ := hw
        exact Path.ne_of_isWithin_child (isWithin_of_mem_warnings hw)
      rw [unknownNames_closingWarnings, hbelow, List.nil_append]
    · obtain ⟨hsafe, hmem⟩ := hs
      have hw := isWithin_of_mem_places ht
      have hclosing : unknownNames q (s.closingWarnings path) = [] := by
        refine unknownNames_eq_nil fun w hw' hpath => ?_
        obtain ⟨name, -, rfl⟩ := List.mem_map.mp hw'
        exact Path.ne_of_isWithin_child hw hpath.symm
      rw [hclosing, List.append_nil, unknownNames_warningsBelow hsafe hm hw,
        ih m hm (hmem m hm) ht]

end Shape

/-- The names that a document requires in vain at a site are those that its shape requires and no
member keeps. -/
theorem Extraction.unknownNames_ofEntries {schemas : List (Node × Node)} {c : Site}
    (hsafe : PathSafe schemas) (hc : IsSite schemas c) :
    unknownNames c.path (ofEntries schemas).warnings =
      (Shape.ofNode c.node).requiredNames.filter fun name =>
        Path.child c.path name ∉ keptBelow c.path (Shape.ofNode c.node).visited := by
  have hall := hsafe.allSafe
  obtain ⟨m, hm, hplace⟩ := Shape.mem_placesBelow_iff.mp
    (Shape.mem_placesBelow_ofEntries_iff.mpr ⟨c, hc, rfl, rfl⟩)
  rw [warnings_ofEntries hsafe, Shape.unknownNames_warningsBelow hall.toSafeMembers hm
    (Shape.isWithin_of_mem_places hplace), Shape.unknownNames_warnings (hall.safe m hm) hplace]

/-! ### Required properties -/

namespace Extraction.IsFilled

variable {schemas : List (Node × Node)} {x : Extraction} {c d : Site} {names : List String}

section NoErrors

variable (h : x.IsFilled schemas) (hsafe : PathSafe schemas) (hempty : x.errors.isEmpty = true)

include h hempty

theorem isSchema_of_isEmpty (hd : IsSite schemas d) : IsSchema d.node := by
  by_contra hfault
  exact Errors.isEmpty_iff.mp hempty d.path (h.mem_paths_iff.mpr ⟨d, hd, rfl, hfault⟩)

include hsafe

/-- Without errors each site has a property, the lower bound of which says whether it is
required. -/
theorem exists_property?_of_isSite (hd : IsSite schemas d) :
    ∃ p, x.model.property? d.path = some p ∧
      p.cardinality.min =
        if d.path ∈ requiredPaths (placesBelow Path.base (Shape.ofEntries schemas)) then 1
        else 0 := by
  obtain ⟨top, htop, hreach⟩ := hd
  obtain ⟨_, _, _, _, hs, hp, -⟩ := h.lookup_of_reaches hsafe htop
    (fun path hpath => absurd hpath (Errors.isEmpty_iff.mp hempty path)) hreach
  rw [hs, Shape.propertyAt] at hp
  exact ⟨_, hp, rfl⟩

/-- A component schema is not required. -/
theorem min_of_isComponent (hc : c.IsComponent schemas) :
    ∃ p, x.model.property? c.path = some p ∧ p.cardinality.min = 0 := by
  obtain ⟨p, hp, hmin⟩ := h.exists_property?_of_isSite hsafe hempty ⟨c, hc, .refl⟩
  rw [if_neg (hc.path_not_mem_requiredPaths hsafe)] at hmin
  exact ⟨p, hp, hmin⟩

/-- A member is required if the object around it names it, or one above leads to it. -/
theorem min_of_hasMember (hc : IsSite schemas c) (hr : HasRequired c.node names)
    (hd : c.HasMember d) :
    ∃ p, x.model.property? d.path = some p ∧
      (d.name ∈ names ∨ IsLedTo schemas d → p.cardinality.min = 1) ∧
      (¬(d.name ∈ names ∨ IsLedTo schemas d) → p.cardinality.min = 0) := by
  obtain ⟨top, htop, hreach⟩ := id hc
  obtain ⟨p, hp, hmin⟩ := h.exists_property?_of_isSite hsafe hempty ⟨top, htop, hreach.tail hd⟩
  rw [← path_mem_requiredPaths_iff hsafe hc hr hd]
  exact ⟨p, hp, fun hreq => hmin.trans (if_pos hreq), fun hreq => hmin.trans (if_neg hreq)⟩

/-- Without errors all sites are kept, so a name is that of something kept if it leads to a site. -/
theorem mem_keptBelow_iff_exists_site (hc : IsSite schemas c) {name : String} :
    Path.child c.path name ∈ keptBelow c.path (Shape.ofNode c.node).visited ↔
      ∃ d, IsSite schemas d ∧ d.path = Path.child c.path name := by
  rw [Shape.mem_keptBelow_iff]
  refine ⟨?_, ?_⟩
  · rintro ⟨m, hm, t, hkeeps⟩
    obtain ⟨d, hd, rfl⟩ := Shape.mem_visited_iff.mp hm
    obtain ⟨top, htop, hreach⟩ := hc
    have hplace := hkeeps.mem
    rw [← hd.path_eq, Shape.mem_places_ofNode_iff] at hplace
    obtain ⟨d', hreach', hpath, -⟩ := hplace
    exact ⟨d', ⟨top, htop, (hreach.tail hd).trans hreach'⟩, hpath⟩
  · rintro ⟨d, hd, hpath⟩
    obtain ⟨d', hreach, hpath'⟩ := exists_reaches_of_isWithin hsafe hc hd
      (hpath ▸ Path.isWithin_child c.path name)
    rw [hpath] at hpath'
    obtain ⟨m, hm, hreach⟩ :=
      exists_hasMember_of_reaches hreach (hpath' ▸ Path.child_ne_self c.path name)
    obtain ⟨top, htop, hreach'⟩ := hc
    refine ⟨_, Shape.mem_visited_iff.mpr ⟨m, hm, rfl⟩, Shape.ofNode d'.node, ?_, ?_⟩
    · rw [← hm.path_eq, Shape.isSound_ofNode_iff]
      exact fun e he => h.isSchema_of_isEmpty hempty ⟨top, htop, (hreach'.tail hm).trans he⟩
    · rw [← hm.path_eq, Shape.mem_places_ofNode_iff]
      exact ⟨d', hreach, hpath', rfl⟩

end NoErrors

end Extraction.IsFilled

/-- **Required properties.**  Let a path-safe document be extracted without errors.  No component
schema is required.  A member of an object is required exactly if the object's list names it, or
that of an object above leads to it.  The names that the warnings about an object say are required
in vain are the texts in its list, in order, that are not the names of members and do not lead
further down. -/
theorem required_of_extract {document : Node} {schemas : List (Node × Node)} {x : Extraction}
    (hc : components document = .ok schemas) (hsafe : PathSafe schemas)
    (hx : extract document = .ok x) (hempty : x.errors.isEmpty = true) :
    (∀ c : Site, c.IsComponent schemas →
      ∃ p, x.model.property? c.path = some p ∧ p.cardinality.min = 0) ∧
    ∀ (c : Site) (dimensions : Nat) (element : List (Node × Node)), IsSite schemas c →
      HasElement c.node dimensions element → Declares element (.type objectType) →
        (∀ d, c.HasMember d → ∃ p, x.model.property? d.path = some p ∧
          (d.name ∈ requiredTexts element ∨ IsLedTo schemas d → p.cardinality.min = 1) ∧
          (¬(d.name ∈ requiredTexts element ∨ IsLedTo schemas d) → p.cardinality.min = 0)) ∧
        unknownNames c.path x.warnings = (requiredTexts element).filter fun text =>
          text ∉ namesOf (memberEntries element) ∧ ¬c.LeadsFar schemas text := by
  obtain ⟨x', hx', hfilled⟩ := Extraction.exists_isFilled hc hsafe
  cases hx.symm.trans hx'
  refine ⟨fun c hcomponent => hfilled.min_of_isComponent hsafe hempty hcomponent,
    fun c dimensions element hsite he hd => ⟨fun d hd' => ?_, ?_⟩⟩
  · exact hfilled.min_of_hasMember hsafe hempty hsite ⟨dimensions, element, he, hd, rfl⟩ hd'
  · rw [Extraction.extract_of_components hc, Except.ok.injEq] at hx
    rw [← hx, Extraction.unknownNames_ofEntries hsafe hsite,
      Shape.requiredNames_of_hasRequired ⟨dimensions, element, he, hd, rfl⟩]
    refine List.filter_congr fun text _ => decide_eq_decide.mpr ?_
    rw [hfilled.mem_keptBelow_iff_exists_site hsafe hempty hsite,
      exists_site_child_iff hsafe hsite ⟨dimensions, element, he, hd, rfl⟩, not_or]

/-- An object in an array that requires one of its members by a text and one by a number, and
besides them a name that no member has and something that is no text. -/
def requiringObject : List (Node × Node) :=
  [(.string "type", .string "object"),
    (.string "required",
      .sequence [.string "b", .string "x", .number (.integer 1), .sequence [.string "y"]]),
    (.string "properties", .mapping
      [(.string "b", .mapping [(.string "type", .string "string")]),
        (.number (.integer 1), .mapping [(.string "type", .string "string")]),
        (.string "y", .mapping [(.string "type", .string "string")])])]

/-- The array of these objects. -/
def requiringArray : Node :=
  .mapping [(.string "type", .string "array"), (.string "items", .mapping requiringObject)]

/-- The two members are required, and there is a warning of the name that no member has. -/
theorem requiringArray_extracted : ∃ x,
    PathSafe [(.string "a", requiringArray)] ∧
    extract (documentOf [(.string "a", requiringArray)]) = .ok x ∧ x.errors.isEmpty = true ∧
    HasElement requiringArray 1 requiringObject ∧
    Declares requiringObject (.type objectType) ∧
    (x.model.properties.toList.map fun (path, p) => (path, p.cardinality.min)) =
      [("#/components/schemas/a", 0), ("#/components/schemas/a/1", 1),
        ("#/components/schemas/a/b", 1), ("#/components/schemas/a/y", 0)] ∧
    (∃ p, x.model.property? "#/components/schemas/a/b" = some p ∧ p.cardinality.min = 1) ∧
    unknownNames "#/components/schemas/a" x.warnings = ["x"] := by
  have hsafe : PathSafe [(.string "a", requiringArray)] := by decide +kernel
  have hrun : (extract (documentOf [(.string "a", requiringArray)])).toOption.any (fun x =>
      x.errors.isEmpty = true ∧
        (x.model.properties.toList.map fun (path, p) => (path, p.cardinality.min)) =
          [("#/components/schemas/a", 0), ("#/components/schemas/a/1", 1),
            ("#/components/schemas/a/b", 1), ("#/components/schemas/a/y", 0)]) = true := by
    decide +kernel
  obtain ⟨x, hx, hrun⟩ := exists_of_toOption_any hrun
  obtain ⟨hempty, hmins⟩ := of_decide_eq_true hrun
  have hd : Declares requiringObject (.type objectType) := .type rfl rfl (by decide)
  have he : HasElement requiringArray 1 requiringObject :=
    .array rfl ⟨_, rfl, rfl⟩ rfl (.scalar rfl hd.not_isArray)
  have hsite : IsSite [(.string "a", requiringArray)]
      ⟨"#/components/schemas/a", "a", requiringArray⟩ :=
    ⟨_, ⟨⟨_, List.mem_singleton_self _, rfl⟩, by decide⟩, .refl⟩
  obtain ⟨-, hobjects⟩ := required_of_extract rfl hsafe hx hempty
  obtain ⟨hmembers, hunknown⟩ := hobjects _ 1 requiringObject hsite he hd
  obtain ⟨p, hp, hmin, -⟩ := hmembers
    ⟨"#/components/schemas/a/b", "b", .mapping [(.string "type", .string "string")]⟩
    ⟨_, ⟨1, _, he, hd, rfl⟩, ⟨_, List.mem_cons_self, rfl⟩, by decide⟩
  refine ⟨x, hsafe, hx, hempty, he, hd, hmins, ⟨p, hp, hmin (Or.inl (by decide))⟩, ?_⟩
  rw [hunknown]
  decide +kernel

/-- An object that seems to require a member of its member. -/
def slashedRequired : String :=
  "components:\n  schemas:\n    a: \x7btype: object, required: [b/c], properties: " ++
  "\x7bb: \x7btype: object, properties: \x7bc: \x7btype: string\x7d\x7d\x7d\x7d\x7d\n"

/-- The entries of the member, which requires nothing. -/
def slashedRequiredMember : List (Node × Node) :=
  [(.string "type", .string "object"), (.string "properties", .mapping
    [(.string "c", .mapping [(.string "type", .string "string")])])]

/-- The entries of the object. -/
def slashedRequiredObject : List (Node × Node) :=
  [(.string "type", .string "object"), (.string "required", .sequence [.string "b/c"]),
    (.string "properties", .mapping [(.string "b", .mapping slashedRequiredMember)])]

/-- The text reaches over the member: what the member has becomes required, although the member
requires nothing, and there is no warning of a name that the object does not have. -/
theorem slashedRequired_reached : ∃ document schemas x outer inner member p,
    Yaml.read slashedRequired = .ok document ∧ components document = .ok schemas ∧
      PathSafe schemas ∧ extract document = .ok x ∧ x.errors.isEmpty = true ∧
      Site.IsComponent schemas outer ∧ HasElement outer.node 0 slashedRequiredObject ∧
      Declares slashedRequiredObject (.type objectType) ∧ outer.HasMember inner ∧
      HasElement inner.node 0 slashedRequiredMember ∧
      Declares slashedRequiredMember (.type objectType) ∧ inner.HasMember member ∧
      requiredTexts slashedRequiredMember = [] ∧
      x.model.property? member.path = some p ∧ p.cardinality.min = 1 ∧
      requiredTexts slashedRequiredObject = ["b/c"] ∧
      namesOf (memberEntries slashedRequiredObject) = ["b"] ∧
      unknownNames outer.path x.warnings = [] := by
  have hread : Yaml.read slashedRequired =
      .ok (documentOf [(.string "a", .mapping slashedRequiredObject)]) := by
    apply Yaml.read_eq_of_toList
    · unfold slashedRequired
      repeat' first
        | with_reducible apply Yaml.toList_append_of_toList
        | exact String.toList_ofList
    · decide +kernel
  have hrun : (extract (documentOf [(.string "a", .mapping slashedRequiredObject)])).toOption.any
      (fun x => x.errors.isEmpty = true ∧
        unknownNames "#/components/schemas/a" x.warnings = [] ∧
        (x.model.property? "#/components/schemas/a/b/c").map (·.cardinality.min) = some 1) =
          true := by
    decide +kernel
  obtain ⟨x, hx, hrun⟩ := exists_of_toOption_any hrun
  obtain ⟨hempty, hunknown, hmin⟩ := of_decide_eq_true hrun
  obtain ⟨p, hp, hmin⟩ := Option.map_eq_some_iff.mp hmin
  have hd : Declares slashedRequiredObject (.type objectType) := .type rfl rfl (by decide)
  have hd' : Declares slashedRequiredMember (.type objectType) := .type rfl rfl (by decide)
  have he : HasElement (.mapping slashedRequiredObject) 0 slashedRequiredObject :=
    .scalar rfl hd.not_isArray
  have he' : HasElement (.mapping slashedRequiredMember) 0 slashedRequiredMember :=
    .scalar rfl hd'.not_isArray
  exact ⟨_, _, x, ⟨"#/components/schemas/a", "a", .mapping slashedRequiredObject⟩,
    ⟨"#/components/schemas/a/b", "b", .mapping slashedRequiredMember⟩,
    ⟨"#/components/schemas/a/b/c", "c", .mapping [(.string "type", .string "string")]⟩, p,
    hread, rfl, by decide +kernel, hx, hempty, ⟨⟨_, List.mem_singleton_self _, rfl⟩, by decide⟩,
    he, hd, ⟨_, ⟨0, _, he, hd, rfl⟩, ⟨_, List.mem_singleton_self _, rfl⟩, by decide⟩, he', hd',
    ⟨_, ⟨0, _, he', hd', rfl⟩, ⟨_, List.mem_singleton_self _, rfl⟩, by decide⟩, rfl, hp, hmin,
    rfl, rfl, hunknown⟩

end SchemaBeans.Schema
