import SchemaBeans.Proofs.Extraction.AllOrNothing
import SchemaBeans.Proofs.Resolution.Rounds

/-!
# Resolution — the targets of a document

What a document says about references: a schema *refers to* a path by its `$ref` or by a type that
begins with the mark of references (`RefersTo`), and a schema *has a type of its own* if it declares
one that is no reference and has a name (`HasOwnType`).

In the model of a document whose sites are all schemas, the properties are the sites
(`Extraction.IsFilled.property?_of_isSite`, `exists_isSite`).  So no reference is broken there
exactly if each schema that refers to a path names a site with a type of its own
(`brokenReferences_eq_nil_iff`).
-/

namespace SchemaBeans.Schema

open Yaml (Node)

/-! ### References -/

/-- The node is that of a schema which refers to the path. -/
def RefersTo (n : Node) (path : String) : Prop :=
  ∃ dimensions element declaration, HasElement n dimensions element ∧
    Declares element declaration ∧
      (declaration = .reference path ∨ declaration = .type (referenceMark ++ path))

/-- The node is that of a schema with a type that has a name and is no reference. -/
def HasOwnType (n : Node) : Prop :=
  ∃ dimensions element name, HasElement n dimensions element ∧ Declares element (.type name) ∧
    name ≠ "" ∧ ∀ path, name ≠ referenceMark ++ path

theorem isSchema_of_refersTo {n : Node} {path : String} (h : RefersTo n path) : IsSchema n := by
  obtain ⟨dimensions, element, declaration, he, hd, -⟩ := h
  exact ⟨dimensions, element, declaration, he, hd⟩

theorem referenceMark_append_ne_empty (path : String) : referenceMark ++ path ≠ "" := by
  intro h
  have h' := congrArg (fun s => s.toList.length) h
  simp [referenceMark] at h'

theorem referenceMark_append_injective {path path' : String}
    (h : referenceMark ++ path = referenceMark ++ path') : path = path' := by
  have h' := congrArg String.toList h
  rw [String.toList_append, String.toList_append, List.append_cancel_left_eq] at h'
  exact String.ext h'

/-- A property is a reference if its type is the mark and a path. -/
theorem Property.reference?_eq_some_iff {p : Property} {path : String} :
    p.reference? = some path ↔ p.typeName = referenceMark ++ path := by
  rw [reference?, Option.map_eq_some_iff]
  simp only [List.isPrefixOf?_eq_some_iff_append_eq]
  refine ⟨?_, ?_⟩
  · rintro ⟨rest, hrest, rfl⟩
    refine String.ext ?_
    rw [String.toList_append, String.toList_ofList, hrest]
  · intro h
    refine ⟨path.toList, ?_, String.ofList_toList⟩
    rw [h, String.toList_append]

theorem Property.isReference_eq_false_iff {p : Property} :
    p.isReference = false ↔ ∀ path, p.typeName ≠ referenceMark ++ path := by
  rw [← Property.reference?_eq_none_iff, Option.eq_none_iff_forall_ne_some]
  simp only [ne_eq, Property.reference?_eq_some_iff]

section Declared

variable {n : Node} {dimensions : Nat} {element : List (Node × Node)} {declaration : Declaration}

/-- A node declares one type. -/
theorem declaration_unique {dimensions' : Nat} {element' : List (Node × Node)}
    {declaration' : Declaration} (he : HasElement n dimensions element)
    (hd : Declares element declaration) (he' : HasElement n dimensions' element')
    (hd' : Declares element' declaration') : declaration = declaration' := by
  obtain ⟨_, h⟩ := Shape.ofNode_of_hasElement he hd
  obtain ⟨_, h'⟩ := Shape.ofNode_of_hasElement he' hd'
  rw [h, Shape.valid.injEq] at h'
  exact congrArg Element.declaration h'.2.2.1

/-- A schema refers to a path if its type says so. -/
theorem refersTo_iff (he : HasElement n dimensions element) (hd : Declares element declaration)
    {path : String} : RefersTo n path ↔ declaration.typeName = referenceMark ++ path := by
  refine ⟨?_, ?_⟩
  · rintro ⟨_, _, _, he', hd', h⟩
    rw [declaration_unique he hd he' hd']
    rcases h with rfl | rfl <;> rfl
  · intro h
    refine ⟨_, _, _, he, hd, ?_⟩
    cases declaration with
    | type name => exact Or.inr (congrArg _ h)
    | reference path' => exact Or.inl (congrArg _ (referenceMark_append_injective h))
    | anyOf => exact absurd h.symm (referenceMark_append_ne_empty path)

theorem hasOwnType_iff (he : HasElement n dimensions element) (hd : Declares element declaration) :
    HasOwnType n ↔ declaration.typeName ≠ "" ∧
      ∀ path, declaration.typeName ≠ referenceMark ++ path := by
  refine ⟨?_, ?_⟩
  · rintro ⟨_, _, name, he', hd', h⟩
    rwa [declaration_unique he hd he' hd']
  · intro h
    cases declaration with
    | type name => exact ⟨_, _, _, he, hd, h⟩
    | reference path => exact absurd rfl (h.2 path)
    | anyOf => exact absurd rfl h.1

end Declared

/-! ### The model of a document -/

namespace Extraction.IsFilled

variable {schemas : List (Node × Node)} {x : Extraction} {q : String}

/-- Every property is that of a site. -/
theorem exists_isSite (h : x.IsFilled schemas) {p : Property} (hp : x.model.property? q = some p) :
    ∃ c, IsSite schemas c ∧ c.path = q := by
  by_contra hno
  have hnone : x.model.property? q = none := by
    by_cases hcov : Covered (Shape.memberPaths Path.base (Shape.ofEntries schemas)) q
    · obtain ⟨child, hchild, hw⟩ := hcov
      refine (Fills.nothing h hchild hw fun _ s hs => hno ?_).1
      obtain ⟨c, hc, hpath, -⟩ := Shape.mem_placesBelow_ofEntries_iff.mp hs
      exact ⟨c, hc, hpath⟩
    · rw [Fills.property_outside h hcov, Model.property?_empty]
  rw [hnone] at hp
  cases hp

/-- Where a component schema reaches schemas only, each has the property that its element
declares. -/
theorem property?_of_reaches (h : x.IsFilled schemas) (hsafe : PathSafe schemas) {top c : Site}
    (htop : top.IsComponent schemas) (hall : ∀ d, top.Reaches d → IsSchema d.node)
    (hreach : top.Reaches c) :
    ∃ p dimensions element declaration, x.model.property? c.path = some p ∧
      HasElement c.node dimensions element ∧ Declares element declaration ∧
        p.typeName = declaration.typeName := by
  have hsound := (h.forall_isSchema_iff hsafe htop).mp hall
  obtain ⟨_, _, e, _, hs, hp, -⟩ := h.lookup_of_reaches hsafe htop hsound hreach
  obtain ⟨element, declaration, he, hd, rfl, -⟩ := Shape.hasElement_of_ofNode hs
  rw [hs, Shape.propertyAt] at hp
  exact ⟨_, _, element, declaration, hp, he, hd, typeName_propertyOf _ _ _ _⟩

/-- Where all sites are schemas, a site has the property that its element declares. -/
theorem property?_of_isSite (h : x.IsFilled schemas) (hsafe : PathSafe schemas)
    (hall : ∀ c, IsSite schemas c → IsSchema c.node) {c : Site} (hc : IsSite schemas c) :
    ∃ p dimensions element declaration, x.model.property? c.path = some p ∧
      HasElement c.node dimensions element ∧ Declares element declaration ∧
        p.typeName = declaration.typeName := by
  obtain ⟨top, htop, hreach⟩ := hc
  exact h.property?_of_reaches hsafe htop (fun d hd => hall d ⟨top, htop, hd⟩) hreach

/-- **Targets.**  Where all sites are schemas, no reference is broken exactly if every schema that
refers to a path names a site with a type of its own. -/
theorem brokenReferences_eq_nil_iff (h : x.IsFilled schemas) (hsafe : PathSafe schemas)
    (hm : x.model.Indexed) (hall : ∀ c, IsSite schemas c → IsSchema c.node) :
    x.model.brokenReferences = [] ↔
      ∀ c path, IsSite schemas c → RefersTo c.node path →
        ∃ d, IsSite schemas d ∧ d.path = path ∧ HasOwnType d.node := by
  rw [hm.brokenReferences_eq_nil_iff]
  refine ⟨?_, ?_⟩
  · intro hrefs c path hc hto
    obtain ⟨p, _, _, _, hp, he, hd, htype⟩ := h.property?_of_isSite hsafe hall hc
    have href : p.reference? = some path := by
      rw [Property.reference?_eq_some_iff, htype]
      exact (refersTo_iff he hd).mp hto
    obtain ⟨t, ht, hnot, hname⟩ := hrefs _ p path hp href
    obtain ⟨d, hsite, rfl⟩ := h.exists_isSite ht
    obtain ⟨t', _, _, _, ht', he', hd', htype'⟩ := h.property?_of_isSite hsafe hall hsite
    rw [ht, Option.some.injEq] at ht'
    subst ht'
    refine ⟨d, hsite, rfl, (hasOwnType_iff he' hd').mpr ?_⟩
    rw [← htype']
    exact ⟨hname, Property.isReference_eq_false_iff.mp hnot⟩
  · intro htargets q p path hp href
    obtain ⟨c, hc, rfl⟩ := h.exists_isSite hp
    obtain ⟨p', _, _, _, hp', he, hd, htype⟩ := h.property?_of_isSite hsafe hall hc
    rw [hp, Option.some.injEq] at hp'
    subst hp'
    rw [Property.reference?_eq_some_iff, htype] at href
    obtain ⟨d, hsite, rfl, hown⟩ := htargets c path hc ((refersTo_iff he hd).mpr href)
    obtain ⟨t, _, _, _, ht, he', hd', htype'⟩ := h.property?_of_isSite hsafe hall hsite
    obtain ⟨hname, hnot⟩ := (hasOwnType_iff he' hd').mp hown
    rw [← htype'] at hname hnot
    exact ⟨t, ht, Property.isReference_eq_false_iff.mpr hnot, hname⟩

end Extraction.IsFilled

end SchemaBeans.Schema
