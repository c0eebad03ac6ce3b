import SchemaBeans.Proofs.Extraction.Visits
import SchemaBeans.Proofs.Resolution.Greatest
import SchemaBeans.Proofs.Resolution.Targets
import SchemaBeans.Proofs.Yaml.Equality

/-!
# Resolution — instances of types

A property is an *instance* of the schema type that its `resolvedType` names.  In an extracted model
that is the type at its own path.  When its schema refers to another one, the property becomes an
instance of whatever the other one is; the types themselves are left as they are.

No instance is ever left without its type (`isSome_type?_of_resolvedType`), for pruning takes out a
type together with the property that is an instance of it.  The types that are left are those of
the schemas that are left and are types of their own, and the property at the path of such a type is
an instance of it, unless its schema is a reference (`types_of_resolve`).  A reference beside a
choice of values has a type, and its property is an instance of another one or of none.
-/

namespace SchemaBeans.Schema

open Yaml (Node)

namespace Model

variable {m s : Model} {K : Set String} {schemas : List (Node × Node)} {path q : String}
  {p : Property}

/-! ### Declared types -/

theorem IsRestriction.declared (hs : m.IsRestriction s K) (h : m.Declared schemas) :
    s.Declared schemas where
  type hp := h.type (hs.property.mp hp).1
  own {path q p} hp hr := by
    obtain ⟨hp, hK⟩ := hs.property.mp hp
    obtain ⟨hq, ht⟩ := h.own hp hr
    exact ⟨hq, hs.isSome_type?.mpr ⟨ht, hK⟩⟩

/-- A meaning is an instance of a type that is there. -/
theorem Declared.isSome_type?_of_meaning (h : m.Declared schemas) (hp : m.property? path = some p)
    (hr : (m.meaning p).resolvedType = some q) : (m.type? q).isSome := by
  rw [meaning] at hr
  split at hr
  · next t ht =>
    obtain ⟨reference, -, ht⟩ := Option.bind_eq_some_iff.mp ht
    obtain ⟨rfl, htype⟩ := h.own ht hr
    exact htype
  · obtain ⟨rfl, htype⟩ := h.own hp hr
    exact htype

/-- In a stable model a meaning has the type of a property that is no reference. -/
theorem exists_typeName_meaning (hm : m.Indexed) (hstable : m.brokenReferences = [])
    (hp : m.property? path = some p) :
    ∃ q t, m.property? q = some t ∧ t.isReference = false ∧
      (m.meaning p).typeName = t.typeName := by
  cases href : p.isReference with
  | false => exact ⟨path, p, hp, href, by rw [meaning_of_not_isReference href]⟩
  | true =>
    obtain ⟨reference, hr⟩ := Property.exists_reference?_of_isReference href
    obtain ⟨t, ht, hnot, -⟩ := hm.brokenReferences_eq_nil_iff.mp hstable _ _ _ hp hr
    exact ⟨reference, t, ht, hnot, by rw [meaning_of_reference? hr ht]; rfl⟩

/-- In a stable model a reference is no instance of the type at its own path. -/
theorem Declared.resolvedType_meaning_ne (h : m.Declared schemas) (hm : m.Indexed)
    (hstable : m.brokenReferences = []) (hp : m.property? path = some p)
    (href : p.isReference = true) : (m.meaning p).resolvedType ≠ some path := by
  intro hself
  obtain ⟨reference, hr⟩ := Property.exists_reference?_of_isReference href
  obtain ⟨t, ht, hnot, -⟩ := hm.brokenReferences_eq_nil_iff.mp hstable _ _ _ hp hr
  rw [meaning_of_reference? hr ht] at hself
  -- the target is an instance of the type at its own path, so it would be the reference itself
  obtain ⟨rfl, -⟩ := h.own ht hself
  rw [hp, Option.some.injEq] at ht
  rw [← ht, href] at hnot
  cases hnot

/-- What is left when no reference is broken is the model below some roots. -/
theorem WellPlaced.exists_isRestriction_settled (hm : m.WellPlaced) (errors : Errors) :
    ∃ K, m.IsRestriction (m.settled errors) K := by
  have hset := Resolution.settles_settle (x := { model := m, errors := errors }) hm.indexed
  obtain ⟨G, -, hG⟩ := Resolution.Settles.isGreatest hm
    (hset.mono (by rintro _ _ rfl; exact List.Subset.refl _))
  exact ⟨G, hG⟩

end Model

section Documents

variable {document : Node} {schemas : List (Node × Node)} {x : Extraction} {path q : String}
  {p : Property}

/-- **No instance without its type.**  After resolution, whatever the names in the document, the
type that a property is an instance of is there. -/
theorem isSome_type?_of_resolvedType (hc : components document = .ok schemas)
    (hx : extract document = .ok x)
    (hp : (resolve x.model x.errors).model.property? path = some p)
    (hr : p.resolvedType = some q) : ((resolve x.model x.errors).model.type? q).isSome := by
  have hwell := extract_wellPlaced hx
  obtain ⟨K, hK⟩ := hwell.exists_isRestriction_settled x.errors
  rw [property?_resolve hwell.indexed] at hp
  obtain ⟨p', hp', rfl⟩ := Option.map_eq_some_iff.mp hp
  rw [type?_resolve]
  exact (hK.declared (extract_declared hc hx)).isSome_type?_of_meaning hp' hr

/-- After resolution, whatever the names in the document, a property has no type or one that a
schema declares by its name. -/
theorem typeName_of_resolve (hc : components document = .ok schemas) (hx : extract document = .ok x)
    (hp : (resolve x.model x.errors).model.property? path = some p) :
    p.typeName = "" ∨ ∃ c dimensions element, IsSite schemas c ∧
      HasElement c.node dimensions element ∧ Declares element (.type p.typeName) := by
  have hwell := extract_wellPlaced hx
  obtain ⟨K, hK⟩ := hwell.exists_isRestriction_settled x.errors
  rw [property?_resolve hwell.indexed] at hp
  obtain ⟨p', hp', rfl⟩ := Option.map_eq_some_iff.mp hp
  obtain ⟨q, t, ht, hnot, htype⟩ := Model.exists_typeName_meaning
    (hwell.indexed.settled x.errors) (hwell.indexed.brokenReferences_settled x.errors) hp'
  obtain ⟨c, dimensions, element, declaration, hsite, -, he, hd, hdecl⟩ :=
    (hK.declared (extract_declared hc hx)).type ht
  rw [htype, hdecl]
  cases declaration with
  | type name => exact Or.inr ⟨c, dimensions, element, hsite, he, hd⟩
  | reference target => exact absurd hdecl (Property.isReference_eq_false_iff.mp hnot target)
  | anyOf => exact Or.inl rfl

end Documents

/-! ### The types that are left -/

namespace Extraction.IsFilled

variable {schemas : List (Node × Node)} {x : Extraction} {c : Site} {p : Property}

/-- The property of a site that is in the model, and its type, are as the node says. -/
theorem of_property? (h : x.IsFilled schemas) (hsafe : PathSafe schemas) (hc : IsSite schemas c)
    (hp : x.model.property? c.path = some p) :
    ((x.model.type? c.path).isSome ↔ IsTypeSchema c.node) ∧
      (IsTypeSchema c.node →
        (p.typeName = objectType ∨ p.isEnum = true) ∧ p.resolvedType = some c.path) ∧
      ∀ path, p.reference? = some path ↔ RefersTo c.node path := by
  obtain ⟨top, htop, hreach⟩ := hc
  -- the component schema is sound, since otherwise nothing of it would be in the model
  have hsound : ∀ path ∈ x.errors.paths, Path.isWithin path top.path = false := by
    intro path hpath
    by_contra hw
    rw [Bool.not_eq_false] at hw
    rw [(h.nothing_of_error htop hpath hw (isWithin_of_reaches hreach)).1] at hp
    cases hp
  obtain ⟨description, dimensions, e, members, hs, hprop, htype⟩ :=
    h.lookup_of_reaches hsafe htop hsound hreach
  obtain ⟨element, declaration, he, hd, rfl, -⟩ := Shape.hasElement_of_ofNode hs
  have htyped := Shape.isTypeSchema_iff hs
  rw [hs, Shape.propertyAt, hp, Option.some.injEq] at hprop
  subst hprop
  refine ⟨?_, fun hn => ⟨?_, ?_⟩, fun path => ?_⟩
  · rw [htype, Shape.typeAt, Option.isSome_map, hs, Shape.bareTypeAt, htyped]
    by_cases hty : IsTyped (Shape.elementOf declaration element) <;> simp [hty]
  · change (propertyOf c.path description dimensions _).typeName = objectType ∨
      (propertyOf c.path description dimensions _).isEnum = true
    rw [typeName_propertyOf, isEnum_propertyOf, decide_eq_true_eq]
    exact htyped.mp hn
  · rw [propertyOf_eq]
    exact if_pos (htyped.mp hn)
  · rw [Property.reference?_eq_some_iff, refersTo_iff he hd]
    change (propertyOf c.path description dimensions _).typeName = _ ↔ _
    rw [typeName_propertyOf]
    rfl

end Extraction.IsFilled

/-- **Types.**  After a path-safe document has been extracted and its references resolved, a schema
that is left has a type exactly if it is an object or a choice of values.  The property at the path
of a type is there; it is an object or a choice of values, and an instance of that very type,
exactly if its schema is no reference.  And the type that any property is an instance of is
there. -/
theorem types_of_resolve {text : String} {document : Node} {schemas : List (Node × Node)}
    (hread : Yaml.read text = .ok document) (hc : components document = .ok schemas)
    (hsafe : PathSafe schemas) :
    ∃ x r, extract document = .ok x ∧ resolve? x.model x.errors = .ok r ∧
      (∀ c, IsSite schemas c → (r.model.property? c.path).isSome →
        ((r.model.type? c.path).isSome ↔ IsTypeSchema c.node)) ∧
      (∀ path, (r.model.type? path).isSome → ∃ c p, IsSite schemas c ∧ c.path = path ∧
        r.model.property? path = some p ∧
          ((p.typeName = objectType ∨ p.isEnum = true) ∧ p.resolvedType = some path ↔
            ∀ target, ¬RefersTo c.node target)) ∧
      ∀ path p q, r.model.property? path = some p → p.resolvedType = some q →
        (r.model.type? q).isSome := by
  obtain ⟨x, hx, hfilled⟩ := Extraction.exists_isFilled hc hsafe
  have hwell := extract_wellPlaced hx
  obtain ⟨K, hK⟩ := hwell.exists_isRestriction_settled x.errors
  refine ⟨x, resolve x.model x.errors, hx, resolve?_of_read hread hx, fun c hsite hp => ?_,
    fun path ht => ?_, fun path p q hp hr => isSome_type?_of_resolvedType hc hx hp hr⟩
  · rw [property?_resolve hwell.indexed, Option.isSome_map, Option.isSome_iff_exists] at hp
    obtain ⟨p, hp⟩ := hp
    obtain ⟨hp, hroot⟩ := hK.property.mp hp
    rw [type?_resolve, hK.isSome_type?, and_iff_left hroot]
    exact (hfilled.of_property? hsafe hsite hp).1
  · rw [type?_resolve, hK.isSome_type?] at ht
    obtain ⟨ht, hroot⟩ := ht
    obtain ⟨p, hp⟩ := Option.isSome_iff_exists.mp (hwell.property ht)
    obtain ⟨c, hsite, rfl⟩ := hfilled.exists_isSite hp
    obtain ⟨htyped, hown, hrefers⟩ := hfilled.of_property? hsafe hsite hp
    have hleft : (x.model.settled x.errors).property? c.path = some p :=
      hK.property.mpr ⟨hp, hroot⟩
    refine ⟨c, (x.model.settled x.errors).meaning p, hsite, rfl, ?_, ?_⟩
    · rw [property?_resolve hwell.indexed, hleft, Option.map_some]
    cases href : p.isReference with
    | false =>
      rw [Model.meaning_of_not_isReference href]
      refine iff_of_true (hown (htyped.mp ht)) fun target hto => ?_
      rw [← hrefers, Property.reference?_eq_none_iff.mpr href] at hto
      cases hto
    | true =>
      obtain ⟨reference, hr⟩ := Property.exists_reference?_of_isReference href
      have hne := (hK.declared (extract_declared hc hx)).resolvedType_meaning_ne
        (hwell.indexed.settled x.errors) (hwell.indexed.brokenReferences_settled x.errors) hleft
        href
      exact iff_of_false (fun hself => hne hself.2) fun hno => hno reference ((hrefers _).mp hr)

/-- An object with a reference to a choice of values and an array of objects, and a reference to
nothing. -/
def sharedChoice : String :=
  "components:\n  schemas:\n" ++
  "    a: \x7btype: object, properties: \x7bb: \x7b$ref: '#/components/schemas/c'\x7d, " ++
  "d: \x7btype: array, items: \x7btype: object\x7d\x7d\x7d\x7d\n" ++
  "    c: \x7btype: string, enum: [x, y]\x7d\n" ++
  "    e: \x7b$ref: '#/components/schemas/f'\x7d\n"

/-- The two objects and the choice have types, and the reference is an instance of the choice. -/
theorem sharedChoice_types :
    ∃ document schemas x r, Yaml.read sharedChoice = .ok document ∧
      components document = .ok schemas ∧ PathSafe schemas ∧ extract document = .ok x ∧
      resolve? x.model x.errors = .ok r ∧
      r.model.types.keys = ["#/components/schemas/a", "#/components/schemas/a/d",
        "#/components/schemas/c"] ∧
      (r.model.property? "#/components/schemas/a/b").bind Property.resolvedType =
        some "#/components/schemas/c" ∧
      (∀ c, IsSite schemas c → (r.model.property? c.path).isSome →
        ((r.model.type? c.path).isSome ↔ IsTypeSchema c.node)) ∧
      (∀ path, (r.model.type? path).isSome → ∃ c p, IsSite schemas c ∧ c.path = path ∧
        r.model.property? path = some p ∧
          ((p.typeName = objectType ∨ p.isEnum = true) ∧ p.resolvedType = some path ↔
            ∀ target, ¬RefersTo c.node target)) ∧
      ∀ path p q, r.model.property? path = some p → p.resolvedType = some q →
        (r.model.type? q).isSome := by
  have hrun : (Yaml.read sharedChoice).toOption.any (fun document =>
      (components document).toOption.any (fun schemas => PathSafe schemas) &&
        (extract document).toOption.any fun x =>
          (resolve? x.model x.errors).toOption.any fun r =>
            r.model.types.keys = ["#/components/schemas/a", "#/components/schemas/a/d",
              "#/components/schemas/c"] ∧
            (r.model.property? "#/components/schemas/a/b").bind Property.resolvedType =
              some "#/components/schemas/c") = true := by
    decide +kernel
  obtain ⟨document, hread, hrun⟩ := exists_of_toOption_any hrun
  obtain ⟨hsafe, hrun⟩ := (Bool.and_eq_true _ _).mp hrun
  obtain ⟨schemas, hc, hsafe⟩ := exists_of_toOption_any hsafe
  obtain ⟨x, r, hx, hr, hrest⟩ := types_of_resolve hread hc (of_decide_eq_true hsafe)
  rw [hx, Except.toOption, Option.any_some, hr, Except.toOption, Option.any_some] at hrun
  obtain ⟨hkeys, hinstance⟩ := of_decide_eq_true hrun
  exact ⟨document, schemas, x, r, hread, hc, of_decide_eq_true hsafe, hx, hr, hkeys, hinstance,
    hrest⟩

/-- A reference to a text, with a choice of values beside it. -/
def choiceReference : String :=
  "components:\n  schemas:\n" ++
  "    a: \x7b$ref: '#/components/schemas/b', enum: [x, y]\x7d\n" ++
  "    b: \x7btype: string\x7d\n"

/-- What is left of the reference is a text, which is an instance of no type. -/
def choiceReferenceText : Property :=
  { Property.atPath "#/components/schemas/a" with typeName := "string" }

/-- The type of the choice is left, without an error, though the property at its path is neither an
object nor a choice of values, and no instance of the type. -/
theorem choiceReference_left :
    ∃ document schemas x r, Yaml.read choiceReference = .ok document ∧
      components document = .ok schemas ∧ PathSafe schemas ∧ extract document = .ok x ∧
      resolve? x.model x.errors = .ok r ∧ r.errors.isEmpty = true ∧
      (r.model.type? "#/components/schemas/a").isSome = true ∧
      r.model.property? "#/components/schemas/a" = some choiceReferenceText ∧
      choiceReferenceText.typeName ≠ objectType ∧ choiceReferenceText.isEnum = false ∧
      choiceReferenceText.resolvedType = none := by
  have hrun : (Yaml.read choiceReference).toOption.any (fun document =>
      (components document).toOption.any (fun schemas => PathSafe schemas) &&
        (extract document).toOption.any fun x =>
          (resolve? x.model x.errors).toOption.any fun r =>
            r.errors.isEmpty = true ∧ (r.model.type? "#/components/schemas/a").isSome = true ∧
              r.model.property? "#/components/schemas/a" = some choiceReferenceText) = true := by
    decide +kernel
  obtain ⟨document, hread, hrun⟩ := exists_of_toOption_any hrun
  obtain ⟨hsafe, hrun⟩ := (Bool.and_eq_true _ _).mp hrun
  obtain ⟨schemas, hc, hsafe⟩ := exists_of_toOption_any hsafe
  obtain ⟨x, hx, hrun⟩ := exists_of_toOption_any hrun
  obtain ⟨r, hr, hrun⟩ := exists_of_toOption_any hrun
  obtain ⟨hempty, ht, hp⟩ := of_decide_eq_true hrun
  exact ⟨document, schemas, x, r, hread, hc, of_decide_eq_true hsafe, hx, hr, hempty, ht, hp,
    by decide, by decide +kernel, rfl⟩

end SchemaBeans.Schema
