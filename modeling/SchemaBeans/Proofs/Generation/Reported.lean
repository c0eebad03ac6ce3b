import SchemaBeans.Proofs.Extraction.Lookups
import SchemaBeans.Proofs.Generation.Accepted
import SchemaBeans.Proofs.Yaml.Equality

/-!
# Generation — which faults are reported together

The errors that a translation fails with come from two steps: extraction records the nodes that are
not schemas, and resolution the broken references of what extraction has left.  All nodes of the
first kind are reported, each with its fault (`Extraction.IsFilled.cause?_of_not_isSchema`).

A reference that names no schema is reported too, if its component schema reaches schemas only
(`cause?_of_isDangling`).  Otherwise extraction has taken the component schema out, with all its
references, and resolution does not see them (`not_mem_paths_of_fault`): faults of both kinds
in one component schema are not reported together (`mixedFaults_halfReported`).
-/

namespace SchemaBeans.Schema

open Yaml (Node)
open Shape (placesBelow)

/-- No schema is at the path. -/
def IsDangling (schemas : List (Node × Node)) (path : String) : Prop :=
  ∀ d, IsSite schemas d → d.path = path → ¬IsSchema d.node

variable {schemas : List (Node × Node)} {path : String} {c d top : Site}

theorem isDangling_iff : IsDangling schemas path ↔
    ∀ place ∈ placesBelow Path.base (Shape.ofEntries schemas), place.1 = path →
      place.2.isFaulty = true := by
  refine ⟨?_, ?_⟩
  · rintro hno ⟨q, s⟩ hplace rfl
    obtain ⟨d, hd, hpath, rfl⟩ := Shape.mem_placesBelow_ofEntries_iff.mp hplace
    exact Shape.isFaulty_ofNode_iff.mpr (hno d hd hpath)
  · intro hall d hd hpath
    have hplace := Shape.mem_placesBelow_ofEntries_iff.mpr ⟨d, hd, hpath, rfl⟩
    exact Shape.isFaulty_ofNode_iff.mp (hall _ hplace rfl)

instance (schemas : List (Node × Node)) (path : String) : Decidable (IsDangling schemas path) :=
  decidable_of_iff' _ isDangling_iff

namespace Extraction.IsFilled

variable {x : Extraction} (h : x.IsFilled schemas)

include h

/-- A node that is not a schema has no property. -/
theorem property?_of_not_isSchema (hc : IsSite schemas c) (hfault : ¬IsSchema c.node) :
    x.model.property? c.path = none :=
  h.property?_of_mem_paths (h.mem_paths_iff.mpr ⟨c, hc, rfl, hfault⟩)

theorem property?_of_isDangling (hno : IsDangling schemas path) :
    x.model.property? path = none := by
  rw [Option.eq_none_iff_forall_ne_some]
  intro p hp
  obtain ⟨c, hc, rfl⟩ := h.exists_isSite hp
  cases (h.property?_of_not_isSchema hc (hno c hc rfl)).symm.trans hp

/-- Every node that is not a schema is reported, with its fault. -/
theorem cause?_of_not_isSchema (hm : x.model.Indexed) (hc : IsSite schemas c)
    (hfault : ¬IsSchema c.node) :
    ∃ fault, (resolve x.model x.errors).errors.cause? c.path = some (.node fault) := by
  obtain ⟨fault, hs⟩ := Shape.exists_ofNode_eq_faulty_iff.mpr hfault
  rw [cause?_resolve_of_property?_eq_none hm (h.property?_of_not_isSchema hc hfault)]
  exact ⟨fault, (Fills.error h).mpr
    (Or.inr ⟨fault, Shape.mem_placesBelow_ofEntries_iff.mpr ⟨c, hc, rfl, hs⟩, rfl⟩)⟩

variable (hsafe : PathSafe schemas) (hm : x.model.Indexed) (htop : top.IsComponent schemas)
  (hreach : top.Reaches c)

include hsafe hm htop hreach

/-- A reference that names no schema is reported, if its component schema reaches schemas only. -/
theorem cause?_of_isDangling (hto : RefersTo c.node path) (hno : IsDangling schemas path)
    (hall : ∀ d, top.Reaches d → IsSchema d.node) :
    (resolve x.model x.errors).errors.cause? c.path = some (.target .missing path) := by
  obtain ⟨p, _, _, _, hp, he, hd, htype⟩ := h.property?_of_reaches hsafe htop hall hreach
  have href : p.reference? = some path := by
    rw [Property.reference?_eq_some_iff, htype]
    exact (refersTo_iff he hd).mp hto
  have hfault : x.model.targetFault? path = some .missing := by
    rw [Model.targetFault?, h.property?_of_isDangling hno]
  have hbroken : (⟨c.path, .target .missing path⟩ : SchemaError) ∈ x.model.brokenReferences := by
    rw [hm.mem_brokenReferences_iff]
    refine ⟨p, hp, Model.brokenReference?_eq_some_iff.mpr ⟨path, .missing, href, hfault, ?_⟩⟩
    rw [hm _ _ hp]
  exact cause?_resolve_of_mem_brokenReferences hm x.errors hbroken

/-- Of a component schema that reaches a node which is not a schema, no schema is reported. -/
theorem not_mem_paths_of_fault (hc : IsSchema c.node) (hd : top.Reaches d)
    (hfault : ¬IsSchema d.node) : c.path ∉ (resolve x.model x.errors).errors.paths := by
  have hpath := h.mem_paths_iff.mpr ⟨d, ⟨top, htop, hd⟩, rfl, hfault⟩
  -- it has been taken out, so resolution has nothing to record there
  have hgone := (h.nothing_of_error htop hpath (isWithin_of_reaches hd)
    (isWithin_of_reaches hreach)).1
  rw [Errors.mem_paths_iff, cause?_resolve_of_property?_eq_none hm hgone, ← Errors.mem_paths_iff,
    h.mem_paths_iff]
  rintro ⟨c', hc', hsame, hfault'⟩
  have hplace := Shape.mem_placesBelow_ofEntries_iff.mpr ⟨c', hc', hsame, rfl⟩
  have hplace' := Shape.mem_placesBelow_ofEntries_iff.mpr ⟨c, ⟨top, htop, hreach⟩, rfl, rfl⟩
  have hshape := Shape.eq_of_mem_placesBelow hsafe.allSafe hplace hplace'
  rw [← Shape.isFaulty_ofNode_iff, ← hshape, Shape.isFaulty_ofNode_iff] at hfault'
  exact hfault' hc

end Extraction.IsFilled

end SchemaBeans.Schema

namespace SchemaBeans.Generation

open Schema
open Yaml (Node)

/-- **Reporting.**  Let a text be read as a path-safe document with component schemas.  What is left
of errors after extraction and resolution is what its translation fails with.  Each site that is not
a schema has an error, with its own fault.  Each schema that refers to a path where no schema is has
an error that says so, if all that its component schema reaches are schemas, and no error
otherwise. -/
theorem errors_of_read {text : String} {document : Node} {schemas : List (Node × Node)}
    (hread : Yaml.read text = .ok document) (hc : components document = .ok schemas)
    (hsafe : PathSafe schemas) :
    ∃ x r, extract document = .ok x ∧ resolve? x.model x.errors = .ok r ∧
      (r.errors.isEmpty = false →
        ∀ package, (translate package text).result = .error (.schemas r.errors)) ∧
      (∀ c, IsSite schemas c → ¬IsSchema c.node →
        ∃ fault, r.errors.cause? c.path = some (.node fault)) ∧
      ∀ (top c : Site) (path : String), top.IsComponent schemas → top.Reaches c →
        RefersTo c.node path → IsDangling schemas path →
          ((∀ d, top.Reaches d → IsSchema d.node) →
            r.errors.cause? c.path = some (.target .missing path)) ∧
          ((∃ d, top.Reaches d ∧ ¬IsSchema d.node) → c.path ∉ r.errors.paths) := by
  obtain ⟨x, hx, hfilled⟩ := Extraction.exists_isFilled hc hsafe
  have hm := (extract_wellPlaced hx).indexed
  refine ⟨x, _, hx, resolve?_of_read hread hx, fun hempty package => ?_,
    fun c => hfilled.cause?_of_not_isSchema hm, fun top c path htop hreach hto hno => ⟨?_, ?_⟩⟩
  · rw [translate_of_read hread hx, hempty, if_neg Bool.false_ne_true]
  · exact hfilled.cause?_of_isDangling hsafe hm htop hreach hto hno
  · rintro ⟨d, hd, hfault⟩
    exact hfilled.not_mem_paths_of_fault hsafe hm htop hreach (isSchema_of_refersTo hto) hd hfault

/-- The entries of an object with these properties. -/
def objectEntries (properties : List (Node × Node)) : List (Node × Node) :=
  [(.string "type", .string "object"), (.string "properties", .mapping properties)]

/-- A property that refers to where nothing is. -/
def danglingEntry : Node × Node :=
  (.string "c", .mapping [(.string "$ref", .string "#/components/schemas/nothing")])

/-- A property that is not a schema. -/
def faultyEntry : Node × Node := (.string "b", .bool true)

theorem refersTo_danglingEntry : RefersTo danglingEntry.2 "#/components/schemas/nothing" :=
  have hd : Declares [(.string "$ref", .string "#/components/schemas/nothing")]
      (.reference "#/components/schemas/nothing") := .reference rfl rfl rfl
  ⟨0, _, _, .scalar rfl hd.not_isArray, hd, Or.inl rfl⟩

/-- An object has its properties for members. -/
theorem hasMember_objectEntries {properties : List (Node × Node)} {path name : String} {d : Site}
    (hd : d.IsEntry path properties) :
    Site.HasMember ⟨path, name, .mapping (objectEntries properties)⟩ d :=
  have hobject : Declares (objectEntries properties) (.type objectType) := .type rfl rfl (by decide)
  ⟨properties, ⟨0, _, .scalar rfl hobject.not_isArray, hobject, rfl⟩, hd⟩

/-- Two objects, one with a fault and one with a reference to where nothing is. -/
def separateFaults : String :=
  "components:\n  schemas:\n    a: \x7btype: object, properties: \x7bb: true\x7d\x7d\n" ++
  "    d: \x7btype: object, properties: \x7bc: " ++
  "\x7b$ref: '#/components/schemas/nothing'\x7d\x7d\x7d\n"

/-- The entries of the two objects. -/
def separateFaultsEntries : List (Node × Node) :=
  [(.string "a", .mapping (objectEntries [faultyEntry])),
    (.string "d", .mapping (objectEntries [danglingEntry]))]

/-- Both are reported. -/
theorem separateFaults_reported : ∃ document schemas x r,
    Yaml.read separateFaults = .ok document ∧ components document = .ok schemas ∧
      PathSafe schemas ∧ extract document = .ok x ∧ resolve? x.model x.errors = .ok r ∧
      (∃ fault, r.errors.cause? "#/components/schemas/a/b" = some (.node fault)) ∧
      r.errors.cause? "#/components/schemas/d/c" =
        some (.target .missing "#/components/schemas/nothing") := by
  have hread : Yaml.read separateFaults = .ok (documentOf separateFaultsEntries) := by
    decide +kernel
  have hsafe : PathSafe separateFaultsEntries := by decide +kernel
  obtain ⟨x, r, hx, hr, -, hfaults, hrefs⟩ := errors_of_read hread rfl hsafe
  have ha : Site.IsComponent separateFaultsEntries
      ⟨"#/components/schemas/a", "a", .mapping (objectEntries [faultyEntry])⟩ :=
    ⟨⟨_, List.mem_cons_self, rfl⟩, by decide⟩
  have hd : Site.IsComponent separateFaultsEntries
      ⟨"#/components/schemas/d", "d", .mapping (objectEntries [danglingEntry])⟩ :=
    ⟨⟨_, List.mem_cons_of_mem _ List.mem_cons_self, rfl⟩, by decide⟩
  have hb := hfaults ⟨"#/components/schemas/a/b", "b", faultyEntry.2⟩
    ⟨_, ha, .single (hasMember_objectEntries ⟨⟨_, List.mem_singleton_self _, rfl⟩, by decide⟩)⟩
    (Shape.isFaulty_ofNode_iff.mp rfl)
  have hc := (hrefs _ ⟨"#/components/schemas/d/c", "c", danglingEntry.2⟩ _ hd
    (.single (hasMember_objectEntries ⟨⟨_, List.mem_singleton_self _, rfl⟩, by decide⟩))
    refersTo_danglingEntry (by decide +kernel)).1
      (Shape.isSound_ofNode_iff.mp (by decide +kernel))
  exact ⟨_, _, x, r, hread, rfl, hsafe, hx, hr, hb, hc⟩

/-- An object with a fault and with a reference to where nothing is. -/
def mixedFaults : String :=
  "components:\n  schemas:\n    a: \x7btype: object, properties: \x7bb: true, c: " ++
  "\x7b$ref: '#/components/schemas/nothing'\x7d\x7d\x7d\n"

/-- The entries of the object. -/
def mixedFaultsEntries : List (Node × Node) :=
  [(.string "a", .mapping (objectEntries [faultyEntry, danglingEntry]))]

/-- The fault is reported, and the reference is not. -/
theorem mixedFaults_halfReported : ∃ document schemas x r c,
    Yaml.read mixedFaults = .ok document ∧ components document = .ok schemas ∧
      PathSafe schemas ∧ extract document = .ok x ∧ resolve? x.model x.errors = .ok r ∧
      IsSite schemas c ∧ RefersTo c.node "#/components/schemas/nothing" ∧
      IsDangling schemas "#/components/schemas/nothing" ∧ c.path ∉ r.errors.paths := by
  have hread : Yaml.read mixedFaults = .ok (documentOf mixedFaultsEntries) := by decide +kernel
  have hrun : (extract (documentOf mixedFaultsEntries)).toOption.any (fun x =>
      (resolve? x.model x.errors).toOption.any fun r =>
        r.errors.paths = ["#/components/schemas/a/b"]) = true := by
    decide +kernel
  obtain ⟨x, hx, hrun⟩ := exists_of_toOption_any hrun
  obtain ⟨r, hr, hpaths⟩ := exists_of_toOption_any hrun
  have hpaths := of_decide_eq_true hpaths
  have ha : Site.IsComponent mixedFaultsEntries
      ⟨"#/components/schemas/a", "a", .mapping (objectEntries [faultyEntry, danglingEntry])⟩ :=
    ⟨⟨_, List.mem_singleton_self _, rfl⟩, by decide⟩
  refine ⟨_, _, x, r, ⟨"#/components/schemas/a/c", "c", danglingEntry.2⟩, hread, rfl,
    by decide +kernel, hx, hr, ⟨_, ha, .single (hasMember_objectEntries
      ⟨⟨_, List.mem_cons_of_mem _ (List.mem_singleton_self _), rfl⟩, by decide⟩)⟩,
    refersTo_danglingEntry, by decide +kernel, ?_⟩
  rw [hpaths]
  decide

end SchemaBeans.Generation
