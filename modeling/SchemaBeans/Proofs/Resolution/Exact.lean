import SchemaBeans.Proofs.Extraction.AllOrNothing
import SchemaBeans.Proofs.Resolution.Greatest
import SchemaBeans.Proofs.Yaml.Characters

/-!
# Resolution — which errors are added

Each round records its broken references from the model with which it begins.  So the kind of an
error might have changed since the first round, and an error might be recorded for a schema that is
long gone.  Neither happens.  A reference that is broken to begin with is taken out by the first
round, with the fault that its target has there.  One that a later round records had a referent,
which a round before took out; so its target is missing, and stays so
(`Resolution.Settles.cause?_or`).

Where an error is recorded, the whole top-level schema is taken out, and none is taken out without
an error (`Resolution.Settles.property?_eq_none_iff`).
-/

namespace SchemaBeans.Schema

open Yaml (Node)

namespace Model

variable {m : Model} {path reference : String} {fault : TargetFault}

/-- A path has the fault as the target of a reference. -/
inductive HasFault (m : Model) (path : String) : TargetFault → Prop where
  | missing (h : m.property? path = none) : HasFault m path .missing
  | reference {t : Property} (ht : m.property? path = some t) (h : t.isReference = true) :
      HasFault m path .reference
  | untyped {t : Property} (ht : m.property? path = some t) (h : t.isReference = false)
      (hname : t.typeName = "") : HasFault m path .untyped

theorem targetFault?_eq_some_iff : m.targetFault? path = some fault ↔ m.HasFault path fault := by
  rw [targetFault?]
  refine ⟨?_, ?_⟩
  · intro h
    split at h
    · next ht =>
      cases h
      exact .missing ht
    · next t ht =>
      split at h
      · next href =>
        cases h
        exact .reference ht href
      · next href =>
        split at h
        · next hname =>
          cases h
          exact .untyped ht (Bool.not_eq_true _ ▸ href) hname
        · cases h
  · rintro (h | ⟨ht, h⟩ | ⟨ht, h, hname⟩)
    · rw [h]
    · simp only [ht, h, if_true]
    · simp only [ht, h, hname, Bool.false_eq_true, if_false, if_true]

/-- A target is at fault or a referent, and not both. -/
theorem isReferent_iff_forall_not_hasFault :
    m.IsReferent path ↔ ∀ fault, ¬m.HasFault path fault := by
  simp only [← targetFault?_eq_none_iff, ← targetFault?_eq_some_iff,
    Option.eq_none_iff_forall_ne_some, ne_eq]

/-- The property at a path is a reference, and its target has the fault. -/
def IsBroken (m : Model) (path reference : String) (fault : TargetFault) : Prop :=
  ∃ p, m.property? path = some p ∧ p.reference? = some reference ∧ m.HasFault reference fault

theorem Indexed.mk_mem_brokenReferences_iff (h : m.Indexed) {cause : Cause} :
    ⟨path, cause⟩ ∈ m.brokenReferences ↔
      ∃ reference fault, m.IsBroken path reference fault ∧ cause = .target fault reference := by
  rw [h.mem_brokenReferences_iff]
  simp only [brokenReference?_eq_some_iff, targetFault?_eq_some_iff, IsBroken]
  refine ⟨?_, ?_⟩
  · rintro ⟨p, hp, reference, fault, hr, hf, he⟩
    cases he
    exact ⟨reference, fault, ⟨p, hp, hr, hf⟩, rfl⟩
  · rintro ⟨reference, fault, ⟨p, hp, hr, hf⟩, rfl⟩
    exact ⟨p, hp, reference, fault, hr, hf, by rw [h _ _ hp]⟩

/-- The property at a path is a reference to a referent, which `m'` does not have. -/
def LosesTarget (m m' : Model) (path reference : String) : Prop :=
  ∃ p, m.property? path = some p ∧ p.reference? = some reference ∧ m.IsReferent reference ∧
    m'.property? reference = none

/-- What is broken in a part is broken in the whole, or has lost its target. -/
theorem IsPart.isBroken_or {m' : Model} (hpart : IsPart m' m)
    (h : m'.IsBroken path reference fault) :
    (∃ fault, m.IsBroken path reference fault) ∨
      fault = .missing ∧ m.LosesTarget m' path reference := by
  obtain ⟨p, hp, hr, hf⟩ := h
  by_cases href : m.IsReferent reference
  · right
    cases hf with
    | missing hnone => exact ⟨rfl, p, hpart.property hp, hr, href, hnone⟩
    | reference ht hkind =>
      exact absurd (.reference (hpart.property ht) hkind)
        (isReferent_iff_forall_not_hasFault.mp href _)
    | untyped ht hkind hname =>
      exact absurd (.untyped (hpart.property ht) hkind hname)
        (isReferent_iff_forall_not_hasFault.mp href _)
  · rw [isReferent_iff_forall_not_hasFault] at href
    obtain ⟨fault, hf⟩ := not_forall_not.mp href
    exact Or.inl ⟨fault, p, hpart.property hp, hr, hf⟩

end Model

namespace Resolution

variable {x y : Resolution} {path q : String}

/-! ### What each error says -/

/-- **Accounting.**  What is recorded in the end has been recorded before, is of a reference that
was broken to begin with, or is of one that has lost its target. -/
theorem Settles.cause?_or (h : Settles Eq x y) (hm : x.model.Indexed) {c : Cause}
    (hc : y.errors.cause? q = some c) :
    x.errors.cause? q = some c ∨
      (∃ reference fault, x.model.IsBroken q reference fault ∧ c = .target fault reference) ∨
      ∃ reference, x.model.LosesTarget y.model q reference ∧ c = .target .missing reference := by
  induction h with
  | stable => exact Or.inl hc
  | @round x y order _ htake t ih =>
    subst htake
    have hpart := isPart_foldl_drop x.model.brokenReferences x
    rcases ih (hpart.indexed hm) hc with hc | ⟨reference, fault, hb, rfl⟩ | ⟨reference, hl, rfl⟩
    · rw [errors_foldl_drop] at hc
      rcases Errors.cause?_foldl_record_or hc with hc | hc
      · exact Or.inl hc
      · exact Or.inr (Or.inl (hm.mk_mem_brokenReferences_iff.mp hc))
    · rcases hpart.isBroken_or hb with ⟨fault', hb'⟩ | ⟨rfl, p, hp, hr, href, hnone⟩
      · -- the round has taken out whatever was broken when it began
        obtain ⟨p, hp, -⟩ := hb
        have he := hm.mk_mem_brokenReferences_iff.mpr ⟨reference, fault', hb', rfl⟩
        cases (property?_foldl_drop_of_mem he).symm.trans hp
      · exact Or.inr (Or.inr
          ⟨reference, ⟨p, hp, hr, href, t.isPart.property?_eq_none hnone⟩, rfl⟩)
    · obtain ⟨p, hp, hr, href, hnone⟩ := hl
      exact Or.inr (Or.inr
        ⟨reference, ⟨p, hpart.property hp, hr, hpart.isReferent href, hnone⟩, rfl⟩)

/-! ### Errors and what is taken out -/

/-- If there is no property at a path with an error to begin with, there is none in the end. -/
theorem Settles.property?_of_mem_paths (h : Settles Eq x y)
    (hx : ∀ q ∈ x.errors.paths, x.model.property? q = none) (hq : q ∈ y.errors.paths) :
    y.model.property? q = none := by
  induction h with
  | stable => exact hx q hq
  | @round x y order _ _ _ ih =>
    refine ih (fun q hq => ?_) hq
    rw [errors_foldl_drop, Errors.mem_paths_iff] at hq
    obtain ⟨c, hc⟩ := hq
    rcases Errors.cause?_foldl_record_or hc with hc | hc
    · exact (isPart_foldl_drop order x).property?_eq_none
        (hx q (Errors.mem_paths_iff.mpr ⟨c, hc⟩))
    · exact property?_foldl_drop_of_mem hc

theorem wellPlaced_foldl_drop (hm : x.model.WellPlaced) (order : List SchemaError) :
    (order.foldl drop x).model.WellPlaced := by
  induction order generalizing x with
  | nil => exact hm
  | cons e order ih => exact ih (x := x.drop e) (hm.prune _)

/-- What is taken out has an error in its top-level schema. -/
theorem Settles.exists_error (h : Settles Eq x y) (hm : x.model.WellPlaced)
    (hp : (x.model.property? path).isSome) (hgone : y.model.property? path = none) :
    ∃ q ∈ y.errors.paths, (x.model.property? q).isSome ∧ Path.root q = Path.root path := by
  induction h with
  | stable =>
    rw [hgone] at hp
    cases hp
  | @round x y order _ htake t ih =>
    have hpart := isPart_foldl_drop order x
    have horder : ∀ e ∈ order, (x.model.property? e.path).isSome := by
      intro e he
      rw [htake, hm.indexed.mem_brokenReferences_iff] at he
      obtain ⟨p, hp, -⟩ := he
      rw [hp]
      rfl
    by_cases hz : ((order.foldl drop x).model.property? path).isSome
    · obtain ⟨q, hq, hsome, hroot⟩ := ih (wellPlaced_foldl_drop hm order) hz hgone
      obtain ⟨p, hp⟩ := Option.isSome_iff_exists.mp hsome
      exact ⟨q, hq, by rw [hpart.property hp]; rfl, hroot⟩
    · -- it goes with the round, so the error of its root is one of the round
      have hrest := isRestriction_foldl_drop hm order horder (Model.isRestriction_univ x.model)
      rw [hrest.isSome_property?, not_and] at hz
      have hroot := hz hp
      simp only [Set.mem_sdiff, Set.mem_univ, true_and, not_not, Set.mem_ofPred_eq] at hroot
      obtain ⟨e, he, hroot⟩ := hroot
      refine ⟨e.path, t.mem_paths ?_, horder e he, hroot.symm⟩
      have hunique : ∀ e' ∈ order, e'.path = e.path → e' = e := fun e' he' =>
        eq_of_path_eq hm.indexed (htake ▸ he') (htake ▸ he)
      rw [errors_foldl_drop, Errors.mem_paths_iff]
      exact ⟨e.cause, Errors.cause?_foldl_record_of_mem hunique he⟩

/-- **Errors and what is taken out.**  If the errors to begin with are at paths without a property,
a property is taken out exactly if its top-level schema has got an error. -/
theorem Settles.property?_eq_none_iff (h : Settles Eq x y) (hm : x.model.WellPlaced)
    (hx : ∀ q ∈ x.errors.paths, x.model.property? q = none)
    (hp : (x.model.property? path).isSome) :
    y.model.property? path = none ↔
      ∃ q ∈ y.errors.paths, (x.model.property? q).isSome ∧ Path.root q = Path.root path := by
  refine ⟨h.exists_error hm hp, ?_⟩
  rintro ⟨q, hq, hsome, hroot⟩
  obtain ⟨G, -, hG⟩ := h.subset.isGreatest hm
  -- the schema at fault is gone, so its root is not one of those that are kept
  have hgone := h.property?_of_mem_paths hx hq
  rw [← Option.not_isSome_iff_eq_none, hG.isSome_property?] at hgone ⊢
  exact fun hpath => hgone ⟨hsome, hroot ▸ hpath.2⟩

end Resolution

section Resolve

variable {m : Model} {errors : Errors} {path : String}

theorem property?_resolve_eq_none_iff (hm : m.Indexed) :
    (resolve m errors).model.property? path = none ↔ (m.settled errors).property? path = none := by
  rw [property?_resolve hm, Option.map_eq_none_iff]

/-- An error that resolution adds is of a reference that was broken, or of one that has lost its
target. -/
theorem cause?_resolve_or (hm : m.Indexed) {cause : Cause} (hnew : path ∉ errors.paths)
    (hc : (resolve m errors).errors.cause? path = some cause) :
    (∃ reference fault, m.IsBroken path reference fault ∧ cause = .target fault reference) ∨
      ∃ reference, m.LosesTarget (resolve m errors).model path reference ∧
        cause = .target .missing reference := by
  have hset := Resolution.settles_settle (x := { model := m, errors := errors }) hm
  simp only [Model.LosesTarget, property?_resolve_eq_none_iff hm]
  rw [errors_resolve] at hc
  exact (hset.cause?_or hm hc).resolve_left fun hold =>
    hnew (Errors.mem_paths_iff.mpr ⟨cause, hold⟩)

/-- An error that resolution adds is at a property. -/
theorem isSome_property?_of_mem_paths_resolve (hm : m.Indexed) (hnew : path ∉ errors.paths)
    (h : path ∈ (resolve m errors).errors.paths) : (m.property? path).isSome := by
  obtain ⟨cause, hc⟩ := Errors.mem_paths_iff.mp h
  rw [Option.isSome_iff_exists]
  rcases cause?_resolve_or hm hnew hc with ⟨_, _, ⟨p, hp, -⟩, -⟩ | ⟨_, ⟨p, hp, -⟩, -⟩
  · exact ⟨p, hp⟩
  · exact ⟨p, hp⟩

/-- Resolution takes a property out exactly if it adds an error within its top-level schema. -/
theorem property?_resolve_eq_none_iff_exists_error (hm : m.WellPlaced)
    (hnone : ∀ q ∈ errors.paths, m.property? q = none) (hp : (m.property? path).isSome) :
    (resolve m errors).model.property? path = none ↔
      ∃ q ∈ (resolve m errors).errors.paths, q ∉ errors.paths ∧
        Path.isWithin q (Path.root path) = true := by
  have hset := Resolution.settles_settle (x := { model := m, errors := errors }) hm.indexed
  rw [property?_resolve_eq_none_iff hm.indexed]
  refine (hset.property?_eq_none_iff hm hnone hp).trans (exists_congr fun q => ?_)
  rw [← errors_resolve]
  refine and_congr_right fun hq => ⟨?_, ?_⟩
  · rintro ⟨hsome, hroot⟩
    refine ⟨fun hold => ?_, hroot ▸ Path.isWithin_root q⟩
    rw [hnone q hold] at hsome
    cases hsome
  · rintro ⟨hnew, hw⟩
    have hsome := isSome_property?_of_mem_paths_resolve hm.indexed hnew hq
    exact ⟨hsome, (Path.isWithin_root_iff (hm.isBelowBase hp) (hm.isBelowBase hsome)).mp hw⟩

end Resolve

/-- **The errors that resolution adds.**  Let a text be read as a path-safe document, and let
`errors` be some of those of its extraction.  Resolution adds an error for each reference that is
broken in the extracted model, with the fault of its target there.  Any other error that it adds is
of a reference to a referent that has been taken out.  A property is taken out exactly if an error
has been added within its top-level schema.  What has been recorded before stays as it is. -/
theorem resolve?_adds_exactly {text : String} {document : Node} {schemas : List (Node × Node)}
    {x : Extraction} {errors : Errors} (hread : Yaml.read text = .ok document)
    (hc : components document = .ok schemas) (hsafe : PathSafe schemas)
    (hx : extract document = .ok x) (herrors : errors.paths ⊆ x.errors.paths) :
    ∃ r, resolve? x.model errors = .ok r ∧
      (∀ path reference fault, x.model.IsBroken path reference fault →
        path ∉ errors.paths ∧ r.errors.cause? path = some (.target fault reference)) ∧
      (∀ path cause, path ∉ errors.paths → r.errors.cause? path = some cause →
        (∃ reference fault, x.model.IsBroken path reference fault ∧
            cause = .target fault reference) ∨
          ∃ reference, x.model.LosesTarget r.model path reference ∧
            cause = .target .missing reference) ∧
      (∀ path, (x.model.property? path).isSome →
        (r.model.property? path = none ↔ ∃ q ∈ r.errors.paths, q ∉ errors.paths ∧
          Path.isWithin q (Path.root path) = true)) ∧
      ∀ path cause, errors.cause? path = some cause → r.errors.cause? path = some cause := by
  have hm := extract_wellPlaced hx
  -- extraction has left nothing to resolve where it has recorded an error
  have hnone : ∀ q ∈ errors.paths, x.model.property? q = none := by
    obtain ⟨x', hx', hfilled⟩ := Extraction.exists_isFilled hc hsafe
    cases hx.symm.trans hx'
    exact fun q hq => hfilled.property?_of_mem_paths (herrors hq)
  refine ⟨_, if_pos ((referencesFit_of_read hread hx).of_isPart hm.indexed
      (hm.indexed.isPart_settled errors)),
    fun path reference fault hb => ⟨fun hold => ?_, ?_⟩,
    fun path cause hnew hc => cause?_resolve_or hm.indexed hnew hc,
    fun path hp => property?_resolve_eq_none_iff_exists_error hm hnone hp,
    fun path cause hold => ?_⟩
  · obtain ⟨p, hp, -⟩ := hb
    cases (hnone path hold).symm.trans hp
  · exact cause?_resolve_of_mem_brokenReferences hm.indexed errors
      (hm.indexed.mk_mem_brokenReferences_iff.mpr ⟨reference, fault, hb, rfl⟩)
  · rw [cause?_resolve_of_property?_eq_none hm.indexed
      (hnone path (Errors.mem_paths_iff.mpr ⟨cause, hold⟩))]
    exact hold

/-- A schema at fault, a reference to a reference, one to a schema of any type, an object with a
reference to where nothing is, and a reference to that object. -/
def faultyReferences : String :=
  "components: \x7bschemas: \x7b\n" ++
  "  a: true,\n" ++
  "  b: \x7b$ref: '#/components/schemas/c'\x7d,\n" ++
  "  c: \x7b$ref: '#/components/schemas/g'\x7d,\n" ++
  "  d: \x7b$ref: '#/components/schemas/h'\x7d,\n" ++
  "  e: \x7btype: object, properties: \x7bx: \x7b$ref: '#/components/schemas/y'\x7d\x7d\x7d,\n" ++
  "  f: \x7b$ref: '#/components/schemas/e'\x7d,\n" ++
  "  g: \x7btype: string\x7d,\n" ++
  "  h: \x7banyOf: []\x7d\x7d\x7d\n"

/-- The errors of its references: the last one is there because the object was taken out. -/
theorem faultyReferences_reported :
    ∃ document schemas x r, Yaml.read faultyReferences = .ok document ∧
      components document = .ok schemas ∧ PathSafe schemas ∧ extract document = .ok x ∧
      x.errors.toList = [⟨"#/components/schemas/a", .node .notMapping⟩] ∧
      resolve? x.model x.errors = .ok r ∧
      r.errors.toList = [⟨"#/components/schemas/a", .node .notMapping⟩,
        ⟨"#/components/schemas/b", .target .reference "#/components/schemas/c"⟩,
        ⟨"#/components/schemas/d", .target .untyped "#/components/schemas/h"⟩,
        ⟨"#/components/schemas/e/x", .target .missing "#/components/schemas/y"⟩,
        ⟨"#/components/schemas/f", .target .missing "#/components/schemas/e"⟩] ∧
      r.model.properties.keys = ["#/components/schemas/c", "#/components/schemas/g",
        "#/components/schemas/h"] ∧
      ∀ path, (x.model.property? path).isSome →
        (r.model.property? path = none ↔ ∃ q ∈ r.errors.paths, q ∉ x.errors.paths ∧
          Path.isWithin q (Path.root path) = true) := by
  obtain ⟨document, hread, hrun⟩ : ∃ document, Yaml.read faultyReferences = .ok document ∧
      ((components document).toOption.any fun schemas =>
        decide (PathSafe schemas) && (extract document).toOption.any fun x =>
          decide (x.errors.toList = [⟨"#/components/schemas/a", .node .notMapping⟩]) &&
            (resolve? x.model x.errors).toOption.any fun r =>
              r.errors.toList = [⟨"#/components/schemas/a", .node .notMapping⟩,
                ⟨"#/components/schemas/b", .target .reference "#/components/schemas/c"⟩,
                ⟨"#/components/schemas/d", .target .untyped "#/components/schemas/h"⟩,
                ⟨"#/components/schemas/e/x", .target .missing "#/components/schemas/y"⟩,
                ⟨"#/components/schemas/f", .target .missing "#/components/schemas/e"⟩] ∧
              r.model.properties.keys = ["#/components/schemas/c", "#/components/schemas/g",
                "#/components/schemas/h"]) = true := by
    apply Yaml.exists_read_of_toList
    · unfold faultyReferences
      repeat' first
        | with_reducible apply Yaml.toList_append_of_toList
        | exact String.toList_ofList
    · decide +kernel
  obtain ⟨schemas, hc, hrun⟩ := exists_of_toOption_any hrun
  rw [Bool.and_eq_true, decide_eq_true_iff] at hrun
  obtain ⟨hsafe, hrun⟩ := hrun
  obtain ⟨x, hx, hrun⟩ := exists_of_toOption_any hrun
  rw [Bool.and_eq_true, decide_eq_true_iff] at hrun
  obtain ⟨herrors, hrun⟩ := hrun
  obtain ⟨r, hr, hrun⟩ := exists_of_toOption_any hrun
  obtain ⟨hall, hkeys⟩ := of_decide_eq_true hrun
  obtain ⟨r', hr', -, -, hgone, -⟩ :=
    resolve?_adds_exactly hread hc hsafe hx (List.Subset.refl x.errors.paths)
  cases hr.symm.trans hr'
  exact ⟨document, schemas, x, r, hread, hc, hsafe, hx, herrors, hr, hall, hkeys, hgone⟩

end SchemaBeans.Schema
