import Mathlib.Order.Bounds.Basic
import Mathlib.Data.Set.Basic
import SchemaBeans.Proofs.Resolution.Bounds
import SchemaBeans.Proofs.Resolution.Order

/-!
# Resolution — the greatest set of schemas that can be kept

A set of top-level schemas, given by their roots, *is supported* by a model if every reference below
one of them leads to a referent below one of them (`Model.Supports`).

While broken references are dropped, the model is at every moment a restriction of the first one to
a set of roots (`Model.IsRestriction`).  A root that a supported set has is never dropped
(`Resolution.not_mem_of_supports`): this holds for the whole round if it holds at its beginning, so
it does not matter that a round works from a list made before.  When no reference is broken, the
set itself is supported.  So what is left is the restriction to the greatest supported set
(`Resolution.Settles.isGreatest`), in whichever order references are dropped.
-/

namespace SchemaBeans.Schema

open Yaml (Node)

namespace Model

variable {m s s' : Model} {K : Set String} {path : String}

/-- The roots of the properties. -/
def roots (m : Model) : Set String :=
  { ρ | ∃ path, (m.property? path).isSome ∧ Path.root path = ρ }

/-- Every reference below a root in `G` leads to a referent below a root in `G`. -/
def Supports (m : Model) (G : Set String) : Prop :=
  ∀ path p reference, m.property? path = some p → Path.root path ∈ G →
    p.reference? = some reference → m.IsReferent reference ∧ Path.root reference ∈ G

/-- `s` has the properties and types of `m` below the roots in `K`, unchanged, and no others. -/
structure IsRestriction (m s : Model) (K : Set String) : Prop where
  property {path : String} {p : Property} :
    s.property? path = some p ↔ m.property? path = some p ∧ Path.root path ∈ K
  type {path : String} {t : SchemaType} :
    s.type? path = some t ↔ m.type? path = some t ∧ Path.root path ∈ K

theorem isRestriction_univ (m : Model) : m.IsRestriction m Set.univ := by
  constructor <;> simp

theorem IsRestriction.isSome_property? (h : m.IsRestriction s K) :
    (s.property? path).isSome ↔ (m.property? path).isSome ∧ Path.root path ∈ K := by
  simp only [Option.isSome_iff_exists, h.property, exists_and_right]

theorem IsRestriction.isSome_type? (h : m.IsRestriction s K) :
    (s.type? path).isSome ↔ (m.type? path).isSome ∧ Path.root path ∈ K := by
  simp only [Option.isSome_iff_exists, h.type, exists_and_right]

/-- Two restrictions to the same roots are equal. -/
theorem IsRestriction.unique (h : m.IsRestriction s K) (h' : m.IsRestriction s' K) : s = s' :=
  ext_lookup (fun _ => Option.ext fun _ => h.property.trans h'.property.symm)
    fun _ => Option.ext fun _ => h.type.trans h'.type.symm

theorem IsRestriction.isReferent_iff (h : m.IsRestriction s K) :
    s.IsReferent path ↔ m.IsReferent path ∧ Path.root path ∈ K := by
  simp only [IsReferent, h.property]
  refine ⟨?_, ?_⟩
  · rintro ⟨t, ⟨ht, hK⟩, href, htype⟩
    exact ⟨⟨t, ht, href, htype⟩, hK⟩
  · rintro ⟨⟨t, ht, href, htype⟩, hK⟩
    exact ⟨t, ⟨ht, hK⟩, href, htype⟩

/-- In a well placed model a restriction may be taken to the roots that properties have. -/
theorem IsRestriction.inter_roots (hm : m.WellPlaced) (h : m.IsRestriction s K) :
    m.IsRestriction s (K ∩ m.roots) where
  property {path p} := by
    rw [h.property]
    refine ⟨?_, ?_⟩
    · exact fun hp => ⟨hp.1, hp.2, path, by rw [hp.1]; rfl, rfl⟩
    · exact fun hp => ⟨hp.1, hp.2.1⟩
  type {path t} := by
    rw [h.type]
    refine ⟨?_, ?_⟩
    · exact fun ht => ⟨ht.1, ht.2, path, hm.property (by rw [ht.1]; rfl), rfl⟩
    · exact fun ht => ⟨ht.1, ht.2.1⟩

/-- Pruning a root takes it out of the set. -/
theorem IsRestriction.prune (hm : m.WellPlaced) (h : m.IsRestriction s K)
    (hpath : (m.property? path).isSome) :
    m.IsRestriction (s.prune (Path.root path)) (K \ {Path.root path}) := by
  have hbelow := hm.isBelowBase hpath
  have hw : ∀ {q}, (m.property? q).isSome →
      (Path.isWithin q (Path.root path) = false ↔ Path.root q ≠ Path.root path) := by
    intro q hq
    rw [← Bool.not_eq_true, Path.isWithin_root_iff hbelow (hm.isBelowBase hq)]
  refine ⟨?_, ?_⟩
  · intro q p
    rw [property?_prune_eq_some, h.property]
    refine ⟨?_, ?_⟩
    · rintro ⟨hq, hp, hK⟩
      exact ⟨hp, hK, (hw (by rw [hp]; rfl)).mp hq⟩
    · rintro ⟨hp, hK, hq⟩
      exact ⟨(hw (by rw [hp]; rfl)).mpr hq, hp, hK⟩
  · intro q t
    have hbase : s.type? Path.base = none := by
      rw [Option.eq_none_iff_forall_ne_some]
      intro t' ht'
      rw [h.type, hm.type?_base] at ht'
      cases ht'.1
    -- the list of properties around a root would be that of a type at `base`
    have hparent : (if Path.parent? (Path.root path) = some q then
        (s.type? q).map fun t => { t with properties := t.properties.erase (Path.root path) }
        else s.type? q) = s.type? q := by
      rw [Path.parent?_root hbelow]
      split
      · next e =>
        cases e
        rw [hbase]
        rfl
      · rfl
    rw [type?_prune, hparent]
    refine ⟨?_, ?_⟩
    · intro ht
      split at ht
      · cases ht
      · next hq =>
        obtain ⟨ht, hK⟩ := h.type.mp ht
        refine ⟨ht, hK, (hw (hm.property (by rw [ht]; rfl))).mp ?_⟩
        rwa [← Bool.not_eq_true]
    · rintro ⟨ht, hK, hq⟩
      have hq' := (hw (hm.property (by rw [ht]; rfl))).mpr hq
      rw [hq', if_neg Bool.false_ne_true]
      exact h.type.mpr ⟨ht, hK⟩

end Model

namespace Resolution

variable {x y : Resolution} {m : Model} {K G : Set String}

/-! ### What rounds take out -/

/-- Dropping references of a model takes out their roots. -/
theorem isRestriction_foldl_drop (hm : m.WellPlaced) (order : List SchemaError)
    (horder : ∀ e ∈ order, (m.property? e.path).isSome) (h : m.IsRestriction x.model K) :
    m.IsRestriction (order.foldl drop x).model (K \ { ρ | ∃ e ∈ order, ρ = Path.root e.path }) := by
  induction order generalizing x K with
  | nil => simpa using h
  | cons e order ih =>
    have hdrop := h.prune hm (horder e List.mem_cons_self)
    have hrest := ih (x := x.drop e) (fun e' he' => horder e' (List.mem_cons_of_mem _ he')) hdrop
    have hset : (K \ {Path.root e.path}) \ { ρ | ∃ e' ∈ order, ρ = Path.root e'.path } =
        K \ { ρ | ∃ e' ∈ e :: order, ρ = Path.root e'.path } := by
      ext ρ
      simp only [Set.mem_sdiff, Set.mem_singleton_iff, Set.mem_ofPred_eq, List.mem_cons,
        exists_eq_or_imp, not_or, and_assoc]
    rwa [hset] at hrest

/-- The root of a broken reference is in no supported set. -/
theorem not_mem_of_supports (hm : m.WellPlaced) (h : m.IsRestriction x.model K)
    (hG : m.Supports G) (hGK : G ⊆ K) {e : SchemaError} (he : e ∈ x.model.brokenReferences) :
    Path.root e.path ∉ G := by
  intro hroot
  have hidx : x.model.Indexed := fun path p hp => hm.indexed path p (h.property.mp hp).1
  obtain ⟨p, hp, hb⟩ := hidx.mem_brokenReferences_iff.mp he
  obtain ⟨reference, fault, hr, hf, -⟩ := Model.brokenReference?_eq_some_iff.mp hb
  obtain ⟨href, hrefroot⟩ := hG _ p reference (h.property.mp hp).1 hroot hr
  -- the root of the target is still there, and with it the target
  have hx : x.model.IsReferent reference := h.isReferent_iff.mpr ⟨href, hGK hrefroot⟩
  rw [Model.targetFault?_eq_none_iff.mpr hx] at hf
  cases hf

/-- Dropping broken references leaves the restriction to a set that contains every supported set
there was. -/
theorem Settles.isRestriction (hm : m.WellPlaced) (hy : Settles (· ⊆ ·) x y)
    (h : m.IsRestriction x.model K) :
    ∃ K', m.IsRestriction y.model K' ∧ ∀ G, m.Supports G → G ⊆ K → G ⊆ K' := by
  induction hy generalizing K with
  | stable _ => exact ⟨K, h, fun _ _ hG => hG⟩
  | @round x y order _ hsub _ ih =>
    have horder : ∀ e ∈ order, (m.property? e.path).isSome := by
      intro e he
      have hidx : x.model.Indexed := fun path p hp => hm.indexed path p (h.property.mp hp).1
      obtain ⟨p, hp, -⟩ := hidx.mem_brokenReferences_iff.mp (hsub he)
      rw [(h.property.mp hp).1]
      rfl
    obtain ⟨K', hK', hmax⟩ := ih (isRestriction_foldl_drop hm order horder h)
    -- a supported set is still there when the round is over
    refine ⟨K', hK', fun G hG hGK => hmax G hG fun ρ hρ => ⟨hGK hρ, ?_⟩⟩
    rintro ⟨e, he, rfl⟩
    exact not_mem_of_supports hm h hG hGK (hsub he) hρ

/-- A stable restriction is supported. -/
theorem supports_of_stable (hm : m.WellPlaced) (h : m.IsRestriction x.model K)
    (hs : x.model.brokenReferences = []) : m.Supports K := by
  have hidx : x.model.Indexed := fun path p hp => hm.indexed path p (h.property.mp hp).1
  intro path p reference hp hroot hr
  exact h.isReferent_iff.mp
    (hidx.brokenReferences_eq_nil_iff.mp hs path p reference (h.property.mpr ⟨hp, hroot⟩) hr)

/-- **The greatest supported set.**  Whatever is left when no reference is broken is the restriction
to the greatest set of roots that the model supports. -/
theorem Settles.isGreatest (hm : x.model.WellPlaced) (hy : Settles (· ⊆ ·) x y) :
    ∃ G, IsGreatest { G : Set String | G ⊆ x.model.roots ∧ x.model.Supports G } G ∧
      x.model.IsRestriction y.model G := by
  obtain ⟨K, hK, hmax⟩ := hy.isRestriction hm (Model.isRestriction_univ x.model)
  have hK' := hK.inter_roots hm
  refine ⟨K ∩ x.model.roots, ⟨⟨Set.inter_subset_right, ?_⟩, ?_⟩, hK'⟩
  · exact supports_of_stable hm hK' hy.brokenReferences_eq_nil
  · rintro G ⟨hroots, hG⟩
    exact Set.subset_inter (hmax G hG (Set.subset_univ G)) hroots

/-- The order in which references are dropped does not matter to the model. -/
theorem Settles.model_unique {y' : Resolution} (hm : x.model.WellPlaced)
    (hy : Settles (· ⊆ ·) x y) (hy' : Settles (· ⊆ ·) x y') : y.model = y'.model := by
  obtain ⟨G, hG, h⟩ := hy.isGreatest hm
  obtain ⟨G', hG', h'⟩ := hy'.isGreatest hm
  rw [← hG.unique hG'] at h'
  exact h.unique h'

end Resolution

/-- **Resolution keeps all that can be kept.**  Resolving the model of a document that was read
comes to an end.  It keeps the properties and types below the roots of a set `G`, and `G` is the
greatest set of roots whose references all lead to referents below roots of the set.  Neither
the model nor, if each round takes up all of its broken references, the errors depend on the order
in which they are taken up. -/
theorem resolve?_keeps_greatest {text : String} {document : Node} {x : Extraction}
    (hread : Yaml.read text = .ok document) (hx : extract document = .ok x) :
    ∃ r G, resolve? x.model x.errors = .ok r ∧
      (∀ rounds, x.model.properties.size ≤ rounds →
        (Resolution.settleWithin rounds { model := x.model, errors := x.errors }).resolveAll = r) ∧
      IsGreatest { G : Set String | G ⊆ x.model.roots ∧ x.model.Supports G } G ∧
      (∀ path, (r.model.property? path).isSome ↔
        (x.model.property? path).isSome ∧ Path.root path ∈ G) ∧
      (∀ path, (r.model.type? path).isSome ↔
        (x.model.type? path).isSome ∧ Path.root path ∈ G) ∧
      (∀ y, Resolution.Settles (· ⊆ ·) { model := x.model, errors := x.errors } y →
        y.resolveAll.model = r.model) ∧
      ∀ y, Resolution.Settles List.Perm { model := x.model, errors := x.errors } y →
        y.resolveAll.errors = r.errors := by
  have hwell := extract_wellPlaced hx
  have hset := Resolution.settles_settle (x := { model := x.model, errors := x.errors })
    hwell.indexed
  have hidx := hset.isPart.indexed hwell.indexed
  have hstable := hset.brokenReferences_eq_nil
  have hsub : Resolution.Settles (· ⊆ ·) _ _ :=
    hset.mono (by rintro _ _ rfl; exact List.Subset.refl _)
  have hperm : Resolution.Settles List.Perm _ _ :=
    hset.mono (by rintro _ _ rfl; exact List.Perm.refl _)
  obtain ⟨G, hG, hrestriction⟩ := hsub.isGreatest hwell
  refine ⟨resolve x.model x.errors, G, resolve?_of_read hread hx, fun rounds hr => ?_, hG,
    fun path => ?_, fun path => ?_, fun y hy => ?_, fun y hy => ?_⟩
  · rw [Resolution.settleWithin_eq_settle hwell.indexed hr, resolve]
  · rw [resolve, Resolution.isSome_property?_resolveAll hidx hstable]
    exact hrestriction.isSome_property?
  · rw [resolve, Resolution.resolveAll, Resolution.type?_foldl_resolveOne]
    exact hrestriction.isSome_type?
  · exact Resolution.model_resolveAll_congr (hy.model_unique hwell hsub)
  · rw [resolve, Resolution.resolveAll, Resolution.resolveAll,
      Resolution.errors_foldl_resolveOne, Resolution.errors_foldl_resolveOne]
    exact (hy.unique hwell.indexed rfl rfl hperm).2

/-- Two objects that refer to each other, and a reference to an object that cannot be kept. -/
def mutualReferences : String :=
  "components:\n  schemas:\n" ++
  "    a: \x7b$ref: '#/components/schemas/ab'\x7d\n" ++
  "    ab: \x7btype: object, properties: \x7bc: \x7b$ref: '#/components/schemas/d'\x7d\x7d\x7d\n" ++
  "    x: \x7btype: object, properties: \x7bto: \x7b$ref: '#/components/schemas/y'\x7d\x7d\x7d\n" ++
  "    y: \x7btype: object, properties: \x7bto: \x7b$ref: '#/components/schemas/x'\x7d\x7d\x7d\n"

/-- The two objects are kept, and nothing else is. -/
theorem mutualReferences_kept :
    ∃ document x r G, Yaml.read mutualReferences = .ok document ∧ extract document = .ok x ∧
      resolve? x.model x.errors = .ok r ∧
      IsGreatest { G : Set String | G ⊆ x.model.roots ∧ x.model.Supports G } G ∧
      x.model.properties.keys = ["#/components/schemas/a", "#/components/schemas/ab",
        "#/components/schemas/ab/c", "#/components/schemas/x", "#/components/schemas/x/to",
        "#/components/schemas/y", "#/components/schemas/y/to"] ∧
      r.model.properties.keys = ["#/components/schemas/x", "#/components/schemas/x/to",
        "#/components/schemas/y", "#/components/schemas/y/to"] := by
  have hrun : (Yaml.read mutualReferences).toOption.any (fun document =>
      (extract document).toOption.any fun x =>
        (resolve? x.model x.errors).toOption.any fun r =>
          x.model.properties.keys = ["#/components/schemas/a", "#/components/schemas/ab",
            "#/components/schemas/ab/c", "#/components/schemas/x", "#/components/schemas/x/to",
            "#/components/schemas/y", "#/components/schemas/y/to"] ∧
          r.model.properties.keys = ["#/components/schemas/x", "#/components/schemas/x/to",
            "#/components/schemas/y", "#/components/schemas/y/to"]) = true := by
    decide +kernel
  obtain ⟨document, hread, hrun⟩ := exists_of_toOption_any hrun
  obtain ⟨x, hx, hrun⟩ := exists_of_toOption_any hrun
  obtain ⟨r, hr, hrun⟩ := exists_of_toOption_any hrun
  obtain ⟨r', G, hr', -, hG, -⟩ := resolve?_keeps_greatest hread hx
  exact ⟨document, x, r, G, hread, hx, hr, hG, of_decide_eq_true hrun⟩

end SchemaBeans.Schema
