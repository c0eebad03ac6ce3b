import SchemaBeans.Proofs.Extraction.Operations
import SchemaBeans.Proofs.Resolution.Meaning

/-!
# Resolution — bounds remain words

A property that takes over the meaning of another one has at most the bounds of both together
(`Model.BoundsWithin.resolved`).  The target is no reference, so bounds are added once and never
along a chain, in whatever order the references are visited (`Resolution.AddsWords`).

The bounds of an extracted model are limited by the depth of the document, and a document that was
read is not deep.  So resolving what was extracted from a text always succeeds (`resolve?_of_read`),
and the bounds that it leaves are small as well (`resolve_bounds`).
-/

namespace SchemaBeans.Schema

open Yaml (Node)

namespace Model

variable {m : Model} {limit : Nat} {path reference : String} {p t : Property}

/-- Taking over a meaning at most doubles the bounds. -/
theorem BoundsWithin.resolved (h : m.BoundsWithin limit) (hp : m.property? path = some p)
    (ht : m.property? reference = some t) :
    (p.resolved t).cardinality.min ≤ 2 ∧ (p.resolved t).cardinality.dimensions ≤ 2 * limit := by
  obtain ⟨hpmin, hpdim⟩ := h _ p hp
  obtain ⟨htmin, htdim⟩ := h _ t ht
  have hi := p.inherits_resolved t
  cases hc : p.isCollection with
  | false =>
    rw [hi.scalar hc]
    omega
  | true =>
    obtain ⟨hmin, hdim⟩ := hi.collection hc
    omega

/-- A meaning has at most twice the bounds. -/
theorem BoundsWithin.meaning (h : m.BoundsWithin limit) (hp : m.property? path = some p) :
    (m.meaning p).cardinality.min ≤ 2 ∧ (m.meaning p).cardinality.dimensions ≤ 2 * limit := by
  rw [Model.meaning]
  split
  · next t ht =>
    obtain ⟨reference, -, ht⟩ := Option.bind_eq_some_iff.mp ht
    exact h.resolved hp ht
  · have := h _ p hp
    omega

/-- The bounds that an extraction gives remain words when references are resolved. -/
theorem BoundsWithin.referencesFit (h : m.BoundsWithin limit) (hm : m.Indexed)
    (hl : 2 * limit < wordLimit) : m.ReferencesFit := by
  intro p hp reference _ t ht
  obtain ⟨hmin, hdim⟩ := h.resolved (hm.mem_values_iff.mp hp) ht
  have hw : 2 < wordLimit := by decide
  exact ⟨by omega, by omega⟩

end Model

namespace Resolution

variable {x : Resolution}

/-- Whatever the order in which the references are visited, each visit finds a property and its
target, and their bounds together are words. -/
def AddsWords (x : Resolution) : Prop :=
  ∀ (before after : List (String × String)) (path reference : String),
    (before ++ (path, reference) :: after).Perm x.model.references →
      ∃ p t, (before.foldl resolveOne x).model.property? path = some p ∧
        (before.foldl resolveOne x).model.property? reference = some t ∧
          p.resolve t = .ok (p.resolved t)

/-- A visit finds its property as it was, since no reference is visited twice, and its target as it
was, since that is no reference. -/
theorem addsWords_of_referencesFit (h : x.model.Indexed) (hs : x.model.brokenReferences = [])
    (hfit : x.model.ReferencesFit) : x.AddsWords := by
  intro before after path reference horder
  have hvisit : ∀ entry ∈ before ++ (path, reference) :: after, ∃ p,
      x.model.property? entry.1 = some p ∧ p.reference? = some entry.2 ∧
        x.model.IsReferent entry.2 :=
    fun entry he => exists_of_mem_references h hs (horder.mem_iff.mp he)
  have hnodup : (before.map Prod.fst ++ path :: after.map Prod.fst).Nodup := by
    have hpaths := (horder.map Prod.fst).nodup_iff.mpr h.nodup_references
    rwa [List.map_append] at hpaths
  obtain ⟨hbefore, -, hapart⟩ := List.nodup_append.mp hnodup
  have hlook : ∀ q, (before.foldl resolveOne x).model.property? q =
      if q ∈ before.map Prod.fst ++ [] then (x.model.property? q).map x.model.meaning
      else x.model.property? q := by
    intro q
    refine property?_foldl_resolveOne before
      (fun entry he => hvisit entry (List.mem_append_left _ he)) ?_ fun q => ?_
    · rwa [List.append_nil]
    · exact (if_neg List.not_mem_nil).symm
  obtain ⟨p, hp, hr, ht⟩ :=
    hvisit (path, reference) (List.mem_append_right _ List.mem_cons_self)
  obtain ⟨t, htarget, -⟩ := id ht
  refine ⟨p, t, ?_, ?_, if_pos (hfit p ?_ reference hr t htarget)⟩
  · rw [hlook, List.append_nil, if_neg fun hmem => hapart path hmem path List.mem_cons_self rfl, hp]
  · rw [hlook, ht.map_meaning, ite_self, htarget]
  · rw [h.mem_values_iff, h _ _ hp]
    exact hp

end Resolution

section Limited

variable {document : Node} {x : Extraction} (hdepth : document.depth ≤ Yaml.depthLimit)
  (hx : extract document = .ok x)

include hdepth hx

theorem referencesFit_of_depth : x.model.ReferencesFit := by
  refine (extract_boundsWithin hx).referencesFit (extract_wellPlaced hx).indexed ?_
  have hw : 2 * Yaml.depthLimit < wordLimit := by decide
  omega

theorem referencesFit_settled_of_depth : (x.model.settled x.errors).ReferencesFit :=
  have hm := (extract_wellPlaced hx).indexed
  (referencesFit_of_depth hdepth hx).of_isPart hm (hm.isPart_settled x.errors)

/-- What was extracted from a document within the limit can be resolved. -/
theorem resolve?_of_depth : resolve? x.model x.errors = .ok (resolve x.model x.errors) :=
  if_pos (referencesFit_settled_of_depth hdepth hx)

end Limited

variable {text : String} {document : Node} {x : Extraction}

theorem referencesFit_of_read (hread : Yaml.read text = .ok document)
    (hx : extract document = .ok x) : x.model.ReferencesFit :=
  referencesFit_of_depth (Yaml.depth_le_of_read hread) hx

/-- What was extracted from a text can be resolved. -/
theorem resolve?_of_read (hread : Yaml.read text = .ok document) (hx : extract document = .ok x) :
    resolve? x.model x.errors = .ok (resolve x.model x.errors) :=
  resolve?_of_depth (Yaml.depth_le_of_read hread) hx

/-- **Bounds.**  Resolution leaves bounds that are at most twice those that the depth of the
document allows. -/
theorem resolve_bounds (hx : extract document = .ok x) {path : String} {p : Property}
    (hp : (resolve x.model x.errors).model.property? path = some p) :
    p.cardinality.min ≤ 2 ∧ p.cardinality.dimensions ≤ 2 * document.depth := by
  have hm := (extract_wellPlaced hx).indexed
  -- what has settled is a part of what was extracted
  have hbounds : (x.model.settled x.errors).BoundsWithin document.depth :=
    fun path p hp => extract_boundsWithin hx path p ((hm.isPart_settled x.errors).property hp)
  rw [property?_resolve hm] at hp
  obtain ⟨p', hp', rfl⟩ := Option.map_eq_some_iff.mp hp
  exact hbounds.meaning hp'

end SchemaBeans.Schema
