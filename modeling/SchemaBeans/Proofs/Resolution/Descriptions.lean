import SchemaBeans.Proofs.Descriptions
import SchemaBeans.Proofs.Resolution.Meaning

/-!
# Resolution — descriptions aside

A reference without a description of its own takes over that of its target.  That is the only place
where a description is looked at, and a description is all that comes of it.  So resolution leaves
of a model without descriptions what it leaves of the model, without its descriptions, with the same
errors and events (`resolve?_undescribed`).
-/

namespace SchemaBeans.Schema

/-- A reference takes over the meaning of its target, and whose description it keeps shows in the
description alone. -/
theorem Property.undescribed_resolved (p referent : Property) :
    (p.resolved referent).undescribed = p.undescribed.resolved referent.undescribed := by
  simp only [Property.undescribed, Property.resolved, ite_self]
  rfl

namespace Model

variable {m : Model} {path reference : String}

/-- Whether a target can lend its meaning does not depend on its description. -/
@[simp] theorem targetFault?_undescribed :
    m.undescribed.targetFault? reference = m.targetFault? reference := by
  rw [targetFault?, targetFault?, property?_undescribed]
  cases m.property? reference <;> rfl

/-- The same references are broken, with the same faults. -/
theorem brokenReferences_undescribed : m.undescribed.brokenReferences = m.brokenReferences := by
  rw [brokenReferences, brokenReferences, values_properties_undescribed, List.filterMap_map]
  refine List.filterMap_congr fun p _ => ?_
  simp only [Function.comp_apply, brokenReference?, targetFault?_undescribed]
  rfl

/-- The same references are left to resolve, in the same order. -/
theorem references_undescribed : m.undescribed.references = m.references := by
  rw [references, references, values_properties_undescribed, List.filterMap_map]
  rfl

/-- One reference is resolved alike, with and without descriptions. -/
theorem undescribed_resolveAt :
    (m.resolveAt path reference).undescribed = m.undescribed.resolveAt path reference := by
  cases ht : m.property? reference with
  | none => simp only [resolveAt, property?_undescribed, ht, Option.map_none]
  | some t =>
    have ht' : m.undescribed.property? reference = some t.undescribed := by
      rw [property?_undescribed, ht, Option.map_some]
    refine ext_lookup (fun q => ?_) fun q => ?_
    · rw [property?_undescribed, property?_resolveAt ht, property?_resolveAt ht',
        property?_undescribed]
      split
      · rw [Option.map_map, Option.map_map]
        exact congrArg (fun f => Option.map f _) (funext fun p => p.undescribed_resolved t)
      · rfl
    · simp only [type?_undescribed, type?_resolveAt]

/-- Bounds are added up alike, so they fit together or not at all. -/
theorem referencesFit_undescribed_iff : m.undescribed.ReferencesFit ↔ m.ReferencesFit := by
  have hfits : ∀ p t : Property, (p.undescribed.resolved t.undescribed).cardinality.Fits ↔
      (p.resolved t).cardinality.Fits := fun _ _ => Iff.rfl
  rw [ReferencesFit, ReferencesFit, values_properties_undescribed, List.forall_mem_map]
  refine forall₂_congr fun p _ => forall₂_congr fun reference _ => ?_
  rw [property?_undescribed]
  cases m.property? reference with
  | none => simp
  | some t => simp [hfits]

end Model

namespace Resolution

/-- The resolution with its model without descriptions. -/
def undescribed (x : Resolution) : Resolution := { x with model := x.model.undescribed }

variable {x : Resolution}

/-- One broken reference is dropped alike. -/
theorem undescribed_drop (e : SchemaError) : (x.drop e).undescribed = x.undescribed.drop e := by
  simp only [drop, undescribed, Model.undescribed_prune, Model.countWithin_undescribed]

/-- A round of dropping is carried over reference by reference. -/
theorem undescribed_foldl_drop (order : List SchemaError) (x : Resolution) :
    (order.foldl drop x).undescribed = order.foldl drop x.undescribed := by
  induction order generalizing x with
  | nil => rfl
  | cons e order ih => rw [List.foldl_cons, List.foldl_cons, ih, undescribed_drop]

/-- The rounds are the same ones, since each begins with the same broken references. -/
theorem undescribed_settleWithin (rounds : Nat) (x : Resolution) :
    (settleWithin rounds x).undescribed = settleWithin rounds x.undescribed := by
  induction rounds generalizing x with
  | zero => rfl
  | succ rounds ih =>
    have hbroken : x.undescribed.model.brokenReferences = x.model.brokenReferences :=
      Model.brokenReferences_undescribed
    rw [settleWithin, settleWithin, hbroken]
    split
    · rfl
    · rw [ih, undescribed_foldl_drop]

/-- **Dropping does without descriptions.**  What is left has the same properties and types. -/
theorem undescribed_settle : x.settle.undescribed = x.undescribed.settle := by
  have hsize : x.undescribed.model.properties.size = x.model.properties.size := by
    simp [undescribed, Model.undescribed]
  rw [settle, settle, undescribed_settleWithin, hsize]

/-- One step of a resolution, with its entry in the journal, is carried over. -/
theorem undescribed_resolveOne (entry : String × String) :
    (x.resolveOne entry).undescribed = x.undescribed.resolveOne entry := by
  simp only [resolveOne, undescribed, ← Model.undescribed_resolveAt,
    Model.property?_undescribed]
  cases x.model.property? entry.2 <;>
    cases (x.model.resolveAt entry.1 entry.2).property? entry.1 <;> rfl

/-- And so are all the steps, in whatever order the references are taken up. -/
theorem undescribed_foldl_resolveOne (order : List (String × String)) (x : Resolution) :
    (order.foldl resolveOne x).undescribed = order.foldl resolveOne x.undescribed := by
  induction order generalizing x with
  | nil => rfl
  | cons entry order ih => rw [List.foldl_cons, List.foldl_cons, ih, undescribed_resolveOne]

/-- **Resolving does without descriptions.**  The references are the same, and so is their order. -/
theorem undescribed_resolveAll : x.resolveAll.undescribed = x.undescribed.resolveAll := by
  have hreferences : x.undescribed.model.references = x.model.references :=
    Model.references_undescribed
  rw [resolveAll, resolveAll, undescribed_foldl_resolveOne, hreferences]

end Resolution

/-- **Descriptions in a resolution.**  What is left of a model without descriptions is what is left
of the model, without descriptions. -/
theorem resolve?_undescribed (m : Model) (errors : Errors) :
    resolve? m.undescribed errors = (resolve? m errors).map Resolution.undescribed := by
  have hsettle : Resolution.settle { model := m.undescribed, errors := errors } =
      (Resolution.settle { model := m, errors := errors }).undescribed :=
    (Resolution.undescribed_settle (x := { model := m, errors := errors })).symm
  have hfit : (Resolution.settle { model := m, errors := errors }).undescribed.model.ReferencesFit ↔
      (Resolution.settle { model := m, errors := errors }).model.ReferencesFit :=
    Model.referencesFit_undescribed_iff
  rw [resolve?, resolve?, resolve, resolve, hsettle]
  simp only [hfit]
  split
  · rw [← Resolution.undescribed_resolveAll]
    rfl
  · rfl

end SchemaBeans.Schema
