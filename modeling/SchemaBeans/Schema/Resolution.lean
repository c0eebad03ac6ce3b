import SchemaBeans.Journal.Event
import SchemaBeans.Schema.Model

/-!
# Schema — Resolution

Replacing references by what they refer to.  A reference is *broken* if its target is missing, is a
reference itself, or may be of any type.  A top-level schema with a broken reference is taken out,
which can break references of others; so this is done in rounds until no reference is broken
(`settle`).  What is left refers to properties that are no references, and every reference then
takes over the meaning of its target (`resolveAll`).
-/

namespace SchemaBeans.Schema

open Journal (Event)

namespace Model

/-- What is wrong with the target of a reference, if anything is. -/
def targetFault? (m : Model) (reference : String) : Option TargetFault :=
  match m.property? reference with
  | none => some .missing
  | some target =>
    if target.isReference then some .reference
    else if target.typeName = "" then some .untyped
    else none

/-- The error of a property that is a broken reference. -/
def brokenReference? (m : Model) (p : Property) : Option SchemaError :=
  p.reference?.bind fun reference =>
    (m.targetFault? reference).map fun fault => ⟨p.path, .target fault reference⟩

/-- The broken references in the order of their paths. -/
def brokenReferences (m : Model) : List SchemaError :=
  m.properties.values.filterMap m.brokenReference?

/-- The paths of the references, each with the path of its target. -/
def references (m : Model) : List (String × String) :=
  m.properties.values.filterMap fun p => p.reference?.map (p.path, ·)

/-- The model in which the property at a path has the meaning of its target. -/
def resolveAt (m : Model) (path reference : String) : Model :=
  match m.property? reference with
  | none => m
  | some referent => { m with properties := m.properties.modify path (·.resolved referent) }

/-- Every reference gets bounds that are words. -/
def ReferencesFit (m : Model) : Prop :=
  ∀ p ∈ m.properties.values, ∀ reference ∈ p.reference?, ∀ referent ∈ m.property? reference,
    (p.resolved referent).cardinality.Fits

instance (m : Model) : Decidable m.ReferencesFit := by unfold ReferencesFit; infer_instance

end Model

/-- A model while its references are resolved, with the errors so far. -/
structure Resolution where
  model : Model
  errors : Errors := {}
  events : List Event := []

namespace Resolution

/-- Records a broken reference and takes out the top-level schema that holds it. -/
def drop (x : Resolution) (error : SchemaError) : Resolution :=
  let root := Path.root error.path
  { model := x.model.prune root
    errors := x.errors.record error
    events := x.events ++
      [.schemaError error, .prunedBroken root (x.model.countWithin root)] }

/-- Drops the schemas with broken references in at most `rounds` rounds. -/
def settleWithin : (rounds : Nat) → Resolution → Resolution
  | 0, x => x
  | rounds + 1, x =>
    match x.model.brokenReferences with
    | [] => x
    | broken => settleWithin rounds (broken.foldl drop x)

/-- Drops the schemas with broken references until there are none.  Each round takes out a property
at least, so there are no more rounds than properties. -/
def settle (x : Resolution) : Resolution := settleWithin x.model.properties.size x

/-- Gives one reference the meaning of its target. -/
def resolveOne (x : Resolution) (entry : String × String) : Resolution :=
  let (path, reference) := entry
  let model := x.model.resolveAt path reference
  { x with
    model := model
    events := x.events ++
      match x.model.property? reference, model.property? path with
      | some _, some p => [.resolved path reference p.typeName]
      | _, _ => [] }

/-- Gives every reference the meaning of its target. -/
def resolveAll (x : Resolution) : Resolution := x.model.references.foldl resolveOne x

end Resolution

/-- The model with its references resolved, and the errors together with those of the broken
ones. -/
def resolve (m : Model) (errors : Errors) : Resolution :=
  (Resolution.settle { model := m, errors := errors }).resolveAll

/-- The model with its references resolved, if all bounds are words. -/
def resolve? (m : Model) (errors : Errors) : Except Overflow Resolution :=
  if (Resolution.settle { model := m, errors := errors }).model.ReferencesFit then
    .ok (resolve m errors)
  else .error .addition

theorem resolve_of_resolve? {m : Model} {errors : Errors} {r : Resolution}
    (h : resolve? m errors = .ok r) : resolve m errors = r := by
  rw [resolve?] at h
  split at h
  · exact Except.ok.inj h
  · cases h

end SchemaBeans.Schema
