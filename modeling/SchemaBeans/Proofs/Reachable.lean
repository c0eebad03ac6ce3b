import SchemaBeans.Proofs.Coherence
import SchemaBeans.Proofs.Extraction.Visits

/-!
# Models — which can be reached

A model is *reachable* if it comes of edits and of resolutions, in whatever order, and each property
was put in under the name that ends its path (`Model.Reachable`).  Extraction puts them in so, and
what it leaves may be resolved; so extracted and resolved models are reachable
(`reachable_of_extract`).

A reachable model is coherent, and names its properties by their paths (`Reachable.coherent`,
`Reachable.namedByPath`).  The members of a type lie at different paths below the same one, so no
two of them have the same name (`Reachable.nodup_names`).
-/

namespace SchemaBeans.Schema

open Yaml (Node)

namespace Model

variable {m : Model} {path : String} {t : SchemaType}

/-- If the edit puts in a property, it is named by the last segment of its path. -/
def Edit.IsNamed : Edit → Prop
  | .insertProperty p => p.name = Path.last p.path
  | .insertType _ _ _ | .require _ _ | .prune _ => True

/-- The model comes of edits and resolutions. -/
inductive Reachable : Model → Prop where
  | empty : Reachable {}
  | edit {m : Model} {e : Edit} (h : Reachable m) (he : e.IsNamed) : Reachable (m.edit e)
  | resolve {m : Model} (h : Reachable m) (errors : Errors) :
      Reachable (Schema.resolve m errors).model

theorem Reachable.coherent (h : m.Reachable) : m.Coherent := by
  induction h with
  | empty => exact coherent_empty
  | edit _ _ ih => exact ih.edit _
  | resolve _ errors ih => exact ih.resolve errors

/-- Each property is named by the last segment of the path that it is stored under. -/
def NamedByPath (m : Model) : Prop := ∀ q p, m.property? q = some p → p.name = Path.last q

namespace NamedByPath

theorem edit (h : m.NamedByPath) : ∀ {e : Edit}, e.IsNamed → (m.edit e).NamedByPath
  | .insertProperty p, he => by
    intro q p' hp
    rw [Model.edit, property?_insertProperty] at hp
    split at hp
    · next hq =>
      cases hp
      rw [hq]
      exact he
    · exact h q p' hp
  | .insertType _ _ _, _ => h
  | .require path min, _ => by
    intro q p' hp
    rw [Model.edit, property?_require] at hp
    split at hp
    · obtain ⟨p, hp', rfl⟩ := Option.map_eq_some_iff.mp hp
      exact h q p hp'
    · exact h q p' hp
  | .prune root, _ => fun q p hp => h q p (property?_prune_eq_some.mp hp).2

theorem resolve (h : m.NamedByPath) (hm : m.Indexed) (errors : Errors) :
    (Schema.resolve m errors).model.NamedByPath := by
  intro q p hp
  rw [property?_resolve hm] at hp
  obtain ⟨p', hp', rfl⟩ := Option.map_eq_some_iff.mp hp
  rw [name_meaning, h q p' ((hm.isPart_settled errors).property hp')]

end NamedByPath

namespace Reachable

theorem namedByPath (h : m.Reachable) : m.NamedByPath := by
  induction h with
  | empty => intro q p hp; simp at hp
  | edit _ he ih => exact ih.edit he
  | resolve h errors ih => exact ih.resolve h.coherent.indexed errors

/-- A member of a type is at the path below that of the type which its name gives. -/
theorem path_eq_of_mem_members (h : m.Reachable) (ht : m.type? path = some t) {p : Property}
    (hp : p ∈ m.members t) : p.path = Path.child path p.name := by
  obtain ⟨q, hq, hp⟩ := List.mem_filterMap.mp hp
  have hparent := h.coherent.parent ht (Std.ExtTreeSet.mem_toList.mp hq)
  rw [h.coherent.indexed q p hp, h.namedByPath q p hp]
  exact Path.eq_child_of_parent? hparent

/-- **Names of members.**  No two members of a type have the same name. -/
theorem nodup_names (h : m.Reachable) (ht : m.type? path = some t) :
    ((m.members t).map Property.name).Nodup := by
  have hne {a b : String} (hlt : a < b) : a ≠ b := fun e => String.lt_irrefl b (e ▸ hlt)
  have hpaths : ((m.members t).map Property.path).Nodup :=
    (h.coherent.listsMembers path t ht).2.imp hne
  rw [List.map_congr_left fun p hp => h.path_eq_of_mem_members ht hp] at hpaths
  refine List.Nodup.of_map (Path.child path) ?_
  rwa [List.map_map]

end Reachable

end Model

/-- Entering places, requiring and pruning lead from reachable models to reachable ones. -/
theorem Extraction.visits_reachable (ps : List (String × Shape)) :
    Extraction.Visits ps Model.Reachable where
  enter {x path description dimensions element members} _ h := by
    have hproperty : (x.model.insertProperty
        (propertyOf path description dimensions element)).Reachable := by
      refine h.edit (e := .insertProperty _) ?_
      rw [Model.Edit.IsNamed, propertyOf_eq]
    simp only [enter]
    split
    · exact hproperty.edit (e := .insertType _ _ _) trivial
    · exact hproperty
  require path h := h.edit (e := .require path 1) trivial
  prune root h := h.edit (e := .prune root) trivial

/-- **Reachable models.**  Every extracted model is reachable, and so is what resolution makes of
it. -/
theorem reachable_of_extract {document : Node} {x : Extraction} (hx : extract document = .ok x) :
    x.model.Reachable ∧ ∀ errors, (resolve x.model errors).model.Reachable := by
  cases hc : components document with
  | error absence =>
    rw [extract, hc] at hx
    cases hx
  | ok schemas =>
    have h := (Extraction.visits_reachable _).extract .empty hc hx
    exact ⟨h, fun errors => h.resolve errors⟩

end SchemaBeans.Schema
