import Mathlib.Data.String.Basic
import SchemaBeans.Proofs.Extraction.Visits
import SchemaBeans.Proofs.Naming.Pascal

/-!
# Extraction — the names of types

A schema type is named by its path: the names on the way to it, each in Pascal case.  What is done
to a model later leaves the names (`Named`), so in the model of a document, with whatever names,
each type has the name of its path (`extract_named`).

The name of a path has no slash, even where a name on the way has one, and no other character that
Pascal case bars from names (`not_mem_typeNameAt`).
-/

namespace SchemaBeans.Schema

open Shape (placesBelow)
open Yaml (Node)

namespace Model

/-- Each type has the name that is made of its path. -/
def Named (m : Model) : Prop :=
  ∀ path t, m.type? path = some t → t.name = Extraction.typeNameAt path

variable {m : Model}

theorem named_empty : Named {} := by
  intro path t ht
  simp at ht

/-- Changing the list of properties of a type leaves its name. -/
theorem Named.insertProperty (h : m.Named) (p : Property) : (m.insertProperty p).Named := by
  intro path t ht
  rw [type?_insertProperty] at ht
  split at ht
  · obtain ⟨t', ht', rfl⟩ := Option.map_eq_some_iff.mp ht
    exact h path t' ht'
  · exact h path t ht

theorem Named.prune (h : m.Named) (root : String) : (m.prune root).Named := by
  intro path t ht
  rw [type?_prune] at ht
  split at ht
  · cases ht
  · split at ht
    · obtain ⟨t', ht', rfl⟩ := Option.map_eq_some_iff.mp ht
      exact h path t' ht'
    · exact h path t ht

end Model

namespace Extraction

variable {x : Extraction} {path : String}

/-- A type is put in under the name of its path. -/
theorem named_enter (h : x.model.Named) (description : Option String) (dimensions : Nat)
    (element : Element) : (x.enter path description dimensions element).model.Named := by
  have hinserted := h.insertProperty (propertyOf path description dimensions element)
  rw [enter]
  dsimp only
  split
  · intro q t ht
    rw [addType, Model.type?_insertType] at ht
    split at ht
    · next hq =>
      cases ht
      rw [hq]
    · exact hinserted q t ht
  · exact hinserted

theorem visits_named (ps : List (String × Shape)) : Visits ps Model.Named where
  enter _ h := named_enter h _ _ _
  require _ h := fun q t ht => h q t (by simpa using ht)
  prune path h := h.prune path

/-- What is barred from names in Pascal case is not in the name of a path. -/
theorem not_mem_typeNameAt {d : Char} (hd : Naming.IsBarred d) (path : String) :
    d ∉ (typeNameAt path).toList := by
  intro h
  rw [typeNameAt, String.toList_join] at h
  obtain ⟨word, hword, hin⟩ := List.mem_flatMap.mp h
  obtain ⟨name, -, rfl⟩ := List.mem_map.mp hword
  exact hd.not_mem_pascal name hin

end Extraction

/-- **Names of types.**  In the model of a document, with whatever names, each type has the name of
its path. -/
theorem extract_named {document : Node} {schemas : List (Node × Node)} {x : Extraction}
    (hc : components document = .ok schemas) (hx : extract document = .ok x) : x.model.Named :=
  (Extraction.visits_named _).extract Model.named_empty hc hx

end SchemaBeans.Schema
