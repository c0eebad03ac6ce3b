import Mathlib.Data.List.Basic
import SchemaBeans.Proofs.Path
import SchemaBeans.Schema.Model

/-!
# Models — what each operation does to each path

A model is read through two look-ups, `property?` and `type?`.  Each operation has one equation for
each of them, and two models with the same look-ups are equal (`Model.ext_lookup`); after this
module no proof opens a table.

A model is *indexed* if each property is stored under its own path.  In an indexed model the list
of all properties has each path once, so a look-up and a search of the list come to the same
(`Model.Indexed.mem_values_iff`).
-/

namespace SchemaBeans.Schema

open Std (ExtTreeMap ExtTreeSet TransCmp LawfulEqCmp)

/-! ### The values of a table -/

theorem values_eq_map_toList {α β : Type} {cmp : α → α → Ordering} [TransCmp cmp]
    (t : ExtTreeMap α β cmp) : t.values = t.toList.map Prod.snd := by
  obtain ⟨t⟩ := t
  induction t using Std.ExtDTreeMap.inductionOn with
  | mk t =>
    have h : t.inner.values = (Std.DTreeMap.Internal.Impl.Const.toList t.inner).map Prod.snd := by
      simp [Std.DTreeMap.Internal.Impl.values_eq_map_snd,
        Std.DTreeMap.Internal.Impl.Const.toList_eq_toListModel_map]
    exact h

theorem mem_values_iff {α β : Type} {cmp : α → α → Ordering} [TransCmp cmp] [LawfulEqCmp cmp]
    {t : ExtTreeMap α β cmp} {v : β} : v ∈ t.values ↔ ∃ k : α, t[k]? = some v := by
  rw [values_eq_map_toList, List.mem_map]
  refine ⟨?_, ?_⟩
  · rintro ⟨⟨k, w⟩, h, rfl⟩
    exact ⟨k, ExtTreeMap.mem_toList_iff_getElem?_eq_some.mp h⟩
  · rintro ⟨k, h⟩
    exact ⟨(k, v), ExtTreeMap.mem_toList_iff_getElem?_eq_some.mpr h, rfl⟩

/-- A set lists each of its elements once. -/
theorem nodup_toList {α : Type} {cmp : α → α → Ordering} [TransCmp cmp] [LawfulEqCmp cmp]
    (s : ExtTreeSet α cmp) : s.toList.Nodup :=
  ExtTreeSet.distinct_toList.imp fun h e => h (LawfulEqCmp.compare_eq_iff_eq.mpr e)

theorem filter_const {α : Type} (b : Bool) (o : Option α) :
    o.filter (fun _ => b) = if b then o else none := by
  cases o <;> cases b <;> rfl

namespace Model

variable {m m' : Model} {path q root : String}

/-- Two models with the same properties and types at every path are equal. -/
theorem ext_lookup (hp : ∀ q, m.property? q = m'.property? q)
    (ht : ∀ q, m.type? q = m'.type? q) : m = m' := by
  obtain ⟨types, properties⟩ := m
  obtain ⟨types', properties'⟩ := m'
  obtain rfl : types = types' := ExtTreeMap.ext_getElem? ht
  obtain rfl : properties = properties' := ExtTreeMap.ext_getElem? hp
  rfl

@[simp] theorem property?_empty (q : String) : ({} : Model).property? q = none := by
  simp [property?]

@[simp] theorem type?_empty (q : String) : ({} : Model).type? q = none := by
  simp [type?]

/-! ### Operations -/

@[simp] theorem property?_modifyParent (change : ExtTreeSet String → ExtTreeSet String) :
    (m.modifyParent path change).property? q = m.property? q := by
  simp only [modifyParent]
  split <;> rfl

/-- Only the type at the parent of the path changes, in the set of its properties. -/
theorem type?_modifyParent (change : ExtTreeSet String → ExtTreeSet String) :
    (m.modifyParent path change).type? q =
      if Path.parent? path = some q then
        (m.type? q).map fun t => { t with properties := change t.properties }
      else m.type? q := by
  simp only [modifyParent]
  split
  · next h => simp [h]
  · next parent h =>
    simp only [h, type?, ExtTreeMap.getElem?_modify, Std.LawfulEqCmp.compare_eq_iff_eq,
      Option.some.injEq]
    split
    · next e => rw [e]
    · rfl

/-- An inserted property is found at its path; elsewhere nothing changes. -/
theorem property?_insertProperty (p : Property) :
    (m.insertProperty p).property? q = if q = p.path then some p else m.property? q := by
  have h : (m.insertProperty p).property? q =
      if p.path = q then some p else (m.modifyParent p.path (·.insert p.path)).property? q := by
    simp [insertProperty, property?, ExtTreeMap.getElem?_insert]
  rw [h, property?_modifyParent]
  simp only [eq_comm]

/-- An inserted property is listed by the type at its parent, if there is one. -/
theorem type?_insertProperty (p : Property) :
    (m.insertProperty p).type? q =
      if Path.parent? p.path = some q then
        (m.type? q).map fun t => { t with properties := t.properties.insert p.path }
      else m.type? q :=
  type?_modifyParent _

@[simp] theorem property?_insertType (t : SchemaType) :
    (m.insertType path t).property? q = m.property? q :=
  rfl

/-- An inserted type is found at its path; elsewhere nothing changes. -/
theorem type?_insertType (t : SchemaType) :
    (m.insertType path t).type? q = if q = path then some t else m.type? q := by
  simp only [insertType, type?, ExtTreeMap.getElem?_insert, Std.LawfulEqCmp.compare_eq_iff_eq]
  simp only [eq_comm]

/-- Requiring a property sets its lower bound, and leaves every other property alone. -/
theorem property?_require (min : Nat) :
    (m.require path min).property? q =
      if q = path then
        (m.property? q).map fun p => { p with cardinality := { p.cardinality with min := min } }
      else m.property? q := by
  simp only [require, property?, ExtTreeMap.getElem?_modify, Std.LawfulEqCmp.compare_eq_iff_eq]
  by_cases h : q = path
  · simp [h]
  · simp [h, Ne.symm h]

@[simp] theorem type?_require (min : Nat) : (m.require path min).type? q = m.type? q :=
  rfl

/-- Pruning takes out the properties within the root, and no others. -/
theorem property?_prune :
    (m.prune root).property? q = if Path.isWithin q root then none else m.property? q := by
  rw [prune, property?_modifyParent]
  simp only [property?, ExtTreeMap.getElem?_filter', filter_const]
  cases Path.isWithin q root <;> simp

/-- Pruning takes out the types within the root, and the root from the type at its parent. -/
theorem type?_prune :
    (m.prune root).type? q =
      if Path.isWithin q root then none
      else if Path.parent? root = some q then
        (m.type? q).map fun t => { t with properties := t.properties.erase root }
      else m.type? q := by
  rw [prune, type?_modifyParent]
  simp only [type?, ExtTreeMap.getElem?_filter', filter_const]
  cases Path.isWithin q root <;> simp

/-- Pruning leaves a property that it leaves at all as it was. -/
theorem property?_prune_eq_some {p : Property} :
    (m.prune root).property? q = some p ↔
      Path.isWithin q root = false ∧ m.property? q = some p := by
  rw [property?_prune]
  cases Path.isWithin q root <;> simp

theorem erase_comm (s : ExtTreeSet String) (a b : String) :
    (s.erase a).erase b = (s.erase b).erase a := by
  refine ExtTreeSet.ext_mem fun q => ?_
  simp only [ExtTreeSet.mem_erase, ne_eq, Std.LawfulEqCmp.compare_eq_iff_eq]
  exact and_left_comm

/-- Two schemas may be pruned in either order. -/
theorem prune_comm (m : Model) (a b : String) : (m.prune a).prune b = (m.prune b).prune a := by
  refine ext_lookup (fun q => ?_) fun q => ?_
  · simp only [property?_prune]
    by_cases ha : Path.isWithin q a <;> by_cases hb : Path.isWithin q b <;> simp [ha, hb]
  · simp only [type?_prune]
    by_cases ha : Path.isWithin q a
    · simp [ha]
    · by_cases hb : Path.isWithin q b
      · simp [hb]
      · by_cases pa : Path.parent? a = some q <;> by_cases pb : Path.parent? b = some q <;>
          simp [ha, hb, pa, pb, Function.comp_def, erase_comm _ a b]

/-! ### Indexed models -/

/-- Each property is stored under its own path. -/
def Indexed (m : Model) : Prop := ∀ q p, m.property? q = some p → p.path = q

theorem indexed_empty : Indexed {} := by
  intro q p h
  simp at h

/-- A property is inserted under its own path. -/
theorem Indexed.insertProperty (h : m.Indexed) (p : Property) : (m.insertProperty p).Indexed := by
  intro q p' hp
  rw [property?_insertProperty] at hp
  split at hp
  · next e =>
    cases hp
    exact e.symm
  · exact h q p' hp

theorem Indexed.insertType (h : m.Indexed) (path : String) (t : SchemaType) :
    (m.insertType path t).Indexed :=
  h

theorem Indexed.require (h : m.Indexed) (path : String) (min : Nat) :
    (m.require path min).Indexed := by
  intro q p' hp
  rw [property?_require] at hp
  split at hp
  · obtain ⟨p, hp', rfl⟩ := Option.map_eq_some_iff.mp hp
    exact h q p hp'
  · exact h q p' hp

/-- What is left by pruning is stored where it was. -/
theorem Indexed.prune (h : m.Indexed) (root : String) : (m.prune root).Indexed :=
  fun q p hp => h q p (property?_prune_eq_some.mp hp).2

/-- In an indexed model a property is listed exactly if it is found at its path. -/
theorem Indexed.mem_values_iff (h : m.Indexed) {p : Property} :
    p ∈ m.properties.values ↔ m.property? p.path = some p := by
  rw [Schema.mem_values_iff]
  refine ⟨?_, ?_⟩
  · rintro ⟨q, hq⟩
    rwa [h q p hq]
  · intro hp
    exact ⟨p.path, hp⟩

/-- The paths of the properties are the keys of the table, in the same order. -/
theorem Indexed.map_path_values (h : m.Indexed) :
    m.properties.values.map Property.path = m.properties.keys := by
  rw [values_eq_map_toList, ← ExtTreeMap.map_fst_toList_eq_keys, List.map_map]
  refine List.map_congr_left ?_
  rintro ⟨q, p⟩ hq
  exact h q p (ExtTreeMap.mem_toList_iff_getElem?_eq_some.mp hq)

/-- In an indexed model no path is listed twice. -/
theorem Indexed.nodup_paths (h : m.Indexed) : (m.properties.values.map Property.path).Nodup := by
  rw [h.map_path_values]
  exact ExtTreeMap.nodup_keys

/-! ### Size -/

theorem properties_prune :
    (m.prune root).properties = m.properties.filter fun path _ => !Path.isWithin path root := by
  simp only [prune, modifyParent]
  split <;> rfl

/-- Pruning leaves no more properties than there were. -/
theorem size_properties_prune_le : (m.prune root).properties.size ≤ m.properties.size := by
  rw [properties_prune]
  exact ExtTreeMap.size_filter_le_size

/-- Pruning at a root that a property lies within takes out a property at least. -/
theorem size_properties_prune_lt {p : Property} (hp : m.property? q = some p)
    (hw : Path.isWithin q root = true) : (m.prune root).properties.size < m.properties.size := by
  rw [properties_prune]
  refine Nat.lt_of_le_of_ne ExtTreeMap.size_filter_le_size fun hs => ?_
  have hq : q ∈ m.properties := ExtTreeMap.mem_iff_isSome_getElem?.mpr (by
    rw [show m.properties[q]? = some p from hp]; rfl)
  have hf := ExtTreeMap.size_filter_eq_size_iff.mp hs q hq
  simp [hw] at hf

end Model

end SchemaBeans.Schema
