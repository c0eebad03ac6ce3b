import SchemaBeans.Proofs.Model

/-!
# Models — descriptions aside

A model without its descriptions has the same properties and types, each with an empty description
(`Model.undescribed`).  Operations look at paths, types and bounds, but at no description; so what
an operation leaves of a model without descriptions is what it leaves of the model, without its
descriptions.
-/

namespace SchemaBeans.Schema

open Std (ExtTreeMap)

/-- The property without its description. -/
def Property.undescribed (p : Property) : Property := { p with description := "" }

/-- The type without its description. -/
def SchemaType.undescribed (t : SchemaType) : SchemaType := { t with description := "" }

/-- The model without its descriptions. -/
def Model.undescribed (m : Model) : Model where
  types := m.types.map fun _ t => t.undescribed
  properties := m.properties.map fun _ p => p.undescribed

namespace Model

variable {m : Model} {path q : String}

/-- At a path there is the property of the model, without its description. -/
@[simp] theorem property?_undescribed :
    m.undescribed.property? q = (m.property? q).map Property.undescribed :=
  ExtTreeMap.getElem?_map

@[simp] theorem type?_undescribed :
    m.undescribed.type? q = (m.type? q).map SchemaType.undescribed :=
  ExtTreeMap.getElem?_map

@[simp] theorem undescribed_empty : ({} : Model).undescribed = {} :=
  ext_lookup (fun q => by simp) fun q => by simp

/-! ### Operations -/

/-- A property can lose its description before or after it is inserted. -/
theorem undescribed_insertProperty (p : Property) :
    (m.insertProperty p).undescribed = m.undescribed.insertProperty p.undescribed := by
  refine ext_lookup (fun q => ?_) fun q => ?_
  · simp only [property?_undescribed, property?_insertProperty]
    split
    · next hq => exact (if_pos hq).symm
    · next hq => exact (if_neg hq).symm
  · simp only [type?_undescribed, type?_insertProperty]
    split
    · next hq =>
      refine Eq.trans ?_ (if_pos hq).symm
      rw [Option.map_map, Option.map_map]
      rfl
    · next hq => exact (if_neg hq).symm

/-- A type can lose its description before or after it is inserted. -/
theorem undescribed_insertType (t : SchemaType) :
    (m.insertType path t).undescribed = m.undescribed.insertType path t.undescribed := by
  refine ext_lookup (fun q => ?_) fun q => ?_
  · simp only [property?_undescribed, property?_insertType]
  · simp only [type?_undescribed, type?_insertType]
    split <;> rfl

/-- Requiring a property looks at its path, and changes its bounds. -/
theorem undescribed_require (min : Nat) :
    (m.require path min).undescribed = m.undescribed.require path min := by
  refine ext_lookup (fun q => ?_) fun q => ?_
  · simp only [property?_undescribed, property?_require]
    split
    · rw [Option.map_map, Option.map_map]
      rfl
    · rfl
  · simp only [type?_undescribed, type?_require]

/-- Pruning looks at paths alone. -/
theorem undescribed_prune (root : String) :
    (m.prune root).undescribed = m.undescribed.prune root := by
  refine ext_lookup (fun q => ?_) fun q => ?_
  · simp only [property?_undescribed, property?_prune]
    split <;> rfl
  · simp only [type?_undescribed, type?_prune]
    split
    · rfl
    · split
      · rw [Option.map_map, Option.map_map]
        rfl
      · rfl

/-! ### Counts and lists -/

/-- There are as many properties as before; so a summary counts the same. -/
@[simp] theorem size_undescribed : m.undescribed.size = m.size := by
  simp [size, undescribed]

@[simp] theorem isEmpty_undescribed : m.undescribed.isEmpty = m.isEmpty := by
  simp [isEmpty, undescribed, ExtTreeMap.isEmpty_eq_size_beq_zero]

@[simp] theorem countWithin_undescribed (root : String) :
    m.undescribed.countWithin root = m.countWithin root := by
  rw [countWithin, countWithin, ← undescribed_prune, size_undescribed, size_undescribed]

/-- The properties of what is left are those of the model, without their descriptions. -/
theorem values_properties_undescribed :
    m.undescribed.properties.values = m.properties.values.map Property.undescribed := by
  rw [values_eq_map_toList, values_eq_map_toList, undescribed, ExtTreeMap.toList_map,
    List.map_map, List.map_map]
  rfl

/-- The types are listed in the same order, without their descriptions. -/
theorem toList_types_undescribed :
    m.undescribed.types.toList =
      m.types.toList.map fun entry => (entry.1, entry.2.undescribed) :=
  ExtTreeMap.toList_map

/-- The members of a type are listed in the same order, without their descriptions. -/
theorem members_undescribed (t : SchemaType) :
    m.undescribed.members t.undescribed = (m.members t).map Property.undescribed := by
  rw [members, members, List.map_filterMap]
  exact List.filterMap_congr fun q _ => property?_undescribed

@[simp] theorem own?_undescribed (t : SchemaType) :
    m.undescribed.own? t.undescribed = (m.own? t).map Property.undescribed :=
  property?_undescribed

end Model

end SchemaBeans.Schema
