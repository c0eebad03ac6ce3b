import Mathlib.Data.List.Basic
import SchemaBeans.Schema.Error

/-!
# Errors — what is recorded at each path

Errors are read through one look-up, `cause?`.  Recording one changes it at the path of the error
and nowhere else, so a record never gets empty again, and the order of records at different paths
does not matter.
-/

namespace SchemaBeans.Schema.Errors

variable {es es' : Errors} {e e' : SchemaError} {q : String}

/-- What is recorded at a path. -/
def cause? (es : Errors) (path : String) : Option Cause := es.causes[path]?

/-- Two records with the same causes at every path are equal. -/
theorem ext_cause? (h : ∀ q, es.cause? q = es'.cause? q) : es = es' := by
  obtain ⟨causes⟩ := es
  obtain ⟨causes'⟩ := es'
  obtain rfl : causes = causes' := Std.ExtTreeMap.ext_getElem? h
  rfl

@[simp] theorem cause?_empty (q : String) : ({} : Errors).cause? q = none := by
  simp [cause?]

theorem cause?_record (es : Errors) (e : SchemaError) (q : String) :
    (es.record e).cause? q = if q = e.path then some e.cause else es.cause? q := by
  simp only [cause?, record, Std.ExtTreeMap.getElem?_insert, Std.LawfulEqCmp.compare_eq_iff_eq]
  simp only [eq_comm]

theorem mem_paths_iff : q ∈ es.paths ↔ ∃ c, es.cause? q = some c := by
  rw [paths, Std.ExtTreeMap.mem_keys, Std.ExtTreeMap.mem_iff_isSome_getElem?,
    Option.isSome_iff_exists]
  rfl

/-- A record is empty if nothing is recorded at any path. -/
theorem isEmpty_iff : es.isEmpty = true ↔ ∀ q, q ∉ es.paths := by
  rw [isEmpty, ← Std.ExtTreeMap.isEmpty_keys, List.isEmpty_iff, List.eq_nil_iff_forall_not_mem]
  rfl

/-- Errors at two paths may be recorded in either order. -/
theorem record_comm (h : e.path ≠ e'.path) (es : Errors) :
    (es.record e).record e' = (es.record e').record e := by
  refine ext_cause? fun q => ?_
  simp only [cause?_record]
  by_cases hq : q = e.path
  · subst hq
    simp [h]
  · simp [hq]

theorem not_isEmpty_record (es : Errors) (e : SchemaError) : (es.record e).isEmpty = false := by
  rw [Bool.eq_false_iff]
  intro h
  exact isEmpty_iff.mp h e.path (mem_paths_iff.mpr ⟨e.cause, by rw [cause?_record, if_pos rfl]⟩)

/-- What is recorded may be replaced, but it is not lost. -/
theorem mem_paths_foldl_record (order : List SchemaError) (h : q ∈ es.paths) :
    q ∈ (order.foldl record es).paths := by
  induction order generalizing es with
  | nil => exact h
  | cons e order ih =>
    refine ih ?_
    rw [mem_paths_iff, cause?_record]
    split
    · exact ⟨e.cause, rfl⟩
    · exact mem_paths_iff.mp h

/-- Where no error is recorded, all stays. -/
theorem cause?_foldl_record_of_forall_ne {order : List SchemaError} (h : ∀ e ∈ order, q ≠ e.path) :
    (order.foldl record es).cause? q = es.cause? q := by
  induction order generalizing es with
  | nil => rfl
  | cons e order ih =>
    obtain ⟨he, horder⟩ := List.forall_mem_cons.mp h
    rw [List.foldl_cons, ih horder, cause?_record, if_neg he]

/-- An error is recorded if it is the only one at its path. -/
theorem cause?_foldl_record_of_mem {order : List SchemaError}
    (hunique : ∀ e' ∈ order, e'.path = e.path → e' = e) (he : e ∈ order) :
    (order.foldl record es).cause? e.path = some e.cause := by
  induction order generalizing es with
  | nil => cases he
  | cons e' order ih =>
    have hrest : ∀ e' ∈ order, e'.path = e.path → e' = e := fun e' he' =>
      hunique e' (List.mem_cons_of_mem _ he')
    rw [List.foldl_cons]
    by_cases hmem : e ∈ order
    · exact ih hrest hmem
    · obtain rfl := (List.mem_cons.mp he).resolve_right hmem
      have hlater : ∀ e' ∈ order, e.path ≠ e'.path := fun e' he' hpath =>
        hmem (hrest e' he' hpath.symm ▸ he')
      rw [cause?_foldl_record_of_forall_ne hlater, cause?_record, if_pos rfl]

/-- What is recorded has been there before or is of one of the errors. -/
theorem cause?_foldl_record_or {order : List SchemaError} {c : Cause}
    (h : (order.foldl record es).cause? q = some c) : es.cause? q = some c ∨ ⟨q, c⟩ ∈ order := by
  induction order generalizing es with
  | nil => exact Or.inl h
  | cons e order ih =>
    rcases ih h with h | h
    · rw [cause?_record] at h
      split at h
      · next hq =>
        cases h
        exact Or.inr (hq ▸ List.mem_cons_self)
      · exact Or.inl h
    · exact Or.inr (List.mem_cons_of_mem _ h)

/-- Only a record of nothing is empty. -/
theorem isEmpty_foldl_record (order : List SchemaError) :
    (order.foldl record es).isEmpty = true ↔ es.isEmpty = true ∧ order = [] := by
  induction order generalizing es with
  | nil => simp
  | cons e order ih => simp [ih, not_isEmpty_record]

end SchemaBeans.Schema.Errors
