import SchemaBeans.Proofs.Errors
import SchemaBeans.Proofs.Resolution.Meaning

/-!
# Resolution — errors, and the order of references

Rounds record errors and never take one back, so they end without errors exactly if there were none
and no reference was broken (`Resolution.Settles.isEmpty_iff`).

If each round takes up all the broken references of its model, it does not matter in which order:
the model and the errors come out the same (`Resolution.Settles.unique`).  Neither does the order in
which references are replaced, which touches no error.
-/

namespace SchemaBeans.Schema

namespace Resolution

variable {x y : Resolution} {m : Model}

/-! ### The errors of rounds -/

theorem errors_foldl_drop (order : List SchemaError) (x : Resolution) :
    (order.foldl drop x).errors = order.foldl Errors.record x.errors := by
  induction order generalizing x with
  | nil => rfl
  | cons e order ih => exact ih (x.drop e)

theorem model_foldl_drop (order : List SchemaError) (x : Resolution) :
    (order.foldl drop x).model =
      order.foldl (fun m e => m.prune (Path.root e.path)) x.model := by
  induction order generalizing x with
  | nil => rfl
  | cons e order ih => exact ih (x.drop e)

/-- In an indexed model no two broken references have one path. -/
theorem eq_of_path_eq (h : m.Indexed) {e e' : SchemaError} (he : e ∈ m.brokenReferences)
    (he' : e' ∈ m.brokenReferences) (hpath : e.path = e'.path) : e = e' := by
  obtain ⟨p, hp, hb⟩ := h.mem_brokenReferences_iff.mp he
  obtain ⟨p', hp', hb'⟩ := h.mem_brokenReferences_iff.mp he'
  rw [hpath, hp'] at hp
  cases hp
  exact Option.some.inj (hb.symm.trans hb')

/-- A round may take up all the broken references of a model in any order. -/
theorem foldl_drop_perm {x' : Resolution} (h : x.model.Indexed) (hmodel : x.model = x'.model)
    (herrors : x.errors = x'.errors) {order order' : List SchemaError}
    (ho : order.Perm x.model.brokenReferences) (ho' : order'.Perm x.model.brokenReferences) :
    (order.foldl drop x).model = (order'.foldl drop x').model ∧
      (order.foldl drop x).errors = (order'.foldl drop x').errors := by
  have hperm : order.Perm order' := ho.trans ho'.symm
  refine ⟨?_, ?_⟩
  · rw [model_foldl_drop, model_foldl_drop, hmodel]
    exact hperm.foldl_eq' (fun e _ e' _ m => m.prune_comm _ _) _
  · rw [errors_foldl_drop, errors_foldl_drop, herrors]
    refine hperm.foldl_eq' (fun e he e' he' errors => ?_) _
    -- at one path there is one broken reference, so it is recorded the same twice
    by_cases hpath : e.path = e'.path
    · rw [eq_of_path_eq h (ho.mem_iff.mp he) (ho.mem_iff.mp he') hpath]
    · exact Errors.record_comm hpath errors

/-- Rounds that take up all broken references, each in any order, come to the same model and the
same errors. -/
theorem Settles.unique {x' y' : Resolution} (hy : Settles List.Perm x y) (h : x.model.Indexed)
    (hmodel : x.model = x'.model) (herrors : x.errors = x'.errors)
    (hy' : Settles List.Perm x' y') : y.model = y'.model ∧ y.errors = y'.errors := by
  induction hy generalizing x' with
  | stable hs =>
    cases hy' with
    | stable _ => exact ⟨hmodel, herrors⟩
    | round order' hne htake _ =>
      rw [← hmodel, hs] at htake
      exact absurd htake.eq_nil hne
  | round order hne htake _ ih =>
    cases hy' with
    | stable hs =>
      rw [hmodel, hs] at htake
      exact absurd htake.eq_nil hne
    | round order' _ htake' hy' =>
      rw [← hmodel] at htake'
      obtain ⟨hm, he⟩ := foldl_drop_perm h hmodel herrors htake htake'
      exact ih ((isPart_foldl_drop order _).indexed h) hm he hy'

/-- Rounds keep the errors there were. -/
theorem Settles.mem_paths {takes : List SchemaError → List SchemaError → Prop}
    (h : Settles takes x y) {q : String} (hq : q ∈ x.errors.paths) : q ∈ y.errors.paths := by
  induction h with
  | stable => exact hq
  | round order _ _ _ ih =>
    refine ih ?_
    rw [errors_foldl_drop]
    exact Errors.mem_paths_foldl_record order hq

/-- To take up the list as it is takes up part of it. -/
theorem Settles.subset (h : Settles Eq x y) : Settles (· ⊆ ·) x y :=
  h.mono (by rintro _ _ rfl; exact List.Subset.refl _)

/-- A round takes out the property of every reference that it takes up. -/
theorem property?_foldl_drop_of_mem {order : List SchemaError} {e : SchemaError} (he : e ∈ order) :
    (order.foldl drop x).model.property? e.path = none := by
  induction order generalizing x with
  | nil => cases he
  | cons e' order ih =>
    rcases List.mem_cons.mp he with rfl | he
    · have hdropped : (x.drop e).model.property? e.path = none := by
        rw [model_drop, Model.property?_prune, if_pos (Path.isWithin_root e.path)]
      exact (isPart_foldl_drop order _).property?_eq_none hdropped
    · exact ih he

/-- Rounds record nothing at a path without a property. -/
theorem Settles.cause?_of_property?_eq_none (h : Settles (· ⊆ ·) x y) (hm : x.model.Indexed)
    {q : String} (hq : x.model.property? q = none) : y.errors.cause? q = x.errors.cause? q := by
  induction h with
  | stable => rfl
  | @round x _ order _ hsub _ ih =>
    have hpart := isPart_foldl_drop order x
    rw [ih (hpart.indexed hm) (hpart.property?_eq_none hq), errors_foldl_drop,
      Errors.cause?_foldl_record_of_forall_ne]
    rintro e he rfl
    obtain ⟨p, hp, -⟩ := hm.mem_brokenReferences_iff.mp (hsub he)
    cases hq.symm.trans hp

/-- What is broken to begin with is recorded as what it is. -/
theorem Settles.cause?_of_mem_brokenReferences (h : Settles Eq x y) (hm : x.model.Indexed)
    {e : SchemaError} (he : e ∈ x.model.brokenReferences) :
    y.errors.cause? e.path = some e.cause := by
  cases h with
  | stable hs =>
    rw [hs] at he
    cases he
  | round order hne htake t =>
    subst htake
    rw [t.subset.cause?_of_property?_eq_none ((isPart_foldl_drop _ x).indexed hm)
      (property?_foldl_drop_of_mem he), errors_foldl_drop]
    exact Errors.cause?_foldl_record_of_mem (fun e' he' => eq_of_path_eq hm he' he) he

/-- Rounds end without errors exactly if there were none and no reference was broken. -/
theorem Settles.isEmpty_iff (h : Settles (· ⊆ ·) x y) :
    y.errors.isEmpty = true ↔ x.errors.isEmpty = true ∧ x.model.brokenReferences = [] := by
  induction h with
  | stable hs => simp [hs]
  | round order hne hsub _ ih =>
    rw [ih, errors_foldl_drop, Errors.isEmpty_foldl_record]
    refine ⟨fun h => absurd h.1.2 hne, fun h => ?_⟩
    rw [h.2, List.subset_nil] at hsub
    exact absurd hsub hne

/-! ### Replacing references -/

theorem errors_foldl_resolveOne (order : List (String × String)) (x : Resolution) :
    (order.foldl resolveOne x).errors = x.errors := by
  induction order generalizing x with
  | nil => rfl
  | cons entry order ih => exact ih (x.resolveOne entry)

theorem model_foldl_resolveOne (order : List (String × String)) (x : Resolution) :
    (order.foldl resolveOne x).model =
      order.foldl (fun m entry => m.resolveAt entry.1 entry.2) x.model := by
  induction order generalizing x with
  | nil => rfl
  | cons entry order ih => exact ih (x.resolveOne entry)

theorem model_resolveAll_congr (h : x.model = y.model) :
    x.resolveAll.model = y.resolveAll.model := by
  rw [resolveAll, resolveAll, model_foldl_resolveOne, model_foldl_resolveOne, h]

/-- Replacing references neither adds nor takes out a property. -/
theorem isSome_property?_resolveAll (h : x.model.Indexed) (hs : x.model.brokenReferences = [])
    (path : String) :
    (x.resolveAll.model.property? path).isSome = (x.model.property? path).isSome := by
  rw [resolveAll, property?_foldl_references h hs (List.Perm.refl _), Option.isSome_map]

end Resolution

/-- The errors of resolution are those of the rounds. -/
theorem errors_resolve (m : Model) (errors : Errors) :
    (resolve m errors).errors = (Resolution.settle { model := m, errors := errors }).errors := by
  rw [resolve, Resolution.resolveAll, Resolution.errors_foldl_resolveOne]

/-- Resolution keeps the errors there were. -/
theorem mem_paths_resolve {m : Model} (hm : m.Indexed) {errors : Errors} {q : String}
    (hq : q ∈ errors.paths) : q ∈ (resolve m errors).errors.paths := by
  rw [errors_resolve]
  exact (Resolution.settles_settle (x := { model := m, errors := errors }) hm).mem_paths hq

/-- Resolution records nothing at a path without a property. -/
theorem cause?_resolve_of_property?_eq_none {m : Model} (hm : m.Indexed) {errors : Errors}
    {q : String} (hq : m.property? q = none) :
    (resolve m errors).errors.cause? q = errors.cause? q := by
  have hset := Resolution.settles_settle (x := { model := m, errors := errors }) hm
  rw [errors_resolve]
  exact hset.subset.cause?_of_property?_eq_none hm hq

/-- Resolution records every broken reference as what it is. -/
theorem cause?_resolve_of_mem_brokenReferences {m : Model} (hm : m.Indexed) (errors : Errors)
    {e : SchemaError} (he : e ∈ m.brokenReferences) :
    (resolve m errors).errors.cause? e.path = some e.cause := by
  have hset := Resolution.settles_settle (x := { model := m, errors := errors }) hm
  rw [errors_resolve]
  exact hset.cause?_of_mem_brokenReferences hm he

/-- Resolution adds no error exactly if no reference is broken. -/
theorem isEmpty_errors_resolve_iff {m : Model} (hm : m.Indexed) (errors : Errors) :
    (resolve m errors).errors.isEmpty = true ↔
      errors.isEmpty = true ∧ m.brokenReferences = [] := by
  have hset := Resolution.settles_settle (x := { model := m, errors := errors }) hm
  rw [errors_resolve]
  exact hset.subset.isEmpty_iff

/-- Where no errors are left, each path has the meaning of the property that was there. -/
theorem property?_resolve_of_isEmpty {m : Model} (hm : m.Indexed) {errors : Errors}
    (h : (resolve m errors).errors.isEmpty = true) (q : String) :
    (resolve m errors).model.property? q = (m.property? q).map m.meaning := by
  rw [property?_resolve hm, Model.settled_of_stable ((isEmpty_errors_resolve_iff hm errors).mp h).2]

/-- Where no errors are left, all types are. -/
theorem type?_resolve_of_isEmpty {m : Model} (hm : m.Indexed) {errors : Errors}
    (h : (resolve m errors).errors.isEmpty = true) (q : String) :
    (resolve m errors).model.type? q = m.type? q := by
  rw [type?_resolve, Model.settled_of_stable ((isEmpty_errors_resolve_iff hm errors).mp h).2]

end SchemaBeans.Schema
