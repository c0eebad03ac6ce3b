import SchemaBeans.Proofs.Reachable

/-!
# Models — pruning in any order

Extraction prunes a schema before the schema around it, and resolution prunes several schemas one
after the other.  Both go by the following laws.

Pruning at a root takes out what lies within it, and nothing else changes but the list of the type
around the root (`isWithout_prune`); what it reports is the number of the entries that it takes out
(`countWithin_eq`).  Once pruned, a root has nothing to prune (`prune_prune_self`); two roots may be
pruned in either order, and together they report the same (`prune_comm`, `countWithin_comm`); and a
root within another is pruned along with it (`prune_prune_of_isWithin`).

These laws hold in every model.  In a reachable one no list has a path left that was taken out,
though only one list is edited (`Coherent.not_isWithin_of_mem_prune`).
-/

namespace SchemaBeans.Schema

open Std (ExtTreeMap ExtTreeSet)

namespace Model

variable {m m' : Model} {a b path q root : String} {t : SchemaType}

/-! ### What is left -/

/-- The second model is the first one without what lies within the root. -/
structure IsWithout (m : Model) (root : String) (m' : Model) : Prop where
  property {q : String} {p : Property} : m'.property? q = some p ↔
    Path.isWithin q root = false ∧ m.property? q = some p
  /-- A type is as it was, but that the one around the root does not list it. -/
  type {q : String} {t : SchemaType} : m'.type? q = some t ↔
    Path.isWithin q root = false ∧ ∃ t', m.type? q = some t' ∧
      t = if Path.parent? root = some q then { t' with properties := t'.properties.erase root }
        else t'

theorem isWithout_prune (m : Model) (root : String) : m.IsWithout root (m.prune root) where
  property := property?_prune_eq_some
  type {q t} := by
    rw [type?_prune]
    cases Path.isWithin q root with
    | true => simp
    | false =>
      by_cases hparent : Path.parent? root = some q
      · simp [hparent, @eq_comm _ t]
      · simp [hparent]

/-- A model is told by what it lacks and what it is otherwise. -/
theorem IsWithout.eq_prune (h : m.IsWithout root m') : m' = m.prune root := by
  have hprune := isWithout_prune m root
  refine ext_lookup (fun q => Option.ext fun p => ?_) fun q => Option.ext fun t => ?_
  · rw [h.property, hprune.property]
  · rw [h.type, hprune.type]

/-- No type of a pruned model lists a path that was taken out. -/
theorem Coherent.not_isWithin_of_mem_prune (h : m.Coherent)
    (ht : (m.prune root).type? path = some t) (hq : q ∈ t.properties) :
    Path.isWithin q root = false := by
  obtain ⟨p, hp⟩ := Option.isSome_iff_exists.mp ((h.prune root).listed ht hq)
  exact (property?_prune_eq_some.mp hp).1

theorem Reachable.prune (h : m.Reachable) (root : String) : (m.prune root).Reachable :=
  h.edit (e := .prune root) trivial

/-! ### How much is taken out -/

/-- The paths of the types and of the properties that lie within the root. -/
def pathsWithin (m : Model) (root : String) : List String :=
  (m.types.keys ++ m.properties.keys).filter (Path.isWithin · root)

theorem size_eq_length_keys (m : Model) :
    m.size = (m.types.keys ++ m.properties.keys).length := by
  rw [size, List.length_append, ExtTreeMap.length_keys, ExtTreeMap.length_keys]

theorem size_prune (m : Model) (root : String) : (m.prune root).size =
    ((m.types.keys ++ m.properties.keys).filter (!Path.isWithin · root)).length := by
  have hmodify : (m.prune root).size =
      (m.types.filter fun path _ => !Path.isWithin path root).size +
        (m.properties.filter fun path _ => !Path.isWithin path root).size := by
    simp only [prune, modifyParent, size]
    split
    · rfl
    · rw [ExtTreeMap.size_modify]
  rw [hmodify, ← ExtTreeMap.length_keys, ← ExtTreeMap.length_keys, ExtTreeMap.keys_filter_key,
    ExtTreeMap.keys_filter_key, List.filter_append, List.length_append]

theorem size_prune_add (m : Model) (root : String) :
    (m.prune root).size + (m.pathsWithin root).length = m.size := by
  rw [size_prune, size_eq_length_keys, pathsWithin, ← List.countP_eq_length_filter,
    ← List.countP_eq_length_filter, Nat.add_comm,
    List.length_eq_countP_add_countP (Path.isWithin · root)]
  simp

/-- **What pruning reports.**  It is the number of the entries that are taken out. -/
theorem countWithin_eq (m : Model) (root : String) :
    m.countWithin root = (m.pathsWithin root).length := by
  rw [countWithin, ← size_prune_add m root, Nat.add_sub_cancel_left]

theorem countWithin_add_size (m : Model) (root : String) :
    m.countWithin root + (m.prune root).size = m.size := by
  rw [countWithin_eq, Nat.add_comm, size_prune_add]

/-! ### Two prunings -/

theorem erase_erase (s : ExtTreeSet String) (path : String) :
    (s.erase path).erase path = s.erase path := by
  refine ExtTreeSet.ext_mem fun q => ?_
  rw [ExtTreeSet.mem_erase, ExtTreeSet.mem_erase, and_self_left]

/-- A root within another one has nothing left to prune when that has been pruned: what lies within
it is gone, and so is the type around it, unless the two roots are the same. -/
theorem prune_prune_of_isWithin (m : Model) (h : Path.isWithin b a = true) :
    (m.prune a).prune b = m.prune a := by
  have hout {q : String} (hq : Path.isWithin q a = false) : Path.isWithin q b = false :=
    Bool.eq_false_iff.mpr fun hb => Bool.eq_false_iff.mp hq (Path.isWithin_trans hb h)
  refine ext_lookup (fun q => ?_) fun q => ?_
  · rw [property?_prune, property?_prune]
    cases hq : Path.isWithin q a with
    | true => simp
    | false => simp [hout hq]
  · rw [type?_prune, type?_prune]
    cases hq : Path.isWithin q a with
    | true => simp
    | false =>
      by_cases hparent : Path.parent? b = some q
      · obtain rfl : b = a :=
          (Path.eq_or_isWithin_of_parent? h hparent).resolve_right (by simp [hq])
        simp [hq, hparent, Function.comp_def, erase_erase]
      · simp [hout hq, hparent]

/-- A root that has been pruned has nothing to prune. -/
theorem prune_prune_self (m : Model) (root : String) :
    (m.prune root).prune root = m.prune root :=
  m.prune_prune_of_isWithin (Path.isWithin_self root)

theorem countWithin_prune_self (m : Model) (root : String) :
    (m.prune root).countWithin root = 0 := by
  rw [countWithin, prune_prune_self, Nat.sub_self]

/-- Two prunings report the same together in either order. -/
theorem countWithin_comm (m : Model) (a b : String) :
    m.countWithin a + (m.prune a).countWithin b = m.countWithin b + (m.prune b).countWithin a := by
  have hab := countWithin_add_size (m.prune a) b
  have hba := countWithin_add_size (m.prune b) a
  rw [prune_comm] at hab
  have ha := countWithin_add_size m a
  have hb := countWithin_add_size m b
  omega

/-- **Pruning.**  In a reachable model, pruning at a root leaves the types and properties that do
not lie within it, as they were but for the list of the type around the root, and no list names a
path that was taken out.  It reports how many entries it takes out.  A second pruning at the root
changes nothing and reports nothing; two roots may be pruned in either order; and a root within
another one may as well not be pruned at all, before the other or after it. -/
theorem prune_of_reachable (h : m.Reachable) (a b : String) :
    (∀ m', m.IsWithout a m' ↔ m' = m.prune a) ∧
      (∀ path t, (m.prune a).type? path = some t →
        ∀ q ∈ t.properties, Path.isWithin q a = false) ∧
      m.countWithin a = (m.pathsWithin a).length ∧
      ((m.prune a).prune a = m.prune a ∧ (m.prune a).countWithin a = 0) ∧
      ((m.prune a).prune b = (m.prune b).prune a ∧
        m.countWithin a + (m.prune a).countWithin b =
          m.countWithin b + (m.prune b).countWithin a) ∧
      (Path.isWithin b a = true →
        (m.prune b).prune a = m.prune a ∧ (m.prune a).prune b = m.prune a) := by
  refine ⟨fun m' => ⟨IsWithout.eq_prune, fun he => he ▸ isWithout_prune m a⟩,
    fun path t ht q hq => h.coherent.not_isWithin_of_mem_prune ht hq, m.countWithin_eq a,
    ⟨m.prune_prune_self a, m.countWithin_prune_self a⟩,
    ⟨m.prune_comm a b, m.countWithin_comm a b⟩, fun hw => ⟨?_, m.prune_prune_of_isWithin hw⟩⟩
  rw [← prune_comm, m.prune_prune_of_isWithin hw]

end Model

/-- The array of the object lies within the object, which lists it no longer when it has been
pruned.  There are two types and three properties, and all but the reference lie within the
object. -/
theorem referredObject_pruned : ∃ x, extract (documentOf referredObject) = .ok x ∧
    x.model.Reachable ∧
    (x.model.prune "#/components/schemas/a/list").types.toList.map
      (fun entry => (entry.1, entry.2.properties.toList)) = [("#/components/schemas/a", [])] ∧
    x.model.countWithin "#/components/schemas/a" = 4 ∧
    (x.model.prune "#/components/schemas/a/list").prune "#/components/schemas/a" =
      x.model.prune "#/components/schemas/a" := by
  have hrun : (extract (documentOf referredObject)).toOption.any (fun x =>
      decide ((x.model.prune "#/components/schemas/a/list").types.toList.map
        (fun entry => (entry.1, entry.2.properties.toList)) = [("#/components/schemas/a", [])]) &&
      decide ((x.model.pathsWithin "#/components/schemas/a").length = 4)) = true := by
    decide +kernel
  obtain ⟨x, hx, hrun⟩ := exists_of_toOption_any hrun
  obtain ⟨hlists, hlength⟩ := (Bool.and_eq_true _ _).mp hrun
  have hreachable := (reachable_of_extract hx).1
  obtain ⟨-, -, hcount, -, -, hnested⟩ := Model.prune_of_reachable hreachable
    "#/components/schemas/a" "#/components/schemas/a/list"
  exact ⟨x, hx, hreachable, of_decide_eq_true hlists, hcount.trans (of_decide_eq_true hlength),
    (hnested (by decide +kernel)).1⟩

end SchemaBeans.Schema
